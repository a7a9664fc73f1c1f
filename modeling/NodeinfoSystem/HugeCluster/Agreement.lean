import NodeinfoSystem.Database.Agreement
import NodeinfoSystem.HugeCluster.Fetches
import NodeinfoSystem.Relay.History

/-!
# Stored databases agree

The masters fetch their databases at different times, and none of them learns of later
updates. What they have stored fits together all the same, as long as no list drops an
address that an earlier list of its network had: wherever a node occurs, it occurs with
the same ports, and no two nodes have a port in common. Neither failed allocations of
`update_nodeinfo_database` nor ports that cannot be found change this. A relay that fails
in `receive_nodedata_list` after an acknowledgement would: it can then take an earlier list
of a network after a later one, and so drop an address that no list drops.
-/

namespace NodeinfoSystem.HugeCluster

open Foundation Exchange Wire

variable {Master : Type}

/-- The later datagram drops no address of the earlier one, if both are accepted. -/
def KeepsAddresses (first second : Endpoint Master × Datagram) : Prop :=
  ∀ earlier later, Wire.Relay.receiveNodedataList true (some first.2) = some earlier →
    Wire.Relay.receiveNodedataList true (some second.2) = some later →
    Database.Keeps earlier later

/-- No list drops an address that an earlier list of its network had. -/
def Steady (lists : List (Endpoint Master × Datagram)) : Prop :=
  lists.Pairwise KeepsAddresses

/-- The network of a list, if it is accepted. -/
def network (list : Endpoint Master × Datagram) : Option Int32 :=
  (Wire.Relay.receiveNodedataList true (some list.2)).map NodedataList.networkId

/-- One list from each network drops nothing. -/
theorem steady_of_nodup {lists : List (Endpoint Master × Datagram)}
    (once : (lists.map network).Nodup) : Steady lists := by
  apply (List.pairwise_map.mp once).imp
  intro first second differ earlier later accepted acceptedLater sameNetwork
  rw [network, network, accepted, acceptedLater] at differ
  exact absurd (congrArg some sameNetwork) differ

theorem mem_received {rounds : List (Relay.Round (Endpoint Master))} {call : Database.Call}
    (brought : ∃ round ∈ rounds, Relay.Brings round call) :
    ∃ list ∈ received rounds,
      Wire.Relay.receiveNodedataList true (some list.2) = some call.list := by
  rcases brought with ⟨round, round_mem, client, request, datagram, request_eq, list_eq, accepted⟩
  refine ⟨(client, datagram), ?_, accepted⟩
  apply List.mem_filterMap.mpr
  refine ⟨round, round_mem, ?_⟩
  rw [listOf, request_eq, list_eq]

/-- What is served after some rounds agrees with what is served after more of them. -/
theorem agree_of_served {rounds later : List (Relay.Round (Endpoint Master))}
    {older newer : List NodeinfoDatabaseElement} {element other : NodeinfoDatabaseElement}
    (served : ServedAfter rounds older) (servedLater : ServedAfter (rounds ++ later) newer)
    (steady : Steady (received (rounds ++ later))) (element_mem : element ∈ older)
    (other_mem : other ∈ newer) : Database.Agree element other := by
  rcases served with ⟨relay, ran, -, rfl⟩
  rcases servedLater with ⟨last, ranLater, -, rfl⟩
  rcases (TransitionSystem.runFrom_append_eq_some _).mp ranLater with ⟨middle, toMiddle, continued⟩
  obtain rfl : relay = middle := Option.some.inj (ran.symm.trans toMiddle)
  rcases Relay.exists_calls ran with ⟨calls, updates, brought⟩
  rcases Relay.exists_calls continued with ⟨laterCalls, laterUpdates, laterBrought⟩
  apply Database.agree_of_keeps updates laterUpdates
  · intro first first_mem second second_mem
    rcases mem_received (brought first first_mem) with ⟨list, list_mem, accepted⟩
    rcases mem_received (laterBrought second second_mem) with ⟨next, next_mem, acceptedNext⟩
    rw [Steady, received, List.filterMap_append, List.pairwise_append] at steady
    exact steady.2.2 list list_mem next next_mem _ _ accepted acceptedNext
  · exact Relay.served_subset ran element_mem
  · exact Relay.served_subset ranLater other_mem

section Runs

variable [DecidableEq Master]

/-- Some master stored the copy, at whatever point of the run. -/
def EverStored (actions : List (Action Master × Input)) (copy : Copy) : Prop :=
  ∃ earlier later state master, actions = earlier ++ later ∧
    (system Master).run earlier = some state ∧ state.2.nodeinfoDb master = some copy

variable [Fintype Master]

theorem EverStored.served {actions : List (Action Master × Input)} {copy : Copy}
    {final : State Master × Data Master} (stored : EverStored actions copy)
    (ran : (system Master).run actions = some final) :
    ServedAfter (final.2.rounds.take copy.position) copy.db.entries := by
  rcases stored with ⟨earlier, later, state, master, rfl, toState, found⟩
  rcases (TransitionSystem.runFrom_append_eq_some _).mp ran with ⟨middle, toMiddle, continued⟩
  obtain rfl : state = middle := Option.some.inj (toState.symm.trans toMiddle)
  have consistent := (consistent_inductive fun _ _ => True).holds
    (TransitionSystem.reachable_of_run toState)
  rcases consistent.recorded.copied master copy found with ⟨inside, served⟩
  rcases Since.of_run consistent continued with ⟨-, since⟩
  rw [take_eq_of_extended since.rounds inside]
  exact served

/--
All databases that masters have stored in the course of a run agree, if no list sent in
this run drops an address that an earlier list of its network had. Two entries, of one
database or of two, are the same, or they differ in network or address and have no port
in common.
-/
theorem stored_copies_agree (actions : List (Action Master × Input))
    (final : State Master × Data Master) (ran : (system Master).run actions = some final)
    (steady : Steady final.2.sent) (first second : Copy) (firstStored : EverStored actions first)
    (secondStored : EverStored actions second) :
    ∀ element ∈ first.db.entries, ∀ other ∈ second.db.entries, Database.Agree element other := by
  have consistent := (consistent_inductive fun _ _ => True).holds
    (TransitionSystem.reachable_of_run ran)
  have steadyUpTo (position : ℕ) : Steady (received (final.2.rounds.take position)) := by
    have processed : received (final.2.rounds.take position) <+: received final.2.rounds :=
      (List.take_prefix position _).filterMap _
    exact steady.sublist (processed.trans consistent.ordered.received_prefix_sent).sublist
  have ordered {older newer : Copy} (olderStored : EverStored actions older)
      (newerStored : EverStored actions newer) (order : older.position ≤ newer.position)
      {element other : NodeinfoDatabaseElement} (element_mem : element ∈ older.db.entries)
      (other_mem : other ∈ newer.db.entries) : Database.Agree element other := by
    have earlier : final.2.rounds.take older.position <+: final.2.rounds.take newer.position :=
      List.take_prefix_take_left order
    rcases earlier with ⟨between, rounds_eq⟩
    have served := newerStored.served ran
    have kept := steadyUpTo newer.position
    rw [← rounds_eq] at served kept
    exact agree_of_served (olderStored.served ran) served kept element_mem other_mem
  intro element element_mem other other_mem
  rcases Nat.le_total first.position second.position with before | after
  · exact ordered firstStored secondStored before element_mem other_mem
  · exact (ordered secondStored firstStored after other_mem element_mem).symm

end Runs

/-! ## Two masters -/

/-- A master joins and sends the list of its network. -/
def joiningRound {Master : Type} (master : Master) : List (Action Master) :=
  [.request master .join, .deliver 0, .relayAccept, .relayReply, .deliver 0,
    .masterReceive master, .request master .ready, .deliver 0, .relayAccept, .relayReply,
    .deliver 0, .masterReceive master, .masterSendList master, .deliver 0, .relayReceive]

def secondInput : Input where
  list := ⟨1, 1, 2, [⟨22, 7, 4⟩]⟩
  os := Database.grantingOs

/-- Each master sends a list and fetches the database, one after the other. -/
def twoMastersRun (first second : Fin 2) : List (Action (Fin 2) × Input) :=
  sampleRun (completedRound ++ fetchRound first) ++
    (joiningRound second ++ fetchRound second).map fun action => (action, secondInput)

theorem stored_copies_agree_twoMastersRun : ∃ final first second,
    (system (Fin 2)).run (twoMastersRun 0 1) = some final ∧
      final.2.nodeinfoDb 0 = some first ∧ final.2.nodeinfoDb 1 = some second ∧
      first.db.entries.length = 1 ∧ second.db.entries.length = 2 ∧
      ∀ element ∈ first.db.entries, ∀ other ∈ second.db.entries, Database.Agree element other := by
  have traced : ((system (Fin 2)).run (twoMastersRun 0 1)).bind (fun final =>
      (final.2.nodeinfoDb 0).bind fun first => (final.2.nodeinfoDb 1).map fun second =>
        (final.2.sent.map network, first.db.entries.length, second.db.entries.length)) =
          some ([some 1, some 2], 1, 2) := by
    decide
  simp only [Option.bind_eq_some_iff, Option.map_eq_some_iff, Prod.mk.injEq] at traced
  rcases traced with ⟨final, ran, first, firstStored, second, secondStored, lists, one, two⟩
  have steady : Steady final.2.sent := steady_of_nodup (lists ▸ by decide)
  exact ⟨final, first, second, ran, firstStored, secondStored, one, two,
    stored_copies_agree (twoMastersRun 0 1) final ran steady first second
      ⟨_, [], final, 0, (List.append_nil _).symm, ran, firstStored⟩
      ⟨_, [], final, 1, (List.append_nil _).symm, ran, secondStored⟩⟩

end NodeinfoSystem.HugeCluster
