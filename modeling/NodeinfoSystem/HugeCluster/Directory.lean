import NodeinfoSystem.Database.Commute
import NodeinfoSystem.HugeCluster.Fetches
import NodeinfoSystem.HugeCluster.Identities
import NodeinfoSystem.Relay.Sendable

/-!
# The huge cluster as a directory

What the masters share is a directory: for every master the addresses in the list it
sent last. A list replaces the addresses of its sender and nothing else. The database
keeps one array for all networks and knows a sender only by the network id in its list.
It represents the directory as long as every master sends its own list, every allocation
succeeds and every port search finds a port, and then every stored database is the
directory after some of the lists.
-/

namespace NodeinfoSystem.HugeCluster

open Foundation Exchange Wire
open Collector (ListBlock listPayload databasePayload)

variable {Master : Type}

/-! ## The directory -/

/-- The addresses in the list that a datagram carries. -/
def announced (datagram : Datagram) : Set UInt32 :=
  {ipaddr | ∃ list, Wire.Relay.receiveNodedataList true (some datagram) = some list ∧
    ipaddr ∈ Database.addresses list}

section Directory

variable [DecidableEq Master]

/-- A list replaces what its sender announced before. -/
def announce (current : Master → Set UInt32) (list : Endpoint Master × Datagram) :
    Master → Set UInt32 :=
  match list.1 with
  | .client request => Function.update current request.master (announced list.2)
  | _ => current

/-- What every master has announced last. -/
def directory (lists : List (Endpoint Master × Datagram)) : Master → Set UInt32 :=
  lists.foldl announce fun _ => ∅

theorem directory_append (lists : List (Endpoint Master × Datagram)) (request : Request Master)
    (datagram : Datagram) :
    directory (lists ++ [(.client request, datagram)]) =
      Function.update (directory lists) request.master (announced datagram) := by
  rw [directory, List.foldl_append]
  rfl

end Directory

/-! ## Rounds in which nothing fails -/

/-- The rounds of the huge cluster in which the allocations of the update succeed too. -/
inductive Regular : Relay.Round (Endpoint Master) → Prop
  | join (client : Endpoint Master) : Regular (requestRound client .join)
  | fetch (client : Endpoint Master) : Regular (requestRound client .fetch)
  | list (client : Endpoint Master) (datagram : Datagram) {os : Database.Os}
      (granted : ∀ allocation, os.malloc allocation = true) :
      Regular (listRound client datagram os)

theorem Regular.granted {round : Relay.Round (Endpoint Master)} (regular : Regular round) :
    Relay.Granted round := by
  cases regular with
  | join | fetch => exact fun _ => rfl
  | list _ _ granted => exact granted

/-- The datagram carries a list of the network. -/
def Carries (networkId : Int32) (datagram : Datagram) : Prop :=
  ∃ list, Wire.Relay.receiveNodedataList true (some datagram) = some list ∧
    list.networkId = networkId

theorem iterate_manager_of_not_list {client : Endpoint Master} {kind : Kind}
    {relay next : Relay.State (Endpoint Master)} (notReady : kind ≠ .ready)
    (iterated : Relay.iterate (requestRound client kind) relay = some next) :
    next.manager = relay.manager := by
  cases kind with
  | join =>
      rw [iterate_join, Option.some.injEq] at iterated
      exact iterated ▸ rfl
  | ready => exact absurd rfl notReady
  | fetch =>
      rw [iterate_fetch] at iterated
      split at iterated
      all_goals
        rw [Option.some.injEq] at iterated
        exact iterated ▸ rfl

/-- A list round is one update of the database. -/
theorem iterate_manager_of_list {client : Endpoint Master} {datagram : Datagram}
    {os : Database.Os} {relay next : Relay.State (Endpoint Master)}
    {list : NodedataList Int32}
    (accepted : Wire.Relay.receiveNodedataList true (some datagram) = some list)
    (iterated : Relay.iterate (listRound client datagram os) relay = some next) :
    Database.manager.step relay.manager ⟨os, list⟩ = some next.manager := by
  rw [iterate_list, accepted] at iterated
  simp only at iterated
  split at iterated
  · contradiction
  · next db manager updated =>
      simp only [Option.some.injEq] at iterated
      subst next
      exact Database.manager_step_eq_some.mpr ⟨db, updated⟩

/-- The searches that failed stay counted. -/
theorem failedSearches_iterate {round : Relay.Round (Endpoint Master)}
    {relay next : Relay.State (Endpoint Master)} (regular : Regular round)
    (iterated : Relay.iterate round relay = some next) :
    relay.manager.failedSearches ≤ next.manager.failedSearches := by
  cases regular with
  | join => rw [iterate_manager_of_not_list (by decide) iterated]
  | fetch => rw [iterate_manager_of_not_list (by decide) iterated]
  | @list client datagram os granted =>
      cases accepted : Wire.Relay.receiveNodedataList true (some datagram) with
      | none =>
          rw [iterate_list, accepted, Option.some.injEq] at iterated
          exact iterated ▸ Nat.le_refl _
      | some list =>
          rcases Database.step_failedSearches_le (iterate_manager_of_list accepted iterated) with
            counted | ⟨allocation, refused⟩
          · exact counted
          · simp [granted allocation] at refused

theorem failedSearches_runFrom {rounds : List (Relay.Round (Endpoint Master))}
    {relay next : Relay.State (Endpoint Master)} (regular : ∀ round ∈ rounds, Regular round)
    (ran : (Relay.relay (Endpoint Master)).runFrom relay rounds = some next) :
    relay.manager.failedSearches ≤ next.manager.failedSearches := by
  have kept {before after : Relay.State (Endpoint Master)}
      {round : Relay.Round (Endpoint Master)}
      (stepped : (Relay.relay (Endpoint Master)).step before round = some after)
      (regular : Regular round)
      (counted : relay.manager.failedSearches ≤ before.manager.failedSearches) :
      relay.manager.failedSearches ≤ after.manager.failedSearches :=
    counted.trans (failedSearches_iterate regular stepped)
  exact (Relay.relay (Endpoint Master)).runFrom_preserves_of_forall kept ran regular (Nat.le_refl _)

theorem failedSearches_of_prefix {state : State Master} {data : Data Master}
    {rounds : List (Relay.Round (Endpoint Master))} {relay : Relay.State (Endpoint Master)}
    (refined : Refined state data) (regular : ∀ round ∈ data.rounds, Regular round)
    (ran : (Relay.relay (Endpoint Master)).run rounds = some relay)
    (earlier : rounds <+: data.rounds) :
    relay.manager.failedSearches ≤ data.manager.failedSearches := by
  rcases refined with ⟨last, toLast, represents⟩
  rcases earlier with ⟨rest, split⟩
  rw [TransitionSystem.run, ← split] at toLast
  rcases (TransitionSystem.runFrom_append_eq_some _).mp toLast with ⟨middle, toMiddle, fromMiddle⟩
  obtain rfl : relay = middle := Option.some.inj (ran.symm.trans toMiddle)
  rw [represents.manager_eq]
  apply failedSearches_runFrom _ fromMiddle
  intro round round_mem
  exact regular round (split ▸ List.mem_append_right _ round_mem)

/-! ## The database represents the directory -/

section Represents

variable [DecidableEq Master] (idOf : Master → Int32)

/-- An update with a sender's list is an announcement of the sender. -/
theorem stored_of_list {relay next : Relay.State (Endpoint Master)} {request : Request Master}
    {datagram : Datagram} {os : Database.Os} {lists : List (Endpoint Master × Datagram)}
    {owner : Master} (granted : ∀ allocation, os.malloc allocation = true)
    (unique : ∀ other, idOf owner = idOf other → owner = other)
    (carries : Carries (idOf request.master) datagram)
    (found : next.manager.failedSearches = relay.manager.failedSearches)
    (iterated : Relay.iterate (listRound (.client request) datagram os) relay = some next)
    (before : Database.stored (idOf owner) relay.manager = directory lists owner) :
    Database.stored (idOf owner) next.manager =
      directory (lists ++ [(.client request, datagram)]) owner := by
  rcases carries with ⟨list, accepted, networkId_eq⟩
  have stepped := iterate_manager_of_list accepted iterated
  rw [directory_append]
  by_cases same : owner = request.master
  · subst owner
    have stored := Database.stored_eq_addresses_of_step stepped granted found
    have here : announced datagram = Database.addresses list := by
      ext ipaddr
      simp [announced, accepted]
    rw [Function.update_self, here, ← stored, networkId_eq]
  · have otherNetwork : list.networkId ≠ idOf owner := by
      rw [networkId_eq]
      exact fun equal => same (unique _ equal.symm)
    rw [Function.update_of_ne same, Database.stored_eq_of_step stepped otherNetwork, before]

/--
When ids tell the senders apart and no search has failed, the database holds for
every sender what it announced last.
-/
theorem stored_eq_directory {rounds : List (Relay.Round (Endpoint Master))}
    {relay : Relay.State (Endpoint Master)} {owner : Master}
    (ran : (Relay.relay (Endpoint Master)).run rounds = some relay)
    (regular : ∀ round ∈ rounds, Regular round) (found : relay.manager.failedSearches = 0)
    (unique : ∀ other, idOf owner = idOf other → owner = other)
    (carries : ∀ client datagram, (client, datagram) ∈ received rounds →
      ∃ request, client = .client request ∧ Carries (idOf request.master) datagram) :
    Database.stored (idOf owner) relay.manager = directory (received rounds) owner := by
  induction rounds using List.reverseRecOn generalizing relay with
  | nil =>
      simp only [TransitionSystem.run, TransitionSystem.runFrom_nil, Option.some.injEq] at ran
      subst relay
      ext ipaddr
      simp [Database.stored, Relay.relay, Relay.State.initial, received, directory]
  | append_singleton rounds round ih =>
      rcases (TransitionSystem.runFrom_append_eq_some _).mp ran with ⟨middle, toMiddle, rest⟩
      rcases (TransitionSystem.runFrom_cons_eq_some _).mp rest with ⟨last, iterated, ended⟩
      obtain rfl : last = relay := Option.some.inj ended
      have here := regular round (by simp)
      have counted := failedSearches_iterate here iterated
      have before := ih toMiddle (fun other other_mem => regular other (by simp [other_mem]))
        (by omega) (fun client datagram sent => carries client datagram (by
          rw [received, List.filterMap_append]
          exact List.mem_append_left _ sent))
      cases here with
      | join client | fetch client =>
          rw [received_append_request, iterate_manager_of_not_list (by decide) iterated, before]
      | @list client datagram os granted =>
          rw [received_append_list] at carries ⊢
          rcases carries client datagram (by simp) with ⟨request, rfl, carried⟩
          exact stored_of_list idOf granted unique carried (by omega) iterated before

end Represents

/-- A database that can be sent is short enough to be copied without loss. -/
theorem length_le_of_mirrored {relay : Relay.State (Endpoint Master)} {datagram : Datagram}
    (mirrored : Relay.Mirrored relay) (managed : Database.Managed relay.manager)
    (sent : databasePayload (Relay.served relay.db) = some datagram) :
    relay.manager.entries.length ≤ 2729 := by
  have bounded := managed.isolated.length_le
  rw [Relay.Mirrored] at mirrored
  cases present : relay.manager.gDb with
  | none => simp [Database.State.entries, present]
  | some block =>
      simp only [Database.State.entries, present] at bounded ⊢
      rw [mirrored, present, Option.map_some, Relay.served, Option.getD_some] at sent
      rw [← Relay.sendable_snapshot_iff bounded]
      refine ⟨?_, datagram, sent⟩
      simp only [databasePayload] at sent
      split at sent
      · next small =>
          have bounds := (Collector.databasePayloadLen_le_iff.mp small).2
          simp only [Collector.maxIpv4Payload] at bounds
          exact bounds
      · contradiction

/-- What the relay could send is what the database holds. -/
theorem entries_of_servedAfter {rounds : List (Relay.Round (Endpoint Master))}
    {entries : List NodeinfoDatabaseElement} (served : ServedAfter rounds entries)
    (regular : ∀ round ∈ rounds, Regular round) :
    ∃ relay, (Relay.relay (Endpoint Master)).run rounds = some relay ∧
      entries = relay.manager.entries := by
  rcases served with ⟨relay, ran, payload, rfl⟩
  rcases Option.isSome_iff_exists.mp payload with ⟨datagram, sent⟩
  have mirrored := Relay.Mirrored.of_run ran fun round round_mem =>
    (regular round round_mem).granted
  rcases Relay.exists_run rounds with ⟨same, ran', managed⟩
  obtain rfl : relay = same := Option.some.inj (ran.symm.trans ran')
  exact ⟨relay, ran, (mirrored.served (length_le_of_mirrored mirrored managed sent)).1⟩

/-! ## Runs in which every master sends its own list -/

/-- The list of a master, with its count inside the block. -/
structure OwnList (networkId : Int32) (block : ListBlock) : Prop where
  networkId_eq : block.networkId = networkId
  nonneg : 0 ≤ block.currentSize.toInt
  inside : block.currentSize.toInt ≤ block.slots.length

section Runs

variable [DecidableEq Master]

/-- The steps in which no allocation fails and a master sends its own list. -/
structure Proper (state : State Master × Data Master) (action : Action Master × Input) : Prop where
  own : ∀ master, action.1 = .masterSendList master →
    OwnList (state.1.masters master).networkId action.2.list
  granted : ∀ allocation, action.2.os.malloc allocation = true

theorem OwnList.carries {networkId : Int32} {block : ListBlock} {datagram : Datagram}
    (own : OwnList networkId block) (payload_eq : listPayload block = some datagram) :
    Carries networkId datagram := by
  have length_eq := Collector.listPayloadLen_eq own.nonneg
  have small : block.currentSize.toInt ≤ 5457 := by
    simp only [listPayload] at payload_eq
    split at payload_eq
    · next fits =>
        simp only [Collector.maxIpv4Payload] at fits
        omega
    · contradiction
  rcases Collector.listPayload_eq own.nonneg small own.inside with ⟨same, same_eq, bytes_eq⟩
  obtain rfl : datagram = same := Option.some.inj (payload_eq.symm.trans same_eq)
  rcases Wire.Relay.receiveNodedataList_encode own.nonneg bytes_eq with ⟨list, read, readBack⟩
  exact ⟨list, read, readBack.networkId_eq.trans own.networkId_eq⟩

/-- Every list sent is its sender's, and every round is one in which nothing failed. -/
structure Attributed (state : State Master) (data : Data Master) : Prop where
  lists : ∀ client datagram, (client, datagram) ∈ data.sent → ∃ request,
    client = .client request ∧ Joined (state.masters request.master) ∧
      Carries (state.masters request.master).networkId datagram
  regular : ∀ round ∈ data.rounds, Regular round

omit [DecidableEq Master] in
theorem attributed_initial :
    Attributed (Exchange.State.initial : State Master) Data.initial where
  lists _ _ sent := by simp [Data.initial] at sent
  regular _ round_mem := by simp [Data.initial] at round_mem

variable {state next : State Master} {data after : Data Master} {action : Action Master}
  {input : Input}

/-- A step adds at most one round, and that is one in which nothing fails. -/
theorem Effect.regular (effect : Effect state data input action next after)
    (granted : ∀ allocation, input.os.malloc allocation = true) :
    after.rounds = data.rounds ∨
      ∃ round, Regular round ∧ after.rounds = data.rounds ++ [round] := by
  cases effect with
  | quiet | stored | acknowledged | sent => exact Or.inl rfl
  | joined => exact Or.inr ⟨_, .join _, rfl⟩
  | answered => exact Or.inr ⟨_, .fetch _, (replyFetch_frame _ data).1⟩
  | received _ _ _ _ ran =>
      exact Or.inr ⟨_, .list _ _ granted, (processed_of_processList ran).rounds_eq⟩

/-- A step sends at most one list, and that is the sender's. -/
theorem Effect.lists (effect : Effect state data input action next after)
    (own : ∀ master, action = .masterSendList master →
      OwnList (state.masters master).networkId input.list) :
    after.sent = data.sent ∨ ∃ master number datagram,
      (state.masters master).phase = .holding number ∧
        Carries (state.masters master).networkId datagram ∧
        after.sent = data.sent ++ [(waitingSocket master number, datagram)] := by
  cases effect with
  | quiet | stored | acknowledged | joined => exact Or.inl rfl
  | answered => exact Or.inl (replyFetch_frame _ data).2.1
  | received _ _ _ _ ran => exact Or.inl (processed_of_processList ran).sent_eq
  | @sent master number datagram phase_eq payload_eq =>
      exact Or.inr ⟨master, number, datagram, phase_eq, (own master rfl).carries payload_eq, rfl⟩

theorem Attributed.of_effect (proper : Proper (state, data) (action, input))
    (stepped : Exchange.Step state action next)
    (effect : Effect state data input action next after) (attributed : Attributed state data) :
    Attributed next after := by
  have kept : ∀ (request : Request Master) datagram, Joined (state.masters request.master) →
      Carries (state.masters request.master).networkId datagram →
        Joined (next.masters request.master) ∧
          Carries (next.masters request.master).networkId datagram := by
    intro request datagram joined carries
    rcases joined_step stepped joined with ⟨joined', networkId_eq⟩
    exact ⟨joined', networkId_eq ▸ carries⟩
  have lists : ∀ client datagram, (client, datagram) ∈ data.sent → ∃ request,
      client = .client request ∧ Joined (next.masters request.master) ∧
        Carries (next.masters request.master).networkId datagram := by
    intro client datagram sent
    rcases attributed.lists client datagram sent with ⟨request, rfl, joined, carries⟩
    exact ⟨request, rfl, kept request datagram joined carries⟩
  refine ⟨?_, ?_⟩
  · rcases effect.lists proper.own with
      sent_eq | ⟨master, number, datagram, phase_eq, carries, sent_eq⟩
    · exact sent_eq ▸ lists
    · intro client other sent
      rw [sent_eq, List.mem_append, List.mem_singleton] at sent
      rcases sent with old | new
      · exact lists client other old
      · simp only [Prod.mk.injEq] at new
        rcases new with ⟨rfl, rfl⟩
        exact ⟨⟨master, number⟩, rfl, kept ⟨master, number⟩ _ (joined_of_holding phase_eq) carries⟩
  · rcases effect.regular proper.granted with rounds_eq | ⟨round, regular, rounds_eq⟩
    · exact rounds_eq ▸ attributed.regular
    · intro other other_mem
      rw [rounds_eq, List.mem_append, List.mem_singleton] at other_mem
      rcases other_mem with old | rfl
      · exact attributed.regular other old
      · exact regular

variable [Fintype Master]

/-- What holds in the runs in which nothing fails and every master sends its own list. -/
structure ProperlyRun (state : State Master) (data : Data Master) : Prop where
  consistent : Consistent state data
  identified : Identified state data
  attributed : Attributed state data

theorem properlyRun_inductive :
    (system Master).Inductive Proper fun state => ProperlyRun state.1 state.2 where
  initial := ⟨(consistent_inductive Proper).initial, identified_initial, attributed_initial⟩
  preserved stepped proper run := by
    rcases effect_of_step run.consistent.wellFormed stepped with ⟨step, effect⟩
    exact ⟨(consistent_inductive Proper).preserved stepped proper run.consistent,
      run.identified.of_effect step effect, run.attributed.of_effect proper step effect⟩

/--
What a master stores is the directory. In every run in which no allocation fails, no
port search fails, and every master sends its own list, a stored database holds under
the network id of every master exactly the addresses that this master announced last,
among the lists the relay had processed before it replied.
-/
theorem copies_are_directory (state : State Master) (data : Data Master)
    (reached : (system Master).ReachableWith Proper (state, data))
    (few : (assignedIds data).length < 2 ^ 31 - 1) (found : data.manager.failedSearches = 0)
    (master : Master) (copy : Copy) (stored : data.nodeinfoDb master = some copy) :
    ∃ rounds, rounds <+: data.rounds ∧ ServedAfter rounds copy.db.entries ∧
      ∀ owner, 0 < (state.masters owner).networkId.toInt →
        {ipaddr | ∃ element ∈ copy.db.entries,
          element.networkId = (state.masters owner).networkId ∧ element.ipaddress = ipaddr} =
        directory (received rounds) owner := by
  have run := properlyRun_inductive.holds reached
  rcases run.consistent.recorded.copied master copy stored with ⟨inside, served⟩
  refine ⟨_, List.take_prefix copy.position _, served, ?_⟩
  intro owner positive
  have regular : ∀ round ∈ data.rounds.take copy.position, Regular round :=
    fun round round_mem => run.attributed.regular round (List.mem_of_mem_take round_mem)
  rcases entries_of_servedAfter served regular with ⟨relay, ran, entries_eq⟩
  rw [entries_eq]
  refine stored_eq_directory (fun owner => (state.masters owner).networkId) ran regular ?_ ?_ ?_
  · have counted := failedSearches_of_prefix run.consistent.refined run.attributed.regular ran
      (List.take_prefix _ _)
    exact Nat.le_zero.mp (counted.trans found.le)
  · exact fun other same =>
      master_unique run.consistent.refined run.identified few positive same
  · intro client datagram processed
    have sent := run.consistent.ordered.received_prefix_sent.subset
      (((List.take_prefix copy.position data.rounds).filterMap listOf).subset processed)
    rcases run.attributed.lists client datagram sent with ⟨request, rfl, -, carries⟩
    exact ⟨request, rfl, carries⟩

end Runs

theorem proper_of_not_sent {state : State (Fin 2) × Data (Fin 2)} {action : Action (Fin 2)}
    (notSent : ∀ master, action ≠ .masterSendList master) :
    Proper state (action, sampleInput) where
  own master sends := absurd sends (notSent master)
  granted _ := rfl

theorem copies_are_directory_fetchRound : ∃ state data copy,
    (system (Fin 2)).ReachableWith Proper (state, data) ∧ data.nodeinfoDb 0 = some copy ∧
      (state.masters 0).networkId = 1 ∧
      ∃ rounds, rounds <+: data.rounds ∧ ServedAfter rounds copy.db.entries ∧
        ∀ owner, 0 < (state.masters owner).networkId.toInt →
          {ipaddr | ∃ element ∈ copy.db.entries,
            element.networkId = (state.masters owner).networkId ∧ element.ipaddress = ipaddr} =
          directory (received rounds) owner := by
  have traced : (((system (Fin 2)).run
      (sampleRun (acknowledgedRound ++ receiveAcknowledgement 0))).bind fun before =>
      ((system (Fin 2)).step before (.masterSendList 0, sampleInput)).bind fun sent =>
        ((system (Fin 2)).runFrom sent
            (sampleRun ([.deliver 0, .relayReceive] ++ fetchRound 0))).bind fun final =>
          (final.2.nodeinfoDb 0).map fun _ => ((before.1.masters 0).networkId,
            (final.1.masters 0).networkId, (assignedIds final.2).length,
            final.2.manager.failedSearches)) = some (1, 1, 1, 0) := by decide
  simp only [Option.bind_eq_some_iff, Option.map_eq_some_iff, Prod.mk.injEq] at traced
  rcases traced with ⟨before, ran, sent, stepped, final, more, copy, stored, id_eq, final_id_eq,
    ids, searches⟩
  have toBefore : (system (Fin 2)).ReachableWith Proper before := by
    refine TransitionSystem.ReachableWith.runFrom .initial ?_ ran
    intro state action action_mem
    rcases List.mem_map.mp action_mem with ⟨kind, kind_mem, rfl⟩
    apply proper_of_not_sent
    rintro master rfl
    simp [receiveAcknowledgement, acknowledgedRound] at kind_mem
  have proper : Proper before (.masterSendList 0, sampleInput) := by
    refine ⟨?_, fun _ => rfl⟩
    intro master sends
    simp only [Action.masterSendList.injEq] at sends
    subst master
    exact ⟨id_eq.symm, by decide, by decide⟩
  have reached : (system (Fin 2)).ReachableWith Proper final := by
    refine (toBefore.step proper stepped).runFrom ?_ more
    intro state action action_mem
    rcases List.mem_map.mp action_mem with ⟨kind, kind_mem, rfl⟩
    apply proper_of_not_sent
    rintro master rfl
    simp [fetchRound] at kind_mem
  exact ⟨final.1, final.2, copy, reached, stored, final_id_eq,
    copies_are_directory final.1 final.2 reached (by rw [ids]; decide) searches 0 copy stored⟩

end NodeinfoSystem.HugeCluster
