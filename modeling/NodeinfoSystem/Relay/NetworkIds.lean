import NodeinfoSystem.Collector.RelayRequests
import NodeinfoSystem.Relay.Effect
import Mathlib.Data.List.Nodup

/-!
# Network ids

The counter advances exactly when an id has been sent, so the ids sent are the
numbers from one upwards in the order of the replies. While fewer than
`2 ^ 31 - 1` of them have been sent they are different and positive, and a master
decodes the number the relay wrote: it is no sentinel of `int`.
-/

namespace NodeinfoSystem.Relay

open Foundation Wire Collector

variable {Client : Type}

/-- The id that a reply carries. -/
def Reply.id? : Reply → Option Int32
  | .networkId id => some id
  | _ => none

def assignedIds (state : State Client) : List Int32 :=
  state.replies.filterMap fun reply => reply.2.id?

/-- The id of the reply with the given number, counted from zero. -/
def numberedId (index : ℕ) : Int32 :=
  Int32.ofInt (index + 1)

theorem toInt_numberedId {index : ℕ} (small : index < 2 ^ 31 - 1) :
    (numberedId index).toInt = index + 1 := by
  apply toInt_ofInt_of_fitsInt
  constructor <;> omega

theorem numberedId_succ (index : ℕ) : numberedId (index + 1) = numberedId index + 1 := by
  rw [numberedId, numberedId, Int.natCast_succ, Int32.ofInt_add (index + 1) 1]
  rfl

/-- The ids sent are the first ones, and the counter holds the next one. -/
structure Numbered (state : State Client) : Prop where
  networkId_eq : state.networkId = numberedId (assignedIds state).length
  assigned_eq : assignedIds state = (List.range (assignedIds state).length).map numberedId

theorem Numbered.initial : Numbered (State.initial : State Client) where
  networkId_eq := (by decide : (1 : Int32) = numberedId 0)
  assigned_eq := rfl

theorem Numbered.of_replies {before after : State Client} (numbered : Numbered before)
    (networkId_eq : after.networkId = before.networkId)
    (assigned_eq : assignedIds after = assignedIds before) : Numbered after where
  networkId_eq := by
    rw [networkId_eq, assigned_eq]
    exact numbered.networkId_eq
  assigned_eq := by
    rw [assigned_eq]
    exact numbered.assigned_eq

theorem assignedIds_of_replies {before after : State Client} {client : Client} {reply : Reply}
    (replies_eq : after.replies = before.replies ++ [(client, reply)]) :
    assignedIds after = assignedIds before ++ reply.id?.toList := by
  rw [assignedIds, assignedIds, replies_eq, List.filterMap_append]
  cases reply <;> rfl

theorem Numbered.iterate {round : Round Client} {before after : State Client}
    (ran : Relay.iterate round before = some after) (numbered : Numbered before) :
    Numbered after := by
  cases iterate_effect ran with
  | quiet _ networkId_eq replies_eq =>
      apply numbered.of_replies networkId_eq
      rw [assignedIds, assignedIds, replies_eq]
  | joined client _ networkId_eq replies_eq =>
      have assigned_eq : assignedIds after = assignedIds before ++ [before.networkId] :=
        assignedIds_of_replies replies_eq
      have length_eq : (assignedIds after).length = (assignedIds before).length + 1 := by
        rw [assigned_eq, List.length_append, List.length_singleton]
      refine ⟨?_, ?_⟩
      · rw [length_eq, numberedId_succ, networkId_eq, ← numbered.networkId_eq]
      · rw [length_eq, List.range_succ, List.map_append, ← numbered.assigned_eq, List.map_singleton,
          ← numbered.networkId_eq, assigned_eq]
  | rejected client _ _ networkId_eq replies_eq =>
      apply numbered.of_replies networkId_eq
      rw [assignedIds_of_replies replies_eq]
      exact List.append_nil _
  | updated client _ _ networkId_eq replies_eq =>
      apply numbered.of_replies networkId_eq
      rw [assignedIds_of_replies replies_eq]
      exact List.append_nil _
  | answered client _ _ networkId_eq replies_eq =>
      apply numbered.of_replies networkId_eq
      rw [assignedIds_of_replies replies_eq]
      exact List.append_nil _

theorem Numbered.of_run {rounds : List (Round Client)} {state : State Client}
    (ran : (relay Client).run rounds = some state) : Numbered state :=
  (relay Client).runFrom_preserves (fun stepped => Numbered.iterate stepped) ran Numbered.initial

theorem stored_of_positive {malloc : Option Garbage} {me : Nodedata UInt32} {list : Address}
    {heap : Heap ListBlock} {id : Int32}
    (created : createNodedataList malloc me Heap.empty = (some list, heap))
    (positive : 0 < id.toInt) :
    ∃ master block, startMaster malloc me id = some master ∧
      master.heap.load master.ndList = some block ∧ block.networkId = id := by
  rcases exists_startMaster_of_created created (.inr (Int.le_of_lt positive)) with
    ⟨master, started⟩
  rcases startMaster_eq_some started with ⟨garbage, live⟩
  exact ⟨master, _, started, live, rfl⟩

/-- What a master that receives an id can rely on. -/
structure Usable (id : Int32) : Prop where
  positive : 0 < id.toInt
  notTimeout : id ≠ isTimeout
  /-- The master decodes the id that was sent. -/
  decoded : ∀ datagram : Datagram, datagram.bytes = (Reply.networkId id).payload →
    requestJoinHugeCluster (.local (.datagram datagram)) = id
  /-- A master that has created its list goes on with this id in it. -/
  stored : ∀ malloc me list heap, createNodedataList malloc me Heap.empty = (some list, heap) →
    ∃ master block, startMaster malloc me id = some master ∧
      master.heap.load master.ndList = some block ∧ block.networkId = id

theorem usable_of_positive {id : Int32} (positive : 0 < id.toInt) : Usable id where
  positive := positive
  notTimeout := by
    rintro rfl
    contradiction
  decoded _ bytes_eq := requestJoinHugeCluster_datagram bytes_eq
  stored _ _ _ _ created := stored_of_positive created positive

/--
The ids sent to masters are pairwise different and positive. A master decodes the
id it was assigned, cannot take it for a timeout or an error, and stores it in
its list.
-/
theorem networkIds_unique (rounds : List (Round Client)) (state : State Client)
    (ran : (relay Client).run rounds = some state)
    (few : (assignedIds state).length < 2 ^ 31 - 1) :
    (assignedIds state).Nodup ∧ ∀ id ∈ assignedIds state, Usable id := by
  have numbered := Numbered.of_run ran
  refine ⟨?_, ?_⟩
  · rw [numbered.assigned_eq]
    apply List.Nodup.map_on _ List.nodup_range
    intro first first_mem second second_mem equal
    have first_eq := toInt_numberedId (Nat.lt_trans (List.mem_range.mp first_mem) few)
    have second_eq := toInt_numberedId (Nat.lt_trans (List.mem_range.mp second_mem) few)
    rw [equal, second_eq] at first_eq
    omega
  · intro id id_mem
    rw [numbered.assigned_eq, List.mem_map] at id_mem
    rcases id_mem with ⟨index, index_mem, rfl⟩
    have value := toInt_numberedId (Nat.lt_trans (List.mem_range.mp index_mem) few)
    apply usable_of_positive
    omega

/-- Three clients join, and the reply to the second one cannot be sent. -/
def threeHellos : List (Round ℕ) :=
  [helloRound 1, { helloRound 2 with replySent := false }, helloRound 3]

theorem networkIds_unique_threeHellos : ∃ state, (relay ℕ).run threeHellos = some state ∧
    assignedIds state = [1, 2] ∧
    (assignedIds state).Nodup ∧ ∀ id ∈ assignedIds state, Usable id := by
  rcases exists_run threeHellos with ⟨state, ran, -⟩
  have ids : ((relay ℕ).run threeHellos).map assignedIds = some [1, 2] := by decide
  rw [ran, Option.map_some, Option.some.injEq] at ids
  exact ⟨state, ran, ids, networkIds_unique threeHellos state ran (by rw [ids]; decide)⟩

end NodeinfoSystem.Relay
