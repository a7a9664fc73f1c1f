import NodeinfoSystem.Relay.Serving

/-!
# Rounds that fail

A list round fails in two ways. When the list is rejected, `main` leaves its
pointer `db` alone and the relay goes on serving the last snapshot. When the update
returns `NULL`, `main` has already stored it in `db`, so the next request is
answered with the empty header although `g_db` still holds its entries. The two
answers differ as soon as the relay had entries to serve.
-/

namespace NodeinfoSystem.Relay

open Foundation Wire

variable {Client : Type}

/-- The bytes that are sent for the next request for the database. -/
def payload (state : State Client) : List UInt8 :=
  encodeNodeinfoDatabase (served state.db)

/-- `receive_nodedata_list` returns `NULL`. -/
def Rejected (round : Round Client) (state : State Client) : Prop :=
  (receiveNodedataList round state).1 = none

/-- `update_nodeinfo_database` returns `NULL` for the list received. -/
def UpdateFails (round : Round Client) (state : State Client) : Prop :=
  ∃ list manager, (receiveNodedataList round state).1 = some list ∧
    Database.updateNodeinfoDatabase round.os list state.manager = some (none, manager)

/-- An acknowledged list round in which one of the two functions fails. -/
structure FailedListRound (round : Round Client) (state : State Client) : Prop where
  accepted : (acceptRequest round state).1 = .recvNodedataList
  failed : Rejected round state ∨ UpdateFails round state

/-- Whatever `db` of `main` names is the copy of a database with a port for every entry. -/
structure Copied (state : State Client) : Prop where
  managed : Database.Managed state.manager
  copy : ∀ db, state.db = some db →
    ∃ block : Database.Block, db = block.snapshot ∧ block.elements.length ≤ Database.portCount

theorem Copied.initial : Copied (State.initial : State Client) where
  managed := Database.Managed.initial
  copy _ present := by simp [State.initial] at present

theorem Copied.of_db_eq {before after : State Client} (copied : Copied before)
    (managed : Database.Managed after.manager) (db_eq : after.db = before.db) : Copied after where
  managed := managed
  copy := by
    rw [db_eq]
    exact copied.copy

theorem Copied.iterate {round : Round Client} {before after : State Client}
    (ran : Relay.iterate round before = some after) (copied : Copied before) : Copied after := by
  have managed : Database.Managed after.manager := by
    rcases exists_iterate round copied.managed with ⟨final, ran_final, managed⟩
    rw [ran, Option.some.injEq] at ran_final
    rwa [ran_final]
  cases iterate_effect ran with
  | quiet same _ _ => exact copied.of_db_eq managed same.db_eq
  | joined _ same _ _ => exact copied.of_db_eq managed same.db_eq
  | rejected _ _ same _ _ => exact copied.of_db_eq managed same.db_eq
  | answered _ _ same _ _ => exact copied.of_db_eq managed same.db_eq
  | updated _ _ updated _ _ =>
      refine ⟨managed, ?_⟩
      intro db present
      rcases Database.updateNodeinfoDatabase_result updated with
        ⟨failed, -⟩ | ⟨block, held, copy_eq⟩
      · rw [failed] at present
        contradiction
      · rw [copy_eq, Option.some.injEq] at present
        have few := managed.isolated.length_le
        simp only [Database.State.entries, held] at few
        exact ⟨block, present.symm, few⟩

theorem Copied.of_run {rounds : List (Round Client)} {state : State Client}
    (ran : (relay Client).run rounds = some state) : Copied state :=
  (relay Client).runFrom_preserves (fun stepped => Copied.iterate stepped) ran Copied.initial

theorem Copied.payload_eq_emptyHdr_iff {state : State Client} (copied : Copied state) :
    encodeNodeinfoDatabase emptyHdr = payload state ↔ (served state.db).entries = [] := by
  rw [payload]
  cases present : state.db with
  | none => simp [served, emptyHdr, NodeinfoDatabase.entries]
  | some db =>
      rcases copied.copy db present with ⟨block, rfl, few⟩
      simp only [Database.portCount] at few
      have entries_eq := entries_snapshot block (by omega)
      simp only [served, Option.getD_some]
      constructor
      · intro same
        have lengths := congrArg List.length same
        rw [length_encodeNodeinfoDatabase, length_encodeNodeinfoDatabase,
          ← length_entries_database, ← length_entries_database] at lengths
        simp only [emptyHdr, NodeinfoDatabase.entries, List.take_nil, List.length_nil,
          nodeinfoDatabaseElementSize] at lengths
        apply List.eq_nil_of_length_eq_zero
        rw [NodeinfoDatabase.entries]
        omega
      · intro noEntries
        rw [entries_eq] at noEntries
        simp [encodeNodeinfoDatabase, NodeinfoDatabase.entries, Database.Block.snapshot, emptyHdr,
          noEntries]

theorem iterate_of_rejected {round : Round Client} {state : State Client}
    (accepted : (acceptRequest round state).1 = .recvNodedataList)
    (rejected : Rejected round state) :
    ∃ after, iterate round state = some after ∧ after.db = state.db := by
  rcases exists_of_acceptRequest_list accepted with ⟨middle, accept_eq, same, returned⟩
  have received := receiveNodedataList_effect round middle
  rw [rejected] at returned
  rcases receive_eq : receiveNodedataList round middle with ⟨result, final⟩
  rw [receive_eq] at returned received
  simp only at returned
  subst result
  refine ⟨final, ?_, received.1.db_eq.trans same.db_eq⟩
  simp [iterate, accept_eq, receive_eq]

theorem iterate_of_updateFails {round : Round Client} {state : State Client}
    (accepted : (acceptRequest round state).1 = .recvNodedataList)
    (failed : UpdateFails round state) :
    ∃ after, iterate round state = some after ∧ after.db = none := by
  rcases failed with ⟨list, manager, returned_list, updated⟩
  rcases exists_of_acceptRequest_list accepted with ⟨middle, accept_eq, same, returned⟩
  have received := receiveNodedataList_effect round middle
  rw [returned_list] at returned
  rcases receive_eq : receiveNodedataList round middle with ⟨result, final⟩
  rw [receive_eq] at returned received
  simp only at returned
  subst result
  rw [← same.manager_eq, ← received.1.manager_eq] at updated
  refine ⟨{ final with db := none, manager := manager }, ?_, rfl⟩
  simp [iterate, accept_eq, receive_eq, updated]

/--
After a failed list round the relay serves what it served before exactly when the
list was rejected or there was nothing to serve: a failed update replaces the last
snapshot by the empty header.
-/
theorem payload_kept_iff (rounds : List (Round Client)) (state : State Client)
    (ran : (relay Client).run rounds = some state) (round : Round Client)
    (failed : FailedListRound round state) :
    ∃ after, (relay Client).step state round = some after ∧
      (payload after = payload state ↔
        Rejected round state ∨ (served state.db).entries = []) := by
  have copied := Copied.of_run ran
  rcases failed with ⟨accepted, rejected | updateFails⟩
  · rcases iterate_of_rejected accepted rejected with ⟨after, stepped, db_eq⟩
    refine ⟨after, stepped, ?_⟩
    have same : payload after = payload state := by rw [payload, payload, db_eq]
    exact ⟨fun _ => Or.inl rejected, fun _ => same⟩
  · rcases iterate_of_updateFails accepted updateFails with ⟨after, stepped, db_eq⟩
    refine ⟨after, stepped, ?_⟩
    have notRejected : ¬Rejected round state := by
      intro rejected
      rcases updateFails with ⟨list, -, returned, -⟩
      rw [rejected] at returned
      contradiction
    have empty : payload after = encodeNodeinfoDatabase emptyHdr := by
      rw [payload, db_eq]
      rfl
    rw [empty, copied.payload_eq_emptyHdr_iff]
    exact ⟨Or.inr, fun either => either.resolve_left notRejected⟩

/-! ## A failed update after a list -/

/-- A round for a list in which no allocation of the database manager succeeds. -/
def noMemoryRound : Round ℕ :=
  { listRound 2 2 22 with os := { Database.grantingOs with malloc := fun _ => false } }

theorem failedListRound_noMemoryRound {state : State ℕ}
    (ran : (relay ℕ).run [listRound 1 1 21] = some state) :
    FailedListRound noMemoryRound state := by
  have evaluated : ((relay ℕ).run [listRound 1 1 21]).map (fun state =>
      decide ((acceptRequest noMemoryRound state).1 = .recvNodedataList) &&
        ((receiveNodedataList noMemoryRound state).1.bind fun list =>
          (Database.updateNodeinfoDatabase noMemoryRound.os list state.manager).map fun result =>
            result.1.isNone) == some true) = some true := by
    decide
  rw [ran, Option.map_some, Option.some.injEq, Bool.and_eq_true, decide_eq_true_eq,
    beq_iff_eq, Option.bind_eq_some_iff] at evaluated
  rcases evaluated with ⟨accepted, list, returned, failed⟩
  rw [Option.map_eq_some_iff] at failed
  rcases failed with ⟨⟨result, manager⟩, updated, isNone⟩
  rw [Option.isNone_iff_eq_none] at isNone
  simp only at isNone
  subst result
  exact ⟨accepted, Or.inr ⟨list, manager, returned, updated⟩⟩

theorem payload_kept_iff_noMemoryRound : ∃ state, (relay ℕ).run [listRound 1 1 21] = some state ∧
    ∃ after, (relay ℕ).step state noMemoryRound = some after ∧
      (payload after = payload state ↔
        Rejected noMemoryRound state ∨ (served state.db).entries = []) := by
  rcases exists_run [listRound 1 1 21] with ⟨state, ran, -⟩
  exact ⟨state, ran, payload_kept_iff [listRound 1 1 21] state ran noMemoryRound
    (failedListRound_noMemoryRound ran)⟩

/-- A failed update changes what the relay serves. -/
theorem not_payload_kept : ¬∀ (rounds : List (Round ℕ)) (state : State ℕ),
    (relay ℕ).run rounds = some state → ∀ round, FailedListRound round state →
      ∀ after, (relay ℕ).step state round = some after → payload after = payload state := by
  intro kept
  rcases exists_run [listRound 1 1 21] with ⟨state, ran, -⟩
  have failed := failedListRound_noMemoryRound ran
  rcases exists_iterate noMemoryRound (Copied.of_run ran).managed with ⟨after, stepped, -⟩
  have same := kept _ state ran noMemoryRound failed after stepped
  have lengths : ((relay ℕ).run [listRound 1 1 21]).bind (fun state =>
      (iterate noMemoryRound state).map fun after =>
        ((payload state).length, (payload after).length)) = some (32, 8) := by
    decide
  rw [ran, Option.bind_some, stepped, Option.map_some, Option.some.injEq, Prod.mk.injEq,
    same] at lengths
  omega

end NodeinfoSystem.Relay
