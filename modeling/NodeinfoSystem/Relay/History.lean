import NodeinfoSystem.Relay.Serving

/-!
# The updates behind a run

The relay's rounds make its database manager perform updates, one for each list that is
brought and accepted. Whatever fails, a database that is served has no other entries
than `g_db`: a failed update leaves nothing to serve.
-/

namespace NodeinfoSystem.Relay

open Foundation Wire

variable {Client : Type}

/-- The round brings the list of the update, and the list is accepted. -/
def Brings (round : Round Client) (call : Database.Call) : Prop :=
  ∃ client request datagram, round.request = some (client, request) ∧
    round.list = some datagram ∧
    Wire.Relay.receiveNodedataList true (some datagram) = some call.list

theorem exists_datagram_of_returned {round : Round Client} {state : State Client}
    {list : NodedataList Int32} (returned : (receiveNodedataList round state).1 = some list) :
    ∃ datagram, round.list = some datagram ∧
      Wire.Relay.receiveNodedataList true (some datagram) = some list := by
  unfold receiveNodedataList at returned
  split at returned
  · cases granted : round.listGranted with
    | false =>
        rw [granted] at returned
        contradiction
    | true =>
        rw [granted] at returned
        cases received : round.list with
        | none =>
            rw [received] at returned
            contradiction
        | some datagram =>
            rw [received] at returned
            exact ⟨datagram, rfl, returned⟩
  · contradiction

/-- Without a request nothing happens to the database. -/
theorem manager_of_silent {round : Round Client} {before after : State Client}
    (silent : round.request = none) (ran : iterate round before = some after) :
    after.manager = before.manager := by
  simp only [iterate, acceptRequest, silent] at ran
  cases opened : before.ctrlInited || round.ctrlOpens with
  | false | true =>
      simp only [opened, Bool.false_eq_true, if_true, if_false, Option.some.injEq] at ran
      rw [← ran]

/-- A round leaves the database alone or makes one update. -/
theorem manager_of_iterate {round : Round Client} {before after : State Client}
    (ran : iterate round before = some after) :
    after.manager = before.manager ∨ ∃ call, Brings round call ∧
      Database.manager.step before.manager call = some after.manager := by
  cases request_eq : round.request with
  | none => exact Or.inl (manager_of_silent request_eq ran)
  | some request =>
      cases iterate_effect ran with
      | quiet same | joined _ same | rejected _ _ same | answered _ _ same =>
          exact Or.inl same.manager_eq
      | @updated _ list returned updated =>
          rcases exists_datagram_of_returned returned with ⟨datagram, list_eq, accepted⟩
          right
          refine ⟨⟨round.os, list⟩, ?_, Database.manager_step_eq_some.mpr ⟨after.db, updated⟩⟩
          exact ⟨request.1, request.2, datagram, request_eq, list_eq, accepted⟩

/-- The updates of a run, each brought by one of its rounds. -/
theorem exists_calls {rounds : List (Round Client)} {before after : State Client}
    (ran : (relay Client).runFrom before rounds = some after) :
    ∃ calls, Database.manager.runFrom before.manager calls = some after.manager ∧
      ∀ call ∈ calls, ∃ round ∈ rounds, Brings round call := by
  induction rounds generalizing before with
  | nil =>
      obtain rfl : before = after := Option.some.inj ran
      exact ⟨[], rfl, by simp⟩
  | cons round rounds ih =>
      rcases (TransitionSystem.runFrom_cons_eq_some _).mp ran with ⟨middle, iterated, rest⟩
      rcases ih rest with ⟨calls, continued, brought⟩
      have later : ∀ call ∈ calls, ∃ other ∈ round :: rounds, Brings other call := by
        intro call call_mem
        rcases brought call call_mem with ⟨other, other_mem, brings⟩
        exact ⟨other, List.mem_cons_of_mem round other_mem, brings⟩
      rcases manager_of_iterate iterated with same | ⟨call, brings, stepped⟩
      · rw [same] at continued
        exact ⟨calls, continued, later⟩
      · refine ⟨call :: calls, ?_, ?_⟩
        · exact (Database.manager.runFrom_cons_eq_some).mpr ⟨middle.manager, stepped, continued⟩
        · intro other other_mem
          rcases List.mem_cons.mp other_mem with rfl | other_mem
          · exact ⟨round, List.mem_cons_self, brings⟩
          · exact later other other_mem

/-- Whatever `db` of `main` names is a copy of `g_db`. -/
def Current (state : State Client) : Prop :=
  ∀ db, state.db = some db →
    ∃ block, state.manager.gDb = some block ∧ db = block.snapshot

theorem Current.of_sameData {before after : State Client} (current : Current before)
    (same : SameData before after) : Current after := by
  rw [Current, same.db_eq, same.manager_eq]
  exact current

theorem Current.iterate {round : Round Client} {before after : State Client}
    (ran : Relay.iterate round before = some after) (current : Current before) :
    Current after := by
  cases iterate_effect ran with
  | quiet same | joined _ same | rejected _ _ same | answered _ _ same =>
      exact current.of_sameData same
  | updated _ _ updated =>
      intro db present
      rcases Database.updateNodeinfoDatabase_result updated with
        ⟨failed, -⟩ | ⟨block, held, copied⟩
      · rw [failed] at present
        contradiction
      · rw [copied, Option.some.injEq] at present
        exact ⟨block, held, present.symm⟩

theorem Current.of_run {rounds : List (Round Client)} {state : State Client}
    (ran : (relay Client).run rounds = some state) : Current state :=
  (relay Client).runFrom_preserves (fun stepped => Current.iterate stepped) ran
    fun _ present => by contradiction

/-- What is served is in the database. -/
theorem served_subset {rounds : List (Round Client)} {state : State Client}
    (ran : (relay Client).run rounds = some state) :
    (served state.db).entries ⊆ state.manager.entries := by
  rcases exists_run rounds with ⟨same, ran', managed⟩
  obtain rfl : state = same := Option.some.inj (ran.symm.trans ran')
  cases present : state.db with
  | none => simp [served, emptyHdr, NodeinfoDatabase.entries]
  | some db =>
      rcases Current.of_run ran db present with ⟨block, held, rfl⟩
      have few := managed.isolated.length_le
      simp only [Database.State.entries, held, Database.portCount] at few ⊢
      rw [served, Option.getD_some, entries_snapshot block (by omega)]
      exact List.Subset.refl _

end NodeinfoSystem.Relay
