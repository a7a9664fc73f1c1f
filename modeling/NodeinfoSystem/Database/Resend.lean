import NodeinfoSystem.Database.Capacity
import NodeinfoSystem.Database.Merge

/-!
# Sending a list again

After an update without a failed search the database holds exactly what the list
asks for: no entry of its network is obsolete and every node is found. A second
update with the same list removes nothing, passes over every node without a search,
and at most moves the entries to a larger block before it copies them again.
-/

namespace NodeinfoSystem.Database

/-- The database has nothing to remove and nothing to add for the list. -/
structure UpToDate (list : NodedataList Int32) (state : State) : Prop where
  noneObsolete : ∀ element ∈ state.entries, isObsolete list element = false
  allPresent : ∀ node ∈ list.entries, existsInDb state list.networkId (storedAddress node) = true

section UpToDate

variable {os : Os} {list : NodedataList Int32} {before after : State}

theorem UpToDate.of_entries_eq (upToDate : UpToDate list before)
    (entries_eq : after.entries = before.entries) : UpToDate list after where
  noneObsolete := by
    rw [entries_eq]
    exact upToDate.noneObsolete
  allPresent := by
    simp only [existsInDb]
    rw [entries_eq]
    exact upToDate.allPresent

theorem UpToDate.of_step {call : Call} (stepped : manager.step before call = some after)
    (granted : ∀ allocation, call.os.malloc allocation = true)
    (found : after.failedSearches = before.failedSearches) : UpToDate call.list after where
  noneObsolete element element_mem :=
    isObsolete_eq_false.mpr (listed_of_step stepped element element_mem)
  allPresent node node_mem := by
    have listed : storedAddress node ∈ addresses call.list := ⟨node, node_mem, rfl⟩
    rw [← stored_eq_addresses_of_step stepped granted found] at listed
    exact existsInDb_eq_true.mpr listed

theorem addNodes_of_present {networkId : Int32} {nodes : List (Nodedata Int32)} {state : State}
    (present : ∀ node ∈ nodes, existsInDb state networkId (storedAddress node) = true) :
    addNodes os networkId nodes state = some state := by
  induction nodes with
  | nil => rfl
  | cons node nodes ih =>
      rw [List.forall_mem_cons] at present
      rw [addNodes, addNode, if_pos present.1]
      exact ih present.2

theorem UpToDate.startsLoop {ready : State} (upToDate : UpToDate list before)
    (starts : StartsLoop os list before ready) :
    ready.entries = before.entries ∧
      addNodes os list.networkId list.entries ready = some ready := by
  have entries_eq : ready.entries = before.entries := by
    rw [starts.entries_eq, Foundation.removeWhere_eq_self upToDate.noneObsolete]
  exact ⟨entries_eq, addNodes_of_present (upToDate.of_entries_eq entries_eq).allPresent⟩

theorem UpToDate.update {result : Option NodeinfoDatabase} (upToDate : UpToDate list before)
    (ran : updateNodeinfoDatabase os list before = some (result, after)) :
    after.entries = before.entries ∧ after.nextPort = before.nextPort := by
  cases updateNodeinfoDatabase_path ran with
  | noCapacity ensured _ _ =>
      rw [(ensureDbCapacity_effect ensured).1, entries_removeObsolete,
        Foundation.removeWhere_eq_self upToDate.noneObsolete,
        nextPort_of_ensureDbCapacity ensured, nextPort_removeObsolete]
      exact ⟨rfl, rfl⟩
  | noSnapshot starts added _ =>
      rcases upToDate.startsLoop starts with ⟨entries_eq, loop_eq⟩
      rw [loop_eq, Option.some.injEq] at added
      subst added
      exact ⟨entries_eq, starts.nextPort_eq⟩
  | snapshot starts added _ =>
      rcases upToDate.startsLoop starts with ⟨entries_eq, loop_eq⟩
      rw [loop_eq, Option.some.injEq] at added
      subst added
      exact ⟨entries_eq, starts.nextPort_eq⟩

/-- The returned copy depends on the elements in use only, not on the size of the block. -/
theorem snapshot_congr {first second : Block} (elements_eq : first.elements = second.elements) :
    first.snapshot = second.snapshot := by
  simp only [Block.snapshot, elements_eq]

theorem result_eq_of_granted {result : Option NodeinfoDatabase}
    (granted : ∀ allocation, os.malloc allocation = true)
    (ran : updateNodeinfoDatabase os list before = some (result, after)) :
    ∃ block : Block, block.elements = after.entries ∧ result = some block.snapshot := by
  rcases updateNodeinfoDatabase_result ran with ⟨-, allocation, refused⟩ | ⟨block, present, rfl⟩
  · simp [granted allocation] at refused
  · exact ⟨block, by simp only [State.entries, present], rfl⟩

end UpToDate

/--
When an update made no failed search, another update with the same list changes
neither the entries nor the cursor and returns the same copy, whatever the probes
answer.
-/
theorem resend_idempotent (calls : List Call) (before after : State) (os again : Os)
    (list : NodedataList Int32) (result : Option NodeinfoDatabase)
    (ran : manager.run calls = some before)
    (updated : updateNodeinfoDatabase os list before = some (result, after))
    (granted : ∀ allocation, os.malloc allocation = true)
    (found : after.failedSearches = before.failedSearches)
    (grantedAgain : ∀ allocation, again.malloc allocation = true) :
    (∀ secondResult final, updateNodeinfoDatabase again list after = some (secondResult, final) →
        final.entries = after.entries ∧ final.nextPort = after.nextPort ∧ secondResult = result ∧
          result.isSome) ∧
      (LeavesRoom list → ∃ secondResult final,
        updateNodeinfoDatabase again list after = some (secondResult, final)) := by
  have stepped : manager.step before ⟨os, list⟩ = some after :=
    manager_step_eq_some.mpr ⟨result, updated⟩
  refine ⟨?_, ?_⟩
  · intro secondResult final updatedAgain
    have upToDate : UpToDate list after := .of_step stepped granted found
    rcases upToDate.update updatedAgain with ⟨entries_eq, nextPort_eq⟩
    refine ⟨entries_eq, nextPort_eq, ?_⟩
    rcases result_eq_of_granted granted updated with ⟨first, first_eq, rfl⟩
    rcases result_eq_of_granted grantedAgain updatedAgain with ⟨second, second_eq, rfl⟩
    rw [snapshot_congr (second_eq.trans (entries_eq.trans first_eq.symm))]
    exact ⟨rfl, rfl⟩
  · intro room
    have toAfter : manager.run (calls ++ [⟨os, list⟩]) = some after := by
      refine manager.runFrom_append_eq_some.mpr ⟨before, ran, ?_⟩
      exact manager.runFrom_cons_eq_some.mpr ⟨after, stepped, rfl⟩
    exact exists_updateNodeinfoDatabase again room (Sized.of_run toAfter) (.of_run toAfter)

/--
A list with repetitions, sent twice to a database that has one of its nodes and a node of
another network; no port is free the second time.
-/
theorem resend_idempotent_repeatedList : ∃ before result after,
    manager.run sampleCalls = some before ∧
    updateNodeinfoDatabase grantingOs repeatedList before = some (result, after) ∧
    before.entries.length = 2 ∧ after.entries.length = 3 ∧
    (∀ secondResult final,
      updateNodeinfoDatabase ⟨fun _ _ => false, fun _ => true⟩ repeatedList after =
          some (secondResult, final) →
        final.entries = after.entries ∧ final.nextPort = after.nextPort ∧ secondResult = result ∧
          result.isSome) ∧
      (LeavesRoom repeatedList → ∃ secondResult final,
        updateNodeinfoDatabase ⟨fun _ _ => false, fun _ => true⟩ repeatedList after =
          some (secondResult, final)) := by
  have traced : ((manager.run sampleCalls).bind fun before =>
      (updateNodeinfoDatabase grantingOs repeatedList before).map fun outcome =>
        (before.failedSearches, outcome.2.failedSearches, before.entries.length,
          outcome.2.entries.length)) = some (0, 0, 2, 3) := by decide
  simp only [Option.bind_eq_some_iff, Option.map_eq_some_iff, Prod.mk.injEq] at traced
  rcases traced with ⟨before, ran, ⟨result, after⟩, updated, quietBefore, quiet, few, more⟩
  have found : after.failedSearches = before.failedSearches := quiet.trans quietBefore.symm
  exact ⟨before, result, after, ran, updated, few, more,
    resend_idempotent sampleCalls before after grantingOs _ repeatedList result ran updated
      (fun _ => rfl) found (fun _ => rfl)⟩

end NodeinfoSystem.Database
