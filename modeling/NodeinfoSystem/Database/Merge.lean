import NodeinfoSystem.Database.Effect
import Mathlib.Data.Set.Basic

/-!
# The database as a merge of the latest lists

The abstract view of the database is one set of addresses for every network. A
list replaces the set of its own network and leaves all the others alone, so
after any history each set is the one of the most recent list for that network.
The code maintains this in one unsorted array, through removal by swapping and
an add loop that searches the array it is extending.
-/

namespace NodeinfoSystem.Database

/-- What identifies an entry: its network and its address. -/
def key (element : NodeinfoDatabaseElement) : Int32 × UInt32 :=
  (element.networkId, element.ipaddress)

/-- The addresses of a list, as the database stores them. -/
def addresses (list : NodedataList Int32) : Set UInt32 :=
  {ipaddr | ∃ node ∈ list.entries, storedAddress node = ipaddr}

def stored (networkId : Int32) (state : State) : Set UInt32 :=
  {ipaddr | ∃ element ∈ state.entries, element.networkId = networkId ∧
    element.ipaddress = ipaddr}

theorem ipPresentInList_eq_true {list : NodedataList Int32} {ipaddr : UInt32} :
    ipPresentInList list ipaddr = true ↔ ipaddr ∈ addresses list := by
  simp [ipPresentInList, addresses]

theorem isObsolete_eq_false {list : NodedataList Int32} {element : NodeinfoDatabaseElement} :
    isObsolete list element = false ↔
      (element.networkId = list.networkId → element.ipaddress ∈ addresses list) := by
  rw [← ipPresentInList_eq_true]
  simp [isObsolete]

/-! ## One update -/

theorem step_retains {call : Call} {before after : State} {element : NodeinfoDatabaseElement}
    (stepped : manager.step before call = some after) (element_mem : element ∈ before.entries)
    (listed : element.networkId = call.list.networkId →
      element.ipaddress ∈ addresses call.list) :
    element ∈ after.entries := by
  apply step_preserves (fun entries => element ∈ entries) ?_ stepped
  · exact Foundation.mem_removeWhere.mpr ⟨element_mem, isObsolete_eq_false.mpr listed⟩
  · intro _ _ entries new _ old_mem
    exact List.mem_append_left _ old_mem

theorem mem_before_of_step {call : Call} {before after : State}
    (stepped : manager.step before call = some after) :
    ∀ element ∈ after.entries, element.networkId ≠ call.list.networkId →
      element ∈ before.entries := by
  apply step_preserves (fun entries => ∀ element ∈ entries,
    element.networkId ≠ call.list.networkId → element ∈ before.entries) ?_ stepped
  · intro element element_mem _
    exact (Foundation.mem_removeWhere.mp element_mem).1
  · intro node _ entries new insertable holds element element_mem otherNetwork
    rcases List.mem_append.mp element_mem with old | fresh
    · exact holds element old otherNetwork
    · rw [List.mem_singleton] at fresh
      subst element
      exact absurd insertable.networkId_eq otherNetwork

theorem listed_of_step {call : Call} {before after : State}
    (stepped : manager.step before call = some after) :
    ∀ element ∈ after.entries, element.networkId = call.list.networkId →
      element.ipaddress ∈ addresses call.list := by
  apply step_preserves (fun entries => ∀ element ∈ entries,
    element.networkId = call.list.networkId → element.ipaddress ∈ addresses call.list) ?_ stepped
  · intro element element_mem
    exact isObsolete_eq_false.mp (Foundation.mem_removeWhere.mp element_mem).2
  · intro node node_mem entries new insertable holds element element_mem sameNetwork
    rcases List.mem_append.mp element_mem with old | fresh
    · exact holds element old sameNetwork
    · rw [List.mem_singleton] at fresh
      subst element
      exact ⟨node, node_mem, insertable.ipaddress_eq.symm⟩

/-- A list of another network changes neither the presence nor the data of an entry. -/
theorem mem_iff_of_step {call : Call} {before after : State} {element : NodeinfoDatabaseElement}
    (stepped : manager.step before call = some after)
    (otherNetwork : element.networkId ≠ call.list.networkId) :
    element ∈ after.entries ↔ element ∈ before.entries := by
  constructor
  · intro element_mem
    exact mem_before_of_step stepped element element_mem otherNetwork
  · intro element_mem
    apply step_retains stepped element_mem
    intro sameNetwork
    exact absurd sameNetwork otherNetwork

theorem stored_eq_of_step {call : Call} {before after : State} {networkId : Int32}
    (stepped : manager.step before call = some after)
    (otherNetwork : call.list.networkId ≠ networkId) :
    stored networkId after = stored networkId before := by
  ext ipaddr
  simp only [stored, Set.mem_ofPred_eq]
  apply exists_congr
  intro element
  constructor
  · rintro ⟨element_mem, rfl, rfl⟩
    exact ⟨(mem_iff_of_step stepped otherNetwork.symm).mp element_mem, rfl, rfl⟩
  · rintro ⟨element_mem, rfl, rfl⟩
    exact ⟨(mem_iff_of_step stepped otherNetwork.symm).mpr element_mem, rfl, rfl⟩

/-- When no allocation and no port search fails, the add loop covers the whole list. -/
theorem addNodes_complete {os : Os} {networkId : Int32} {nodes : List (Nodedata Int32)}
    {before after : State} (ran : addNodes os networkId nodes before = some after)
    (granted : ∀ allocation, os.malloc allocation = true)
    (found : after.failedSearches = before.failedSearches) :
    ∀ node ∈ nodes, existsInDb after networkId (storedAddress node) = true := by
  induction nodes generalizing before with
  | nil => simp
  | cons node nodes ih =>
      rcases addNodes_cons_cases ran with ⟨middle, iterated, rest⟩ | iterated
      · have rest_le := addNodes_failedSearches_le rest
        have here : middle.failedSearches = before.failedSearches ∧
            existsInDb middle networkId (storedAddress node) = true := by
          cases addNode_effect iterated with
          | present present => exact ⟨rfl, present⟩
          | noPort _ failed => omega
          | @added _ element insertable entries_eq failedSearches_eq =>
              refine ⟨failedSearches_eq, ?_⟩
              rw [existsInDb_eq_true, entries_eq]
              exact ⟨element, by simp, insertable.networkId_eq, insertable.ipaddress_eq⟩
        intro other other_mem
        rcases List.mem_cons.mp other_mem with rfl | later
        · rw [existsInDb_eq_true] at here ⊢
          rcases here.2 with ⟨element, element_mem, sameNetwork, sameAddress⟩
          refine ⟨element, ?_, sameNetwork, sameAddress⟩
          have kept : ∀ node ∈ nodes, ∀ entries new, Insertable networkId node entries new →
              element ∈ entries → element ∈ entries ++ [new] := by
            intro _ _ entries new _ old_mem
            exact List.mem_append_left _ old_mem
          exact addNodes_preserves kept rest element_mem
        · exact ih rest (by omega) other later
      · exact absurd iterated (addNode_ne_leave granted)

/-- The network of the list holds exactly the list's addresses when nothing failed. -/
theorem stored_eq_addresses_of_step {call : Call} {before after : State}
    (stepped : manager.step before call = some after)
    (granted : ∀ allocation, call.os.malloc allocation = true)
    (found : after.failedSearches = before.failedSearches) :
    stored call.list.networkId after = addresses call.list := by
  apply Set.Subset.antisymm
  · rintro ipaddr ⟨element, element_mem, sameNetwork, rfl⟩
    exact listed_of_step stepped element element_mem sameNetwork
  · rintro ipaddr ⟨node, node_mem, rfl⟩
    rcases manager_step_eq_some.mp stepped with ⟨result, ran⟩
    rcases updateNodeinfoDatabase_cases ran with
      ⟨-, allocation, refused⟩ | ⟨start, final, -, start_failed, added, after_eq, after_failed⟩
    · simp [granted allocation] at refused
    · have complete := addNodes_complete added granted (by omega) node node_mem
      rw [existsInDb_eq_true] at complete
      rcases complete with ⟨element, element_mem, sameNetwork, sameAddress⟩
      exact ⟨element, after_eq ▸ element_mem, sameNetwork, sameAddress⟩

/-! ## Whole histories -/

theorem keys_nodup_append {networkId : Int32} {node : Nodedata Int32}
    {entries : List NodeinfoDatabaseElement} {element : NodeinfoDatabaseElement}
    (insertable : Insertable networkId node entries element)
    (nodup : (entries.map key).Nodup) : ((entries ++ [element]).map key).Nodup := by
  rw [List.map_append, List.map_singleton, List.nodup_append]
  refine ⟨nodup, List.nodup_singleton _, ?_⟩
  intro known known_mem new new_mem equal
  rw [List.mem_singleton] at new_mem
  subst new
  rcases List.mem_map.mp known_mem with ⟨other, other_mem, rfl⟩
  simp only [key, Prod.mk.injEq] at equal
  exact insertable.newKey other other_mem (equal.1.trans insertable.networkId_eq) equal.2

theorem keys_nodup_subperm {entries fewer : List NodeinfoDatabaseElement}
    (sub : fewer.Subperm entries) (nodup : (entries.map key).Nodup) :
    (fewer.map key).Nodup := by
  rcases sub with ⟨arranged, perm, sublist⟩
  exact (perm.map key).nodup_iff.mp (nodup.sublist (sublist.map key))

theorem keys_nodup {calls : List Call} {state : State} (ran : manager.run calls = some state) :
    (state.entries.map key).Nodup :=
  entries_invariant (fun entries => (entries.map key).Nodup) List.nodup_nil keys_nodup_subperm
    keys_nodup_append ran

/-- `call` is the last one of a history whose list is for `networkId`. -/
structure IsLastCall (networkId : Int32) (calls : List Call) (earlier : List Call) (call : Call)
    (later : List Call) : Prop where
  calls_eq : calls = earlier ++ call :: later
  networkId_eq : call.list.networkId = networkId
  later_ne : ∀ other ∈ later, other.list.networkId ≠ networkId

/-- A history either has a last list for a network or none at all. -/
theorem exists_isLastCall_or (networkId : Int32) (calls : List Call) :
    (∃ earlier call later, IsLastCall networkId calls earlier call later) ∨
      ∀ call ∈ calls, call.list.networkId ≠ networkId := by
  induction calls with
  | nil => simp
  | cons first rest ih =>
      rcases ih with ⟨earlier, call, later, last⟩ | none
      · left
        refine ⟨first :: earlier, call, later, ?_, last.networkId_eq, last.later_ne⟩
        rw [last.calls_eq, List.cons_append]
      · by_cases here : first.list.networkId = networkId
        · exact Or.inl ⟨[], first, rest, rfl, here, none⟩
        · right
          intro call call_mem
          rcases List.mem_cons.mp call_mem with rfl | later
          · exact here
          · exact none call later

theorem stored_eq_of_runFrom {networkId : Int32} {state final : State} {calls : List Call}
    (ran : manager.runFrom state calls = some final)
    (others : ∀ call ∈ calls, call.list.networkId ≠ networkId) :
    stored networkId final = stored networkId state := by
  have kept : ∀ {before : State} {call : Call} {after : State},
      manager.step before call = some after → call.list.networkId ≠ networkId →
        stored networkId before = stored networkId state →
        stored networkId after = stored networkId state := by
    intro before call after stepped other holds
    rw [stored_eq_of_step stepped other, holds]
  exact manager.runFrom_preserves_of_forall kept ran others rfl

theorem IsLastCall.split_run {networkId : Int32} {calls earlier later : List Call} {call : Call}
    {state : State} (last : IsLastCall networkId calls earlier call later)
    (ran : manager.run calls = some state) :
    ∃ start next, manager.run earlier = some start ∧ manager.step start call = some next ∧
      manager.runFrom next later = some state := by
  rw [Foundation.TransitionSystem.run, last.calls_eq] at ran
  rcases (manager.runFrom_append_eq_some).mp ran with ⟨start, toStart, rest⟩
  rcases (manager.runFrom_cons_eq_some).mp rest with ⟨next, stepped, toEnd⟩
  exact ⟨start, next, toStart, stepped, toEnd⟩

/--
Last list wins. Keys are unique; every address stored under a network is in the
most recent list for it; and if that list was processed without a failed port
search, the stored set is exactly the set of its addresses.
-/
theorem last_list_wins (calls : List Call) (state : State)
    (ran : manager.run calls = some state)
    (granted : ∀ call ∈ calls, ∀ allocation, call.os.malloc allocation = true) :
    (∀ (i j : ℕ) (i_lt : i < state.entries.length) (j_lt : j < state.entries.length),
        key state.entries[i] = key state.entries[j] → i = j) ∧
      ∀ networkId,
        (∀ element ∈ state.entries, element.networkId = networkId →
          ∃ earlier call later, IsLastCall networkId calls earlier call later ∧
            element.ipaddress ∈ addresses call.list) ∧
        ∀ earlier call later, IsLastCall networkId calls earlier call later →
          ∀ start next, manager.run earlier = some start → manager.step start call = some next →
            next.failedSearches = start.failedSearches →
            stored networkId state = addresses call.list := by
  refine ⟨?_, fun networkId => ⟨?_, ?_⟩⟩
  · intro i j i_lt j_lt sameKey
    have i_lt_map : i < (state.entries.map key).length := by simpa using i_lt
    have j_lt_map : j < (state.entries.map key).length := by simpa using j_lt
    have same : (state.entries.map key)[i] = (state.entries.map key)[j] := by simpa using sameKey
    exact (keys_nodup ran).getElem_inj_iff.mp same
  · intro element element_mem sameNetwork
    have inStored : element.ipaddress ∈ stored networkId state :=
      ⟨element, element_mem, sameNetwork, rfl⟩
    rcases exists_isLastCall_or networkId calls with ⟨earlier, call, later, last⟩ | none
    · refine ⟨earlier, call, later, last, ?_⟩
      rcases last.split_run ran with ⟨start, next, -, stepped, toEnd⟩
      rw [stored_eq_of_runFrom toEnd last.later_ne] at inStored
      rcases inStored with ⟨other, other_mem, otherNetwork, sameAddress⟩
      rw [← sameAddress]
      exact listed_of_step stepped other other_mem (otherNetwork.trans last.networkId_eq.symm)
    · rw [stored_eq_of_runFrom ran none] at inStored
      rcases inStored with ⟨other, other_mem, -, -⟩
      simp [manager] at other_mem
  · intro earlier call later last start next toStart stepped found
    rcases last.split_run ran with ⟨start', next', toStart', stepped', toEnd⟩
    obtain rfl : start = start' := Option.some.inj (toStart.symm.trans toStart')
    obtain rfl : next = next' := Option.some.inj (stepped.symm.trans stepped')
    have call_mem : call ∈ calls := by simp [last.calls_eq]
    rw [stored_eq_of_runFrom toEnd last.later_ne, ← last.networkId_eq]
    exact stored_eq_addresses_of_step stepped (granted call call_mem) found

theorem last_list_wins_sampleCalls : ∃ state, manager.run sampleCalls = some state ∧
    (∀ (i j : ℕ) (i_lt : i < state.entries.length) (j_lt : j < state.entries.length),
        key state.entries[i] = key state.entries[j] → i = j) ∧
      ∀ networkId,
        (∀ element ∈ state.entries, element.networkId = networkId →
          ∃ earlier call later, IsLastCall networkId sampleCalls earlier call later ∧
            element.ipaddress ∈ addresses call.list) ∧
        ∀ earlier call later, IsLastCall networkId sampleCalls earlier call later →
          ∀ start next, manager.run earlier = some start → manager.step start call = some next →
            next.failedSearches = start.failedSearches →
            stored networkId state = addresses call.list := by
  rcases exists_run_sampleCalls with ⟨state, ran⟩
  have granted : ∀ call ∈ sampleCalls, ∀ allocation, call.os.malloc allocation = true := by
    simp [sampleCalls, grantingOs]
  exact ⟨state, ran, last_list_wins sampleCalls state ran granted⟩

end NodeinfoSystem.Database
