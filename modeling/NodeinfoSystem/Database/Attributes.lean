import NodeinfoSystem.Database.Merge

/-!
# The data of the stored nodes

What an update appends for a node is taken from the list. What it keeps is kept as
it is: `exists_in_db` looks at the network and the address only, and a node that it
finds is passed over together with its new user id and core count.
-/

namespace NodeinfoSystem.Database

/-- The list has an element with the address, the user id and the core count of the entry. -/
def Reflected (list : NodedataList Int32) (element : NodeinfoDatabaseElement) : Prop :=
  ∃ node ∈ list.entries, storedAddress node = element.ipaddress ∧
    node.userid = element.userid ∧ node.cpuCoreNum = element.cpuCoreNum

/-- An entry that the list's network keeps: the list still has its address. -/
def Stays (list : NodedataList Int32) (element : NodeinfoDatabaseElement) : Prop :=
  element.networkId = list.networkId ∧ element.ipaddress ∈ addresses list

theorem Insertable.reflected {list : NodedataList Int32} {node : Nodedata Int32}
    {entries : List NodeinfoDatabaseElement} {element : NodeinfoDatabaseElement}
    (insertable : Insertable list.networkId node entries element)
    (node_mem : node ∈ list.entries) : Reflected list element :=
  ⟨node, node_mem, insertable.ipaddress_eq.symm, insertable.userid_eq.symm,
    insertable.cpuCoreNum_eq.symm⟩

theorem reflected_or_stays_of_step {call : Call} {before after : State}
    (stepped : manager.step before call = some after) :
    ∀ element ∈ after.entries, element.networkId = call.list.networkId →
      Reflected call.list element ∨ element ∈ before.entries ∧ Stays call.list element := by
  apply step_preserves (fun entries => ∀ element ∈ entries,
    element.networkId = call.list.networkId →
      Reflected call.list element ∨ element ∈ before.entries ∧ Stays call.list element) ?_ stepped
  · intro element element_mem sameNetwork
    rcases Foundation.mem_removeWhere.mp element_mem with ⟨old, kept⟩
    exact Or.inr ⟨old, sameNetwork, isObsolete_eq_false.mp kept sameNetwork⟩
  · intro node node_mem entries new insertable holds element element_mem sameNetwork
    rcases List.mem_append.mp element_mem with old | fresh
    · exact holds element old sameNetwork
    · rw [List.mem_singleton] at fresh
      subst element
      exact Or.inl (insertable.reflected node_mem)

/-- The condition on an update: no node that stays has changed. -/
def StaysReflected (list : NodedataList Int32) (before : State) : Prop :=
  ∀ element ∈ before.entries, Stays list element → Reflected list element

/-- The network of the list agrees with it after the update. -/
def NetworkReflected (list : NodedataList Int32) (after : State) : Prop :=
  ∀ element ∈ after.entries, element.networkId = list.networkId → Reflected list element

theorem networkReflected_iff {call : Call} {before after : State}
    (stepped : manager.step before call = some after) :
    NetworkReflected call.list after ↔ StaysReflected call.list before := by
  constructor
  · rintro reflected element element_mem ⟨sameNetwork, listed⟩
    have stays := step_retains stepped element_mem fun _ => listed
    exact reflected element stays sameNetwork
  · intro reflected element element_mem sameNetwork
    rcases reflected_or_stays_of_step stepped element element_mem sameNetwork with
      new | ⟨old, stays⟩
    · exact new
    · exact reflected element old stays

/-- Lists of other networks bring no entry of this one. -/
theorem mem_of_runFrom {element : NodeinfoDatabaseElement} {state final : State}
    {calls : List Call} (ran : manager.runFrom state calls = some final)
    (others : ∀ call ∈ calls, call.list.networkId ≠ element.networkId)
    (element_mem : element ∈ final.entries) : element ∈ state.entries := by
  have kept : ∀ {before : State} {call : Call} {after : State},
      manager.step before call = some after → call.list.networkId ≠ element.networkId →
        (element ∈ before.entries → element ∈ state.entries) →
        element ∈ after.entries → element ∈ state.entries := by
    intro before call after stepped other known after_mem
    exact known (mem_before_of_step stepped element after_mem other.symm)
  exact manager.runFrom_preserves_of_forall kept ran others id element_mem

/--
An update leaves every entry of the list's network in agreement with the list exactly when
the entries that stay agree with it before. In a run whose updates all meet this, every
entry agrees with the last list of its network.
-/
theorem reflected_iff (calls : List Call) :
    (∀ before call after, manager.Takes calls before call after →
      (NetworkReflected call.list after ↔ StaysReflected call.list before)) ∧
    ((∀ before call after, manager.Takes calls before call after →
        StaysReflected call.list before) →
      ∀ state, manager.run calls = some state → ∀ element ∈ state.entries,
        ∃ earlier call later, IsLastCall element.networkId calls earlier call later ∧
          Reflected call.list element) := by
  refine ⟨?_, ?_⟩
  · rintro before call after ⟨earlier, later, -, -, stepped⟩
    exact networkReflected_iff stepped
  · intro unchanged state ran element element_mem
    rcases exists_isLastCall_or element.networkId calls with ⟨earlier, call, later, last⟩ | none
    · refine ⟨earlier, call, later, last, ?_⟩
      rcases last.split_run ran with ⟨start, next, toStart, stepped, toEnd⟩
      have takes : manager.Takes calls start call next :=
        ⟨earlier, later, last.calls_eq, toStart, stepped⟩
      have reflected := (networkReflected_iff stepped).mpr (unchanged start call next takes)
      have next_mem := mem_of_runFrom toEnd last.later_ne element_mem
      exact reflected element next_mem last.networkId_eq.symm
    · have initial_mem := mem_of_runFrom ran none element_mem
      simp [manager] at initial_mem

/-- A list of one node, whose core count the caller chooses. -/
def coreList (cpuCoreNum : Int32) : NodedataList Int32 where
  maxSize := 1
  currentSize := 1
  networkId := 1
  nodedatas := [⟨21, 7, cpuCoreNum⟩]
  inBounds := by simp

theorem exists_stale_entry : ∃ before after,
    manager.run [⟨grantingOs, coreList 4⟩] = some before ∧
    manager.step before ⟨grantingOs, coreList 8⟩ = some after ∧
    after.failedSearches = before.failedSearches ∧
    before.entries = [newElement 1 ⟨21, 7, 4⟩ 10000 10001] ∧
    after.entries = [newElement 1 ⟨21, 7, 4⟩ 10000 10001] := by
  have result : ((manager.run [⟨grantingOs, coreList 4⟩]).bind fun before =>
      (manager.step before ⟨grantingOs, coreList 8⟩).map fun after =>
        (before.entries, after.entries, before.failedSearches, after.failedSearches)) =
      some ([newElement 1 ⟨21, 7, 4⟩ 10000 10001],
        [newElement 1 ⟨21, 7, 4⟩ 10000 10001], 0, 0) := by
    decide
  rw [Option.bind_eq_some_iff] at result
  rcases result with ⟨before, ran, result⟩
  rw [Option.map_eq_some_iff] at result
  rcases result with ⟨after, stepped, result⟩
  simp only [Prod.mk.injEq] at result
  rcases result with ⟨before_eq, after_eq, before_found, after_found⟩
  exact ⟨before, after, ran, stepped, after_found.trans before_found.symm, before_eq, after_eq⟩

/-- The entry of a node that stays in the list keeps the core count of an earlier list. -/
theorem not_forall_reflected : ¬∀ (calls : List Call) (before : State) (call : Call)
    (after : State), manager.run calls = some before → manager.step before call = some after →
      (∀ allocation, call.os.malloc allocation = true) →
      after.failedSearches = before.failedSearches → NetworkReflected call.list after := by
  intro always
  rcases exists_stale_entry with ⟨before, after, ran, stepped, found, -, after_eq⟩
  have reflected := always _ before ⟨grantingOs, coreList 8⟩ after ran stepped (fun _ => rfl) found
    (newElement 1 ⟨21, 7, 4⟩ 10000 10001) (by simp [after_eq]) rfl
  have entries_eq : (coreList 8).entries = [⟨21, 7, 8⟩] := by decide
  rcases reflected with ⟨node, node_mem, -, -, cores⟩
  rw [entries_eq, List.mem_singleton] at node_mem
  subst node
  exact absurd cores (by decide)

end NodeinfoSystem.Database
