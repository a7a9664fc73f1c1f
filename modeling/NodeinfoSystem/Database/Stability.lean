import NodeinfoSystem.Database.Merge

/-!
# Stability of entries

An entry is moved around the array by removals and by reallocation, in calls
that may concern other networks. What is stable is the entry as a member of the
table: it stays, with all its fields and exactly once, for as long as no list of
its own network leaves its address out.
-/

namespace NodeinfoSystem.Database

theorem filter_key_eq_singleton {entries : List NodeinfoDatabaseElement}
    {element : NodeinfoDatabaseElement} (unique : (entries.map key).Nodup)
    (element_mem : element ∈ entries) :
    entries.filter (fun other => key other = key element) = [element] := by
  induction entries with
  | nil => simp at element_mem
  | cons first rest ih =>
      rw [List.map_cons, List.nodup_cons] at unique
      rcases List.mem_cons.mp element_mem with rfl | later
      · rw [List.filter_cons_of_pos (by simp), List.cons.injEq]
        refine ⟨rfl, ?_⟩
        rw [List.filter_eq_nil_iff]
        intro other other_mem
        simp only [decide_eq_true_eq]
        intro sameKey
        exact unique.1 (List.mem_map.mpr ⟨other, other_mem, sameKey⟩)
      · rw [List.filter_cons_of_neg, ih unique.2 later]
        simp only [decide_eq_true_eq]
        intro sameKey
        exact unique.1 (List.mem_map.mpr ⟨element, later, sameKey.symm⟩)

theorem runFrom_retains {element : NodeinfoDatabaseElement} {state final : State}
    {later : List Call} (continued : manager.runFrom state later = some final)
    (element_mem : element ∈ state.entries)
    (listed : ∀ call ∈ later, call.list.networkId = element.networkId →
      element.ipaddress ∈ addresses call.list) :
    element ∈ final.entries := by
  have kept : ∀ {before : State} {call : Call} {after : State},
      manager.step before call = some after →
        (call.list.networkId = element.networkId →
          element.ipaddress ∈ addresses call.list) →
        element ∈ before.entries → element ∈ after.entries := by
    intro before call after stepped listed before_mem
    exact step_retains stepped before_mem fun sameNetwork => listed sameNetwork.symm
  exact manager.runFrom_preserves_of_forall kept continued listed element_mem

/--
Once an entry is in the database, it is the one entry with its key, with all six
fields unchanged, after any further updates whose lists for its network contain
its address. Lists of other networks are not restricted at all.
-/
theorem entry_stable (earlier later : List Call) (state final : State)
    (element : NodeinfoDatabaseElement) (ran : manager.run earlier = some state)
    (element_mem : element ∈ state.entries)
    (listed : ∀ call ∈ later, call.list.networkId = element.networkId →
      element.ipaddress ∈ addresses call.list)
    (continued : manager.runFrom state later = some final) :
    final.entries.filter (fun other => key other = key element) = [element] := by
  have whole : manager.run (earlier ++ later) = some final :=
    (manager.runFrom_append_eq_some).mpr ⟨state, ran, continued⟩
  exact filter_key_eq_singleton (keys_nodup whole)
    (runFrom_retains continued element_mem listed)

/-- The entry of the second network survives the third list, which is not its own. -/
theorem entry_stable_sampleCalls : ∃ state final,
    manager.run (sampleCalls.take 2) = some state ∧
    manager.runFrom state (sampleCalls.drop 2) = some final ∧
    final.entries.filter (fun other => key other = key (newElement 2 ⟨22, 7, 4⟩ 10002 10003)) =
      [newElement 2 ⟨22, 7, 4⟩ 10002 10003] := by
  rcases exists_run_sampleCalls with ⟨final, whole⟩
  have joined : manager.run (sampleCalls.take 2 ++ sampleCalls.drop 2) = some final := whole
  rcases (manager.runFrom_append_eq_some).mp joined with ⟨state, ran, continued⟩
  have element_mem : newElement 2 ⟨22, 7, 4⟩ 10002 10003 ∈ state.entries := by
    have stored : (manager.run (sampleCalls.take 2)).map State.entries =
        some [newElement 1 ⟨21, 7, 4⟩ 10000 10001, newElement 2 ⟨22, 7, 4⟩ 10002 10003] := by
      decide
    rw [Foundation.TransitionSystem.run, ran] at stored
    simp [Option.some.inj stored]
  have listed : ∀ call ∈ sampleCalls.drop 2, call.list.networkId = 2 →
      (22 : UInt32) ∈ addresses call.list := by
    simp [sampleCalls, singletonList]
  exact ⟨state, final, ran, continued,
    entry_stable (sampleCalls.take 2) (sampleCalls.drop 2) state final _ ran element_mem listed
      continued⟩

end NodeinfoSystem.Database
