import NodeinfoSystem.Database.Effect
import Mathlib.Data.Finset.Disjoint
import Mathlib.Data.Finset.Insert

/-!
# Port isolation

Every port handed out is unused by the entries present at that moment, so the
port sets of two entries never meet, whatever networks they belong to. The
argument needs nothing about the cursor: a search that wraps around, or a
message-port search that fails after a control port was found, still only
appends ports that `is_port_in_db` rejected for no entry.
-/

namespace NodeinfoSystem.Database

def ports (element : NodeinfoDatabaseElement) : Finset ℤ :=
  {element.controlPortNum.toInt, element.messagePortNum.toInt}

theorem mem_ports {port : ℤ} {element : NodeinfoDatabaseElement} :
    port ∈ ports element ↔
      port = element.controlPortNum.toInt ∨ port = element.messagePortNum.toInt := by
  simp [ports]

theorem usesPort_eq_false {port : ℤ} {element : NodeinfoDatabaseElement} :
    usesPort port element = false ↔ port ∉ ports element := by
  simp only [usesPort, mem_ports, Bool.or_eq_false_iff, beq_eq_false_iff_ne, ne_eq, not_or]
  constructor
  · rintro ⟨notControl, notMessage⟩
    exact ⟨fun equal => notControl equal.symm, fun equal => notMessage equal.symm⟩
  · rintro ⟨notControl, notMessage⟩
    exact ⟨fun equal => notControl equal.symm, fun equal => notMessage equal.symm⟩

/-- No two entries share a port, and all ports are in the range searched. -/
structure PortsIsolated (entries : List NodeinfoDatabaseElement) : Prop where
  disjoint : entries.Pairwise fun first second => Disjoint (ports first) (ports second)
  inRange : ∀ element ∈ entries, ∀ port ∈ ports element, portBase ≤ port ∧ port ≤ portLast

namespace PortsIsolated

theorem nil : PortsIsolated [] where
  disjoint := List.Pairwise.nil
  inRange := by simp

theorem subperm {entries fewer : List NodeinfoDatabaseElement} (sub : fewer.Subperm entries)
    (isolated : PortsIsolated entries) : PortsIsolated fewer where
  disjoint := by
    rcases sub with ⟨arranged, perm, sublist⟩
    have symmetric : ∀ {first second : NodeinfoDatabaseElement},
        Disjoint (ports first) (ports second) → Disjoint (ports second) (ports first) :=
      fun meet => meet.symm
    exact (perm.pairwise_iff symmetric).mp (isolated.disjoint.sublist sublist)
  inRange element element_mem := isolated.inRange element (sub.subset element_mem)

theorem disjoint_of_insertable {networkId : Int32} {node : Nodedata Int32}
    {entries : List NodeinfoDatabaseElement} {element other : NodeinfoDatabaseElement}
    (insertable : Insertable networkId node entries element) (other_mem : other ∈ entries) :
    Disjoint (ports other) (ports element) := by
  rw [Finset.disjoint_right]
  intro port port_mem
  rcases mem_ports.mp port_mem with rfl | rfl
  · exact usesPort_eq_false.mp (insertable.controlPort_unused other other_mem)
  · exact usesPort_eq_false.mp (insertable.messagePort_unused other other_mem)

theorem append {networkId : Int32} {node : Nodedata Int32}
    {entries : List NodeinfoDatabaseElement} {element : NodeinfoDatabaseElement}
    (insertable : Insertable networkId node entries element)
    (isolated : PortsIsolated entries) : PortsIsolated (entries ++ [element]) where
  disjoint := by
    rw [List.pairwise_append]
    refine ⟨isolated.disjoint, List.pairwise_singleton _ _, ?_⟩
    intro other other_mem last last_mem
    rw [List.mem_singleton] at last_mem
    subst last
    exact disjoint_of_insertable insertable other_mem
  inRange := by
    intro other other_mem port port_mem
    rcases List.mem_append.mp other_mem with old | new
    · exact isolated.inRange other old port port_mem
    · rw [List.mem_singleton] at new
      subst other
      rcases mem_ports.mp port_mem with rfl | rfl
      · exact insertable.controlPort_mem
      · exact insertable.messagePort_mem

theorem of_run {calls : List Call} {state : State} (ran : manager.run calls = some state) :
    PortsIsolated state.entries :=
  entries_invariant PortsIsolated nil subperm append ran

end PortsIsolated

/--
After every sequence of updates, whatever the probes answered and whichever
allocations failed, two different entries have disjoint ports and every port is
between 10000 and 65535.
-/
theorem ports_isolated (calls : List Call) (state : State)
    (ran : manager.run calls = some state) :
    (∀ (i j : ℕ) (i_lt : i < state.entries.length) (j_lt : j < state.entries.length), i ≠ j →
        Disjoint (ports state.entries[i]) (ports state.entries[j])) ∧
      ∀ element ∈ state.entries, ∀ port ∈ ports element, 10000 ≤ port ∧ port ≤ 65535 := by
  have isolated := PortsIsolated.of_run ran
  refine ⟨?_, isolated.inRange⟩
  intro i j i_lt j_lt different
  rcases Nat.lt_or_gt_of_ne different with before | after
  · exact List.pairwise_iff_getElem.mp isolated.disjoint i j i_lt j_lt before
  · exact (List.pairwise_iff_getElem.mp isolated.disjoint j i j_lt i_lt after).symm

theorem ports_isolated_sampleCalls : ∃ state, manager.run sampleCalls = some state ∧
    (∀ (i j : ℕ) (i_lt : i < state.entries.length) (j_lt : j < state.entries.length), i ≠ j →
        Disjoint (ports state.entries[i]) (ports state.entries[j])) ∧
      ∀ element ∈ state.entries, ∀ port ∈ ports element, 10000 ≤ port ∧ port ≤ 65535 := by
  rcases exists_run_sampleCalls with ⟨state, ran⟩
  exact ⟨state, ran, ports_isolated sampleCalls state ran⟩

end NodeinfoSystem.Database
