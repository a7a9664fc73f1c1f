import NodeinfoSystem.Database.Ports
import NodeinfoSystem.Database.Stability
import Mathlib.Data.List.Pairwise

/-!
# Databases at different times

A node keeps its ports for as long as it is listed, and nobody else gets them in the
meantime. So what was read from the database some time ago can be used together with
what is read now, if no list in between has dropped an address of its network.
-/

namespace NodeinfoSystem.Database

/-- Two entries are the same, or they have neither the key nor a port in common. -/
structure Agree (element other : NodeinfoDatabaseElement) : Prop where
  same : key element = key other → element = other
  apart : key element ≠ key other → Disjoint (ports element) (ports other)

theorem Agree.symm {element other : NodeinfoDatabaseElement} (agree : Agree element other) :
    Agree other element where
  same sameKey := (agree.same sameKey.symm).symm
  apart differ := (agree.apart differ.symm).symm

/-- The later list has all addresses of the earlier one, if it is for the same network. -/
def Keeps (earlier later : NodedataList Int32) : Prop :=
  earlier.networkId = later.networkId → addresses earlier ⊆ addresses later

theorem agree_of_mem {calls : List Call} {state : State} {element other : NodeinfoDatabaseElement}
    (ran : manager.run calls = some state) (element_mem : element ∈ state.entries)
    (other_mem : other ∈ state.entries) : Agree element other where
  same sameKey := by
    have alone := filter_key_eq_singleton (keys_nodup ran) other_mem
    have found : element ∈ state.entries.filter fun entry => key entry = key other :=
      List.mem_filter.mpr ⟨element_mem, by simpa using sameKey⟩
    rw [alone] at found
    exact List.mem_singleton.mp found
  apart differ := by
    have isolated := (PortsIsolated.of_run ran).disjoint
    have symmetric : Std.Symm fun first second => Disjoint (ports first) (ports second) :=
      ⟨fun _ _ meet => meet.symm⟩
    apply isolated.forall element_mem other_mem
    rintro rfl
    exact differ rfl

/-- Whoever is in the database has been listed. -/
theorem exists_listed_of_run {calls : List Call} {state : State}
    {element : NodeinfoDatabaseElement} (ran : manager.run calls = some state)
    (element_mem : element ∈ state.entries) :
    ∃ call ∈ calls, call.list.networkId = element.networkId ∧
      element.ipaddress ∈ addresses call.list := by
  induction calls using List.reverseRecOn generalizing state with
  | nil =>
      obtain rfl : State.initial = state := Option.some.inj ran
      simp at element_mem
  | append_singleton calls call ih =>
      rcases (manager.runFrom_append_eq_some).mp ran with ⟨middle, toMiddle, rest⟩
      rcases (manager.runFrom_cons_eq_some).mp rest with ⟨last, stepped, ended⟩
      obtain rfl : last = state := Option.some.inj ended
      by_cases sameNetwork : element.networkId = call.list.networkId
      · have listed := listed_of_step stepped element element_mem sameNetwork
        exact ⟨call, by simp, sameNetwork.symm, listed⟩
      · have before := mem_before_of_step stepped element element_mem sameNetwork
        rcases ih toMiddle before with ⟨earlier, earlier_mem, listed⟩
        exact ⟨earlier, List.mem_append_left _ earlier_mem, listed⟩

/-- The entries of a database agree with those of every later one. -/
theorem agree_of_keeps {earlier later : List Call} {state final : State}
    {element other : NodeinfoDatabaseElement} (ran : manager.run earlier = some state)
    (continued : manager.runFrom state later = some final)
    (keeps : ∀ first ∈ earlier, ∀ second ∈ later, Keeps first.list second.list)
    (element_mem : element ∈ state.entries) (other_mem : other ∈ final.entries) :
    Agree element other := by
  rcases exists_listed_of_run ran element_mem with ⟨first, first_mem, sameNetwork, listed⟩
  have retained : element ∈ final.entries := by
    apply runFrom_retains continued element_mem
    intro second second_mem otherNetwork
    exact keeps first first_mem second second_mem (sameNetwork.trans otherNetwork.symm) listed
  have whole : manager.run (earlier ++ later) = some final :=
    (manager.runFrom_append_eq_some).mpr ⟨state, ran, continued⟩
  exact agree_of_mem whole retained other_mem

end NodeinfoSystem.Database
