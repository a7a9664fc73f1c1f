import NodeinfoSystem.Database.Capacity
import Mathlib.Data.Int.Interval

/-!
# The port search as one cyclic scan

The two loops of `find_next_free_port` look at the ports from the cursor up to the
last one and then from the first one up to the cursor. Ports that an entry uses are
passed over without asking the operating system, so a search is a walk along the
unused ports in this cyclic order that ends at the first one the system grants.
-/

namespace NodeinfoSystem.Database

open Foundation

/-- `count` consecutive ports from `port` upwards. -/
def portsFrom (port : ℤ) : ℕ → List ℤ
  | 0 => []
  | count + 1 => port :: portsFrom (port + 1) count

theorem mem_portsFrom {port candidate : ℤ} {count : ℕ} :
    candidate ∈ portsFrom port count ↔ port ≤ candidate ∧ candidate < port + count := by
  induction count generalizing port with
  | zero =>
      rw [portsFrom]
      simp only [List.not_mem_nil, false_iff, not_and]
      omega
  | succ count ih =>
      rw [portsFrom, List.mem_cons, ih]
      omega

theorem nodup_portsFrom (port : ℤ) (count : ℕ) : (portsFrom port count).Nodup := by
  induction count generalizing port with
  | zero => exact List.nodup_nil
  | succ count ih =>
      rw [portsFrom, List.nodup_cons, mem_portsFrom]
      exact ⟨by omega, ih (port + 1)⟩

/-- Every port of the range, in the order of a search that starts at `start`. -/
def cyclicPorts (start : ℤ) : List ℤ :=
  portsFrom start (portLast + 1 - start).toNat ++
    portsFrom portBase (min start (portLast + 1) - portBase).toNat

theorem mem_cyclicPorts {start port : ℤ} (start_ge : portBase ≤ start) :
    port ∈ cyclicPorts start ↔ portBase ≤ port ∧ port ≤ portLast := by
  rw [cyclicPorts, List.mem_append, mem_portsFrom, mem_portsFrom]
  unfold portBase portLast at *
  omega

theorem nodup_cyclicPorts (start : ℤ) : (cyclicPorts start).Nodup := by
  rw [cyclicPorts, List.nodup_append]
  refine ⟨nodup_portsFrom _ _, nodup_portsFrom _ _, ?_⟩
  intro high high_mem low low_mem equal
  rw [mem_portsFrom] at high_mem low_mem
  unfold portBase portLast at *
  omega

/-- The ports that no entry uses, in the order the next search looks at them. -/
def freePorts (state : State) : List ℤ :=
  (cyclicPorts (searchStart state)).filter fun port => !isPortInDb state port

theorem mem_freePorts {state : State} {port : ℤ} :
    port ∈ freePorts state ↔
      (portBase ≤ port ∧ port ≤ portLast) ∧ isPortInDb state port = false := by
  rw [freePorts, List.mem_filter, mem_cyclicPorts (portBase_le_searchStart state)]
  simp

theorem nodup_freePorts (state : State) : (freePorts state).Nodup :=
  (nodup_cyclicPorts _).filter _

/-- Ask for one port after the other until one is granted. -/
def probePorts (os : Os) : List ℤ → ℕ → Option ℤ × ℕ
  | [], probes => (none, probes)
  | port :: ports, probes =>
      if os.isPortAvailable probes port then (some port, probes + 1)
      else probePorts os ports (probes + 1)

theorem scanPorts_eq_probePorts (os : Os) (state : State) (count : ℕ) (port : ℤ) (probes : ℕ) :
    scanPorts os state count port probes =
      probePorts os ((portsFrom port count).filter fun port => !isPortInDb state port) probes := by
  induction count generalizing port probes with
  | zero => rfl
  | succ count ih =>
      rw [scanPorts, portsFrom]
      split
      · next used => rw [List.filter_cons_of_neg (by simp [used]), ih]
      · next unused => rw [List.filter_cons_of_pos (by simp [unused]), probePorts, ih]

theorem probePorts_append_of_none {os : Os} {first second : List ℤ} {probes asked : ℕ}
    (failed : probePorts os first probes = (none, asked)) :
    probePorts os (first ++ second) probes = probePorts os second asked := by
  induction first generalizing probes with
  | nil =>
      simp only [probePorts, Prod.mk.injEq, true_and] at failed
      rw [List.nil_append, failed]
  | cons port ports ih =>
      rw [probePorts] at failed
      rw [List.cons_append, probePorts]
      split at failed
      · simp at failed
      · next refused => rw [if_neg refused, ih failed]

theorem probePorts_append_of_some {os : Os} {first second : List ℤ} {probes asked : ℕ} {port : ℤ}
    (found : probePorts os first probes = (some port, asked)) :
    probePorts os (first ++ second) probes = (some port, asked) := by
  induction first generalizing probes with
  | nil => simp [probePorts] at found
  | cons other ports ih =>
      rw [probePorts] at found
      rw [List.cons_append, probePorts]
      split at found
      · next granted => rw [if_pos granted, found]
      · next refused => rw [if_neg refused, ih found]

theorem findNextFreePort_of_some {os : Os} {state : State} {port : ℤ} {asked : ℕ}
    (found : probePorts os (freePorts state) state.probes = (some port, asked)) :
    findNextFreePort os state = (port, { state with nextPort := port + 1, probes := asked }) := by
  rw [freePorts, cyclicPorts, List.filter_append] at found
  simp only [findNextFreePort, scanPorts_eq_probePorts]
  split
  · next high probes upward =>
      rw [probePorts_append_of_some upward, Prod.mk.injEq, Option.some.injEq] at found
      rw [found.1, found.2]
  · next probes upward =>
      rw [probePorts_append_of_none upward] at found
      rw [found]

theorem findNextFreePort_of_none {os : Os} {state : State} {asked : ℕ}
    (failed : probePorts os (freePorts state) state.probes = (none, asked)) :
    findNextFreePort os state =
      (-1, { state with
        nextPort := searchStart state
        probes := asked
        failedSearches := state.failedSearches + 1 }) := by
  rw [freePorts, cyclicPorts, List.filter_append] at failed
  simp only [findNextFreePort, scanPorts_eq_probePorts]
  split
  · next high probes upward =>
      rw [probePorts_append_of_some upward] at failed
      simp at failed
  · next probes upward =>
      rw [probePorts_append_of_none upward] at failed
      rw [failed]

/-! ## Enough ports -/

/-- An operating system that grants every port. -/
def PortsGranted (os : Os) : Prop :=
  ∀ probe port, os.isPortAvailable probe port = true

theorem exists_probePorts {os : Os} (granted : PortsGranted os) {ports : List ℤ}
    (nonempty : ports ≠ []) (probes : ℕ) :
    ∃ port asked, probePorts os ports probes = (some port, asked) := by
  cases ports with
  | nil => contradiction
  | cons port rest =>
      refine ⟨port, probes + 1, ?_⟩
      rw [probePorts, if_pos (granted probes port)]

theorem freePorts_ne_nil {state : State} (few : 2 * state.entries.length < 55536) :
    freePorts state ≠ [] := by
  intro exhausted
  have covered : Finset.Icc portBase portLast ⊆
      (state.entries.flatMap fun element =>
        [element.controlPortNum.toInt, element.messagePortNum.toInt]).toFinset := by
    intro port port_mem
    rw [Finset.mem_Icc] at port_mem
    have notFree : port ∉ freePorts state := by simp [exhausted]
    rw [mem_freePorts, not_and] at notFree
    have used := notFree port_mem
    simp only [isPortInDb, usesPort, Bool.not_eq_false, List.any_eq_true, Bool.or_eq_true,
      beq_iff_eq] at used
    rcases used with ⟨element, element_mem, uses⟩
    rw [List.mem_toFinset, List.mem_flatMap]
    refine ⟨element, element_mem, ?_⟩
    rcases uses with rfl | rfl <;> simp
  have counted := (Finset.card_le_card covered).trans (List.toFinset_card_le _)
  rw [Int.card_Icc, List.length_flatMap] at counted
  simp only [List.length_cons, List.length_nil, List.map_const', List.sum_replicate_nat] at counted
  unfold portBase portLast at counted
  omega

theorem nonneg_of_unused {os : Os} (granted : PortsGranted os) {before after : State} {port : ℤ}
    (unused : freePorts before ≠ [])
    (search : findNextFreePort os before = (port, after)) : ¬port < 0 := by
  rcases exists_probePorts granted unused before.probes with ⟨found, asked, probed⟩
  have found_eq := findNextFreePort_of_some probed
  have searches_eq : after.failedSearches = before.failedSearches := by
    rw [search, Prod.mk.injEq] at found_eq
    rw [found_eq.2]
  intro negative
  have failed := findNextFreePort_failed search negative
  omega

theorem nonneg_of_granted {os : Os} (granted : PortsGranted os) {before after : State} {port : ℤ}
    (few : 2 * before.entries.length < 55536)
    (search : findNextFreePort os before = (port, after)) : ¬port < 0 :=
  nonneg_of_unused granted (freePorts_ne_nil few) search

theorem addNode_of_granted {os : Os} (granted : PortsGranted os) {networkId : Int32}
    {node : Nodedata Int32} {before : State} {iteration : Iteration}
    (few : 2 * before.entries.length < 55536)
    (ran : addNode os networkId node before = some iteration) :
    iteration.final.failedSearches = before.failedSearches ∧
      iteration.final.entries.length ≤ before.entries.length + 1 := by
  cases addNode_path ran with
  | present => exact ⟨rfl, Nat.le_succ _⟩
  | noControlPort _ search failed => exact absurd failed (nonneg_of_granted granted few search)
  | noMessagePort _ ctrlSearch _ msgSearch failed =>
      rw [← (findNextFreePort_frame ctrlSearch).entries_eq] at few
      exact absurd failed (nonneg_of_granted granted few msgSearch)
  | noMemory _ ports grown _ =>
      rcases growIfFull_effect grown with ⟨entries_eq, failed_eq, -⟩
      simp only [Iteration.final, entries_eq, failed_eq, ports.frame.entries_eq,
        ports.failedSearches_eq, true_and]
      exact Nat.le_succ _
  | added _ ports grown _ appended =>
      rcases growIfFull_effect grown with ⟨entries_eq, failed_eq, -⟩
      rcases appendElement_effect appended with ⟨appended_eq, searches_eq⟩
      simp only [Iteration.final, appended_eq, searches_eq, entries_eq, failed_eq,
        ports.frame.entries_eq, ports.failedSearches_eq, List.length_append, List.length_singleton,
        Nat.le_refl, and_self]

/-- With enough unused ports and a system that grants every port, no search of a loop fails. -/
theorem addNodes_of_granted {os : Os} (granted : PortsGranted os) {networkId : Int32}
    {nodes : List (Nodedata Int32)} {before after : State}
    (few : 2 * (before.entries.length + nodes.length) < 55536)
    (ran : addNodes os networkId nodes before = some after) :
    after.failedSearches = before.failedSearches := by
  induction nodes generalizing before with
  | nil =>
      rw [Option.some.inj ran]
  | cons node nodes ih =>
      rw [List.length_cons] at few
      rcases addNodes_cons_cases ran with ⟨middle, iterated, rest⟩ | iterated
      · have stepped := addNode_of_granted granted (by omega) iterated
        simp only [Iteration.final] at stepped
        rw [ih (by omega) rest, stepped.1]
      · exact (addNode_of_granted granted (by omega) iterated).1

end NodeinfoSystem.Database
