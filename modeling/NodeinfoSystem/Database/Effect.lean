import NodeinfoSystem.Database.Basic
import Mathlib.Data.List.Nodup

/-!
# What one update can do

Everything later files say about the database manager is derived from the
inversion facts here. A port search either finds a port that no entry uses or
leaves the table alone; growing the block never changes the entries; and one
iteration of the add loop has four outcomes, collected in `NodeEffect`. The
effect of a whole update on the entries is then the removal of the obsolete ones,
followed by insertions that each satisfy `Insertable` at the moment they happen.

`entries_invariant` packages the induction over a history: a property of the
entries that survives dropping and reordering entries, and survives one
insertable element, holds after every sequence of updates.
-/

namespace NodeinfoSystem.Database

/-! ## Port search -/

theorem isPortInDb_eq_false {state : State} {port : ℤ} :
    isPortInDb state port = false ↔ ∀ element ∈ state.entries, usesPort port element = false := by
  simp [isPortInDb]

theorem scanPorts_found {os : Os} {state : State} {count probes finalProbes : ℕ}
    {port found : ℤ}
    (scanned : scanPorts os state count port probes = (some found, finalProbes)) :
    isPortInDb state found = false ∧ port ≤ found ∧ found < port + count := by
  induction count generalizing port probes with
  | zero => simp [scanPorts] at scanned
  | succ count ih =>
      rw [scanPorts] at scanned
      split at scanned
      · have rest := ih scanned
        refine ⟨rest.1, ?_, ?_⟩ <;> omega
      · next notInDb =>
          split at scanned
          · simp only [Prod.mk.injEq, Option.some.injEq] at scanned
            rcases scanned with ⟨rfl, -⟩
            refine ⟨by simpa using notInDb, ?_, ?_⟩ <;> omega
          · have rest := ih scanned
            refine ⟨rest.1, ?_, ?_⟩ <;> omega

theorem portBase_le_searchStart (state : State) : portBase ≤ searchStart state := by
  unfold searchStart
  split <;> omega

theorem findNextFreePort_cases (os : Os) (state : State) :
    (∃ port probes,
        findNextFreePort os state =
          (port, { state with nextPort := port + 1, probes := probes }) ∧
        isPortInDb state port = false ∧ portBase ≤ port ∧ port ≤ portLast) ∨
      ∃ probes,
        findNextFreePort os state =
          (-1, { state with
            nextPort := searchStart state
            probes := probes
            failedSearches := state.failedSearches + 1 }) := by
  have start_ge := portBase_le_searchStart state
  simp only [findNextFreePort]
  split
  · next port probes upward =>
      left
      rcases scanPorts_found upward with ⟨free, lower, upper⟩
      exact ⟨port, probes, rfl, free, by omega, by omega⟩
  · split
    · next port probes wrapped =>
        left
        rcases scanPorts_found wrapped with ⟨free, lower, upper⟩
        exact ⟨port, probes, rfl, free, by omega, by omega⟩
    · next probes _ => exact Or.inr ⟨probes, rfl⟩

/-! ## Capacity -/

/-- The capacity that the doubling starts from. -/
def startCapacity (state : State) : ℤ :=
  if 0 < state.gDbCapacity then state.gDbCapacity else 16

/-- The ways through `ensure_db_capacity`. -/
inductive CapacityPath (os : Os) (need : ℤ) (before : State) : ℤ → State → Prop
  | enough (present : before.gDb.isSome) (need_le : need ≤ before.gDbCapacity) :
      CapacityPath os need before 0 before
  | refused {newCap : ℤ} (short : ¬(before.gDb.isSome ∧ need ≤ before.gDbCapacity))
      (doubled : growCapacity need 32 (startCapacity before) = some newCap)
      (refusal : os.malloc before.allocations = false) :
      CapacityPath os need before (-1) { before with allocations := before.allocations + 1 }
  | granted {newCap : ℤ} (short : ¬(before.gDb.isSome ∧ need ≤ before.gDbCapacity))
      (doubled : growCapacity need 32 (startCapacity before) = some newCap)
      (grant : os.malloc before.allocations = true)
      (fits : before.entries.length ≤ newCap.toNat) :
      CapacityPath os need before 0 { before with
        gDb := some ⟨newCap.toNat, before.entries, fits⟩
        gDbCapacity := newCap
        allocations := before.allocations + 1 }

theorem ensureDbCapacity_path {os : Os} {need code : ℤ} {before after : State}
    (ensured : ensureDbCapacity os need before = some (code, after)) :
    CapacityPath os need before code after := by
  unfold ensureDbCapacity at ensured
  split at ensured
  · next enough =>
      simp only [Option.some.injEq, Prod.mk.injEq] at ensured
      rcases ensured with ⟨rfl, rfl⟩
      exact .enough enough.1 enough.2
  · next short =>
      split at ensured
      · contradiction
      · next newCap doubled =>
          split at ensured
          · next refused =>
              simp only [allocate, Prod.mk.injEq] at refused
              simp only [Option.some.injEq, Prod.mk.injEq] at ensured
              rcases refused with ⟨refusal, rfl⟩
              rcases ensured with ⟨rfl, rfl⟩
              exact .refused short doubled refusal
          · next granted =>
              simp only [allocate, Prod.mk.injEq] at granted
              rcases granted with ⟨grant, rfl⟩
              split at ensured
              · next fits =>
                  simp only [Option.some.injEq, Prod.mk.injEq] at ensured
                  rcases ensured with ⟨rfl, rfl⟩
                  exact .granted short doubled grant fits
              · contradiction

theorem CapacityPath.ensureDbCapacity_eq {os : Os} {need code : ℤ} {before after : State}
    (path : CapacityPath os need before code after) :
    ensureDbCapacity os need before = some (code, after) := by
  unfold ensureDbCapacity
  cases path with
  | enough present need_le => rw [if_pos ⟨present, need_le⟩]
  | refused short doubled refusal =>
      unfold startCapacity at doubled
      rw [if_neg short, doubled]
      simp only [allocate, refusal]
  | granted short doubled grant fits =>
      unfold startCapacity at doubled
      rw [if_neg short, doubled]
      simp only [allocate, grant]
      exact dif_pos fits

/--
Growing the block keeps the entries and the search counter. It reports failure only
when an allocation failed.
-/
theorem ensureDbCapacity_effect {os : Os} {need code : ℤ} {before after : State}
    (ensured : ensureDbCapacity os need before = some (code, after)) :
    after.entries = before.entries ∧ after.failedSearches = before.failedSearches ∧
      (code < 0 → ∃ allocation, os.malloc allocation = false) := by
  cases ensureDbCapacity_path ensured with
  | enough => simp
  | refused _ _ refusal => exact ⟨rfl, rfl, fun _ => ⟨_, refusal⟩⟩
  | granted => exact ⟨rfl, rfl, by simp⟩

theorem nextPort_of_ensureDbCapacity {os : Os} {need code : ℤ} {before after : State}
    (ensured : ensureDbCapacity os need before = some (code, after)) :
    after.nextPort = before.nextPort := by
  cases ensureDbCapacity_path ensured <;> rfl

theorem growIfFull_cases {os : Os} {code : ℤ} {before after : State}
    (grown : growIfFull os before = some (code, after)) :
    code = 0 ∧ after = before ∨ ∃ need, ensureDbCapacity os need before = some (code, after) := by
  unfold growIfFull at grown
  cases present : before.gDb with
  | none => simp [present] at grown
  | some block =>
      simp only [present] at grown
      split at grown
      · cases needed : checkedInt (block.elements.length + 1) with
        | none => simp [needed] at grown
        | some need =>
            simp only [needed] at grown
            exact Or.inr ⟨need, grown⟩
      · simp only [Option.some.injEq, Prod.mk.injEq] at grown
        rcases grown with ⟨rfl, rfl⟩
        exact Or.inl ⟨rfl, rfl⟩

theorem growIfFull_effect {os : Os} {code : ℤ} {before after : State}
    (grown : growIfFull os before = some (code, after)) :
    after.entries = before.entries ∧ after.failedSearches = before.failedSearches ∧
      (code < 0 → ∃ allocation, os.malloc allocation = false) := by
  rcases growIfFull_cases grown with ⟨rfl, rfl⟩ | ⟨need, ensured⟩
  · simp
  · exact ensureDbCapacity_effect ensured

theorem nextPort_of_growIfFull {os : Os} {code : ℤ} {before after : State}
    (grown : growIfFull os before = some (code, after)) : after.nextPort = before.nextPort := by
  rcases growIfFull_cases grown with ⟨-, rfl⟩ | ⟨need, ensured⟩
  · rfl
  · exact nextPort_of_ensureDbCapacity ensured

theorem appendElement_effect {element : NodeinfoDatabaseElement} {before after : State}
    (appended : appendElement element before = some after) :
    after.entries = before.entries ++ [element] ∧
      after.failedSearches = before.failedSearches := by
  unfold appendElement at appended
  split at appended
  · contradiction
  · next block present =>
      split at appended
      · simp only [Option.some.injEq] at appended
        subst appended
        simp [State.entries, present]
      · contradiction

theorem appendElement_frame {element : NodeinfoDatabaseElement} {before after : State}
    (appended : appendElement element before = some after) :
    after.nextPort = before.nextPort ∧ after.gDbCapacity = before.gDbCapacity ∧
      after.allocations = before.allocations := by
  unfold appendElement at appended
  split at appended
  · contradiction
  · split at appended
    · simp only [Option.some.injEq] at appended
      subst appended
      exact ⟨rfl, rfl, rfl⟩
    · contradiction

theorem nextPort_removeObsolete (list : NodedataList Int32) (state : State) :
    (removeObsolete list state).nextPort = state.nextPort := by
  unfold removeObsolete
  cases state.gDb <;> rfl

theorem entries_removeObsolete (list : NodedataList Int32) (state : State) :
    (removeObsolete list state).entries =
      Foundation.removeWhere (isObsolete list) state.entries := by
  cases present : state.gDb with
  | none => simp [removeObsolete, State.entries, present, Foundation.removeWhere_eq_self]
  | some block => simp [removeObsolete, State.entries, present]

/-! ## The add loop -/

theorem existsInDb_eq_true {state : State} {networkId : Int32} {ipaddr : UInt32} :
    existsInDb state networkId ipaddr = true ↔
      ∃ element ∈ state.entries, element.networkId = networkId ∧ element.ipaddress = ipaddr := by
  simp [existsInDb]

theorem toInt_ofInt_port {port : ℤ} (lower : portBase ≤ port) (upper : port ≤ portLast) :
    (Int32.ofInt port).toInt = port := by
  unfold portBase at lower
  unfold portLast at upper
  exact toInt_ofInt_of_fitsInt ⟨by omega, by omega⟩

/-- What holds of an element at the moment the add loop appends it to `entries`. -/
structure Insertable (networkId : Int32) (node : Nodedata Int32)
    (entries : List NodeinfoDatabaseElement) (element : NodeinfoDatabaseElement) : Prop where
  networkId_eq : element.networkId = networkId
  ipaddress_eq : element.ipaddress = storedAddress node
  userid_eq : element.userid = node.userid
  cpuCoreNum_eq : element.cpuCoreNum = node.cpuCoreNum
  newKey : ∀ other ∈ entries, other.networkId = networkId → other.ipaddress ≠ element.ipaddress
  controlPort_unused : ∀ other ∈ entries, usesPort element.controlPortNum.toInt other = false
  messagePort_unused : ∀ other ∈ entries, usesPort element.messagePortNum.toInt other = false
  controlPort_mem : portBase ≤ element.controlPortNum.toInt ∧
    element.controlPortNum.toInt ≤ portLast
  messagePort_mem : portBase ≤ element.messagePortNum.toInt ∧
    element.messagePortNum.toInt ≤ portLast

inductive NodeEffect (os : Os) (networkId : Int32) (node : Nodedata Int32) (before : State) :
    Iteration → Prop
  | present (found : existsInDb before networkId (storedAddress node) = true) :
      NodeEffect os networkId node before (.next before)
  | noPort {after : State} (entries_eq : after.entries = before.entries)
      (failed : before.failedSearches < after.failedSearches) :
      NodeEffect os networkId node before (.next after)
  | noMemory {after : State} (entries_eq : after.entries = before.entries)
      (failedSearches_eq : after.failedSearches = before.failedSearches)
      (refused : ∃ allocation, os.malloc allocation = false) :
      NodeEffect os networkId node before (.leave after)
  | added {after : State} {element : NodeinfoDatabaseElement}
      (insertable : Insertable networkId node before.entries element)
      (entries_eq : after.entries = before.entries ++ [element])
      (failedSearches_eq : after.failedSearches = before.failedSearches) :
      NodeEffect os networkId node before (.next after)

theorem insertable_newElement {networkId : Int32} {node : Nodedata Int32} {state : State}
    {ctrlPort msgPort : ℤ}
    (absent : ¬existsInDb state networkId (storedAddress node) = true)
    (ctrlFree : isPortInDb state ctrlPort = false)
    (ctrlLower : portBase ≤ ctrlPort) (ctrlUpper : ctrlPort ≤ portLast)
    (msgFree : isPortInDb state msgPort = false)
    (msgLower : portBase ≤ msgPort) (msgUpper : msgPort ≤ portLast) :
    Insertable networkId node state.entries (newElement networkId node ctrlPort msgPort) := by
  have ctrl_eq := toInt_ofInt_port ctrlLower ctrlUpper
  have msg_eq := toInt_ofInt_port msgLower msgUpper
  refine
    { networkId_eq := rfl
      ipaddress_eq := rfl
      userid_eq := rfl
      cpuCoreNum_eq := rfl
      newKey := ?_
      controlPort_unused := ?_
      messagePort_unused := ?_
      controlPort_mem := ?_
      messagePort_mem := ?_ }
  · intro other other_mem sameNetwork sameAddress
    apply absent
    rw [existsInDb_eq_true]
    exact ⟨other, other_mem, sameNetwork, sameAddress⟩
  · simp only [newElement, ctrl_eq]
    exact isPortInDb_eq_false.mp ctrlFree
  · simp only [newElement, msg_eq]
    exact isPortInDb_eq_false.mp msgFree
  · simp only [newElement, ctrl_eq]
    exact ⟨ctrlLower, ctrlUpper⟩
  · simp only [newElement, msg_eq]
    exact ⟨msgLower, msgUpper⟩

/-- The two searches of an iteration, both of which found a port. -/
structure PortsFound (os : Os) (before : State) (ctrlPort msgPort : ℤ) (searched : State) :
    Prop where
  searches : ∃ middle, findNextFreePort os before = (ctrlPort, middle) ∧
    findNextFreePort os middle = (msgPort, searched)
  ctrl_nonneg : ¬ctrlPort < 0
  msg_nonneg : ¬msgPort < 0

/-- The ways through the body of the add loop. -/
inductive NodePath (os : Os) (networkId : Int32) (node : Nodedata Int32) (before : State) :
    Iteration → Prop
  | present (found : existsInDb before networkId (storedAddress node) = true) :
      NodePath os networkId node before (.next before)
  | noControlPort {port : ℤ} {searched : State}
      (absent : ¬existsInDb before networkId (storedAddress node) = true)
      (search : findNextFreePort os before = (port, searched)) (failed : port < 0) :
      NodePath os networkId node before (.next searched)
  | noMessagePort {ctrlPort msgPort : ℤ} {middle searched : State}
      (absent : ¬existsInDb before networkId (storedAddress node) = true)
      (ctrlSearch : findNextFreePort os before = (ctrlPort, middle))
      (ctrl_nonneg : ¬ctrlPort < 0)
      (msgSearch : findNextFreePort os middle = (msgPort, searched)) (failed : msgPort < 0) :
      NodePath os networkId node before (.next searched)
  | noMemory {ctrlPort msgPort code : ℤ} {searched after : State}
      (absent : ¬existsInDb before networkId (storedAddress node) = true)
      (ports : PortsFound os before ctrlPort msgPort searched)
      (grown : growIfFull os searched = some (code, after)) (refused : code < 0) :
      NodePath os networkId node before (.leave after)
  | added {ctrlPort msgPort code : ℤ} {searched grownState after : State}
      (absent : ¬existsInDb before networkId (storedAddress node) = true)
      (ports : PortsFound os before ctrlPort msgPort searched)
      (grown : growIfFull os searched = some (code, grownState)) (success : ¬code < 0)
      (appended : appendElement (newElement networkId node ctrlPort msgPort) grownState =
        some after) :
      NodePath os networkId node before (.next after)

theorem addNode_path {os : Os} {networkId : Int32} {node : Nodedata Int32} {before : State}
    {iteration : Iteration} (ran : addNode os networkId node before = some iteration) :
    NodePath os networkId node before iteration := by
  unfold addNode at ran
  split at ran
  · next found =>
      simp only [Option.some.injEq] at ran
      exact ran ▸ .present found
  · next absent =>
      split at ran
      next ctrlPort middle ctrlSearch =>
        split at ran
        · next failed =>
            simp only [Option.some.injEq] at ran
            exact ran ▸ .noControlPort absent ctrlSearch failed
        · next ctrl_nonneg =>
            split at ran
            next msgPort searched msgSearch =>
              split at ran
              · next failed =>
                  simp only [Option.some.injEq] at ran
                  exact ran ▸ .noMessagePort absent ctrlSearch ctrl_nonneg msgSearch failed
              · next msg_nonneg =>
                  have ports : PortsFound os before ctrlPort msgPort searched :=
                    ⟨⟨middle, ctrlSearch, msgSearch⟩, ctrl_nonneg, msg_nonneg⟩
                  split at ran
                  · contradiction
                  · next code grownState grown =>
                      split at ran
                      · next refused =>
                          simp only [Option.some.injEq] at ran
                          exact ran ▸ .noMemory absent ports grown refused
                      · next success =>
                          simp only [Option.map_eq_some_iff] at ran
                          rcases ran with ⟨after, appended, rfl⟩
                          exact .added absent ports grown success appended

/-- A search leaves the table and its capacity alone. -/
structure SearchFrame (before after : State) : Prop where
  gDb_eq : after.gDb = before.gDb
  capacity_eq : after.gDbCapacity = before.gDbCapacity

theorem SearchFrame.entries_eq {before after : State} (frame : SearchFrame before after) :
    after.entries = before.entries := by
  rw [State.entries, State.entries, frame.gDb_eq]

theorem SearchFrame.trans {before middle after : State} (first : SearchFrame before middle)
    (second : SearchFrame middle after) : SearchFrame before after where
  gDb_eq := second.gDb_eq.trans first.gDb_eq
  capacity_eq := second.capacity_eq.trans first.capacity_eq

/-- What the caller of a search learns from a port that is not negative. -/
structure PortFound (before : State) (port : ℤ) (after : State) : Prop where
  unused : isPortInDb before port = false
  lower : portBase ≤ port
  upper : port ≤ portLast
  failedSearches_eq : after.failedSearches = before.failedSearches

/-- A search changes the cursor and the two counters of searches only. -/
theorem findNextFreePort_update {os : Os} {before after : State} {port : ℤ}
    (search : findNextFreePort os before = (port, after)) :
    ∃ nextPort probes failedSearches, after =
      { before with
        nextPort := nextPort
        probes := probes
        failedSearches := failedSearches } := by
  rcases findNextFreePort_cases os before with ⟨found, probes, found_eq, -⟩ | ⟨probes, failed_eq⟩
  · rw [found_eq] at search
    rcases search with ⟨rfl, rfl⟩
    exact ⟨_, _, _, rfl⟩
  · rw [failed_eq] at search
    rcases search with ⟨rfl, rfl⟩
    exact ⟨_, _, _, rfl⟩

theorem findNextFreePort_frame {os : Os} {before after : State} {port : ℤ}
    (search : findNextFreePort os before = (port, after)) : SearchFrame before after := by
  rcases findNextFreePort_update search with ⟨nextPort, probes, failedSearches, rfl⟩
  exact ⟨rfl, rfl⟩

theorem allocations_of_findNextFreePort {os : Os} {before after : State} {port : ℤ}
    (search : findNextFreePort os before = (port, after)) :
    after.allocations = before.allocations := by
  rcases findNextFreePort_update search with ⟨nextPort, probes, failedSearches, rfl⟩
  rfl

theorem findNextFreePort_found {os : Os} {before after : State} {port : ℤ}
    (search : findNextFreePort os before = (port, after)) (nonneg : ¬port < 0) :
    PortFound before port after := by
  rcases findNextFreePort_cases os before with
    ⟨found, probes, found_eq, unused, lower, upper⟩ | ⟨probes, failed_eq⟩
  · rw [found_eq] at search
    rcases search with ⟨rfl, rfl⟩
    exact ⟨unused, lower, upper, rfl⟩
  · rw [failed_eq, Prod.mk.injEq] at search
    omega

theorem findNextFreePort_failed {os : Os} {before after : State} {port : ℤ}
    (search : findNextFreePort os before = (port, after)) (negative : port < 0) :
    after.failedSearches = before.failedSearches + 1 := by
  rcases findNextFreePort_cases os before with
    ⟨found, probes, found_eq, -, lower, -⟩ | ⟨probes, failed_eq⟩
  · rw [found_eq, Prod.mk.injEq] at search
    unfold portBase at lower
    omega
  · rw [failed_eq] at search
    rcases search with ⟨rfl, rfl⟩
    rfl

theorem PortsFound.frame {os : Os} {before searched : State} {ctrlPort msgPort : ℤ}
    (ports : PortsFound os before ctrlPort msgPort searched) : SearchFrame before searched := by
  rcases ports.searches with ⟨middle, ctrlSearch, msgSearch⟩
  exact (findNextFreePort_frame ctrlSearch).trans (findNextFreePort_frame msgSearch)

theorem PortsFound.allocations_eq {os : Os} {before searched : State} {ctrlPort msgPort : ℤ}
    (ports : PortsFound os before ctrlPort msgPort searched) :
    searched.allocations = before.allocations := by
  rcases ports.searches with ⟨middle, ctrlSearch, msgSearch⟩
  exact (allocations_of_findNextFreePort msgSearch).trans
    (allocations_of_findNextFreePort ctrlSearch)

theorem PortsFound.failedSearches_eq {os : Os} {before searched : State} {ctrlPort msgPort : ℤ}
    (ports : PortsFound os before ctrlPort msgPort searched) :
    searched.failedSearches = before.failedSearches := by
  rcases ports.searches with ⟨middle, ctrlSearch, msgSearch⟩
  exact (findNextFreePort_found msgSearch ports.msg_nonneg).failedSearches_eq.trans
    (findNextFreePort_found ctrlSearch ports.ctrl_nonneg).failedSearches_eq

theorem PortsFound.insertable {os : Os} {before searched : State} {ctrlPort msgPort : ℤ}
    {networkId : Int32} {node : Nodedata Int32}
    (ports : PortsFound os before ctrlPort msgPort searched)
    (absent : ¬existsInDb before networkId (storedAddress node) = true) :
    Insertable networkId node before.entries (newElement networkId node ctrlPort msgPort) := by
  rcases ports.searches with ⟨middle, ctrlSearch, msgSearch⟩
  have ctrl := findNextFreePort_found ctrlSearch ports.ctrl_nonneg
  have msg := findNextFreePort_found msgSearch ports.msg_nonneg
  have msgFree : isPortInDb before msgPort = false := by
    rw [← msg.unused, isPortInDb, isPortInDb, (findNextFreePort_frame ctrlSearch).entries_eq]
  exact insertable_newElement absent ctrl.unused ctrl.lower ctrl.upper msgFree msg.lower msg.upper

theorem addNode_effect {os : Os} {networkId : Int32} {node : Nodedata Int32} {before : State}
    {iteration : Iteration} (ran : addNode os networkId node before = some iteration) :
    NodeEffect os networkId node before iteration := by
  cases addNode_path ran with
  | present found => exact .present found
  | noControlPort _ search failed =>
      refine .noPort (findNextFreePort_frame search).entries_eq ?_
      rw [findNextFreePort_failed search failed]
      exact Nat.lt_succ_self _
  | noMessagePort _ ctrlSearch ctrl_nonneg msgSearch failed =>
      have frame := (findNextFreePort_frame ctrlSearch).trans (findNextFreePort_frame msgSearch)
      refine .noPort frame.entries_eq ?_
      rw [findNextFreePort_failed msgSearch failed,
        (findNextFreePort_found ctrlSearch ctrl_nonneg).failedSearches_eq]
      exact Nat.lt_succ_self _
  | noMemory _ ports grown refused =>
      rcases growIfFull_effect grown with ⟨entries_eq, failed_eq, refusal⟩
      exact .noMemory (entries_eq.trans ports.frame.entries_eq)
        (failed_eq.trans ports.failedSearches_eq) (refusal refused)
  | added absent ports grown _ appended =>
      rcases growIfFull_effect grown with ⟨entries_eq, failed_eq, -⟩
      rcases appendElement_effect appended with ⟨appended_eq, searches_eq⟩
      refine .added (ports.insertable absent) ?_
        (searches_eq.trans (failed_eq.trans ports.failedSearches_eq))
      rw [appended_eq, entries_eq, ports.frame.entries_eq]

/-- The state that an iteration of the add loop ends in. -/
def Iteration.final : Iteration → State
  | .next state => state
  | .leave state => state

theorem addNode_ne_leave {os : Os} {networkId : Int32} {node : Nodedata Int32}
    {before after : State} (granted : ∀ allocation, os.malloc allocation = true) :
    addNode os networkId node before ≠ some (.leave after) := by
  intro iterated
  cases addNode_effect iterated with
  | noMemory _ _ refused =>
      rcases refused with ⟨allocation, refused⟩
      simp [granted allocation] at refused

/-- The loop goes on behind its first node, or is left there. -/
theorem addNodes_cons_cases {os : Os} {networkId : Int32} {node : Nodedata Int32}
    {nodes : List (Nodedata Int32)} {before after : State}
    (ran : addNodes os networkId (node :: nodes) before = some after) :
    (∃ middle, addNode os networkId node before = some (.next middle) ∧
      addNodes os networkId nodes middle = some after) ∨
      addNode os networkId node before = some (.leave after) := by
  rw [addNodes] at ran
  split at ran
  · contradiction
  · next middle iterated => exact Or.inl ⟨middle, iterated, ran⟩
  · next final iterated =>
      obtain rfl := Option.some.inj ran
      exact Or.inr iterated

/-- Induction over the add loop: what every iteration keeps holds of the state it leaves. -/
theorem addNodes_invariant {invariant : State → Prop} {os : Os} {networkId : Int32}
    {nodes : List (Nodedata Int32)}
    (kept : ∀ node ∈ nodes, ∀ start iteration, addNode os networkId node start = some iteration →
      invariant start → invariant iteration.final)
    {before after : State} (ran : addNodes os networkId nodes before = some after)
    (holds : invariant before) : invariant after := by
  induction nodes generalizing before with
  | nil => exact Option.some.inj ran ▸ holds
  | cons node nodes ih =>
      have kept_rest := fun other other_mem => kept other (List.mem_cons_of_mem node other_mem)
      have kept_here := kept node List.mem_cons_self before
      rcases addNodes_cons_cases ran with ⟨middle, iterated, rest⟩ | iterated
      · exact ih kept_rest rest (kept_here _ iterated holds)
      · exact kept_here _ iterated holds

/-- A property kept by every insertion of the loop holds of the entries it leaves. -/
theorem addNodes_preserves {property : List NodeinfoDatabaseElement → Prop} {os : Os}
    {networkId : Int32} {nodes : List (Nodedata Int32)}
    (insert : ∀ node ∈ nodes, ∀ entries element, Insertable networkId node entries element →
      property entries → property (entries ++ [element]))
    {before after : State} (ran : addNodes os networkId nodes before = some after)
    (holds : property before.entries) : property after.entries := by
  have kept : ∀ node ∈ nodes, ∀ start iteration,
      addNode os networkId node start = some iteration →
      property start.entries → property iteration.final.entries := by
    intro node node_mem start iteration iterated start_holds
    cases addNode_effect iterated with
    | present => exact start_holds
    | noPort entries_eq _ => exact entries_eq ▸ start_holds
    | noMemory entries_eq _ _ => exact entries_eq ▸ start_holds
    | added insertable entries_eq _ =>
        exact entries_eq ▸ insert node node_mem _ _ insertable start_holds
  exact addNodes_invariant kept ran holds

theorem addNodes_failedSearches_le {os : Os} {networkId : Int32}
    {nodes : List (Nodedata Int32)} {before after : State}
    (ran : addNodes os networkId nodes before = some after) :
    before.failedSearches ≤ after.failedSearches := by
  have kept : ∀ node ∈ nodes, ∀ start iteration,
      addNode os networkId node start = some iteration →
      before.failedSearches ≤ start.failedSearches →
      before.failedSearches ≤ iteration.final.failedSearches := by
    intro node _ start iteration iterated reached
    cases addNode_effect iterated with
    | present => exact reached
    | noPort _ failed => exact Nat.le_trans reached (Nat.le_of_lt failed)
    | noMemory _ failedSearches_eq _ => exact failedSearches_eq ▸ reached
    | added _ _ failedSearches_eq => exact failedSearches_eq ▸ reached
  exact addNodes_invariant kept ran (Nat.le_refl _)

/-! ## A whole update -/

/-- `need_capacity`. -/
def needCapacity (list : NodedataList Int32) (before : State) : ℤ :=
  (removeObsolete list before).entries.length + list.currentSize.toInt

/-- The capacity that an update asks `ensure_db_capacity` for. -/
def askedCapacity (list : NodedataList Int32) (before : State) : ℤ :=
  if needCapacity list before < 16 then 16 else needCapacity list before

/-- An update enters its add loop in the state `ready`. -/
def StartsLoop (os : Os) (list : NodedataList Int32) (before ready : State) : Prop :=
  ∃ needCapacity code,
    checkedInt ((removeObsolete list before).entries.length + list.currentSize.toInt) =
      some needCapacity ∧
    ensureDbCapacity os (if needCapacity < 16 then 16 else needCapacity)
      (removeObsolete list before) = some (code, ready) ∧ ¬code < 0

/-- The ways through an update: the result it returns and the state it leaves. -/
inductive UpdatePath (os : Os) (list : NodedataList Int32) (before : State) :
    Option NodeinfoDatabase → State → Prop
  | noCapacity {needed code : ℤ} {after : State}
      (ensured : ensureDbCapacity os needed (removeObsolete list before) = some (code, after))
      (refused : code < 0) (noLoop : ∀ ready, ¬StartsLoop os list before ready) :
      UpdatePath os list before none after
  | noSnapshot {ready final : State} (starts : StartsLoop os list before ready)
      (added : addNodes os list.networkId list.entries ready = some final)
      (refused : os.malloc final.allocations = false) :
      UpdatePath os list before none { final with allocations := final.allocations + 1 }
  | snapshot {ready final : State} {block : Block} (starts : StartsLoop os list before ready)
      (added : addNodes os list.networkId list.entries ready = some final)
      (present : final.gDb = some block) :
      UpdatePath os list before (some block.snapshot)
        { final with allocations := final.allocations + 1 }

theorem updateNodeinfoDatabase_path {os : Os} {list : NodedataList Int32} {before after : State}
    {result : Option NodeinfoDatabase}
    (ran : updateNodeinfoDatabase os list before = some (result, after)) :
    UpdatePath os list before result after := by
  simp only [updateNodeinfoDatabase] at ran
  split at ran
  · contradiction
  · next needCapacity needed =>
      split at ran
      · contradiction
      · next code ready ensured =>
          split at ran
          · next refused =>
              simp only [Option.some.injEq, Prod.mk.injEq] at ran
              rcases ran with ⟨rfl, rfl⟩
              refine .noCapacity ensured refused ?_
              rintro other ⟨need, otherCode, needed', ensured', success⟩
              rw [needed, Option.some.injEq] at needed'
              subst need
              rw [ensured, Option.some.injEq, Prod.mk.injEq] at ensured'
              exact success (ensured'.1 ▸ refused)
          · next success =>
              have starts : StartsLoop os list before ready :=
                ⟨needCapacity, code, needed, ensured, success⟩
              split at ran
              · contradiction
              · next final added =>
                  simp only [allocate] at ran
                  split at ran
                  · contradiction
                  · next refused =>
                      simp only [Prod.mk.injEq] at refused
                      simp only [Option.some.injEq, Prod.mk.injEq] at ran
                      rcases refused with ⟨refused, rfl⟩
                      rcases ran with ⟨rfl, rfl⟩
                      exact .noSnapshot starts added refused
                  · next block _ present granted =>
                      simp only [Prod.mk.injEq] at granted
                      simp only [Option.some.injEq, Prod.mk.injEq] at ran
                      rcases granted with ⟨-, rfl⟩
                      rcases ran with ⟨rfl, rfl⟩
                      exact .snapshot starts added present

theorem startsLoop_iff {os : Os} {list : NodedataList Int32} {before ready : State} :
    StartsLoop os list before ready ↔ FitsInt (needCapacity list before) ∧
      ∃ code, ensureDbCapacity os (askedCapacity list before) (removeObsolete list before) =
        some (code, ready) ∧ ¬code < 0 := by
  constructor
  · rintro ⟨need, code, needed, ensured, success⟩
    have need_eq := eq_of_checkedInt needed
    refine ⟨fitsInt_of_checkedInt needed, code, ?_, success⟩
    rw [askedCapacity, needCapacity, ← need_eq]
    exact ensured
  · rintro ⟨fits, code, ensured, success⟩
    exact ⟨_, code, checkedInt_of_fitsInt fits, ensured, success⟩

/-- An update that has a result made its computations and asked for the capacity. -/
theorem exists_ensured_of_update {os : Os} {list : NodedataList Int32} {before after : State}
    {result : Option NodeinfoDatabase}
    (ran : updateNodeinfoDatabase os list before = some (result, after)) :
    FitsInt (needCapacity list before) ∧ ∃ code ready,
      ensureDbCapacity os (askedCapacity list before) (removeObsolete list before) =
        some (code, ready) := by
  simp only [updateNodeinfoDatabase] at ran
  split at ran
  · contradiction
  · next need needed =>
      split at ran
      · contradiction
      · next code ready ensured =>
          refine ⟨fitsInt_of_checkedInt needed, code, ready, ?_⟩
          rw [askedCapacity, needCapacity, ← eq_of_checkedInt needed]
          exact ensured

theorem update_of_refused {os : Os} {list : NodedataList Int32} {before ready : State} {code : ℤ}
    (fits : FitsInt (needCapacity list before))
    (ensured : ensureDbCapacity os (askedCapacity list before) (removeObsolete list before) =
      some (code, ready)) (refused : code < 0) :
    updateNodeinfoDatabase os list before = some (none, ready) := by
  unfold askedCapacity needCapacity at ensured
  unfold needCapacity at fits
  simp only [updateNodeinfoDatabase, checkedInt_of_fitsInt fits, ensured, if_pos refused]

theorem StartsLoop.update_eq {os : Os} {list : NodedataList Int32} {before ready final : State}
    {block : Block} (starts : StartsLoop os list before ready)
    (added : addNodes os list.networkId list.entries ready = some final)
    (present : final.gDb = some block) :
    updateNodeinfoDatabase os list before =
      some (if os.malloc final.allocations then some block.snapshot else none,
        { final with allocations := final.allocations + 1 }) := by
  rcases starts with ⟨needCapacity, code, needed, ensured, success⟩
  simp only [updateNodeinfoDatabase, needed, ensured, if_neg success, added, present, allocate]
  cases os.malloc final.allocations <;> rfl

theorem failedSearches_removeObsolete (list : NodedataList Int32) (state : State) :
    (removeObsolete list state).failedSearches = state.failedSearches := by
  unfold removeObsolete
  cases state.gDb <;> rfl

theorem StartsLoop.entries_eq {os : Os} {list : NodedataList Int32} {before ready : State}
    (starts : StartsLoop os list before ready) :
    ready.entries = Foundation.removeWhere (isObsolete list) before.entries := by
  rcases starts with ⟨needCapacity, code, -, ensured, -⟩
  exact (ensureDbCapacity_effect ensured).1.trans (entries_removeObsolete list before)

theorem StartsLoop.failedSearches_eq {os : Os} {list : NodedataList Int32} {before ready : State}
    (starts : StartsLoop os list before ready) : ready.failedSearches = before.failedSearches := by
  rcases starts with ⟨needCapacity, code, -, ensured, -⟩
  exact (ensureDbCapacity_effect ensured).2.1.trans (failedSearches_removeObsolete list before)

theorem StartsLoop.nextPort_eq {os : Os} {list : NodedataList Int32} {before ready : State}
    (starts : StartsLoop os list before ready) : ready.nextPort = before.nextPort := by
  rcases starts with ⟨needCapacity, code, -, ensured, -⟩
  exact (nextPort_of_ensureDbCapacity ensured).trans (nextPort_removeObsolete list before)

/--
An update removes the obsolete entries and then, unless an allocation failed
before it, runs the add loop over the list.
-/
theorem updateNodeinfoDatabase_cases {os : Os} {list : NodedataList Int32} {before after : State}
    {result : Option NodeinfoDatabase}
    (ran : updateNodeinfoDatabase os list before = some (result, after)) :
    (after.entries = Foundation.removeWhere (isObsolete list) before.entries ∧
        ∃ allocation, os.malloc allocation = false) ∨
      ∃ start final, start.entries = Foundation.removeWhere (isObsolete list) before.entries ∧
        start.failedSearches = before.failedSearches ∧
        addNodes os list.networkId list.entries start = some final ∧
        after.entries = final.entries ∧ after.failedSearches = final.failedSearches := by
  cases updateNodeinfoDatabase_path ran with
  | noCapacity ensured refused _ =>
      rcases ensureDbCapacity_effect ensured with ⟨entries_eq, -, refusal⟩
      exact Or.inl ⟨entries_eq.trans (entries_removeObsolete list before), refusal refused⟩
  | @noSnapshot ready final starts added _ =>
      exact Or.inr ⟨ready, final, starts.entries_eq, starts.failedSearches_eq, added, rfl, rfl⟩
  | @snapshot ready final _ starts added _ =>
      exact Or.inr ⟨ready, final, starts.entries_eq, starts.failedSearches_eq, added, rfl, rfl⟩

theorem updateNodeinfoDatabase_result {os : Os} {list : NodedataList Int32} {before after : State}
    {result : Option NodeinfoDatabase}
    (ran : updateNodeinfoDatabase os list before = some (result, after)) :
    (result = none ∧ ∃ allocation, os.malloc allocation = false) ∨
      ∃ block, after.gDb = some block ∧ result = some block.snapshot := by
  cases updateNodeinfoDatabase_path ran with
  | noCapacity ensured refused _ =>
      exact Or.inl ⟨rfl, (ensureDbCapacity_effect ensured).2.2 refused⟩
  | noSnapshot _ _ refused => exact Or.inl ⟨rfl, _, refused⟩
  | snapshot _ _ present => exact Or.inr ⟨_, present, rfl⟩

theorem manager_step_eq_some {call : Call} {before after : State} :
    manager.step before call = some after ↔
      ∃ result, updateNodeinfoDatabase call.os call.list before = some (result, after) := by
  simp [manager]

/-- The effect of one update on a property of the entries. -/
theorem step_preserves (property : List NodeinfoDatabaseElement → Prop) {call : Call}
    {before after : State}
    (insert : ∀ node ∈ call.list.entries, ∀ entries element,
      Insertable call.list.networkId node entries element →
      property entries → property (entries ++ [element]))
    (stepped : manager.step before call = some after)
    (holds : property (Foundation.removeWhere (isObsolete call.list) before.entries)) :
    property after.entries := by
  rcases manager_step_eq_some.mp stepped with ⟨result, ran⟩
  rcases updateNodeinfoDatabase_cases ran with
    ⟨entries_eq, -⟩ | ⟨start, final, start_eq, -, added, after_eq, -⟩
  · rwa [entries_eq]
  · rw [after_eq]
    exact addNodes_preserves insert added (start_eq ▸ holds)

/--
Induction over a history: a property of the entries that survives dropping and
reordering them, and survives one insertable element, holds after every sequence
of updates.
-/
theorem entries_invariant (property : List NodeinfoDatabaseElement → Prop)
    (empty : property [])
    (shrink : ∀ {entries fewer}, fewer.Subperm entries → property entries → property fewer)
    (insert : ∀ {networkId node entries element}, Insertable networkId node entries element →
      property entries → property (entries ++ [element]))
    {calls : List Call} {state : State} (ran : manager.run calls = some state) :
    property state.entries := by
  have kept : ∀ {before : State} {call : Call} {after : State},
      manager.step before call = some after → property before.entries →
        property after.entries := by
    intro before call after stepped holds
    exact step_preserves property (fun _ _ _ _ => insert) stepped
      (shrink (Foundation.removeWhere_subperm _ _) holds)
  exact manager.runFrom_preserves kept ran empty

end NodeinfoSystem.Database
