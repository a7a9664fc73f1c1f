import NodeinfoSystem.Database.TwoPorts

/-!
# The port search is a cyclic first fit

While the answers of the operating system do not change, a search returns the
first port behind the cursor that is neither in an entry nor taken by another
program, and goes round the range once before it gives up. This needs the cursor
to be a port of the range or the number just behind it, which it is at every
point of a history where a search is made.
-/

namespace NodeinfoSystem.Database

open Foundation

/-! ## The cursor -/

/-- A search starts at a port of the range, or behind the last one. -/
def CursorInRange (state : State) : Prop :=
  portBase ≤ state.nextPort ∧ state.nextPort ≤ portLast + 1

section Cursor

variable {os : Os} {before after state : State}

theorem CursorInRange.initial : CursorInRange State.initial :=
  ⟨Int.le_refl 10000, by decide⟩

theorem CursorInRange.searchStart_eq (inRange : CursorInRange state) :
    searchStart state = state.nextPort :=
  if_neg (Int.not_lt.mpr inRange.1)

theorem CursorInRange.of_eq (inRange : CursorInRange before)
    (nextPort_eq : after.nextPort = before.nextPort) : CursorInRange after := by
  rw [CursorInRange, nextPort_eq]
  exact inRange

theorem CursorInRange.search {port : ℤ} (inRange : CursorInRange before)
    (search : findNextFreePort os before = (port, after)) : CursorInRange after := by
  rcases findNextFreePort_cases os before with
    ⟨found, probes, found_eq, -, lower, upper⟩ | ⟨probes, failed_eq⟩
  · rw [found_eq] at search
    rcases search with ⟨rfl, rfl⟩
    refine ⟨?_, ?_⟩
    · change portBase ≤ port + 1
      omega
    · exact Int.add_le_add_right upper 1
  · rw [failed_eq] at search
    rcases search with ⟨rfl, rfl⟩
    exact inRange.of_eq inRange.searchStart_eq

theorem CursorInRange.portsFound {ctrlPort msgPort : ℤ} {searched : State}
    (inRange : CursorInRange before) (ports : PortsFound os before ctrlPort msgPort searched) :
    CursorInRange searched := by
  rcases ports.searches with ⟨middle, ctrlSearch, msgSearch⟩
  exact (inRange.search ctrlSearch).search msgSearch

theorem CursorInRange.addNode {networkId : Int32} {node : Nodedata Int32} {iteration : Iteration}
    (inRange : CursorInRange before)
    (ran : Database.addNode os networkId node before = some iteration) :
    CursorInRange iteration.final := by
  cases addNode_path ran with
  | present => exact inRange
  | noControlPort _ search _ => exact inRange.search search
  | noMessagePort _ ctrlSearch _ msgSearch _ => exact (inRange.search ctrlSearch).search msgSearch
  | noMemory _ ports grown _ =>
      exact (inRange.portsFound ports).of_eq (nextPort_of_growIfFull grown)
  | added _ ports grown _ appended =>
      have grown_inRange := (inRange.portsFound ports).of_eq (nextPort_of_growIfFull grown)
      exact grown_inRange.of_eq (appendElement_frame appended).1

theorem CursorInRange.addNodes {networkId : Int32} {nodes : List (Nodedata Int32)}
    (inRange : CursorInRange before)
    (ran : Database.addNodes os networkId nodes before = some after) : CursorInRange after :=
  addNodes_invariant (fun _ _ _ _ iterated start => start.addNode iterated) ran inRange

theorem CursorInRange.step {call : Call} (inRange : CursorInRange before)
    (stepped : manager.step before call = some after) : CursorInRange after := by
  rcases manager_step_eq_some.mp stepped with ⟨result, ran⟩
  cases updateNodeinfoDatabase_path ran with
  | noCapacity ensured _ _ =>
      apply inRange.of_eq
      rw [nextPort_of_ensureDbCapacity ensured, nextPort_removeObsolete]
  | noSnapshot starts added _ =>
      exact ((inRange.of_eq starts.nextPort_eq).addNodes added).of_eq rfl
  | snapshot starts added _ =>
      exact ((inRange.of_eq starts.nextPort_eq).addNodes added).of_eq rfl

theorem CursorInRange.of_run {calls : List Call} (ran : manager.run calls = some state) :
    CursorInRange state :=
  manager.runFrom_preserves (fun stepped inRange => inRange.step stepped) ran .initial

end Cursor

/-- The states that the static variables go through where a port can be searched. -/
inductive Occurs : State → Prop
  /-- Between two updates. -/
  | between {calls : List Call} {state : State} (ran : manager.run calls = some state) :
      Occurs state
  /-- At the start of an iteration of the add loop. -/
  | iteration {calls : List Call} {call : Call} {before ready state : State}
      {earlier later : List (Nodedata Int32)} (ran : manager.run calls = some before)
      (starts : StartsLoop call.os call.list before ready)
      (nodes_eq : call.list.entries = earlier ++ later)
      (added : addNodes call.os call.list.networkId earlier ready = some state) : Occurs state
  /-- After another search. -/
  | searched {os : Os} {before after : State} {port : ℤ} (occurs : Occurs before)
      (search : findNextFreePort os before = (port, after)) : Occurs after

theorem Occurs.inRange {state : State} (occurs : Occurs state) : CursorInRange state := by
  induction occurs with
  | between ran => exact .of_run ran
  | iteration ran starts _ added =>
      exact ((CursorInRange.of_run ran).of_eq starts.nextPort_eq).addNodes added
  | searched _ search ih => exact ih.search search

/-! ## First fit -/

/-- The answers of the operating system for the ports do not change. -/
def Os.Fixed (os : Os) (available : ℤ → Bool) : Prop :=
  ∀ probe port, os.isPortAvailable probe port = available port

/-- A port of the range that no entry uses and that can be bound. -/
structure IsFree (available : ℤ → Bool) (state : State) (port : ℤ) : Prop where
  lower : portBase ≤ port
  upper : port ≤ portLast
  unused : isPortInDb state port = false
  available : available port = true

/-- The first free port in cyclic order from the cursor. -/
def FirstFit (available : ℤ → Bool) (state : State) (port : ℤ) : Prop :=
  ∃ skipped rest, cyclicPorts state.nextPort = skipped ++ port :: rest ∧
    (∀ other ∈ skipped, ¬IsFree available state other) ∧ IsFree available state port

/-- What a search returns, and where it leaves the cursor. -/
structure SearchSpec (available : ℤ → Bool) (before : State) (port : ℤ) (after : State) :
    Prop where
  fails_iff : port = -1 ↔ ∀ candidate, ¬IsFree available before candidate
  kept : port = -1 → after.nextPort = before.nextPort
  first : port ≠ -1 → FirstFit available before port ∧ after.nextPort = port + 1

section Search

variable {os : Os} {available : ℤ → Bool} {before after state : State} {port : ℤ}

theorem isFree_iff_mem_freePorts :
    IsFree available state port ↔ port ∈ freePorts state ∧ available port = true := by
  rw [mem_freePorts]
  constructor
  · rintro ⟨lower, upper, unused, granted⟩
    exact ⟨⟨⟨lower, upper⟩, unused⟩, granted⟩
  · rintro ⟨⟨⟨lower, upper⟩, unused⟩, granted⟩
    exact ⟨lower, upper, unused, granted⟩

theorem IsFree.ne_failure (free : IsFree available state port) : port ≠ -1 := by
  have lower := free.lower
  simp only [portBase] at lower
  omega

/-- The walk along the unused ports stops at the first one that is available. -/
theorem probePorts_of_fixed (fixed : os.Fixed available) (ports : List ℤ) (probes : ℕ) :
    (probePorts os ports probes).1 = ports.find? available := by
  induction ports generalizing probes with
  | nil => rfl
  | cons port ports ih =>
      rw [probePorts, List.find?_cons, fixed]
      cases available port with
      | true => rfl
      | false => exact ih (probes + 1)

theorem firstFit_of_find? (inRange : CursorInRange state)
    (found : (freePorts state).find? available = some port) : FirstFit available state port := by
  have granted := List.find?_some found
  have free := isFree_iff_mem_freePorts.mpr ⟨List.mem_of_find?_eq_some found, granted⟩
  rw [freePorts, inRange.searchStart_eq, List.find?_filter,
    List.find?_eq_some_iff_append] at found
  rcases found with ⟨-, skipped, rest, whole, notFree⟩
  refine ⟨skipped, rest, whole, ?_, free⟩
  intro other other_mem otherFree
  have passed := notFree other other_mem
  simp [otherFree.unused, otherFree.available] at passed

theorem findNextFreePort_spec (fixed : os.Fixed available) (inRange : CursorInRange before)
    (search : findNextFreePort os before = (port, after)) :
    SearchSpec available before port after := by
  rcases probed : probePorts os (freePorts before) before.probes with ⟨result, asked⟩
  have found := probePorts_of_fixed fixed (freePorts before) before.probes
  rw [probed] at found
  cases result with
  | none =>
      have noneFree (candidate : ℤ) : ¬IsFree available before candidate := by
        rw [isFree_iff_mem_freePorts, not_and]
        exact List.find?_eq_none.mp found.symm candidate
      rw [findNextFreePort_of_none probed, Prod.mk.injEq] at search
      rcases search with ⟨rfl, rfl⟩
      exact ⟨⟨fun _ => noneFree, fun _ => rfl⟩, fun _ => inRange.searchStart_eq,
        fun success => absurd rfl success⟩
  | some result =>
      have first := firstFit_of_find? inRange found.symm
      rcases first with ⟨skipped, rest, whole, passed, free⟩
      rw [findNextFreePort_of_some probed, Prod.mk.injEq] at search
      rcases search with ⟨rfl, rfl⟩
      refine ⟨⟨fun failure => absurd failure free.ne_failure, fun noneFree => ?_⟩, ?_, ?_⟩
      · exact absurd free (noneFree result)
      · intro failure
        exact absurd failure free.ne_failure
      · intro _
        exact ⟨⟨skipped, rest, whole, passed, free⟩, rfl⟩

theorem Refuses.unavailable (fixed : os.Fixed available) {ports : List ℤ} {probe : ℕ}
    (refuses : Refuses os ports probe) : ∀ port ∈ ports, available port = false := by
  induction ports generalizing probe with
  | nil => simp
  | cons first ports ih =>
      rw [List.forall_mem_cons]
      exact ⟨(fixed probe first).symm.trans refuses.1, ih refuses.2⟩

theorem OnlyPortLeft.eq_of_isFree (fixed : os.Fixed available) (only : OnlyPortLeft os state)
    {first second : ℤ} (firstFree : IsFree available state first)
    (secondFree : IsFree available state second) : first = second := by
  rcases only with ⟨refused, left, rest, free_eq, -, -, refusesOthers, -⟩
  have others := refusesOthers.unavailable fixed
  have isLeft (candidate : ℤ) (free : IsFree available state candidate) : candidate = left := by
    have candidate_mem := (isFree_iff_mem_freePorts.mp free).1
    rw [free_eq, List.mem_append, List.mem_cons] at candidate_mem
    rcases candidate_mem with inRefused | isIt | inRest
    · have unavailable := others candidate (List.mem_append_right _ inRefused)
      rw [free.available] at unavailable
      contradiction
    · exact isIt
    · have unavailable := others candidate (List.mem_append_left _ inRest)
      rw [free.available] at unavailable
      contradiction
  rw [isLeft first firstFree, isLeft second secondFree]

end Search

/--
With answers that do not change, a search is a cyclic first fit from the cursor, which
is in the range wherever a search is made. Two searches in a row find two different
ports if there are two.
-/
theorem findNextFreePort_firstFit (os : Os) (available : ℤ → Bool) (state : State)
    (fixed : os.Fixed available) (occurs : Occurs state) :
    (10000 ≤ state.nextPort ∧ state.nextPort ≤ 65536) ∧
      (∀ port after, findNextFreePort os state = (port, after) →
        SearchSpec available state port after) ∧
      ∀ one other, one ≠ other → IsFree available state one → IsFree available state other →
        ∃ first middle second after, findNextFreePort os state = (first, middle) ∧
          findNextFreePort os middle = (second, after) ∧
          first ≠ -1 ∧ second ≠ -1 ∧ first ≠ second := by
  have inRange := occurs.inRange
  refine ⟨inRange, fun port after => findNextFreePort_spec fixed inRange, ?_⟩
  intro one other different oneFree otherFree
  rcases firstSearch : findNextFreePort os state with ⟨first, middle⟩
  rcases secondSearch : findNextFreePort os middle with ⟨second, after⟩
  have firstSpec := findNextFreePort_spec fixed inRange firstSearch
  have secondSpec := findNextFreePort_spec fixed (inRange.search firstSearch) secondSearch
  have found : first ≠ -1 := fun failure => firstSpec.fails_iff.mp failure one oneFree
  have stillFree : IsFree available middle one := by
    refine ⟨oneFree.lower, oneFree.upper, ?_, oneFree.available⟩
    rw [isPortInDb, (findNextFreePort_frame firstSearch).entries_eq]
    exact oneFree.unused
  have foundAgain : second ≠ -1 := fun failure => secondSpec.fails_iff.mp failure one stillFree
  refine ⟨first, middle, second, after, rfl, secondSearch, found, foundAgain, ?_⟩
  rintro rfl
  rcases (firstSpec.first found).1 with ⟨-, -, -, -, free⟩
  have lower := free.lower
  simp only [portBase] at lower
  have only := onlyPortLeft_of_same firstSearch (by omega) secondSearch
  exact different (only.eq_of_isFree fixed oneFree otherFree)

/-! ## A search that begins behind the last port -/

/-- After a search that found the last port, with two nodes in the database. -/
theorem exists_wrapped : ∃ state, Occurs state ∧ state.nextPort = 65536 ∧
    state.entries.length = 2 ∧ isPortInDb state 10001 = false ∧ isPortInDb state 10006 = false := by
  have traced : (manager.run sampleCalls).map (fun state => (state.entries.length,
      isPortInDb state portLast, isPortInDb state 10001, isPortInDb state 10006)) =
        some (2, false, false, false) := by decide
  rcases Option.map_eq_some_iff.mp traced with ⟨before, ran, facts⟩
  simp only [Prod.mk.injEq] at facts
  rcases facts with ⟨length_eq, lastUnused, unused, otherUnused⟩
  rcases search : findNextFreePort lastPortOs before with ⟨port, after⟩
  have spec := @findNextFreePort_spec lastPortOs (· == portLast) before after port
    (fun _ _ => rfl) (.of_run ran) search
  have lastFree : IsFree (· == portLast) before portLast :=
    ⟨by decide, Int.le_refl _, lastUnused, by decide⟩
  have found : port ≠ -1 := fun failure => spec.fails_iff.mp failure portLast lastFree
  rcases spec.first found with ⟨⟨-, -, -, -, free⟩, nextPort_eq⟩
  have isLast : port = 65535 := by simpa [portLast] using free.available
  have entries_eq := (findNextFreePort_frame search).entries_eq
  refine ⟨after, .searched (.between ran) search, ?_, ?_, ?_, ?_⟩
  · rw [nextPort_eq, isLast]
    rfl
  · rw [entries_eq, length_eq]
  · rwa [isPortInDb, entries_eq]
  · rwa [isPortInDb, entries_eq]

/-- A system on which only the first port is taken. -/
def firstPortTaken : Os where
  isPortAvailable _ port := port != portBase
  malloc _ := true

/-- Both of two searches in a row find a port at the start of the range again. -/
theorem findNextFreePort_firstFit_wrapped : ∃ state, state.nextPort = 65536 ∧
    state.entries.length = 2 ∧
    (∀ port after, findNextFreePort firstPortTaken state = (port, after) →
      SearchSpec (· != portBase) state port after) ∧
    ∃ first middle second after, findNextFreePort firstPortTaken state = (first, middle) ∧
      findNextFreePort firstPortTaken middle = (second, after) ∧
      first ≠ -1 ∧ second ≠ -1 ∧ first ≠ second := by
  rcases exists_wrapped with ⟨state, occurs, nextPort_eq, length_eq, unused, otherUnused⟩
  rcases findNextFreePort_firstFit firstPortTaken (· != portBase) state (fun _ _ => rfl) occurs with
    ⟨-, spec, two⟩
  have free : IsFree (· != portBase) state 10001 := ⟨by decide, by decide, unused, by decide⟩
  have otherFree : IsFree (· != portBase) state 10006 :=
    ⟨by decide, by decide, otherUnused, by decide⟩
  exact ⟨state, nextPort_eq, length_eq, spec, two 10001 10006 (by decide) free otherFree⟩

end NodeinfoSystem.Database
