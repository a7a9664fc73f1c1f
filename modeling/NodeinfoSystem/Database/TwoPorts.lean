import NodeinfoSystem.Database.Search

/-!
# The two ports of a new entry

The message port of a node is searched before the control port is in the database,
so nothing but the cursor keeps the two apart. The second search starts right after
the control port and comes back to it as the last unused port of its round: it
returns it when the operating system refuses all the others and then grants this
one again.
-/

namespace NodeinfoSystem.Database

open Foundation

/-! ## The second search starts after the first port -/

theorem portsFrom_add (port : ℤ) (first second : ℕ) :
    portsFrom port (first + second) = portsFrom port first ++ portsFrom (port + first) second := by
  induction first generalizing port with
  | zero =>
      rw [Nat.zero_add, portsFrom, List.nil_append]
      congr 1
      omega
  | succ first ih =>
      rw [Nat.succ_add, portsFrom, portsFrom, ih, List.cons_append]
      congr 3
      omega

theorem portsFrom_split {port middle : ℤ} (count : ℕ) (lower : port ≤ middle)
    (upper : middle < port + count) :
    portsFrom port count =
      portsFrom port (middle - port).toNat ++
        middle :: portsFrom (middle + 1) (port + count - (middle + 1)).toNat := by
  have count_eq : count = (middle - port).toNat + ((port + count - (middle + 1)).toNat + 1) := by
    omega
  have middle_eq : port + ((middle - port).toNat : ℤ) = middle := by omega
  nth_rewrite 1 [count_eq]
  rw [portsFrom_add, middle_eq, portsFrom]

theorem portsFrom_toNat_add {port middle last : ℤ} (lower : port ≤ middle) (upper : middle ≤ last) :
    portsFrom port (last - port).toNat =
      portsFrom port (middle - port).toNat ++ portsFrom middle (last - middle).toNat := by
  have count_eq : (last - port).toNat = (middle - port).toNat + (last - middle).toNat := by omega
  have middle_eq : port + ((middle - port).toNat : ℤ) = middle := by omega
  rw [count_eq, portsFrom_add, middle_eq]

theorem cyclicPorts_after {port : ℤ} (lower : portBase ≤ port) (upper : port ≤ portLast) :
    cyclicPorts (port + 1) =
      portsFrom (port + 1) (portLast + 1 - (port + 1)).toNat ++
        (portsFrom portBase (port - portBase).toNat ++ [port]) := by
  have split := portsFrom_split (port + 1 - portBase).toNat lower (by omega)
  have none : (portBase + ((port + 1 - portBase).toNat : ℤ) - (port + 1)).toNat = 0 := by omega
  rw [none] at split
  rw [cyclicPorts, min_eq_left (by omega), split, portsFrom]

theorem portsFrom_min (start : ℤ) :
    portsFrom (min start (portLast + 1)) (portLast + 1 - min start (portLast + 1)).toNat =
      portsFrom start (portLast + 1 - start).toNat := by
  rcases lt_or_ge start (portLast + 1) with inside | beyond
  · rw [min_eq_left (Int.le_of_lt inside)]
  · have none : (portLast + 1 - start).toNat = 0 := by omega
    rw [min_eq_right beyond, Int.sub_self, none]
    rfl

/-- The port lies in the part of the search that runs up to the last port. -/
theorem exists_rotation_of_ge {start port : ℤ} (start_ge : portBase ≤ start)
    (reached : start ≤ port) (upper : port ≤ portLast) :
    ∃ before after, cyclicPorts start = before ++ port :: after ∧
      cyclicPorts (port + 1) = after ++ (before ++ [port]) := by
  refine ⟨portsFrom start (port - start).toNat,
    portsFrom (port + 1) (portLast + 1 - (port + 1)).toNat ++
      portsFrom portBase (start - portBase).toNat, ?_, ?_⟩
  · have split := portsFrom_split (portLast + 1 - start).toNat reached (by omega)
    have rest : start + ((portLast + 1 - start).toNat : ℤ) - (port + 1) =
        portLast + 1 - (port + 1) := by omega
    rw [rest] at split
    rw [cyclicPorts, split, min_eq_left (by omega), List.append_assoc, List.cons_append]
  · rw [cyclicPorts_after (by omega) upper, portsFrom_toNat_add start_ge reached,
      List.append_assoc, List.append_assoc]

/-- The port lies in the part that starts again at the first port. -/
theorem exists_rotation_of_lt {start port : ℤ} (lower : portBase ≤ port) (upper : port ≤ portLast)
    (wrapped : port < start) :
    ∃ before after, cyclicPorts start = before ++ port :: after ∧
      cyclicPorts (port + 1) = after ++ (before ++ [port]) := by
  have stop_le : min start (portLast + 1) ≤ portLast + 1 := min_le_right _ _
  have port_lt : port < min start (portLast + 1) := by omega
  refine ⟨portsFrom start (portLast + 1 - start).toNat ++
      portsFrom portBase (port - portBase).toNat,
    portsFrom (port + 1) (min start (portLast + 1) - (port + 1)).toNat, ?_, ?_⟩
  · have split := portsFrom_split (min start (portLast + 1) - portBase).toNat lower (by omega)
    have rest : portBase + ((min start (portLast + 1) - portBase).toNat : ℤ) - (port + 1) =
        min start (portLast + 1) - (port + 1) := by omega
    rw [rest] at split
    rw [cyclicPorts, split, List.append_assoc]
  · rw [cyclicPorts_after lower upper,
      portsFrom_toNat_add (Int.add_one_le_of_lt port_lt) stop_le, portsFrom_min,
      List.append_assoc, List.append_assoc]

/-- Starting after a port moves it, with all the ports before it, to the end. -/
theorem exists_rotation {start port : ℤ} (start_ge : portBase ≤ start) (lower : portBase ≤ port)
    (upper : port ≤ portLast) :
    ∃ before after, cyclicPorts start = before ++ port :: after ∧
      cyclicPorts (port + 1) = after ++ (before ++ [port]) := by
  rcases lt_or_ge port start with wrapped | reached
  · exact exists_rotation_of_lt lower upper wrapped
  · exact exists_rotation_of_ge start_ge reached upper

theorem freePorts_rotation {state moved : State} {port : ℤ} {before after : List ℤ}
    (free_eq : freePorts state = before ++ port :: after)
    (entries_eq : moved.entries = state.entries)
    (nextPort_eq : moved.nextPort = port + 1) :
    freePorts moved = after ++ (before ++ [port]) := by
  have port_mem : port ∈ freePorts state := by simp [free_eq]
  rcases mem_freePorts.mp port_mem with ⟨⟨lower, upper⟩, unused⟩
  have start_eq : searchStart moved = port + 1 := by
    rw [searchStart, nextPort_eq]
    exact if_neg (by omega)
  have same (candidate : ℤ) : isPortInDb moved candidate = isPortInDb state candidate := by
    rw [isPortInDb, isPortInDb, entries_eq]
  rcases exists_rotation (portBase_le_searchStart state) lower upper with
    ⟨low, high, whole, rotated⟩
  have filtered : freePorts state =
      low.filter (fun candidate => !isPortInDb state candidate) ++
        port :: high.filter (fun candidate => !isPortInDb state candidate) := by
    rw [freePorts, whole, List.filter_append, List.filter_cons_of_pos (by simp [unused])]
  have distinct := nodup_freePorts state
  rw [filtered, List.nodup_append, List.nodup_cons] at distinct
  have notHigh := distinct.2.1.1
  have notLow : port ∉ low.filter (fun candidate => !isPortInDb state candidate) :=
    fun low_mem => distinct.2.2 port low_mem port (by simp) rfl
  have parts := filtered.symm.trans free_eq
  rw [List.append_cons_inj_of_notMem notLow notHigh] at parts
  rw [freePorts, start_eq, rotated, ← parts.1, ← parts.2.2]
  simp only [same]
  rw [List.filter_append, List.filter_append, List.filter_cons_of_pos (by simp [unused]),
    List.filter_nil]

/-! ## When the second search returns the first port -/

/-- The operating system refuses one port after the other, from the given probe on. -/
def Refuses (os : Os) : List ℤ → ℕ → Prop
  | [], _ => True
  | port :: ports, probe => os.isPortAvailable probe port = false ∧ Refuses os ports (probe + 1)

theorem probePorts_of_refuses {os : Os} {ports rest : List ℤ} {probes : ℕ}
    (refuses : Refuses os ports probes) :
    probePorts os (ports ++ rest) probes = probePorts os rest (probes + ports.length) := by
  induction ports generalizing probes with
  | nil => rfl
  | cons port ports ih =>
      rw [List.cons_append, probePorts, if_neg (by simp [refuses.1]), ih refuses.2,
        List.length_cons]
      congr 1
      omega

theorem refuses_of_probePorts {os : Os} {ports : List ℤ} {probes asked : ℕ} {port : ℤ}
    (found : probePorts os ports probes = (some port, asked)) :
    ∃ refused rest, ports = refused ++ port :: rest ∧ Refuses os refused probes ∧
      os.isPortAvailable (probes + refused.length) port = true ∧
      asked = probes + refused.length + 1 := by
  induction ports generalizing probes with
  | nil => simp [probePorts] at found
  | cons other ports ih =>
      rw [probePorts] at found
      split at found
      · next granted =>
          rw [Prod.mk.injEq, Option.some.injEq] at found
          rcases found with ⟨rfl, rfl⟩
          exact ⟨[], ports, rfl, trivial, granted, rfl⟩
      · next notGranted =>
          rcases ih found with ⟨refused, rest, rfl, refuses, granted, rfl⟩
          refine ⟨other :: refused, rest, rfl, ⟨by simpa using notGranted, refuses⟩, ?_, ?_⟩
          · rwa [List.length_cons, Nat.add_comm refused.length, ← Nat.add_assoc]
          · rw [List.length_cons]
            omega

/--
Asked for the unused ports in cyclic order, the operating system grants one,
refuses all the others, and then grants the same one again. With answers that do
not change, that is to say that exactly one unused port is available.
-/
def OnlyPortLeft (os : Os) (state : State) : Prop :=
  ∃ refused port rest, freePorts state = refused ++ port :: rest ∧
    Refuses os refused state.probes ∧
    os.isPortAvailable (state.probes + refused.length) port = true ∧
    Refuses os (rest ++ refused) (state.probes + refused.length + 1) ∧
    os.isPortAvailable (state.probes + refused.length + 1 + (rest ++ refused).length) port = true

theorem exists_of_findNextFreePort {os : Os} {before after : State} {port : ℤ}
    (search : findNextFreePort os before = (port, after)) (nonneg : ¬port < 0) :
    ∃ asked, probePorts os (freePorts before) before.probes = (some port, asked) ∧
      after = { before with nextPort := port + 1, probes := asked } := by
  rcases probed : probePorts os (freePorts before) before.probes with ⟨result, asked⟩
  cases result with
  | none =>
      rw [findNextFreePort_of_none probed, Prod.mk.injEq] at search
      omega
  | some found =>
      rw [findNextFreePort_of_some probed, Prod.mk.injEq] at search
      rcases search with ⟨rfl, rfl⟩
      exact ⟨asked, rfl, rfl⟩

theorem onlyPortLeft_of_same {os : Os} {state middle searched : State} {port : ℤ}
    (ctrlSearch : findNextFreePort os state = (port, middle)) (nonneg : ¬port < 0)
    (msgSearch : findNextFreePort os middle = (port, searched)) : OnlyPortLeft os state := by
  rcases exists_of_findNextFreePort ctrlSearch nonneg with ⟨ctrlAsked, ctrlProbed, middle_eq⟩
  rcases refuses_of_probePorts ctrlProbed with
    ⟨refused, rest, free_eq, refuses, granted, rfl⟩
  rcases exists_of_findNextFreePort msgSearch nonneg with ⟨msgAsked, msgProbed, -⟩
  rcases refuses_of_probePorts msgProbed with ⟨others, tail, moved_eq, refusesOthers, again, -⟩
  have distinct := nodup_freePorts state
  rw [free_eq, List.nodup_append, List.nodup_cons] at distinct
  have notMem : port ∉ rest ++ refused := by
    rw [List.mem_append, not_or]
    exact ⟨distinct.2.1.1, fun refused_mem => distinct.2.2 port refused_mem port (by simp) rfl⟩
  -- the port closes its own round, so everything before it is all the others
  have rotated := freePorts_rotation free_eq (findNextFreePort_frame ctrlSearch).entries_eq
    (by rw [middle_eq])
  rw [← List.append_assoc] at rotated
  have parts := rotated.symm.trans moved_eq
  rw [List.append_cons_inj_of_notMem notMem List.not_mem_nil] at parts
  rcases parts with ⟨rfl, -, -⟩
  subst middle
  exact ⟨refused, port, rest, free_eq, refuses, granted, refusesOthers, again⟩

theorem same_of_onlyPortLeft {os : Os} {state : State} (only : OnlyPortLeft os state) :
    ∃ port middle searched, ¬port < 0 ∧ findNextFreePort os state = (port, middle) ∧
      findNextFreePort os middle = (port, searched) := by
  rcases only with ⟨refused, port, rest, free_eq, refuses, granted, refusesOthers, again⟩
  have port_mem : port ∈ freePorts state := by simp [free_eq]
  have lower := (mem_freePorts.mp port_mem).1.1
  have ctrlProbed : probePorts os (freePorts state) state.probes =
      (some port, state.probes + refused.length + 1) := by
    rw [free_eq, probePorts_of_refuses refuses, probePorts, if_pos granted]
  let middle : State :=
    { state with nextPort := port + 1, probes := state.probes + refused.length + 1 }
  have rotated : freePorts middle = rest ++ (refused ++ [port]) :=
    freePorts_rotation free_eq rfl rfl
  have msgProbed : probePorts os (freePorts middle) middle.probes =
      (some port, state.probes + refused.length + 1 + (rest ++ refused).length + 1) := by
    rw [rotated, ← List.append_assoc, probePorts_of_refuses refusesOthers, probePorts, if_pos again]
  refine ⟨port, middle, _, ?_, findNextFreePort_of_some ctrlProbed,
    findNextFreePort_of_some msgProbed⟩
  unfold portBase at lower
  omega

/-- Two successful searches find the same port in exactly one situation. -/
theorem PortsFound.same_iff {os : Os} {before searched : State} {ctrlPort msgPort : ℤ}
    (ports : PortsFound os before ctrlPort msgPort searched) :
    ctrlPort = msgPort ↔ OnlyPortLeft os before := by
  rcases ports.searches with ⟨middle, ctrlSearch, msgSearch⟩
  constructor
  · rintro rfl
    exact onlyPortLeft_of_same ctrlSearch ports.ctrl_nonneg msgSearch
  · intro only
    rcases same_of_onlyPortLeft only with ⟨port, other, last, -, ctrlSearch', msgSearch'⟩
    rw [ctrlSearch, Prod.mk.injEq] at ctrlSearch'
    rcases ctrlSearch' with ⟨rfl, rfl⟩
    rw [msgSearch, Prod.mk.injEq] at msgSearch'
    exact msgSearch'.1.symm

theorem PortsFound.newElement_ports_iff {os : Os} {before searched : State} {ctrlPort msgPort : ℤ}
    {networkId : Int32} {node : Nodedata Int32}
    (ports : PortsFound os before ctrlPort msgPort searched) :
    (newElement networkId node ctrlPort msgPort).controlPortNum =
      (newElement networkId node ctrlPort msgPort).messagePortNum ↔ ctrlPort = msgPort := by
  rcases ports.searches with ⟨middle, ctrlSearch, msgSearch⟩
  have ctrl := findNextFreePort_found ctrlSearch ports.ctrl_nonneg
  have msg := findNextFreePort_found msgSearch ports.msg_nonneg
  simp only [newElement]
  constructor
  · intro same
    have values := congrArg Int32.toInt same
    rwa [toInt_ofInt_port ctrl.lower ctrl.upper, toInt_ofInt_port msg.lower msg.upper] at values
  · rintro rfl
    rfl

/-- A search that fails is not the first of two that find the same port, nor the second. -/
theorem not_onlyPortLeft_of_noControlPort {os : Os} {before searched : State} {port : ℤ}
    (search : findNextFreePort os before = (port, searched)) (failed : port < 0) :
    ¬OnlyPortLeft os before := by
  intro only
  rcases same_of_onlyPortLeft only with ⟨found, middle, last, nonneg, ctrlSearch, -⟩
  rw [search, Prod.mk.injEq] at ctrlSearch
  exact nonneg (ctrlSearch.1 ▸ failed)

theorem not_onlyPortLeft_of_noMessagePort {os : Os} {before middle searched : State}
    {ctrlPort msgPort : ℤ} (ctrlSearch : findNextFreePort os before = (ctrlPort, middle))
    (msgSearch : findNextFreePort os middle = (msgPort, searched)) (failed : msgPort < 0) :
    ¬OnlyPortLeft os before := by
  intro only
  rcases same_of_onlyPortLeft only with ⟨found, other, last, nonneg, ctrlSearch', msgSearch'⟩
  rw [ctrlSearch, Prod.mk.injEq] at ctrlSearch'
  rcases ctrlSearch' with ⟨rfl, rfl⟩
  rw [msgSearch, Prod.mk.injEq] at msgSearch'
  exact nonneg (msgSearch'.1 ▸ failed)

/-! ## The add loop -/

def PortsDiffer (element : NodeinfoDatabaseElement) : Prop :=
  element.controlPortNum ≠ element.messagePortNum

/-- A part of the loop appends entries, whose two ports differ when `apart` holds. -/
def Appends (before after : State) (apart : Prop) : Prop :=
  ∃ added, after.entries = before.entries ++ added ∧
    ((∀ element ∈ added, PortsDiffer element) ↔ apart)

theorem Appends.none {before after : State} {apart : Prop}
    (entries_eq : after.entries = before.entries) (holds : apart) : Appends before after apart := by
  refine ⟨[], ?_, ?_⟩
  · rw [List.append_nil, entries_eq]
  · simp [holds]

theorem Appends.trans {before middle after : State} {first second : Prop}
    (appends : Appends before middle first) (rest : Appends middle after second) :
    Appends before after (first ∧ second) := by
  rcases appends with ⟨added, middle_eq, added_iff⟩
  rcases rest with ⟨more, after_eq, more_iff⟩
  refine ⟨added ++ more, ?_, ?_⟩
  · rw [after_eq, middle_eq, List.append_assoc]
  · rw [List.forall_mem_append, added_iff, more_iff]

/-- The iteration for a node that is not yet in the database. -/
def HandlesNew (networkId : Int32) (node : Nodedata Int32) (start : State) : Prop :=
  existsInDb start networkId (storedAddress node) = false

theorem addNode_ports {os : Os} {networkId : Int32} {node : Nodedata Int32} {before : State}
    {count : ℕ} {iteration : Iteration} (allocated : Allocated before)
    (room : HasRoom (count + 1) before)
    (ran : addNode os networkId node before = some iteration) :
    ∃ after, iteration = .next after ∧ Allocated after ∧ HasRoom count after ∧
      Appends before after (HandlesNew networkId node before → ¬OnlyPortLeft os before) := by
  rcases addNode_of_room allocated room ran with ⟨final, iteration_eq, keeps⟩
  refine ⟨final, iteration_eq, keeps.allocated, keeps.room, ?_⟩
  subst iteration_eq
  cases addNode_path ran with
  | present found =>
      have notNew : ¬HandlesNew networkId node before := by simp [HandlesNew, found]
      exact .none rfl fun new => absurd new notNew
  | noControlPort absent search failed =>
      have notOnly := not_onlyPortLeft_of_noControlPort search failed
      exact .none (findNextFreePort_frame search).entries_eq fun _ => notOnly
  | noMessagePort absent ctrlSearch _ msgSearch failed =>
      have frame := (findNextFreePort_frame ctrlSearch).trans (findNextFreePort_frame msgSearch)
      have notOnly := not_onlyPortLeft_of_noMessagePort ctrlSearch msgSearch failed
      exact .none frame.entries_eq fun _ => notOnly
  | @added ctrlPort msgPort code searched grownState _ absent ports grown _ appended =>
      have isNew : HandlesNew networkId node before := by simpa [HandlesNew] using absent
      refine ⟨[newElement networkId node ctrlPort msgPort], ?_, ?_⟩
      · rw [(appendElement_effect appended).1, (growIfFull_effect grown).1,
          ports.frame.entries_eq]
      · rw [List.forall_mem_singleton, PortsDiffer, Ne, ports.newElement_ports_iff, ports.same_iff]
        exact ⟨fun notOnly _ => notOnly, fun notOnly => notOnly isNew⟩

/-- No iteration of the loop finds one port left for a new node. -/
def LoopSpares (os : Os) (networkId : Int32) (nodes : List (Nodedata Int32)) (before : State) :
    Prop :=
  ∀ earlier node later start, nodes = earlier ++ node :: later →
    addNodes os networkId earlier before = some start →
      HandlesNew networkId node start → ¬OnlyPortLeft os start

theorem loopSpares_cons_iff {os : Os} {networkId : Int32} {node : Nodedata Int32}
    {nodes : List (Nodedata Int32)} {before middle : State}
    (iterated : addNode os networkId node before = some (.next middle)) :
    LoopSpares os networkId (node :: nodes) before ↔
      (HandlesNew networkId node before → ¬OnlyPortLeft os before) ∧
        LoopSpares os networkId nodes middle := by
  constructor
  · intro spares
    refine ⟨spares [] node nodes before rfl rfl, ?_⟩
    intro earlier other later start nodes_eq ran
    apply spares (node :: earlier) other later start
    · rw [nodes_eq, List.cons_append]
    · rw [addNodes, iterated]
      exact ran
  · rintro ⟨first, rest⟩ earlier other later start nodes_eq ran
    cases earlier with
    | nil =>
        rw [List.nil_append, List.cons.injEq] at nodes_eq
        rcases nodes_eq with ⟨rfl, -⟩
        exact Option.some.inj ran ▸ first
    | cons head earlier =>
        rw [List.cons_append, List.cons.injEq] at nodes_eq
        rcases nodes_eq with ⟨rfl, nodes_eq⟩
        rw [addNodes, iterated] at ran
        exact rest earlier other later start nodes_eq ran

/-- By induction on the list: every iteration leaves room for the nodes after it. -/
theorem addNodes_ports {os : Os} {networkId : Int32} {nodes : List (Nodedata Int32)}
    {before after : State} (allocated : Allocated before) (room : HasRoom nodes.length before)
    (ran : addNodes os networkId nodes before = some after) :
    Appends before after (LoopSpares os networkId nodes before) := by
  induction nodes generalizing before with
  | nil =>
      refine .none (by rw [Option.some.inj ran]) ?_
      intro earlier node later start nodes_eq
      simp at nodes_eq
  | cons node nodes ih =>
      rcases addNodes_cons_cases ran with ⟨middle, iterated, rest⟩ | iterated
      · rcases addNode_ports allocated room iterated with
          ⟨_, ⟨⟩, middle_allocated, middle_room, appends⟩
        rw [loopSpares_cons_iff iterated]
        exact appends.trans (ih middle_allocated middle_room rest)
      · rcases addNode_ports allocated room iterated with ⟨_, left_eq, -⟩
        contradiction

/-! ## Every update of every run -/

/-- The condition on an update: its loop, if it is reached, never finds one port left. -/
def Spares (call : Call) (state : State) : Prop :=
  ∀ ready, StartsLoop call.os call.list state ready →
    LoopSpares call.os call.list.networkId call.list.entries ready

/-- The entries that an update appends to the ones it keeps. -/
def appendedEntries (call : Call) (state after : State) : List NodeinfoDatabaseElement :=
  after.entries.drop (removeObsolete call.list state).entries.length

theorem StartsLoop.unique {os : Os} {list : NodedataList Int32} {before first second : State}
    (starts : StartsLoop os list before first) (again : StartsLoop os list before second) :
    first = second := by
  rcases starts with ⟨need, code, needed, ensured, -⟩
  rcases again with ⟨need', code', needed', ensured', -⟩
  obtain rfl : need = need' := Option.some.inj (needed.symm.trans needed')
  rw [ensured, Option.some.injEq, Prod.mk.injEq] at ensured'
  exact ensured'.2

/-- What an update appends, and when each of its entries has two ports. -/
structure UpdateAppends (call : Call) (state after : State) : Prop where
  entries_eq : after.entries =
    (removeObsolete call.list state).entries ++ appendedEntries call state after
  differ_iff : (∀ element ∈ appendedEntries call state after, PortsDiffer element) ↔
    Spares call state

theorem UpdateAppends.of_appends {call : Call} {state after : State}
    (appends : Appends (removeObsolete call.list state) after (Spares call state)) :
    UpdateAppends call state after := by
  rcases appends with ⟨added, after_eq, added_iff⟩
  have appended_eq : appendedEntries call state after = added := by
    rw [appendedEntries, after_eq, List.drop_left]
  exact ⟨by rw [appended_eq, after_eq], by rw [appended_eq, added_iff]⟩

theorem spares_iff {call : Call} {state ready : State}
    (starts : StartsLoop call.os call.list state ready) :
    Spares call state ↔ LoopSpares call.os call.list.networkId call.list.entries ready := by
  constructor
  · intro spares
    exact spares ready starts
  · intro spares other again
    rwa [← starts.unique again]

theorem updateAppends_of_loop {call : Call} {state ready final after : State} (sized : Sized state)
    (starts : StartsLoop call.os call.list state ready)
    (added : addNodes call.os call.list.networkId call.list.entries ready = some final)
    (after_eq : after.entries = final.entries) : UpdateAppends call state after := by
  rcases sized.startsLoop starts with ⟨allocated, room⟩
  rcases addNodes_ports allocated room added with ⟨news, final_eq, news_iff⟩
  apply UpdateAppends.of_appends
  refine ⟨news, ?_, ?_⟩
  · rw [after_eq, final_eq, starts.entries_eq, entries_removeObsolete]
  · rw [news_iff, spares_iff starts]

theorem updateAppends {call : Call} {state after : State} (sized : Sized state)
    (stepped : manager.step state call = some after) : UpdateAppends call state after := by
  rcases manager_step_eq_some.mp stepped with ⟨result, ran⟩
  cases updateNodeinfoDatabase_path ran with
  | noCapacity ensured _ noLoop =>
      apply UpdateAppends.of_appends
      apply Appends.none (ensureDbCapacity_effect ensured).1
      intro ready starts
      exact absurd starts (noLoop ready)
  | noSnapshot starts added _ => exact updateAppends_of_loop sized starts added rfl
  | snapshot starts added _ => exact updateAppends_of_loop sized starts added rfl

/--
An update appends only entries with two different ports exactly when its loop spares
the last port. In a run whose updates all do, no entry has one port for both.
-/
theorem ports_differ_iff (calls : List Call) :
    (∀ before call after, manager.Takes calls before call after →
      ((∀ element ∈ appendedEntries call before after, PortsDiffer element) ↔
        Spares call before)) ∧
    ((∀ before call after, manager.Takes calls before call after → Spares call before) →
      ∀ state, manager.run calls = some state →
        ∀ element ∈ state.entries, PortsDiffer element) := by
  have appends (before : State) (call : Call) (after : State)
      (takes : manager.Takes calls before call after) : UpdateAppends call before after := by
    rcases takes with ⟨earlier, later, -, ran, stepped⟩
    exact updateAppends (Sized.of_run ran) stepped
  refine ⟨fun before call after takes => (appends before call after takes).differ_iff, ?_⟩
  intro spares state ran
  apply manager.run_preserves_of_takes _ ran
  · simp [manager]
  · intro before call after takes differ
    have appended := appends before call after takes
    rw [appended.entries_eq, List.forall_mem_append]
    refine ⟨?_, appended.differ_iff.mpr (spares before call after takes)⟩
    intro element element_mem
    rw [entries_removeObsolete] at element_mem
    exact differ element ((removeWhere_subperm _ _).subset element_mem)

/-! ## One port left for the first node -/

theorem refuses_of_forall {os : Os} {ports : List ℤ}
    (refused : ∀ port ∈ ports, ∀ probe, os.isPortAvailable probe port = false) (probe : ℕ) :
    Refuses os ports probe := by
  induction ports generalizing probe with
  | nil => trivial
  | cons port ports ih =>
      rw [List.forall_mem_cons] at refused
      exact ⟨refused.1 probe, ih refused.2 (probe + 1)⟩

/-- With answers that do not change, a single port that is both unused and available. -/
theorem onlyPortLeft_of_available {os : Os} {state : State} {port : ℤ}
    (available : ∀ probe candidate, os.isPortAvailable probe candidate = (candidate == port))
    (unused : port ∈ freePorts state) : OnlyPortLeft os state := by
  rcases List.append_of_mem unused with ⟨refused, rest, free_eq⟩
  have distinct := nodup_freePorts state
  rw [free_eq, List.nodup_append, List.nodup_cons] at distinct
  have others : ∀ other ∈ rest ++ refused, ∀ probe, os.isPortAvailable probe other = false := by
    intro other other_mem probe
    rw [available, beq_eq_false_iff_ne]
    rintro rfl
    rcases List.mem_append.mp other_mem with inRest | inRefused
    · exact distinct.2.1.1 inRest
    · exact distinct.2.2 other inRefused other (by simp) rfl
  refine ⟨refused, port, rest, free_eq, ?_, ?_, refuses_of_forall others _, ?_⟩
  · exact refuses_of_forall (fun other other_mem => others other (by simp [other_mem])) _
  · simp [available]
  · simp [available]

/-- A system on which nothing but the last port can be bound. -/
def lastPortOs : Os where
  isPortAvailable _ port := port == portLast
  malloc _ := true

theorem exists_startsLoop {os : Os} {list : NodedataList Int32} {before after : State}
    {result : Option NodeinfoDatabase} (granted : ∀ allocation, os.malloc allocation = true)
    (ran : updateNodeinfoDatabase os list before = some (result, after)) :
    ∃ ready, StartsLoop os list before ready := by
  cases updateNodeinfoDatabase_path ran with
  | noCapacity ensured refused _ =>
      rcases (ensureDbCapacity_effect ensured).2.2 refused with ⟨allocation, malloc_eq⟩
      rw [granted] at malloc_eq
      contradiction
  | @noSnapshot ready _ starts => exact ⟨ready, starts⟩
  | @snapshot ready _ _ starts => exact ⟨ready, starts⟩

/-- The first update of a run gives both ports of its node the number 65535. -/
theorem not_forall_ports_differ : ¬∀ calls before call after,
    manager.Takes calls before call after →
      ∀ element ∈ appendedEntries call before after, PortsDiffer element := by
  intro always
  have room : LeavesRoom (singletonList 1 21) := by
    unfold LeavesRoom
    decide
  rcases Managed.initial.exists_update lastPortOs room with ⟨result, after, updated, -⟩
  let call : Call := ⟨lastPortOs, singletonList 1 21⟩
  have stepped : manager.step State.initial call = some after :=
    manager_step_eq_some.mpr ⟨result, updated⟩
  have differ := always [call] State.initial call after ⟨[], [], rfl, rfl, stepped⟩
  have spares := (updateAppends Sized.initial stepped).differ_iff.mp differ
  rcases exists_startsLoop (fun _ => rfl) updated with ⟨ready, starts⟩
  have empty : ready.entries = [] := starts.entries_eq
  have isNew : HandlesNew 1 ⟨21, 7, 4⟩ ready := by simp [HandlesNew, existsInDb, empty]
  have unused : portLast ∈ freePorts ready := by
    rw [mem_freePorts]
    refine ⟨by decide, ?_⟩
    simp [isPortInDb, empty]
  apply spares ready starts [] ⟨21, 7, 4⟩ [] ready rfl rfl isNew
  exact onlyPortLeft_of_available (fun _ _ => rfl) unused

end NodeinfoSystem.Database
