import NodeinfoSystem.Database.FirstFit
import NodeinfoSystem.Foundation.CyclicWalk

/-!
# Ports come round in turn

The port searches of the whole life of the relay, the ones that fail included, make
up a single walk round the range of ports: each takes up where the one before it
stopped. A port that has been given out is therefore given out again only after
every other port has been looked at, and has been found in use, refused by the
operating system, or given out as well.
-/

namespace NodeinfoSystem.Database

open scoped List

open Foundation

/-! ## What the searches look at -/

/-- What a search makes of a port. -/
inductive Verdict where
  /-- An entry has the port, and the operating system is not asked. -/
  | used
  | refused
  | granted
  deriving DecidableEq

/-- A port that a search looks at. -/
structure Look where
  port : ℤ
  verdict : Verdict
  deriving DecidableEq

/-- The looks along the ports, up to the first one that is granted. -/
def lookAlong (os : Os) (state : State) : List ℤ → ℕ → List Look
  | [], _ => []
  | port :: ports, probes =>
      if isPortInDb state port then ⟨port, .used⟩ :: lookAlong os state ports probes
      else if os.isPortAvailable probes port then [⟨port, .granted⟩]
      else ⟨port, .refused⟩ :: lookAlong os state ports (probes + 1)

/-- The looks of one search. -/
def looks (os : Os) (state : State) : List Look :=
  lookAlong os state (cyclicPorts (searchStart state)) state.probes

/-- The looks of one iteration of the add loop. -/
def nodeLooks (os : Os) (networkId : Int32) (node : Nodedata Int32) (state : State) : List Look :=
  if existsInDb state networkId (storedAddress node) then []
  else
    match findNextFreePort os state with
    | (ctrlPort, middle) => looks os state ++ if ctrlPort < 0 then [] else looks os middle

/-- The looks of the add loop. -/
def loopLooks (os : Os) (networkId : Int32) : List (Nodedata Int32) → State → List Look
  | [], _ => []
  | node :: nodes, state =>
      nodeLooks os networkId node state ++
        match addNode os networkId node state with
        | some (.next next) => loopLooks os networkId nodes next
        | _ => []

/-- The looks of one update. -/
def updateLooks (call : Call) (state : State) : List Look :=
  match checkedInt ((removeObsolete call.list state).entries.length +
      call.list.currentSize.toInt) with
  | none => []
  | some needCapacity =>
      match ensureDbCapacity call.os (if needCapacity < 16 then 16 else needCapacity)
        (removeObsolete call.list state) with
      | none => []
      | some (ensured, ready) =>
          if ensured < 0 then []
          else loopLooks call.os call.list.networkId call.list.entries ready

/-- The looks of a history that starts in the state. -/
def historyLooks : State → List Call → List Look
  | _, [] => []
  | state, call :: calls =>
      updateLooks call state ++
        match manager.step state call with
        | none => []
        | some next => historyLooks next calls

/-! ## One search -/

/-- The looks go along the ports, and end at the port that is granted if there is one. -/
inductive GoesAlong : List ℤ → Option ℤ → List Look → Prop
  | failed {ports : List ℤ} {looks : List Look} (ports_eq : ports = looks.map Look.port) :
      GoesAlong ports none looks
  | found {ports rest : List ℤ} {port : ℤ} {passed : List Look}
      (ports_eq : ports = passed.map Look.port ++ port :: rest) :
      GoesAlong ports (some port) (passed ++ [⟨port, .granted⟩])

theorem GoesAlong.pass {ports : List ℤ} {result : Option ℤ} {looks : List Look}
    (along : GoesAlong ports result looks) (look : Look) :
    GoesAlong (look.port :: ports) result (look :: looks) := by
  cases along with
  | failed ports_eq =>
      apply GoesAlong.failed
      rw [List.map_cons, ports_eq]
  | @found rest port passed ports_eq =>
      refine @GoesAlong.found _ rest port (look :: passed) ?_
      rw [List.map_cons, List.cons_append, ports_eq]

/-- By induction on the ports: those passed over are in use or refused. -/
theorem lookAlong_goesAlong (os : Os) (state : State) (ports : List ℤ) (probes : ℕ) :
    GoesAlong ports (probePorts os (ports.filter fun port => !isPortInDb state port) probes).1
      (lookAlong os state ports probes) := by
  induction ports generalizing probes with
  | nil => exact .failed rfl
  | cons first ports ih =>
      rw [lookAlong]
      split
      · next used =>
          rw [List.filter_cons_of_neg (by simp [used])]
          exact (ih probes).pass ⟨first, .used⟩
      · next unused =>
          rw [List.filter_cons_of_pos (by simp [unused]), probePorts]
          split
          · next available => exact @GoesAlong.found _ ports first [] rfl
          · next refused => exact (ih (probes + 1)).pass ⟨first, .refused⟩

/-- What a search looks at, beside what it returns and where it leaves the cursor. -/
inductive SearchLooks (before : State) : List Look → ℤ → State → Prop
  | failed {looks : List Look} {port : ℤ} {after : State} (negative : port < 0)
      (ports_eq : cyclicPorts (searchStart before) = looks.map Look.port)
      (nextPort_eq : after.nextPort = searchStart before) : SearchLooks before looks port after
  | found {passed : List Look} {rest : List ℤ} {port : ℤ} {after : State} (nonneg : ¬port < 0)
      (ports_eq : cyclicPorts (searchStart before) = passed.map Look.port ++ port :: rest)
      (nextPort_eq : after.nextPort = port + 1) :
      SearchLooks before (passed ++ [⟨port, .granted⟩]) port after

theorem searchLooks {os : Os} {before after : State} {port : ℤ}
    (search : findNextFreePort os before = (port, after)) :
    SearchLooks before (looks os before) port after := by
  have along := lookAlong_goesAlong os before (cyclicPorts (searchStart before)) before.probes
  rw [← looks, ← freePorts] at along
  rcases probed : probePorts os (freePorts before) before.probes with ⟨result, asked⟩
  rw [probed] at along
  generalize looks os before = looked at along
  cases along with
  | failed ports_eq =>
      rw [findNextFreePort_of_none probed, Prod.mk.injEq] at search
      rcases search with ⟨rfl, rfl⟩
      exact .failed (by decide) ports_eq rfl
  | @found rest found passed ports_eq =>
      rw [findNextFreePort_of_some probed, Prod.mk.injEq] at search
      rcases search with ⟨rfl, rfl⟩
      have found_mem : found ∈ cyclicPorts (searchStart before) := by
        rw [ports_eq]
        simp
      have lower := ((mem_cyclicPorts (portBase_le_searchStart before)).mp found_mem).1
      rw [portBase] at lower
      exact .found (by omega) ports_eq rfl

/-! ## One walk -/

theorem getElem?_portsFrom {port candidate : ℤ} {count index : ℕ}
    (visited : (portsFrom port count)[index]? = some candidate) : candidate = port + index := by
  induction count generalizing port index with
  | zero => simp [portsFrom] at visited
  | succ count ih =>
      rw [portsFrom] at visited
      cases index with
      | zero =>
          rw [List.getElem?_cons_zero, Option.some.injEq] at visited
          rw [visited, Int.natCast_zero, add_zero]
      | succ index =>
          rw [List.getElem?_cons_succ] at visited
          rw [ih visited]
          omega

theorem length_portsFrom (port : ℤ) (count : ℕ) : (portsFrom port count).length = count := by
  induction count generalizing port with
  | zero => rfl
  | succ count ih => rw [portsFrom, List.length_cons, ih]

theorem isWalk_portsFrom {port : ℤ} {count : ℕ} (lower : portBase ≤ port)
    (upper : port + count ≤ portLast + 1) :
    IsWalk portBase portCount (port - portBase).toNat (portsFrom port count) := by
  intro index candidate visited
  have inside := (List.getElem?_eq_some_iff.mp visited).1
  rw [length_portsFrom] at inside
  unfold portBase portLast at *
  rw [getElem?_portsFrom visited, cyclePoint, portCount, Nat.mod_eq_of_lt (by omega)]
  omega

theorem length_cyclicPorts {start : ℤ} (lower : portBase ≤ start) (upper : start ≤ portLast + 1) :
    (cyclicPorts start).length = portCount := by
  rw [cyclicPorts, List.length_append, length_portsFrom, length_portsFrom]
  rw [portBase, portLast] at *
  rw [portCount]
  omega

/-- One search goes round the range at most once. -/
theorem isWalk_cyclicPorts {start : ℤ} (lower : portBase ≤ start) (upper : start ≤ portLast + 1) :
    IsWalk portBase portCount (start - portBase).toNat (cyclicPorts start) := by
  refine (isWalk_portsFrom lower (by omega)).append ?_
  have wrapped : IsWalk portBase portCount (portBase - portBase).toNat
      (portsFrom portBase (min start (portLast + 1) - portBase).toNat) :=
    isWalk_portsFrom le_rfl (by omega)
  refine wrapped.congr ?_
  rw [length_portsFrom]
  rw [portBase, portLast] at *
  rw [portCount]
  omega

/-- Everything that has been looked at is one walk, and the next search goes on with it. -/
structure Walked (log : List Look) (state : State) : Prop where
  cursor : CursorInRange state
  walk : IsWalk portBase portCount 0 (log.map Look.port)
  position : (state.nextPort - portBase).toNat % portCount = log.length % portCount

section Walked

variable {os : Os} {log : List Look} {before after : State} {port : ℤ}

theorem Walked.of_eq (walked : Walked log before) (nextPort_eq : after.nextPort = before.nextPort) :
    Walked log after where
  cursor := walked.cursor.of_eq nextPort_eq
  walk := walked.walk
  position := by rw [nextPort_eq, walked.position]

/-- What the next search goes along. -/
theorem Walked.isWalk_cyclicPorts (walked : Walked log before) :
    IsWalk portBase portCount log.length (cyclicPorts (searchStart before)) := by
  rw [walked.cursor.searchStart_eq]
  exact (Database.isWalk_cyclicPorts walked.cursor.1 walked.cursor.2).congr walked.position

theorem Walked.append {more : List Look} (walked : Walked log before)
    (goesOn : IsWalk portBase portCount log.length (more.map Look.port)) :
    IsWalk portBase portCount 0 ((log ++ more).map Look.port) := by
  rw [List.map_append]
  apply walked.walk.append
  rw [List.length_map, Nat.zero_add]
  exact goesOn

theorem Walked.search (walked : Walked log before)
    (search : findNextFreePort os before = (port, after)) :
    Walked (log ++ looks os before) after := by
  have along := walked.isWalk_cyclicPorts
  have cursor := walked.cursor.search search
  have looked := searchLooks search
  generalize looks os before = looked_at at looked
  cases looked with
  | failed negative ports_eq nextPort_eq =>
      have length_eq := congrArg List.length ports_eq
      rw [walked.cursor.searchStart_eq, length_cyclicPorts walked.cursor.1 walked.cursor.2,
        List.length_map] at length_eq
      rw [ports_eq] at along
      refine ⟨cursor, walked.append along, ?_⟩
      rw [nextPort_eq, walked.cursor.searchStart_eq, walked.position, List.length_append,
        ← length_eq, Nat.add_mod_right]
  | @found passed rest _ _ nonneg ports_eq nextPort_eq =>
      rw [ports_eq, ← List.singleton_append, ← List.append_assoc] at along
      have front := along.of_append
      have last := front passed.length port (by simp)
      refine ⟨cursor, walked.append ?_, ?_⟩
      · rw [List.map_append]
        exact front
      · rw [nextPort_eq, last, cyclePoint, List.length_append, List.length_append,
          List.length_singleton, ← Nat.add_assoc, ← Nat.mod_add_mod (log.length + passed.length)]
        congr 1
        omega

end Walked

/-! ## A whole history -/

/-- The two searches for the ports of the element, in their order. -/
def Granted (log : List Look) (element : NodeinfoDatabaseElement) : Prop :=
  [⟨element.controlPortNum.toInt, .granted⟩, ⟨element.messagePortNum.toInt, .granted⟩] <+ log

/-- The walk so far, and the searches behind the entries. -/
structure Logged (log : List Look) (state : State) : Prop where
  walked : Walked log state
  granted : ∀ element ∈ state.entries, Granted log element

theorem granted_looks {os : Os} {before after : State} {port : ℤ}
    (search : findNextFreePort os before = (port, after)) (nonneg : ¬port < 0) :
    [⟨port, .granted⟩] <+ looks os before := by
  have looked := searchLooks search
  generalize looks os before = looked_at at looked
  cases looked with
  | failed negative _ _ => exact absurd negative nonneg
  | @found passed => exact List.sublist_append_right passed [⟨port, .granted⟩]

theorem granted_newElement {os : Os} {before middle searched : State} {ctrlPort msgPort : ℤ}
    (ctrlSearch : findNextFreePort os before = (ctrlPort, middle)) (ctrl_nonneg : ¬ctrlPort < 0)
    (msgSearch : findNextFreePort os middle = (msgPort, searched)) (msg_nonneg : ¬msgPort < 0)
    (networkId : Int32) (node : Nodedata Int32) :
    Granted (looks os before ++ looks os middle) (newElement networkId node ctrlPort msgPort) := by
  have ctrl := findNextFreePort_found ctrlSearch ctrl_nonneg
  have msg := findNextFreePort_found msgSearch msg_nonneg
  rw [Granted, newElement, toInt_ofInt_port ctrl.lower ctrl.upper,
    toInt_ofInt_port msg.lower msg.upper]
  exact (granted_looks ctrlSearch ctrl_nonneg).append (granted_looks msgSearch msg_nonneg)

section Logged

variable {os : Os} {log : List Look} {before after : State} {networkId : Int32}
  {node : Nodedata Int32} {nodes : List (Nodedata Int32)}

theorem Logged.of_subset (logged : Logged log before)
    (entries_subset : after.entries ⊆ before.entries)
    (nextPort_eq : after.nextPort = before.nextPort) : Logged log after where
  walked := logged.walked.of_eq nextPort_eq
  granted := fun element element_mem => logged.granted element (entries_subset element_mem)

theorem Logged.search {port : ℤ} (logged : Logged log before)
    (search : findNextFreePort os before = (port, after)) :
    Logged (log ++ looks os before) after where
  walked := logged.walked.search search
  granted := by
    intro element element_mem
    rw [(findNextFreePort_frame search).entries_eq] at element_mem
    exact (logged.granted element element_mem).trans (List.sublist_append_left _ _)

theorem nodeLooks_of_search {port : ℤ} {searched : State}
    (absent : ¬existsInDb before networkId (storedAddress node) = true)
    (search : findNextFreePort os before = (port, searched)) :
    nodeLooks os networkId node before =
      looks os before ++ if port < 0 then [] else looks os searched := by
  rw [nodeLooks, if_neg absent, search]

theorem Logged.addNode {iteration : Iteration} (logged : Logged log before)
    (ran : Database.addNode os networkId node before = some iteration) :
    Logged (log ++ nodeLooks os networkId node before) iteration.final := by
  cases addNode_path ran with
  | present found =>
      rw [nodeLooks, if_pos found, List.append_nil]
      exact logged
  | noControlPort absent search failed =>
      rw [nodeLooks_of_search absent search, if_pos failed, List.append_nil]
      exact logged.search search
  | noMessagePort absent ctrlSearch ctrl_nonneg msgSearch _ =>
      rw [nodeLooks_of_search absent ctrlSearch, if_neg ctrl_nonneg, ← List.append_assoc]
      exact (logged.search ctrlSearch).search msgSearch
  | noMemory absent ports grown _ =>
      rcases ports.searches with ⟨middle, ctrlSearch, msgSearch⟩
      rw [nodeLooks_of_search absent ctrlSearch, if_neg ports.ctrl_nonneg, ← List.append_assoc]
      apply ((logged.search ctrlSearch).search msgSearch).of_subset
      · rw [Iteration.final, (growIfFull_effect grown).1]
        exact List.Subset.refl _
      · exact nextPort_of_growIfFull grown
  | added absent ports grown _ appended =>
      rcases ports.searches with ⟨middle, ctrlSearch, msgSearch⟩
      have looked := (logged.search ctrlSearch).search msgSearch
      have granted := granted_newElement ctrlSearch ports.ctrl_nonneg msgSearch ports.msg_nonneg
        networkId node
      rw [nodeLooks_of_search absent ctrlSearch, if_neg ports.ctrl_nonneg]
      rw [List.append_assoc] at looked
      refine ⟨looked.walked.of_eq ?_, ?_⟩
      · exact (appendElement_frame appended).1.trans (nextPort_of_growIfFull grown)
      · rw [Iteration.final, (appendElement_effect appended).1, (growIfFull_effect grown).1,
          List.forall_mem_append, List.forall_mem_singleton]
        exact ⟨looked.granted, granted.trans (List.sublist_append_right log _)⟩

/-- By induction on the nodes: the loop goes on behind an iteration, or is left there. -/
theorem Logged.addNodes (logged : Logged log before)
    (ran : Database.addNodes os networkId nodes before = some after) :
    Logged (log ++ loopLooks os networkId nodes before) after := by
  induction nodes generalizing log before with
  | nil =>
      rw [loopLooks, List.append_nil, ← Option.some.inj ran]
      exact logged
  | cons node nodes ih =>
      rcases addNodes_cons_cases ran with ⟨middle, iterated, rest⟩ | iterated
      · rw [loopLooks, iterated, ← List.append_assoc]
        exact ih (logged.addNode iterated) rest
      · rw [loopLooks, iterated, List.append_nil]
        exact logged.addNode iterated

theorem updateLooks_of_startsLoop {call : Call} {ready : State}
    (starts : StartsLoop call.os call.list before ready) :
    updateLooks call before = loopLooks call.os call.list.networkId call.list.entries ready := by
  rcases starts with ⟨needCapacity, code, needed, ensured, success⟩
  simp only [updateLooks, needed, ensured, if_neg success]

theorem updateLooks_of_noLoop {call : Call}
    (noLoop : ∀ ready, ¬StartsLoop call.os call.list before ready) :
    updateLooks call before = [] := by
  rw [updateLooks]
  split
  · rfl
  · next needCapacity needed =>
      split
      · rfl
      · next code ready ensured =>
          split
          · rfl
          · next success =>
              exact absurd ⟨needCapacity, code, needed, ensured, success⟩ (noLoop ready)

theorem Logged.startsLoop {call : Call} {ready : State} (logged : Logged log before)
    (starts : StartsLoop call.os call.list before ready) : Logged log ready := by
  apply logged.of_subset _ starts.nextPort_eq
  rw [starts.entries_eq]
  exact (removeWhere_subperm _ _).subset

theorem Logged.step {call : Call} (logged : Logged log before)
    (stepped : manager.step before call = some after) :
    Logged (log ++ updateLooks call before) after := by
  rcases manager_step_eq_some.mp stepped with ⟨result, ran⟩
  cases updateNodeinfoDatabase_path ran with
  | noCapacity ensured _ noLoop =>
      rw [updateLooks_of_noLoop noLoop, List.append_nil]
      apply logged.of_subset
      · rw [(ensureDbCapacity_effect ensured).1, entries_removeObsolete]
        exact (removeWhere_subperm _ _).subset
      · rw [nextPort_of_ensureDbCapacity ensured, nextPort_removeObsolete]
  | noSnapshot starts added _ =>
      rw [updateLooks_of_startsLoop starts]
      exact ((logged.startsLoop starts).addNodes added).of_subset (List.Subset.refl _) rfl
  | snapshot starts added _ =>
      rw [updateLooks_of_startsLoop starts]
      exact ((logged.startsLoop starts).addNodes added).of_subset (List.Subset.refl _) rfl

theorem Logged.runFrom {calls : List Call} (logged : Logged log before)
    (ran : manager.runFrom before calls = some after) :
    Logged (log ++ historyLooks before calls) after := by
  induction calls generalizing log before with
  | nil =>
      rw [historyLooks, List.append_nil, ← Option.some.inj ran]
      exact logged
  | cons call calls ih =>
      rcases manager.runFrom_cons_eq_some.mp ran with ⟨next, stepped, rest⟩
      rw [historyLooks, stepped, ← List.append_assoc]
      exact ih (logged.step stepped) rest

theorem Logged.initial : Logged [] State.initial where
  walked := ⟨.initial, .nil, by decide⟩
  granted := by simp

end Logged

/-- The looks are at the ports in turn, and are back at one only after all the others. -/
structure ComesRound (log : List Look) : Prop where
  port_eq : ∀ (index : ℕ) (look : Look), log[index]? = some look →
    look.port = 10000 + (index % 55536 : ℕ)
  others : ∀ (earlier later : ℕ) (port other : ℤ), earlier < later →
    log[earlier]? = some ⟨port, .granted⟩ → log[later]? = some ⟨port, .granted⟩ →
    10000 ≤ other → other ≤ 65535 → other ≠ port →
    ∃ (between : ℕ) (look : Look), earlier < between ∧ between < later ∧
      log[between]? = some look ∧ look.port = other

theorem Walked.comesRound {log : List Look} {state : State} (walked : Walked log state) :
    ComesRound log := by
  have visited {index : ℕ} {look : Look} (looked : log[index]? = some look) :
      (log.map Look.port)[index]? = some look.port := by
    rw [List.getElem?_map, looked, Option.map_some]
  refine ⟨?_, ?_⟩
  · intro index look looked
    have point := walked.walk index look.port (visited looked)
    rw [Nat.zero_add] at point
    exact point
  · intro earlier later port other before granted again lower upper different
    rcases walked.walk.visits_between before (visited granted) (visited again) lower
      (by rw [portBase, portCount]; omega) with ⟨between, from_earlier, to_later, between_eq⟩
    rw [List.getElem?_map, Option.map_eq_some_iff] at between_eq
    rcases between_eq with ⟨look, looked, look_eq⟩
    refine ⟨between, look, ?_, to_later, looked, look_eq⟩
    rcases Nat.lt_or_eq_of_le from_earlier with after_earlier | rfl
    · exact after_earlier
    · rw [granted, Option.some.injEq] at looked
      rw [← looked] at look_eq
      exact absurd look_eq.symm different

/--
In every history the ports that have been looked at are those from 10000 to 65535 in turn,
over and over again. Both ports of every entry have been granted on this walk, and a port
that has been granted is granted again only after every other port has been looked at.
-/
theorem ports_come_round (calls : List Call) (state : State)
    (ran : manager.run calls = some state) :
    ComesRound (historyLooks State.initial calls) ∧
      ∀ element ∈ state.entries, Granted (historyLooks State.initial calls) element := by
  have logged := Logged.initial.runFrom ran
  rw [List.nil_append] at logged
  exact ⟨logged.walked.comesRound, logged.granted⟩

theorem ports_come_round_sampleCalls : ∃ state, manager.run sampleCalls = some state ∧
    ComesRound (historyLooks State.initial sampleCalls) ∧
      ∀ element ∈ state.entries, Granted (historyLooks State.initial sampleCalls) element := by
  rcases exists_run_sampleCalls with ⟨state, ran⟩
  exact ⟨state, ran, ports_come_round sampleCalls state ran⟩

end NodeinfoSystem.Database
