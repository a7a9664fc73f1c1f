import NodeinfoSystem.Collector.Transfer
import NodeinfoSystem.Foundation.Superposition
import NodeinfoSystem.Lan.Distribution
import NodeinfoSystem.Lan.Members

/-!
# The lists of a LAN

A journal beside the hosts keeps what they no longer have: the nodedata that was
announced, the list of every mastership as far as it has grown, and the lists that
members have accepted. The list of a mastership only grows at its end, so any two
lists that members accept from one mastership agree on what both of them hold.
-/

namespace NodeinfoSystem.Lan

open Foundation

/-- A list that a member has accepted. -/
structure Acceptance where
  member : Host
  master : Host
  /-- The mastership of the master that it was sent in. -/
  term : ℕ
  entries : List (Nodedata UInt32)
  deriving DecidableEq

structure Journal where
  /-- Nodedata that its own host has sent, or put into its own list. -/
  announced : List (Nodedata UInt32)
  /-- How many times a host has become a master. -/
  terms : Host → ℕ
  /-- The list of every mastership. -/
  lists : Host → ℕ → List (Nodedata UInt32)
  /-- The mastership in which the socket of a distribution was opened. -/
  opened : Host → ℕ → ℕ
  accepted : List Acceptance

/-- The list that a member reads next, when it waits for one. -/
def State.listRead (state : State) (member : Host) : Option (Endpoint × NodedataList UInt32) :=
  match state.dataRead .nodedataList member with
  | none => none
  | some (source, datagram) =>
      (Wire.Member.receiveNodedataList true true (some datagram)).map fun list => (source, list)

namespace Journal

def initial : Journal where
  announced := []
  terms _ := 0
  lists _ _ := []
  opened _ _ := 0
  accepted := []

def announce (node : Nodedata UInt32) (journal : Journal) : Journal :=
  { journal with announced := node :: journal.announced }

/-- The list of the current mastership is now this one. -/
def write (name : Host) (entries : List (Nodedata UInt32)) (journal : Journal) : Journal :=
  { journal with
    lists := Function.update journal.lists name
      (Function.update (journal.lists name) (journal.terms name) entries) }

def begin (name : Host) (journal : Journal) : Journal :=
  { journal with terms := Function.update journal.terms name (journal.terms name + 1) }

def openDistribution (name : Host) (number : ℕ) (journal : Journal) : Journal :=
  { journal with
    opened := Function.update journal.opened name
      (Function.update (journal.opened name) number (journal.terms name)) }

/-- The mastership of the socket that a payload came from. -/
def termOf (source : Endpoint) (journal : Journal) : ℕ :=
  match source.port with
  | .distribution number => journal.opened source.host number
  | _ => 0

def accept (member : Host) (read : Option (Endpoint × NodedataList UInt32)) (journal : Journal) :
    Journal :=
  match read with
  | none => journal
  | some (source, list) =>
      { journal with
        accepted := ⟨member, source.host, journal.termOf source, list.entries⟩ ::
          journal.accepted }

/-- A host that stops in the step has announced nothing by it. -/
def record (state : State) (action : Action) (next : State) (journal : Journal) : Journal :=
  match action with
  | .sendNodedata name userid cpuCoreNum =>
      if (next.hosts name).phase.runs then journal.announce ⟨name, userid, cpuCoreNum⟩
      else journal
  | .masterStart name _ userid cpuCoreNum _ =>
      if (next.hosts name).phase.runs then
        ((journal.announce ⟨name, userid, cpuCoreNum⟩).begin name).write name
          (next.hosts name).list.entries
      else journal
  | .masterRecv name _ =>
      if (next.hosts name).phase.runs then
        (journal.openDistribution name (state.hosts name).sockets).write name
          (next.hosts name).list.entries
      else journal
  | .receiveData name => journal.accept name (state.listRead name)
  | _ => journal

end Journal

/-- The hosts of a LAN, and the journal of their run. -/
def journaled : TransitionSystem (State × Journal) Action :=
  lan.observe Journal.initial Journal.record

/-- The master that takes the nodedata of a node in the step. -/
def Action.taker? : Action → Option Host
  | .masterRecv name _ => some name
  | _ => none

/-- A node joins only while the master's list has room. -/
def Roomy (state : State) (action : Action) : Prop :=
  ∀ name ∈ action.taker?, state.HasRoom name

instance (state : State) (action : Action) : Decidable (Roomy state action) :=
  Option.decidableForallMem action.taker?

/-! ## How a journal grows -/

/-- A later journal of the same run, as far as it is about lists. -/
structure Journal.Grows (journal later : Journal) : Prop where
  announced : journal.announced ⊆ later.announced
  lists : ∀ name term, journal.lists name term <+: later.lists name term

theorem Journal.Grows.refl (journal : Journal) : journal.Grows journal where
  announced _ node_mem := node_mem
  lists _ _ := List.prefix_rfl

/-- A list that may be sent in a mastership, to a member in it. -/
structure Shares (journal : Journal) (acceptance : Acceptance) : Prop where
  part : acceptance.entries <+: journal.lists acceptance.master acceptance.term
  member_mem : acceptance.member ∈ acceptance.entries.map (·.ipaddress)

theorem Shares.grow {journal later : Journal} {acceptance : Acceptance}
    (shares : Shares journal acceptance) (grows : journal.Grows later) :
    Shares later acceptance where
  part := shares.part.trans (grows.lists _ _)
  member_mem := shares.member_mem

/-- A list on its way from the loop over the members. -/
inductive Carried (hosts : Host → HostState) (journal : Journal) :
    Packet Endpoint Message → Prop
  | payload {name member : Host} {number : ℕ} {block : Collector.ListBlock}
      {datagram : Wire.Datagram} (opened : number < (hosts name).sockets)
      (wellFormed : block.WellFormed) (sent : Collector.listPayload block = some datagram)
      (shares : Shares journal ⟨member, name, journal.opened name number, block.entries⟩) :
      Carried hosts journal ⟨⟨name, .distribution number⟩, ⟨member, .data .nodedataList⟩,
        .payload datagram⟩

/-- The lists of the masters, in their memory and in the journal. -/
structure Kept (state : State) (journal : Journal) : Prop where
  wellFormed : ∀ name, (state.hosts name).list.WellFormed
  current : ∀ name, journal.lists name (journal.terms name) = (state.hosts name).list.entries
  future : ∀ name term, journal.terms name < term → journal.lists name term = []
  own : ∀ name term, ∀ node ∈ (journal.lists name term).head?, node.ipaddress = name
  listed : ∀ name term, journal.lists name term ⊆ journal.announced
  loops : ∀ name number loop,
    (state.hosts name).phase = .master (.distributing .nodedataList number loop) →
    number < (state.hosts name).sockets ∧ journal.opened name number = journal.terms name ∧
      loop.targets ⊆ (state.hosts name).list.entries.map (·.ipaddress)
  payloads : ∀ packet ∈ state.net.packets, IsList packet → Carried state.hosts journal packet

/-! ## Steps -/

theorem Carried.later {hosts nextHosts : Host → HostState} {journal later : Journal}
    {packet : Packet Endpoint Message} (carried : Carried hosts journal packet)
    (sockets : ∀ name, (hosts name).sockets ≤ (nextHosts name).sockets)
    (grows : journal.Grows later)
    (opened : ∀ name number, number < (hosts name).sockets →
      later.opened name number = journal.opened name number) : Carried nextHosts later packet := by
  cases carried with
  | payload isOpen wellFormed sent shares =>
      refine .payload (isOpen.trans_le (sockets _)) wellFormed sent ?_
      rw [opened _ _ isOpen]
      exact shares.grow grows

section Write

variable {name : Host} {entries : List (Nodedata UInt32)} {journal : Journal}

theorem lists_write_self :
    (journal.write name entries).lists name (journal.terms name) = entries := by
  simp [Journal.write]

theorem lists_write_of_ne {other : Host} {term : ℕ}
    (elsewhere : other ≠ name ∨ term ≠ journal.terms name) :
    (journal.write name entries).lists other term = journal.lists other term := by
  simp only [Journal.write]
  by_cases same : other = name
  · subst other
    simp [elsewhere.resolve_left (by simp)]
  · simp [same]

/-- A list is written over by one that goes on with it. -/
theorem grows_write (extends_ : journal.lists name (journal.terms name) <+: entries) :
    journal.Grows (journal.write name entries) where
  announced _ node_mem := node_mem
  lists other term := by
    by_cases here : other = name ∧ term = journal.terms name
    · rcases here with ⟨rfl, rfl⟩
      rw [lists_write_self]
      exact extends_
    · refine ⟨[], ?_⟩
      rw [List.append_nil, lists_write_of_ne (by rwa [← not_and_or])]

end Write

namespace Kept

variable {state next : State} {journal later : Journal} {name : Host}

theorem quiet (kept : Kept state journal) (unserved : Unserved state next)
    (terms_eq : later.terms = journal.terms) (lists_eq : later.lists = journal.lists)
    (opened_eq : later.opened = journal.opened) (announced : journal.announced ⊆ later.announced) :
    Kept next later where
  wellFormed other := unserved.list other ▸ kept.wellFormed other
  current other := by
    rw [terms_eq, lists_eq, unserved.list]
    exact kept.current other
  future := by
    rw [terms_eq, lists_eq]
    exact kept.future
  own := by
    rw [lists_eq]
    exact kept.own
  listed other term := by
    rw [lists_eq]
    exact fun _ node_mem => announced (kept.listed other term node_mem)
  loops other number loop phase_eq := by
    rcases unserved.loops other number loop phase_eq with ⟨before, before_eq, targets⟩
    rcases kept.loops other number before before_eq with ⟨isOpen, term_eq, aimed⟩
    rw [opened_eq, terms_eq, unserved.list]
    exact ⟨isOpen.trans_le (unserved.sockets other), term_eq,
      fun _ target => aimed (targets target)⟩
  payloads packet packet_mem isList := by
    refine (kept.payloads packet (unserved.packets packet packet_mem isList) isList).later
      unserved.sockets ⟨announced, ?_⟩ ?_
    · rw [lists_eq]
      exact fun _ _ => List.prefix_rfl
    · rw [opened_eq]
      exact fun _ _ _ => rfl

/-- A database is fetched. -/
theorem fetch (kept : Kept state journal) {database : Option NodeinfoDatabase} :
    Kept (state.put name { state.hosts name with database := database } state.net) journal := by
  have same (other : Host) :
      let host := Function.update state.hosts name
        { state.hosts name with database := database } other
      host.list = (state.hosts other).list ∧ host.phase = (state.hosts other).phase ∧
        host.sockets = (state.hosts other).sockets := by
    by_cases here : other = name
    · subst other
      simp
    · simp [here]
  refine ⟨?_, ?_, kept.future, kept.own, kept.listed, ?_, ?_⟩
  · intro other
    exact (same other).1 ▸ kept.wellFormed other
  · intro other
    exact (kept.current other).trans (congrArg Collector.ListBlock.entries (same other).1.symm)
  · intro other number loop phase_eq
    simp only [State.put, (same other).1, (same other).2.2]
    exact kept.loops other number loop ((same other).2.1 ▸ phase_eq)
  · intro packet packet_mem isList
    exact (kept.payloads packet packet_mem isList).later (fun other => (same other).2.2.ge)
      (.refl journal) fun _ _ _ => rfl

/-- A master's list changes, or is a new one, and nothing is sent. -/
theorem change (kept : Kept state journal) {host : HostState} {net : LanNetwork}
    (owned : Owned name 0 state.net net)
    (hosts_eq : next.hosts = Function.update state.hosts name host)
    (net_eq : next.net = net) (sockets : (state.hosts name).sockets ≤ host.sockets)
    (wellFormed : host.list.WellFormed) (grows : journal.Grows later)
    (lists_eq : later.lists = journal.lists) (newer : journal.terms name ≤ later.terms name)
    (terms_eq : ∀ other, other ≠ name → later.terms other = journal.terms other)
    (opened_eq : ∀ other number, number < (state.hosts other).sockets →
      later.opened other number = journal.opened other number)
    (extends_ : later.lists name (later.terms name) <+: host.list.entries)
    (own : ∀ node ∈ host.list.entries.head?, node.ipaddress = name)
    (listed : host.list.entries ⊆ later.announced)
    (loops : ∀ number loop, host.phase = .master (.distributing .nodedataList number loop) →
      number < host.sockets ∧ later.opened name number = later.terms name ∧
        loop.targets ⊆ host.list.entries.map (·.ipaddress)) :
    Kept next (later.write name (next.hosts name).list.entries) ∧
      journal.Grows (later.write name (next.hosts name).list.entries) := by
  have host_eq : next.hosts name = host := by rw [hosts_eq, Function.update_self]
  have further : journal.Grows (later.write name host.list.entries) :=
    ⟨grows.announced, fun other term => (grows.lists other term).trans
      ((grows_write extends_).lists other term)⟩
  rw [host_eq]
  have written (other : Host) (term : ℕ) :
      (later.write name host.list.entries).lists other term = host.list.entries ∧ other = name ∧
          term = later.terms name ∨
        (later.write name host.list.entries).lists other term = journal.lists other term := by
    by_cases here : other = name ∧ term = later.terms name
    · rcases here with ⟨rfl, rfl⟩
      exact Or.inl ⟨lists_write_self, rfl, rfl⟩
    · rw [lists_write_of_ne (by rwa [← not_and_or]), lists_eq]
      exact Or.inr rfl
  refine ⟨⟨?_, ?_, ?_, ?_, ?_, ?_, ?_⟩, further⟩
  · intro other
    by_cases same : other = name
    · subst other
      simpa [hosts_eq] using wellFormed
    · simpa [hosts_eq, same] using kept.wellFormed other
  · intro other
    by_cases same : other = name
    · subst other
      simp only [hosts_eq, Function.update_self]
      exact lists_write_self
    · rw [lists_write_of_ne (Or.inl same), lists_eq, hosts_eq, Function.update_of_ne same]
      exact terms_eq other same ▸ kept.current other
  · intro other term newest
    change later.terms other < term at newest
    rcases written other term with ⟨-, rfl, rfl⟩ | before
    · exact absurd newest (lt_irrefl _)
    · rw [before]
      by_cases same : other = name
      · subst other
        exact kept.future _ term (newer.trans_lt newest)
      · exact kept.future other term (terms_eq other same ▸ newest)
  · intro other term
    rcases written other term with ⟨now, rfl, -⟩ | before
    · rw [now]
      exact own
    · rw [before]
      exact kept.own other term
  · intro other term
    rcases written other term with ⟨now, -, -⟩ | before
    · rw [now]
      exact listed
    · rw [before]
      exact fun _ node_mem => grows.announced (kept.listed other term node_mem)
  · intro other number loop phase_eq
    by_cases same : other = name
    · subst other
      simp only [hosts_eq, Function.update_self] at phase_eq ⊢
      exact loops number loop phase_eq
    · simp only [hosts_eq, Function.update_of_ne same] at phase_eq ⊢
      rcases kept.loops other number loop phase_eq with ⟨isOpen, term_eq, aimed⟩
      exact ⟨isOpen, (opened_eq other number isOpen).trans
        (term_eq.trans (terms_eq other same).symm), aimed⟩
  · intro packet packet_mem isList
    have old : packet ∈ state.net.packets := by
      rcases owned.mem_or_sent (net_eq ▸ packet_mem) with new | old
      · simp at new
      · exact old
    refine (kept.payloads packet old isList).later ?_ further opened_eq
    intro other
    by_cases same : other = name
    · subst other
      simpa [hosts_eq] using sockets
    · simp [hosts_eq, same]

/-- The list is sent to one of those in it. -/
theorem serve (kept : Kept state journal) {number : ℕ} {loop : Loop} {target : Host}
    {rest : List Host} {datagram : Wire.Datagram}
    (phase_eq : (state.hosts name).phase = .master (.distributing .nodedataList number loop))
    (targets_eq : loop.targets = target :: rest)
    (payload_eq : Collector.listPayload (state.hosts name).list = some datagram) :
    Kept (state.move name (.master (.distributing .nodedataList number (loop.next rest false)))
      (state.net.send ⟨⟨name, .distribution number⟩, ⟨target, .data .nodedataList⟩,
        .payload datagram⟩)) journal := by
  rcases kept.loops name number loop phase_eq with ⟨isOpen, term_eq, aimed⟩
  have unserved : Unserved state (state.move name
      (.master (.distributing .nodedataList number (loop.next rest false))) state.net) :=
    .turn phase_eq (by simp [Loop.next, targets_eq]) (Owned.refl _ _) (by simp)
  have moved := kept.quiet unserved rfl rfl rfl fun _ node_mem => node_mem
  refine ⟨moved.wellFormed, moved.current, kept.future, kept.own, kept.listed, moved.loops, ?_⟩
  intro packet packet_mem isList
  rw [State.move, State.put, Network.packets_send, Multiset.mem_cons] at packet_mem
  rcases packet_mem with rfl | old
  · refine .payload (isOpen.trans_le (unserved.sockets name)) (kept.wellFormed name) payload_eq
      ⟨?_, aimed (by simp [targets_eq])⟩
    refine ⟨[], ?_⟩
    rw [List.append_nil, term_eq, kept.current]
  · exact moved.payloads packet old isList

end Kept

/-- A host that is past the start of the master procedure has a list. -/
def Founded (hosts : Host → HostState) : Prop :=
  ∀ name phase, (hosts name).phase = .master phase → phase ≠ .starting →
    (hosts name).list.entries ≠ []

namespace Founded

variable {hosts : Host → HostState} {name : Host}

theorem update (founded : Founded hosts) {host : HostState}
    (listed : ∀ phase, host.phase = .master phase → phase ≠ .starting → host.list.entries ≠ []) :
    Founded (Function.update hosts name host) := by
  intro other phase phase_eq started
  by_cases same : other = name
  · subst other
    simp only [Function.update_self] at phase_eq ⊢
    exact listed phase phase_eq started
  · simp only [Function.update_of_ne same] at phase_eq ⊢
    exact founded other phase phase_eq started

/-- No host passes the start of the master procedure without a list. -/
theorem stay (founded : Founded hosts) {before : MasterPhase}
    (phase_eq : (hosts name).phase = .master before) (started : before ≠ .starting)
    {host : HostState} (list_eq : host.list = (hosts name).list) :
    Founded (Function.update hosts name host) := by
  refine founded.update ?_
  intro _ _ _
  rw [list_eq]
  exact founded name before phase_eq started

theorem away (founded : Founded hosts) {host : HostState}
    (elsewhere : ∀ phase, host.phase = .master phase → phase = .starting) :
    Founded (Function.update hosts name host) :=
  founded.update fun phase phase_eq started => absurd (elsewhere phase phase_eq) started

end Founded

theorem entries_firstList (garbage : Collector.Garbage) (me : Nodedata UInt32)
    (networkId : Int32) :
    ({ (Collector.emptyList garbage).push me with networkId := networkId } :
      Collector.ListBlock).entries = [me] :=
  Collector.ListBlock.entries_push (Collector.wellFormed_emptyList garbage)
    (by simp [Collector.emptyList, initialSizeOfNodedataList]) me

theorem entries_addToList {stale list : Collector.ListBlock} (wellFormed : list.WellFormed)
    (room : list.currentSize.toInt < list.maxSize.toInt) (node : Nodedata UInt32) :
    (addToList stale list node).entries = list.entries ++ [node] := by
  simp only [addToList, if_neg (not_le.mpr room)]
  exact Collector.ListBlock.entries_push wellFormed room node

theorem founded_step {state next : State} {action : Action} (roomy : Roomy state action)
    (wellFormed : ∀ name, (state.hosts name).list.WellFormed) (founded : Founded state.hosts)
    (step : Step state action next) : Founded next.hosts := by
  cases step with
  | deliver => exact founded
  | start | receiveReply | joinTimeout | connect | refused | send | openControl | identify
  | unknown | acknowledge | openData | receiveData | badData | refuseNodedata | stop =>
      exact founded.away (by simp)
  | masterStart =>
      refine founded.update ?_
      intro _ _ _
      simp only [entries_firstList]
      exact List.cons_ne_nil _ _
  | masterOpen phase_eq | masterTimeout phase_eq | masterReceive phase_eq
  | masterReply phase_eq | masterClose phase_eq | masterListen phase_eq
  | masterAccept phase_eq =>
      exact founded.stay phase_eq (by simp) rfl
  | @masterRecv name stale list client code connection node phase_eq first stream_eq list_eq =>
      refine founded.update ?_
      intro _ _ _
      rcases list_eq with rfl | ⟨rfl, valid, rfl⟩
      · exact founded name _ phase_eq (by simp)
      · have room := roomy name rfl (adds_of_join phase_eq first stream_eq valid)
        rw [entries_addToList (wellFormed name) room]
        simp
  | @busy action name before after sockets database sent net phase_eq before_busy =>
      refine founded.stay phase_eq ?_ rfl
      rintro rfl
      exact before_busy

/-! ## What a connection carries -/

/-- What a connection carries was there before, or is sent by its own host in this step. -/
theorem carried_of_step {state next : State} {action : Action} (step : Step state action next)
    {connection : Connection} (connection_mem : connection ∈ next.connections)
    {node : Nodedata UInt32} (stream_eq : connection.stream = .sent node) :
    (∃ old ∈ state.connections, old.stream = .sent node) ∨
      action = .sendNodedata node.ipaddress node.userid node.cpuCoreNum ∧
        (next.hosts node.ipaddress).phase.runs = true := by
  have of_exit {name : Host} {connections : List Connection}
      (old : ∀ other ∈ connections, other ∈ state.connections)
      (left : connection ∈ (connections.filter (·.server ≠ name)).map (·.abandon name)) :
      ∃ old ∈ state.connections, old.stream = .sent node := by
    rcases List.mem_map.mp left with ⟨before, before_mem, rfl⟩
    refine ⟨before, old before (List.mem_filter.mp before_mem).1, ?_⟩
    simp only [Connection.abandon] at stream_eq
    split at stream_eq
    · contradiction
    · exact stream_eq
  cases step with
  | deliver | start | receiveReply | joinTimeout | openControl | identify | acknowledge
  | openData | receiveData | masterStart | masterOpen | masterTimeout | masterReceive
  | masterReply | masterClose | masterListen | masterAccept | busy =>
      exact Or.inl ⟨connection, connection_mem, stream_eq⟩
  | connect =>
      rcases List.mem_append.mp connection_mem with old | new
      · exact Or.inl ⟨connection, old, stream_eq⟩
      · rw [List.mem_singleton.mp new] at stream_eq
        contradiction
  | @send name master userid cpuCoreNum phase_eq =>
      rcases List.mem_map.mp connection_mem with ⟨before, before_mem, rfl⟩
      simp only [Connection.carry] at stream_eq
      split at stream_eq
      · obtain rfl := Stream.sent.inj stream_eq
        exact Or.inr ⟨rfl, by simp [State.move, State.put, Phase.runs]⟩
      · exact Or.inl ⟨before, before_mem, stream_eq⟩
  | masterRecv =>
      exact Or.inl ⟨connection, (List.mem_filter.mp connection_mem).1, stream_eq⟩
  | refused | unknown | badData | stop =>
      exact Or.inl (of_exit (fun _ old => old) connection_mem)
  | refuseNodedata =>
      exact Or.inl (of_exit (fun _ old => (List.mem_filter.mp old).1) connection_mem)

/-! ## Runs -/

structure Agreed (state : State) (journal : Journal) : Prop where
  kept : Kept state journal
  founded : Founded state.hosts
  streams : ∀ connection ∈ state.connections, ∀ node, connection.stream = .sent node →
    node ∈ journal.announced
  accepted : ∀ acceptance ∈ journal.accepted, Shares journal acceptance

section Record

variable {state next : State} {action : Action} {journal : Journal} {name : Host}

@[simp]
theorem accept_eq (member : Host) (read : Option (Endpoint × NodedataList UInt32)) :
    (journal.accept member read).announced = journal.announced ∧
      (journal.accept member read).terms = journal.terms ∧
      (journal.accept member read).lists = journal.lists ∧
      (journal.accept member read).opened = journal.opened := by
  cases read <;> exact ⟨rfl, rfl, rfl, rfl⟩

/-- A step that changes no list leaves the masterships as they are. -/
theorem record_quiet
    (stopped : ∀ name, action.master? = some name → (next.hosts name).phase.runs = false) :
    (journal.record state action next).terms = journal.terms ∧
      (journal.record state action next).lists = journal.lists ∧
      (journal.record state action next).opened = journal.opened := by
  cases action with
  | masterStart name | masterRecv name => simp [Journal.record, stopped name rfl]
  | sendNodedata =>
      simp only [Journal.record]
      split <;> exact ⟨rfl, rfl, rfl⟩
  | receiveData => simp [Journal.record]
  | _ => exact ⟨rfl, rfl, rfl⟩

theorem announced_record : journal.announced ⊆ (journal.record state action next).announced := by
  cases action with
  | sendNodedata | masterStart =>
      simp only [Journal.record]
      split
      · exact List.subset_cons_self _ _
      · exact fun _ node_mem => node_mem
  | masterRecv =>
      simp only [Journal.record]
      split <;> exact fun _ node_mem => node_mem
  | receiveData => simp [Journal.record]
  | _ => exact fun _ node_mem => node_mem

theorem accepted_record {acceptance : Acceptance}
    (acceptance_mem : acceptance ∈ (journal.record state action next).accepted) :
    acceptance ∈ journal.accepted ∨ ∃ source list,
      state.listRead acceptance.member = some (source, list) ∧
      acceptance.master = source.host ∧ acceptance.term = journal.termOf source ∧
      acceptance.entries = list.entries := by
  cases action with
  | sendNodedata | masterStart | masterRecv =>
      simp only [Journal.record] at acceptance_mem
      split at acceptance_mem <;> exact Or.inl acceptance_mem
  | receiveData name =>
      simp only [Journal.record, Journal.accept] at acceptance_mem
      split at acceptance_mem
      · exact Or.inl acceptance_mem
      · next source list read =>
          rcases List.mem_cons.mp acceptance_mem with rfl | old
          · exact Or.inr ⟨source, list, read, rfl, rfl, rfl⟩
          · exact Or.inl old
  | _ => exact Or.inl acceptance_mem

theorem Kept.shares_of_listRead (kept : Kept state journal) {source : Endpoint}
    {list : NodedataList UInt32} (read : state.listRead name = some (source, list)) :
    Shares journal ⟨name, source.host, journal.termOf source, list.entries⟩ := by
  simp only [State.listRead] at read
  split at read
  · contradiction
  · next origin datagram reads =>
      rcases Option.map_eq_some_iff.mp read with ⟨accepted, accepted_eq, same⟩
      obtain ⟨rfl, rfl⟩ := Prod.mk.inj same
      have carried := kept.payloads _ (mem_packets_of_dataRead reads) ⟨rfl, datagram, rfl⟩
      cases carried with
      | payload _ wellFormed sent shares =>
          have inside := wellFormed.bounded.trans_eq wellFormed.slots_length.symm
          have entries_eq := Collector.entries_of_listPayload wellFormed.nonneg inside sent
            accepted_eq
          rwa [entries_eq]

end Record

namespace Agreed

variable {state next : State} {journal : Journal} {name : Host}

/-- A mastership begins with the list of its master alone. -/
theorem begin (agreed : Agreed state journal) (garbage : Collector.Garbage)
    (userid cpuCoreNum networkId : Int32) :
    let next := state.put name { state.hosts name with
      phase := .master .opening
      list := { (Collector.emptyList garbage).push ⟨name, userid, cpuCoreNum⟩ with
        networkId := networkId }
      database := none } state.net
    let later := journal.record state (.masterStart name garbage userid cpuCoreNum networkId) next
    Kept next later ∧ journal.Grows later := by
  intro next later
  have runs : (next.hosts name).phase.runs = true := by simp [next, State.put, Phase.runs]
  have first := entries_firstList garbage ⟨name, userid, cpuCoreNum⟩ networkId
  have fresh := agreed.kept.future name (journal.terms name + 1) (Nat.lt_succ_self _)
  simp only [later, Journal.record, runs, if_true]
  refine agreed.kept.change (Owned.refl name state.net) rfl rfl (Nat.le_refl _)
    (wellFormed_firstList garbage _ networkId) ⟨List.subset_cons_self _ _, fun _ _ =>
      List.prefix_rfl⟩ rfl ?_ ?_ (fun _ _ _ => rfl) ?_ ?_ ?_ (by simp)
  · simp [Journal.begin, Journal.announce]
  · intro other foreign
    simp [Journal.begin, Journal.announce, foreign]
  · simp only [Journal.begin, Journal.announce, Function.update_self, fresh]
    exact List.nil_prefix
  · intro node node_mem
    obtain rfl := Option.some.inj ((congrArg List.head? first).symm.trans node_mem)
    rfl
  · intro node node_mem
    rw [List.mem_singleton.mp ((congrArg (node ∈ ·) first).mp node_mem)]
    exact List.mem_cons_self

/-- A list that a node has joined, or that a request to leave has left as it was. -/
theorem join (agreed : Agreed state journal) {stale list : Collector.ListBlock}
    {client : Endpoint} {code : RequestCode} {connection : Connection} {node : Nodedata UInt32}
    (roomy : Roomy state (.masterRecv name stale)) (listed : (state.hosts name).list.entries ≠ [])
    (phase_eq : (state.hosts name).phase = .master (.receiving client code))
    (first : firstConnection name state.connections = some connection)
    (stream_eq : connection.stream = .sent node)
    (list_eq : list = (state.hosts name).list ∨ code = .join ∧ Collector.ValidNode node ∧
      list = addToList stale (state.hosts name).list node)
    (hosts_eq : next.hosts = Function.update state.hosts name { state.hosts name with
      phase := .master (.distributing .nodedataList (state.hosts name).sockets (startLoop list))
      sockets := (state.hosts name).sockets + 1
      list := list })
    (net_eq : next.net = state.net.openSocket ⟨name, .distribution (state.hosts name).sockets⟩) :
    Kept next (journal.record state (.masterRecv name stale) next) ∧
      journal.Grows (journal.record state (.masterRecv name stale) next) := by
  have wellFormed := agreed.kept.wellFormed name
  have current := agreed.kept.current name
  have runs : (next.hosts name).phase.runs = true := by simp [hosts_eq, Phase.runs]
  have announced := agreed.streams connection (List.mem_of_find?_eq_some first) node stream_eq
  have kept_listed : (state.hosts name).list.entries ⊆ journal.announced :=
    current ▸ agreed.kept.listed name (journal.terms name)
  have grown : list.WellFormed ∧ (list.entries = (state.hosts name).list.entries ∨
      list.entries = (state.hosts name).list.entries ++ [node]) := by
    rcases list_eq with rfl | ⟨rfl, valid, rfl⟩
    · exact ⟨wellFormed, Or.inl rfl⟩
    · have room := roomy name rfl (adds_of_join phase_eq first stream_eq valid)
      exact ⟨wellFormed_addToList wellFormed room node,
        Or.inr (entries_addToList wellFormed room node)⟩
  have longer : (state.hosts name).list.entries <+: list.entries := by
    rcases grown.2 with same | appended
    · exact same ▸ List.prefix_rfl
    · exact ⟨[node], appended.symm⟩
  simp only [Journal.record, runs, if_true]
  refine agreed.kept.change (Owned.openSocket name _ state.net) hosts_eq net_eq (Nat.le_succ _)
    grown.1 ⟨fun _ node_mem => node_mem, fun _ _ => List.prefix_rfl⟩ rfl (Nat.le_refl _)
    (fun _ _ => rfl) ?_ (current ▸ longer) ?_ ?_ ?_
  · intro other number isOpen
    by_cases same : other = name
    · subst other
      simp [Journal.openDistribution, isOpen.ne]
    · simp [Journal.openDistribution, same]
  · intro head head_mem
    apply agreed.kept.own name (journal.terms name)
    rw [current]
    rcases longer with ⟨rest, appended⟩
    rwa [← appended, List.head?_append_of_ne_nil _ listed] at head_mem
  · rcases grown.2 with same | appended
    · exact same ▸ kept_listed
    · rw [appended]
      exact List.append_subset.mpr ⟨kept_listed, fun other other_mem =>
        List.mem_singleton.mp other_mem ▸ announced⟩
  · intro number loop phase_eq
    simp only [Phase.master.injEq, MasterPhase.distributing.injEq, true_and] at phase_eq
    rcases phase_eq with ⟨rfl, rfl⟩
    exact ⟨Nat.lt_succ_self _, by simp [Journal.openDistribution], fun _ target => target⟩

theorem step {action : Action} (agreed : Agreed state journal) (roomy : Roomy state action)
    (stepped : lan.step state action = some next) :
    Agreed next (journal.record state action next) := by
  have step := Step.of_step stepped
  have written : Kept next (journal.record state action next) ∧
      journal.Grows (journal.record state action next) := by
    cases ListStep.of_step stepped with
    | quiet unserved stopped =>
        rcases record_quiet stopped with ⟨terms_eq, lists_eq, opened_eq⟩
        exact ⟨agreed.kept.quiet unserved terms_eq lists_eq opened_eq announced_record,
          announced_record, fun _ _ => lists_eq ▸ List.prefix_rfl⟩
    | begin => exact agreed.begin _ _ _ _
    | @join name _ _ _ _ _ _ _ phase_eq first stream_eq list_eq hosts_eq net_eq =>
        have listed := agreed.founded name _ phase_eq (by simp)
        exact agreed.join roomy listed phase_eq first stream_eq list_eq hosts_eq net_eq
    | serve phase_eq targets_eq payload_eq =>
        exact ⟨agreed.kept.serve phase_eq targets_eq payload_eq, .refl journal⟩
    | fetch read unserved =>
        exact ⟨agreed.kept.fetch.quiet unserved rfl rfl rfl fun _ node_mem => node_mem,
          .refl journal⟩
  rcases written with ⟨kept, grows⟩
  refine ⟨kept, founded_step roomy agreed.kept.wellFormed agreed.founded step, ?_, ?_⟩
  · intro connection connection_mem node stream_eq
    rcases carried_of_step step connection_mem stream_eq with ⟨old, old_mem, old_eq⟩ | ⟨rfl, runs⟩
    · exact announced_record (agreed.streams old old_mem node old_eq)
    · simp [Journal.record, runs, Journal.announce]
  · intro acceptance acceptance_mem
    refine Shares.grow ?_ grows
    rcases accepted_record acceptance_mem with old | ⟨source, list, read, master, term, entries⟩
    · exact agreed.accepted acceptance old
    · have shares := agreed.kept.shares_of_listRead read
      rwa [← master, ← term, ← entries] at shares

end Agreed

theorem agreed_initial : Agreed State.initial Journal.initial where
  kept := {
    wellFormed := settled_initial.list
    current := fun _ => rfl
    future := fun _ _ _ => rfl
    own := by simp [Journal.initial]
    listed := by simp [Journal.initial]
    loops := by simp [State.initial]
    payloads := by simp [State.initial] }
  founded := by simp [Founded, State.initial]
  streams := by simp [State.initial]
  accepted := by simp [Journal.initial]

theorem agreed_inductive : journaled.Inductive (fun state action => Roomy state.1 action)
    fun state => Agreed state.1 state.2 where
  initial := agreed_initial
  preserved stepped roomy agreed := by
    rcases TransitionSystem.observe_step_eq_some.mp stepped with ⟨base, recorded⟩
    exact recorded ▸ agreed.step roomy base

/-- A host joins the master 1, which is at its control port. -/
def joinRun (name : Host) : List Action :=
  [.start name, .masterReceive 1, .masterReply 1, .deliver 0, .receiveReply name, .masterClose 1,
    .masterListen 1, .connect name, .sendNodedata name 0 4, .masterAccept 1,
    .masterRecv 1 (Collector.emptyList Collector.zeros), .distribute 1]

/-- A member waits for the list and accepts it. -/
def acceptRun (name : Host) : List Action :=
  [.openControl name, .distribute 1, .deliver 0, .identify name, .acknowledge name,
    .openData name, .deliver 0, .distributeReceive 1, .distribute 1, .deliver 0,
    .receiveData name]

/-- Hosts 2 and 3 join one after the other. -/
def twoJoinsRun : List Action :=
  masterRun ++ joinRun 2 ++ acceptRun 2 ++ [.distribute 1, .masterRelay 1, .masterOpen 1] ++
    joinRun 3 ++ acceptRun 2 ++ acceptRun 3

/--
In every run in which no join finds the list full, of any two lists that members have
accepted from one mastership one is the beginning of the other, and both are the
beginning of the master's list for as long as the mastership lasts.
-/
theorem lists_agree (state : State) (journal : Journal)
    (reached : journaled.ReachableWith (fun state action => Roomy state.1 action)
      (state, journal)) :
    (∀ first ∈ journal.accepted, ∀ second ∈ journal.accepted, first.master = second.master →
      first.term = second.term →
      first.entries <+: second.entries ∨ second.entries <+: first.entries) ∧
    ∀ acceptance ∈ journal.accepted, acceptance.term = journal.terms acceptance.master →
      acceptance.entries <+: (state.hosts acceptance.master).list.entries := by
  have agreed := agreed_inductive.holds reached
  refine ⟨?_, ?_⟩
  · intro first first_mem second second_mem master term
    have left := (agreed.accepted first first_mem).part
    have right := (agreed.accepted second second_mem).part
    rw [← master, ← term] at right
    exact List.prefix_or_prefix_of_prefix left right
  · intro acceptance acceptance_mem term
    have part := (agreed.accepted acceptance acceptance_mem).part
    rwa [term, agreed.kept.current] at part

theorem lists_agree_twoJoinsRun : ∃ state journal,
    journaled.runWithin (fun state action => Roomy state.1 action) journaled.initial twoJoinsRun =
        some (state, journal) ∧
      journal.accepted.map (fun acceptance =>
          (acceptance.member, acceptance.entries.map (·.ipaddress))) =
        [(3, [1, 2, 3]), (2, [1, 2, 3]), (2, [1, 2])] ∧
      (∀ first ∈ journal.accepted, ∀ second ∈ journal.accepted, first.master = second.master →
        first.term = second.term →
        first.entries <+: second.entries ∨ second.entries <+: first.entries) ∧
      ∀ acceptance ∈ journal.accepted, acceptance.term = journal.terms acceptance.master →
        acceptance.entries <+: (state.hosts acceptance.master).list.entries := by
  have ended : (journaled.runWithin (fun state action => Roomy state.1 action) journaled.initial
      twoJoinsRun).map (fun state => state.2.accepted.map fun acceptance =>
        (acceptance.member, acceptance.entries.map (·.ipaddress))) =
      some [(3, [1, 2, 3]), (2, [1, 2, 3]), (2, [1, 2])] := by
    decide +kernel
  rcases Option.map_eq_some_iff.mp ended with ⟨⟨state, journal⟩, ran, accepted⟩
  exact ⟨state, journal, ran, accepted, lists_agree state journal (.runWithin .initial ran)⟩

/--
In every run in which no join finds the list full, a list that a member accepts begins
with the nodedata of its master, names the member, and holds nothing that the host it
names has not announced.
-/
theorem lists_announced (state : State) (journal : Journal)
    (reached : journaled.ReachableWith (fun state action => Roomy state.1 action)
      (state, journal)) (acceptance : Acceptance) (accepted : acceptance ∈ journal.accepted) :
    (∃ own others, acceptance.entries = own :: others ∧ own.ipaddress = acceptance.master) ∧
      (∃ node ∈ acceptance.entries, node.ipaddress = acceptance.member) ∧
      acceptance.entries ⊆ journal.announced := by
  have agreed := agreed_inductive.holds reached
  rcases agreed.accepted acceptance accepted with ⟨⟨rest, part⟩, member_mem⟩
  have named := List.mem_map.mp member_mem
  refine ⟨?_, named, ?_⟩
  · cases entries_eq : acceptance.entries with
    | nil =>
        rw [entries_eq] at named
        simp at named
    | cons own others =>
        refine ⟨own, others, rfl, agreed.kept.own acceptance.master acceptance.term own ?_⟩
        rw [← part, entries_eq]
        rfl
  · intro node node_mem
    apply agreed.kept.listed acceptance.master acceptance.term
    rw [← part]
    exact List.mem_append_left _ node_mem

theorem lists_announced_twoJoinsRun : ∃ state journal acceptance,
    journaled.runWithin (fun state action => Roomy state.1 action) journaled.initial twoJoinsRun =
        some (state, journal) ∧
      acceptance ∈ journal.accepted ∧
      (∃ own others, acceptance.entries = own :: others ∧ own.ipaddress = acceptance.master) ∧
      (∃ node ∈ acceptance.entries, node.ipaddress = acceptance.member) ∧
      acceptance.entries ⊆ journal.announced := by
  have ended : (journaled.runWithin (fun state action => Roomy state.1 action) journaled.initial
      twoJoinsRun).map (fun state => state.2.accepted.length) = some 3 := by
    decide +kernel
  rcases Option.map_eq_some_iff.mp ended with ⟨⟨state, journal⟩, ran, length_eq⟩
  have some_accepted : 0 < journal.accepted.length := by simp only at length_eq; omega
  rcases List.exists_mem_of_length_pos some_accepted with ⟨acceptance, accepted⟩
  exact ⟨state, journal, acceptance, ran, accepted,
    lists_announced state journal (.runWithin .initial ran) acceptance accepted⟩

end NodeinfoSystem.Lan
