import NodeinfoSystem.Lan.Step

/-!
# What one step of a host can do

A host opens, closes and reads its own sockets only. `Owned` says so of a change
of the network; it is all that most arguments about the other hosts need.
`Step` lists the branches of the step function, with the steps of a distribution,
and of what comes between two distributions, as one branch.
-/

namespace NodeinfoSystem.Lan

open Foundation

/-- The operations of one host on the network: its own sockets, and the packets it sends. -/
structure Owned (name : Host) (sent : Multiset (Packet Endpoint Message)) (net next : LanNetwork) :
    Prop where
  bound : ∀ endpoint, endpoint.host ≠ name → (endpoint ∈ next.bound ↔ endpoint ∈ net.bound)
  queue : ∀ endpoint, endpoint.host ≠ name → next.queueAt endpoint = net.queueAt endpoint
  packets : ∃ dropped : Multiset (Packet Endpoint Message),
    (∀ packet ∈ dropped, packet.destination.host = name) ∧
      next.packets + dropped = sent + net.packets
  inFlight : ∀ packet ∈ next.inFlight, packet ∈ sent ∨ packet ∈ net.inFlight

namespace Owned

variable {name : Host} {net next : LanNetwork}

theorem refl (name : Host) (net : LanNetwork) : Owned name 0 net net where
  bound _ _ := Iff.rfl
  queue _ _ := rfl
  packets := ⟨0, by simp, by simp⟩
  inFlight _ packet_mem := Or.inr packet_mem

theorem trans {first second : Multiset (Packet Endpoint Message)} {last : LanNetwork}
    (before : Owned name first net next) (after : Owned name second next last) :
    Owned name (second + first) net last where
  bound endpoint foreign := (after.bound endpoint foreign).trans (before.bound endpoint foreign)
  queue endpoint foreign := (after.queue endpoint foreign).trans (before.queue endpoint foreign)
  packets := by
    rcases before.packets with ⟨dropped, dropped_here, first_eq⟩
    rcases after.packets with ⟨dropped', dropped_here', second_eq⟩
    refine ⟨dropped' + dropped, ?_, ?_⟩
    · intro packet packet_mem
      rcases Multiset.mem_add.mp packet_mem with left | right
      · exact dropped_here' packet left
      · exact dropped_here packet right
    · rw [← Multiset.add_assoc, second_eq, Multiset.add_assoc, first_eq, Multiset.add_assoc]
  inFlight packet packet_mem := by
    rw [Multiset.mem_add, or_assoc]
    rcases after.inFlight packet packet_mem with new | old
    · exact Or.inl new
    · exact Or.inr (before.inFlight packet old)

theorem ne_of_foreign {endpoint : Endpoint} (foreign : endpoint.host ≠ name) (port : Port) :
    endpoint ≠ ⟨name, port⟩ := by
  rintro rfl
  exact foreign rfl

theorem close (name : Host) (port : Port) (net : LanNetwork) :
    Owned name 0 net (net.close ⟨name, port⟩) where
  bound other foreign := by simp [Network.close, ne_of_foreign foreign]
  queue other foreign := Network.queueAt_close_of_ne (ne_of_foreign foreign port) net
  packets := by
    rcases net.packets_close ⟨name, port⟩ with ⟨dropped, here, packets_eq⟩
    refine ⟨dropped, ?_, ?_⟩
    · intro packet packet_mem
      rw [here packet packet_mem]
    · rw [packets_eq, Multiset.zero_add]
  inFlight _ packet_mem := Or.inr packet_mem

theorem openSocket (name : Host) (port : Port) (net : LanNetwork) :
    Owned name 0 net (net.openSocket ⟨name, port⟩) where
  bound other foreign := by
    simp [Network.openSocket, Network.bind, Network.close, ne_of_foreign foreign]
  queue other foreign := Network.queueAt_openSocket_of_ne (ne_of_foreign foreign port) net
  packets := (close name port net).packets
  inFlight _ packet_mem := Or.inr packet_mem

theorem closeWhere (name : Host) (net : LanNetwork) :
    Owned name 0 net (net.closeWhere (·.host == name)) where
  bound other foreign := by simp [Network.closeWhere, foreign]
  queue other foreign := by
    apply Network.queueAt_closeWhere_of_not
    simpa using foreign
  packets := by
    refine ⟨(net.queued.filter (·.destination.host == name) : List _), ?_, ?_⟩
    · intro packet packet_mem
      simp only [Multiset.mem_coe, List.mem_filter, beq_iff_eq] at packet_mem
      exact packet_mem.2
    · simp only [Network.packets, Network.closeWhere, Multiset.zero_add, Multiset.coe_add,
        Multiset.coe_eq_coe, List.append_assoc]
      apply List.Perm.append_left
      refine List.perm_append_comm.trans ?_
      exact List.filter_append_perm (fun packet => packet.destination.host == name) net.queued
  inFlight _ packet_mem := Or.inr packet_mem

theorem send (name : Host) (packet : Packet Endpoint Message) (net : LanNetwork) :
    Owned name {packet} net (net.send packet) where
  bound _ _ := Iff.rfl
  queue _ _ := rfl
  packets := ⟨0, by simp, by simp [Multiset.singleton_add]⟩
  inFlight other other_mem := by simpa [Network.send] using other_mem

theorem receive {port : Port} {packet : Packet Endpoint Message}
    (received : net.receive ⟨name, port⟩ = some (packet, next)) : Owned name 0 net next := by
  rcases Network.receive_effect received with ⟨bound_eq, here, -, removed⟩
  have inFlight_eq : next.inFlight = net.inFlight := Network.inFlight_receive received
  refine ⟨?_, ?_, ⟨{packet}, ?_, ?_⟩, ?_⟩
  · intro other _
    rw [bound_eq]
  · intro other foreign
    exact (Network.queueAt_receive received).2 other (ne_of_foreign foreign port)
  · intro other other_mem
    rw [Multiset.mem_singleton.mp other_mem, here]
  · rw [removed, Multiset.zero_add, Multiset.add_comm, Multiset.singleton_add]
  · intro other other_mem
    exact Or.inr (inFlight_eq ▸ other_mem)

theorem mem_of_foreign {sent : Multiset (Packet Endpoint Message)}
    {packet : Packet Endpoint Message} (owned : Owned name sent net next)
    (packet_mem : packet ∈ net.packets) (foreign : packet.destination.host ≠ name) :
    packet ∈ next.packets := by
  rcases owned.packets with ⟨dropped, here, packets_eq⟩
  have inSum : packet ∈ next.packets + dropped := by
    rw [packets_eq]
    exact Multiset.mem_add.mpr (Or.inr packet_mem)
  rcases Multiset.mem_add.mp inSum with kept | gone
  · exact kept
  · exact absurd (here packet gone) foreign

theorem mem_or_sent {sent : Multiset (Packet Endpoint Message)} {packet : Packet Endpoint Message}
    (owned : Owned name sent net next) (packet_mem : packet ∈ next.packets) :
    packet ∈ sent ∨ packet ∈ net.packets := by
  rcases owned.packets with ⟨dropped, -, packets_eq⟩
  rw [← Multiset.mem_add, ← packets_eq]
  exact Multiset.mem_add.mpr (Or.inl packet_mem)

end Owned

/-! ## The branches of the step function -/

/-- The phases of a master between two requests. -/
def MasterPhase.Busy : MasterPhase → Prop
  | .distributing _ _ _ => True
  | .relaying => True
  | .fetching => True
  | _ => False

/-- The packets that a host may send where it is. -/
inductive Sends (name : Host) (host : HostState) : Packet Endpoint Message → Prop
  | reply {client : Endpoint} {code : RequestCode}
      (phase_eq : host.phase = .master (.replying client code)) :
      Sends name host ⟨⟨name, .ctrl⟩, client, code.reply⟩
  | acknowledgement {peer : Endpoint} {kind : Kind}
      (phase_eq : host.phase = .member (.answering peer kind)) :
      Sends name host ⟨⟨name, .ctrl⟩, peer, .readyRecv kind⟩
  | invitation (number : ℕ) (target : Host) (kind : Kind) :
      Sends name host ⟨⟨name, .distribution number⟩, ⟨target, .ctrl⟩, .readySend kind⟩
  | payload (number : ℕ) (target : Host) {kind : Kind} {datagram : Wire.Datagram}
      (payload_eq : host.payload kind = some datagram) :
      Sends name host ⟨⟨name, .distribution number⟩, ⟨target, .data kind⟩, .payload datagram⟩

/-- The reasons a host may stop for, other than the ones named in `Exit`. -/
def MayStop (state : State) (name : Host) (action : Action) : Phase → Prop
  | .member (.connected _) => True
  | .master .starting => True
  | .master .waiting => True
  | .master (.distributing _ _ _) => True
  | .master .fetching => True
  | .master (.receiving _ _) =>
      action = .fail name ∨ ∃ connection, firstConnection name state.connections = some connection ∧
        connection.stream = .closed
  | _ => action = .fail name

theorem mayStop_fail (state : State) (name : Host) (phase : Phase) :
    MayStop state name (.fail name) phase := by
  cases phase with
  | member memberPhase =>
      cases memberPhase with
      | connected => trivial
      | _ => rfl
  | master masterPhase =>
      cases masterPhase with
      | starting | waiting | distributing | fetching => trivial
      | receiving => exact Or.inl rfl
      | _ => rfl
  | off | exited => rfl

/-- The branches of `State.step`. -/
inductive Step (state : State) : Action → State → Prop
  | deliver {index : ℕ} {net : LanNetwork} (delivered : state.net.deliver index = some net) :
      Step state (.deliver index) { state with net := net }
  | start {name : Host} {host : HostState} (host_eq : host = state.hosts name)
      (idle : host.phase.runs = false) :
      Step state (.start name) (state.put name
        { host with phase := .member (.awaiting host.sockets), sockets := host.sockets + 1 }
        ((state.net.openSocket ⟨name, .join host.sockets⟩).broadcast ⟨name, .join host.sockets⟩
          (·.port == .ctrl) .hello))
  | receiveReply {name : Host} {number : ℕ} {packet : Packet Endpoint Message} {net : LanNetwork}
      (phase_eq : (state.hosts name).phase = .member (.awaiting number))
      (received : state.net.receive ⟨name, .join number⟩ = some (packet, net)) :
      Step state (.receiveReply name) (state.move name
        (.member (.connecting packet.source.host)) (net.close ⟨name, .join number⟩))
  | joinTimeout {name : Host} {number : ℕ}
      (phase_eq : (state.hosts name).phase = .member (.awaiting number))
      (quiet : state.net.queueAt ⟨name, .join number⟩ = []) :
      Step state (.joinTimeout name)
        (state.move name (.master .starting) (state.net.close ⟨name, .join number⟩))
  | connect {name master : Host}
      (phase_eq : (state.hosts name).phase = .member (.connecting master))
      (listening : (state.hosts master).phase.listens = true) :
      Step state (.connect name) { state.move name (.member (.connected master)) state.net with
        connections := state.connections ++ [⟨name, master, .open⟩] }
  | refused {name master : Host}
      (phase_eq : (state.hosts name).phase = .member (.connecting master))
      (deaf : (state.hosts master).phase.listens = false) :
      Step state (.connect name) (state.exit name .connectRefused)
  | send {name master : Host} {userid cpuCoreNum : Int32}
      (phase_eq : (state.hosts name).phase = .member (.connected master)) :
      Step state (.sendNodedata name userid cpuCoreNum)
        { state.move name (.member .looping) state.net with
          connections := state.connections.map (·.carry name master ⟨name, userid, cpuCoreNum⟩)
          sent := (name, master) :: state.sent }
  | openControl {name : Host} (phase_eq : (state.hosts name).phase = .member .looping) :
      Step state (.openControl name)
        (state.move name (.member .identifying) (state.net.openSocket ⟨name, .ctrl⟩))
  | identify {name : Host} {packet : Packet Endpoint Message} {net : LanNetwork} {kind : Kind}
      (phase_eq : (state.hosts name).phase = .member .identifying)
      (received : state.net.receive ⟨name, .ctrl⟩ = some (packet, net))
      (payload_eq : packet.payload = .readySend kind) :
      Step state (.identify name) (state.move name (.member (.answering packet.source kind)) net)
  | unknown {name : Host} {packet : Packet Endpoint Message} {net : LanNetwork}
      (phase_eq : (state.hosts name).phase = .member .identifying)
      (received : state.net.receive ⟨name, .ctrl⟩ = some (packet, net))
      (payload_ne : ∀ kind, packet.payload ≠ .readySend kind) :
      Step state (.identify name) (state.exit name .unknownDataType)
  | acknowledge {name : Host} {peer : Endpoint} {kind : Kind}
      (phase_eq : (state.hosts name).phase = .member (.answering peer kind)) :
      Step state (.acknowledge name) (state.move name (.member (.opening kind))
        ((state.net.send ⟨⟨name, .ctrl⟩, peer, .readyRecv kind⟩).close ⟨name, .ctrl⟩))
  | openData {name : Host} {kind : Kind}
      (phase_eq : (state.hosts name).phase = .member (.opening kind)) :
      Step state (.openData name)
        (state.move name (.member (.receiving kind)) (state.net.openSocket ⟨name, .data kind⟩))
  | receiveData {name : Host} {kind : Kind} {packet : Packet Endpoint Message} {net : LanNetwork}
      (phase_eq : (state.hosts name).phase = .member (.receiving kind))
      (received : state.net.receive ⟨name, .data kind⟩ = some (packet, net)) :
      Step state (.receiveData name)
        (state.move name (.member .looping) (net.close ⟨name, .data kind⟩))
  | badData {name : Host} {kind : Kind} {packet : Packet Endpoint Message} {net : LanNetwork}
      (phase_eq : (state.hosts name).phase = .member (.receiving kind))
      (received : state.net.receive ⟨name, .data kind⟩ = some (packet, net))
      (rejected : accepts kind packet.payload = false) :
      Step state (.receiveData name) (state.exit name (.badData kind))
  | masterStart {name : Host} {garbage : Collector.Garbage} {userid cpuCoreNum networkId : Int32}
      (phase_eq : (state.hosts name).phase = .master .starting) :
      Step state (.masterStart name garbage userid cpuCoreNum networkId)
        (state.put name { state.hosts name with
          phase := .master .opening
          list := { (Collector.emptyList garbage).push ⟨name, userid, cpuCoreNum⟩ with
            networkId := networkId }
          database := none } state.net)
  | masterOpen {name : Host} (phase_eq : (state.hosts name).phase = .master .opening) :
      Step state (.masterOpen name)
        (state.move name (.master .waiting) (state.net.openSocket ⟨name, .ctrl⟩))
  | masterTimeout {name : Host} {after : MasterPhase}
      (phase_eq : (state.hosts name).phase = .master .waiting)
      (quiet : state.net.queueAt ⟨name, .ctrl⟩ = [])
      (after_eq : after = .fetching ∨ after = .opening) :
      Step state (.masterTimeout name)
        (state.move name (.master after) (state.net.close ⟨name, .ctrl⟩))
  | masterReceive {name : Host} {packet : Packet Endpoint Message} {net : LanNetwork}
      {code : RequestCode} (phase_eq : (state.hosts name).phase = .master .waiting)
      (received : state.net.receive ⟨name, .ctrl⟩ = some (packet, net))
      (code_eq : packet.payload = .hello ∧ code = .join ∨
        packet.payload = .byeMaster ∧ code = .leave) :
      Step state (.masterReceive name)
        (state.move name (.master (.replying packet.source code)) net)
  | masterReply {name : Host} {client : Endpoint} {code : RequestCode}
      (phase_eq : (state.hosts name).phase = .master (.replying client code)) :
      Step state (.masterReply name) (state.move name (.master (.closing client code))
        (state.net.send ⟨⟨name, .ctrl⟩, client, code.reply⟩))
  | masterClose {name : Host} {client : Endpoint} {code : RequestCode}
      (phase_eq : (state.hosts name).phase = .master (.closing client code)) :
      Step state (.masterClose name)
        (state.move name (.master (.preparing client code)) (state.net.close ⟨name, .ctrl⟩))
  | masterListen {name : Host} {client : Endpoint} {code : RequestCode}
      (phase_eq : (state.hosts name).phase = .master (.preparing client code)) :
      Step state (.masterListen name)
        (state.move name (.master (.accepting client code)) state.net)
  | masterAccept {name : Host} {client : Endpoint} {code : RequestCode} {connection : Connection}
      (phase_eq : (state.hosts name).phase = .master (.accepting client code))
      (first : firstConnection name state.connections = some connection) :
      Step state (.masterAccept name)
        (state.move name (.master (.receiving client code)) state.net)
  | masterRecv {name : Host} {stale list : Collector.ListBlock} {client : Endpoint}
      {code : RequestCode} {connection : Connection} {node : Nodedata UInt32}
      (phase_eq : (state.hosts name).phase = .master (.receiving client code))
      (first : firstConnection name state.connections = some connection)
      (stream_eq : connection.stream = .sent node)
      (list_eq : list = (state.hosts name).list ∨ code = .join ∧ Collector.ValidNode node ∧
        list = addToList stale (state.hosts name).list node) :
      Step state (.masterRecv name stale) ({ state with
        connections := state.connections.filter (·.server ≠ name)
        received := (connection.client, name) :: state.received }.put name
          { state.hosts name with
            phase := .master (.distributing .nodedataList (state.hosts name).sockets
              (startLoop list))
            sockets := (state.hosts name).sockets + 1
            list := list }
          (state.net.openSocket ⟨name, .distribution (state.hosts name).sockets⟩))
  | refuseNodedata {name : Host} {stale : Collector.ListBlock} {client : Endpoint}
      {code : RequestCode} {connection : Connection} {node : Nodedata UInt32}
      (phase_eq : (state.hosts name).phase = .master (.receiving client code))
      (first : firstConnection name state.connections = some connection)
      (stream_eq : connection.stream = .sent node) :
      Step state (.masterRecv name stale) ({ state with
        connections := state.connections.filter (·.server ≠ name)
        received := (connection.client, name) :: state.received }.exit name .error)
  | busy {action : Action} {name : Host} {before after : MasterPhase} {sockets : ℕ}
      {database : Option NodeinfoDatabase} {sent : Multiset (Packet Endpoint Message)}
      {net : LanNetwork} (phase_eq : (state.hosts name).phase = .master before)
      (before_busy : before.Busy) (after_busy : after.Busy ∨ after = .opening)
      (owned : Owned name sent state.net net)
      (sent_ok : ∀ packet ∈ sent, Sends name (state.hosts name) packet) :
      Step state action (state.put name { state.hosts name with
        phase := .master after
        sockets := sockets
        database := database } net)
  | stop {action : Action} {name : Host} (running : (state.hosts name).phase.runs = true)
      (cause : MayStop state name action (state.hosts name).phase) :
      Step state action (state.exit name .error)

section

variable {state next : State} {name : Host}

theorem Step.of_start (stepped : state.start name = some next) : Step state (.start name) next := by
  simp only [State.start] at stepped
  split at stepped
  · contradiction
  · next idle =>
      simp only [Option.some.injEq] at stepped
      exact stepped ▸ .start rfl (by simpa using idle)

theorem Step.of_receiveReply (stepped : state.receiveReply name = some next) :
    Step state (.receiveReply name) next := by
  simp only [State.receiveReply] at stepped
  split at stepped
  · next number phase_eq =>
      split at stepped
      · contradiction
      · next packet net received =>
          simp only [Option.some.injEq] at stepped
          exact stepped ▸ .receiveReply phase_eq received
  · contradiction

theorem Step.of_joinTimeout (stepped : state.joinTimeout name = some next) :
    Step state (.joinTimeout name) next := by
  simp only [State.joinTimeout] at stepped
  split at stepped
  · next number phase_eq =>
      split at stepped
      · next quiet =>
          simp only [Option.some.injEq] at stepped
          exact stepped ▸ .joinTimeout phase_eq (List.isEmpty_iff.mp quiet)
      · contradiction
  · contradiction

theorem Step.of_connect (stepped : state.connect name = some next) :
    Step state (.connect name) next := by
  simp only [State.connect] at stepped
  split at stepped
  · next master phase_eq =>
      split at stepped
      · next listening =>
          simp only [Option.some.injEq] at stepped
          exact stepped ▸ .connect phase_eq listening
      · next deaf =>
          simp only [Option.some.injEq] at stepped
          exact stepped ▸ .refused phase_eq (by simpa using deaf)
  · contradiction

theorem Step.of_sendNodedata {userid cpuCoreNum : Int32}
    (stepped : state.sendNodedata name userid cpuCoreNum = some next) :
    Step state (.sendNodedata name userid cpuCoreNum) next := by
  simp only [State.sendNodedata] at stepped
  split at stepped
  · next master phase_eq =>
      split at stepped
      · simp only [Option.some.injEq] at stepped
        exact stepped ▸ .send phase_eq
      · simp only [Option.some.injEq] at stepped
        exact stepped ▸ .stop (by rw [phase_eq]; rfl) (by rw [phase_eq]; trivial)
  · contradiction

theorem Step.of_identify (stepped : state.identify name = some next) :
    Step state (.identify name) next := by
  simp only [State.identify] at stepped
  split at stepped
  · next phase_eq =>
      split at stepped
      · contradiction
      · next packet net received =>
          split at stepped
          · next kind payload_eq =>
              simp only [Option.some.injEq] at stepped
              exact stepped ▸ .identify phase_eq received payload_eq
          · next payload_ne =>
              simp only [Option.some.injEq] at stepped
              exact stepped ▸ .unknown phase_eq received payload_ne
  · contradiction

theorem Step.of_receiveData (stepped : state.receiveData name = some next) :
    Step state (.receiveData name) next := by
  simp only [State.receiveData] at stepped
  split at stepped
  · next kind phase_eq =>
      split at stepped
      · contradiction
      · next packet net received =>
          split at stepped
          · simp only [Option.some.injEq] at stepped
            exact stepped ▸ .receiveData phase_eq received
          · next rejected =>
              simp only [Option.some.injEq] at stepped
              exact stepped ▸ .badData phase_eq received (by simpa using rejected)
  · contradiction

theorem Step.of_masterStart {garbage : Collector.Garbage} {userid cpuCoreNum networkId : Int32}
    (stepped : state.masterStart name garbage userid cpuCoreNum networkId = some next) :
    Step state (.masterStart name garbage userid cpuCoreNum networkId) next := by
  simp only [State.masterStart] at stepped
  split at stepped
  · next phase_eq =>
      split at stepped
      · simp only [Option.some.injEq] at stepped
        exact stepped ▸ .masterStart phase_eq
      · simp only [Option.some.injEq] at stepped
        exact stepped ▸ .stop (by rw [phase_eq]; rfl) (by rw [phase_eq]; trivial)
  · contradiction

theorem Step.of_masterTimeout (stepped : state.masterTimeout name = some next) :
    Step state (.masterTimeout name) next := by
  simp only [State.masterTimeout] at stepped
  split at stepped
  · next phase_eq =>
      split at stepped
      · next quiet =>
          simp only [Option.some.injEq] at stepped
          refine stepped ▸ .masterTimeout phase_eq (List.isEmpty_iff.mp quiet) ?_
          split
          · exact Or.inl rfl
          · exact Or.inr rfl
      · contradiction
  · contradiction

theorem Step.of_masterReceive (stepped : state.masterReceive name = some next) :
    Step state (.masterReceive name) next := by
  simp only [State.masterReceive] at stepped
  split at stepped
  · next phase_eq =>
      split at stepped
      · contradiction
      · next packet net received =>
          split at stepped
          · next payload_eq =>
              simp only [Option.some.injEq] at stepped
              exact stepped ▸ .masterReceive phase_eq received (Or.inl ⟨payload_eq, rfl⟩)
          · next payload_eq =>
              simp only [Option.some.injEq] at stepped
              exact stepped ▸ .masterReceive phase_eq received (Or.inr ⟨payload_eq, rfl⟩)
          · simp only [Option.some.injEq] at stepped
            exact stepped ▸ .stop (by rw [phase_eq]; rfl) (by rw [phase_eq]; trivial)
  · contradiction

theorem Step.of_masterAccept (stepped : state.masterAccept name = some next) :
    Step state (.masterAccept name) next := by
  simp only [State.masterAccept] at stepped
  split at stepped
  · next client code connection phase_eq first =>
      simp only [Option.some.injEq] at stepped
      exact stepped ▸ .masterAccept phase_eq first
  · contradiction

theorem Step.of_takeNodedata {stale : Collector.ListBlock} {client : Endpoint} {code : RequestCode}
    {connection : Connection} {node : Nodedata UInt32}
    (phase_eq : (state.hosts name).phase = .master (.receiving client code))
    (first : firstConnection name state.connections = some connection)
    (stream_eq : connection.stream = .sent node) :
    Step state (.masterRecv name stale) (state.takeNodedata name code stale connection node) := by
  cases code with
  | join =>
      simp only [State.takeNodedata]
      split
      · next accepted =>
          exact .masterRecv phase_eq first stream_eq (Or.inr ⟨rfl, accepted.1, rfl⟩)
      · exact .refuseNodedata phase_eq first stream_eq
  | leave =>
      simp only [State.takeNodedata]
      split
      · exact .masterRecv phase_eq first stream_eq (Or.inl rfl)
      · exact .refuseNodedata phase_eq first stream_eq

theorem Step.of_masterRecv {stale : Collector.ListBlock}
    (stepped : state.masterRecv name stale = some next) :
    Step state (.masterRecv name stale) next := by
  simp only [State.masterRecv] at stepped
  split at stepped
  · next client code connection phase_eq first =>
      split at stepped
      · contradiction
      · next stream_eq =>
          simp only [Option.some.injEq] at stepped
          refine stepped ▸ .stop (by rw [phase_eq]; rfl) ?_
          rw [phase_eq]
          exact Or.inr ⟨connection, first, stream_eq⟩
      · next node stream_eq =>
          simp only [Option.some.injEq] at stepped
          exact stepped ▸ Step.of_takeNodedata phase_eq first stream_eq
  · contradiction

theorem Step.of_distribute (stepped : state.distribute name = some next) :
    Step state (.distribute name) next := by
  simp only [State.distribute] at stepped
  split at stepped
  · next kind number loop phase_eq =>
      have before_busy : (MasterPhase.distributing kind number loop).Busy := trivial
      have goOn (loop : Loop) {sent : Multiset (Packet Endpoint Message)} {net : LanNetwork}
          (owned : Owned name sent state.net net)
          (sent_ok : ∀ packet ∈ sent, Sends name (state.hosts name) packet) :
          Step state (.distribute name)
            (state.move name (.master (.distributing kind number loop)) net) :=
        .busy phase_eq before_busy (Or.inl trivial) owned sent_ok
      split at stepped
      · simp only [Option.some.injEq, State.finishLoop] at stepped
        split at stepped
        · exact stepped ▸ .stop (by rw [phase_eq]; rfl) (by rw [phase_eq]; trivial)
        · refine stepped ▸ .busy phase_eq before_busy ?_
            (Owned.close name (.distribution number) state.net) (by simp)
          cases kind with
          | nodedataList => exact Or.inl trivial
          | nodeinfoDatabase => exact Or.inr rfl
      · contradiction
      · next target rest targets_eq point_eq =>
          split at stepped
          · simp only [Option.some.injEq] at stepped
            exact stepped ▸ goOn _ (Owned.refl name state.net) (by simp)
          · split at stepped
            · simp only [Option.some.injEq] at stepped
              exact stepped ▸ goOn _ (Owned.refl name state.net) (by simp)
            · simp only [Option.some.injEq] at stepped
              refine stepped ▸ goOn _ (Owned.send name _ state.net) ?_
              intro packet packet_mem
              rw [Multiset.mem_singleton.mp packet_mem]
              exact .invitation number target kind
      · next target rest targets_eq point_eq =>
          split at stepped
          · simp only [Option.some.injEq] at stepped
            exact stepped ▸ goOn _ (Owned.refl name state.net) (by simp)
          · next datagram payload_eq =>
              simp only [Option.some.injEq] at stepped
              refine stepped ▸ goOn _ (Owned.send name _ state.net) ?_
              intro packet packet_mem
              rw [Multiset.mem_singleton.mp packet_mem]
              exact .payload number target payload_eq
  · contradiction

theorem Step.of_distributeReceive (stepped : state.distributeReceive name = some next) :
    Step state (.distributeReceive name) next := by
  simp only [State.distributeReceive] at stepped
  split at stepped
  · next kind number target rest attempt failed phase_eq =>
      split at stepped
      · contradiction
      · next packet net received =>
          simp only [Option.some.injEq] at stepped
          exact stepped ▸ .busy phase_eq trivial (Or.inl trivial)
            (Owned.receive received) (by simp)
  · contradiction

theorem Step.of_distributeTimeout (stepped : state.distributeTimeout name = some next) :
    Step state (.distributeTimeout name) next := by
  simp only [State.distributeTimeout] at stepped
  split at stepped
  · next kind number target rest attempt failed phase_eq =>
      split at stepped
      · simp only [Option.some.injEq] at stepped
        exact stepped ▸ .busy phase_eq trivial (Or.inl trivial)
          (Owned.refl name state.net) (by simp)
      · contradiction
  · contradiction

/-- The end of a round, with the database that the master has by then. -/
theorem Step.of_startDatabase {action : Action} {before : MasterPhase}
    (phase_eq : (state.hosts name).phase = .master before) (before_busy : before.Busy)
    (database : Option NodeinfoDatabase) :
    Step state action
      ((state.put name { state.hosts name with database := database } state.net).startDatabase
        name) := by
  cases database with
  | none =>
      have settled : Step state action (state.put name { state.hosts name with
          phase := .master .opening
          sockets := (state.hosts name).sockets
          database := none } state.net) :=
        .busy phase_eq before_busy (Or.inr rfl) (Owned.refl name state.net) (by simp)
      simpa [State.startDatabase, State.move, State.put] using settled
  | some db =>
      have distributing : Step state action (state.put name { state.hosts name with
          phase := .master (.distributing .nodeinfoDatabase (state.hosts name).sockets
            (startLoop (state.hosts name).list))
          sockets := (state.hosts name).sockets + 1
          database := some db }
          (state.net.openSocket ⟨name, .distribution (state.hosts name).sockets⟩)) :=
        .busy phase_eq before_busy (Or.inl trivial) (Owned.openSocket name _ state.net) (by simp)
      simpa [State.startDatabase, State.move, State.put] using distributing

theorem Step.of_masterRelay (stepped : state.masterRelay name = some next) :
    Step state (.masterRelay name) next := by
  simp only [State.masterRelay] at stepped
  split at stepped
  · next phase_eq =>
      split at stepped
      · simp only [Option.some.injEq] at stepped
        exact stepped ▸
          .busy phase_eq trivial (Or.inl trivial) (Owned.refl name state.net) (by simp)
      · simp only [Option.some.injEq] at stepped
        have started : Step state (.masterRelay name) _ :=
          Step.of_startDatabase phase_eq trivial (state.hosts name).database
        simpa [State.put, stepped] using started
  · contradiction

theorem Step.of_masterFetch {received : Wire.Datagram}
    (stepped : state.masterFetch name received = some next) :
    Step state (.masterFetch name received) next := by
  simp only [State.masterFetch] at stepped
  split at stepped
  · next db phase_eq accepted =>
      simp only [Option.some.injEq] at stepped
      exact stepped ▸ Step.of_startDatabase phase_eq trivial (some db)
  · next phase_eq refused =>
      simp only [Option.some.injEq] at stepped
      exact stepped ▸ .stop (by rw [phase_eq]; rfl) (by rw [phase_eq]; trivial)
  · contradiction

theorem Step.of_fail (stepped : state.fail name = some next) : Step state (.fail name) next := by
  simp only [State.fail] at stepped
  split at stepped
  · next running =>
      simp only [Option.some.injEq] at stepped
      exact stepped ▸ .stop running (mayStop_fail state name _)
  · contradiction

end

theorem Step.of_step {state next : State} {action : Action}
    (stepped : lan.step state action = some next) : Step state action next := by
  change state.step action = some next at stepped
  cases action with
  | deliver index =>
      rcases Option.map_eq_some_iff.mp stepped with ⟨net, delivered, rfl⟩
      exact .deliver delivered
  | start name => exact Step.of_start stepped
  | receiveReply name => exact Step.of_receiveReply stepped
  | joinTimeout name => exact Step.of_joinTimeout stepped
  | connect name => exact Step.of_connect stepped
  | sendNodedata name userid cpuCoreNum => exact Step.of_sendNodedata stepped
  | openControl name =>
      simp only [State.step, State.openControl] at stepped
      split at stepped
      · next phase_eq =>
          simp only [Option.some.injEq] at stepped
          exact stepped ▸ .openControl phase_eq
      · contradiction
  | identify name => exact Step.of_identify stepped
  | acknowledge name =>
      simp only [State.step, State.acknowledge] at stepped
      split at stepped
      · next peer kind phase_eq =>
          simp only [Option.some.injEq] at stepped
          exact stepped ▸ .acknowledge phase_eq
      · contradiction
  | openData name =>
      simp only [State.step, State.openData] at stepped
      split at stepped
      · next kind phase_eq =>
          simp only [Option.some.injEq] at stepped
          exact stepped ▸ .openData phase_eq
      · contradiction
  | receiveData name => exact Step.of_receiveData stepped
  | masterStart name garbage userid cpuCoreNum networkId => exact Step.of_masterStart stepped
  | masterOpen name =>
      simp only [State.step, State.masterOpen] at stepped
      split at stepped
      · next phase_eq =>
          simp only [Option.some.injEq] at stepped
          exact stepped ▸ .masterOpen phase_eq
      · contradiction
  | masterTimeout name => exact Step.of_masterTimeout stepped
  | masterReceive name => exact Step.of_masterReceive stepped
  | masterReply name =>
      simp only [State.step, State.masterReply] at stepped
      split at stepped
      · next client code phase_eq =>
          simp only [Option.some.injEq] at stepped
          exact stepped ▸ .masterReply phase_eq
      · contradiction
  | masterClose name =>
      simp only [State.step, State.masterClose] at stepped
      split at stepped
      · next client code phase_eq =>
          simp only [Option.some.injEq] at stepped
          exact stepped ▸ .masterClose phase_eq
      · contradiction
  | masterListen name =>
      simp only [State.step, State.masterListen] at stepped
      split at stepped
      · next client code phase_eq =>
          simp only [Option.some.injEq] at stepped
          exact stepped ▸ .masterListen phase_eq
      · contradiction
  | masterAccept name => exact Step.of_masterAccept stepped
  | masterRecv name stale => exact Step.of_masterRecv stepped
  | distribute name => exact Step.of_distribute stepped
  | distributeReceive name => exact Step.of_distributeReceive stepped
  | distributeTimeout name => exact Step.of_distributeTimeout stepped
  | masterRelay name => exact Step.of_masterRelay stepped
  | masterFetch name received => exact Step.of_masterFetch stepped
  | fail name => exact Step.of_fail stepped

end NodeinfoSystem.Lan
