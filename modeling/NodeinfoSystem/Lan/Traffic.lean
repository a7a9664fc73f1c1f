import NodeinfoSystem.Lan.Effect

/-!
# Well-formed traffic

In every run, the datagrams between two sorts of sockets are of one sort: requests
to join and announcements go to control sockets, replies to the sockets that a
request was made from, acknowledgements to the sockets of a distribution, and
payloads to data sockets. Only requests are broadcast.
-/

namespace NodeinfoSystem.Lan

open Foundation

/-- The datagrams the hosts send. -/
inductive Traffic : Packet Endpoint Message → Prop
  | hello (client master : Host) (number : ℕ) :
      Traffic ⟨⟨client, .join number⟩, ⟨master, .ctrl⟩, .hello⟩
  | reply (master client : Host) (number : ℕ) (code : RequestCode) :
      Traffic ⟨⟨master, .ctrl⟩, ⟨client, .join number⟩, code.reply⟩
  | invitation (master member : Host) (number : ℕ) (kind : Kind) :
      Traffic ⟨⟨master, .distribution number⟩, ⟨member, .ctrl⟩, .readySend kind⟩
  | acknowledgement (member master : Host) (number : ℕ) (kind : Kind) :
      Traffic ⟨⟨member, .ctrl⟩, ⟨master, .distribution number⟩, .readyRecv kind⟩
  | payload (master member : Host) (number : ℕ) (kind : Kind) (datagram : Wire.Datagram) :
      Traffic ⟨⟨master, .distribution number⟩, ⟨member, .data kind⟩, .payload datagram⟩

theorem Traffic.of_data {packet : Packet Endpoint Message} (traffic : Traffic packet) {kind : Kind}
    (here : packet.destination.port = .data kind) :
    ∃ datagram, packet.payload = .payload datagram := by
  cases traffic with
  | payload _ _ _ _ datagram => exact ⟨datagram, rfl⟩
  | hello | reply | invitation | acknowledgement => contradiction

/-- The peers that a host answers. -/
def Phase.Shaped : Phase → Prop
  | .master (.replying client _) => ∃ host number, client = ⟨host, .join number⟩
  | .member (.answering peer _) => ∃ host number, peer = ⟨host, .distribution number⟩
  | _ => True

structure Shaped (net : LanNetwork) (hosts : Host → HostState) : Prop where
  traffic : ∀ packet ∈ net.packets, Traffic packet
  /-- A broadcast arrives at once. -/
  unicast : ∀ packet ∈ net.inFlight, packet.payload ≠ .hello
  phase : ∀ name, (hosts name).phase.Shaped

namespace Shaped

variable {net next : LanNetwork} {hosts : Host → HostState} {name : Host}

theorem of_sends (shaped : Shaped net hosts) {packet : Packet Endpoint Message}
    (sends : Sends name (hosts name) packet) : Traffic packet ∧ packet.payload ≠ .hello := by
  have phase := shaped.phase name
  cases sends with
  | @reply client code phase_eq =>
      rw [phase_eq] at phase
      rcases phase with ⟨host, number, rfl⟩
      exact ⟨.reply name host number code, by cases code <;> simp [RequestCode.reply]⟩
  | @acknowledgement peer kind phase_eq =>
      rw [phase_eq] at phase
      rcases phase with ⟨host, number, rfl⟩
      exact ⟨.acknowledgement name host number kind, by simp⟩
  | invitation number target kind => exact ⟨.invitation name target number kind, by simp⟩
  | payload number target => exact ⟨.payload name target number _ _, by simp⟩

theorem of_ctrl (shaped : Shaped net hosts) {packet : Packet Endpoint Message}
    (packet_mem : packet ∈ net.packets) (here : packet.destination = ⟨name, .ctrl⟩) :
    (∃ client number, packet.source = ⟨client, .join number⟩ ∧ packet.payload = .hello) ∨
      ∃ master number kind, packet.source = ⟨master, .distribution number⟩ ∧
        packet.payload = .readySend kind := by
  have traffic := shaped.traffic packet packet_mem
  cases traffic with
  | hello client _ number => exact Or.inl ⟨client, number, rfl, rfl⟩
  | invitation master _ number kind => exact Or.inr ⟨master, number, kind, rfl, rfl⟩
  | reply | acknowledgement | payload => simp at here

theorem of_join (shaped : Shaped net hosts) {packet : Packet Endpoint Message} {number : ℕ}
    (packet_mem : packet ∈ net.packets) (here : packet.destination = ⟨name, .join number⟩) :
    ∃ master code, packet.source = ⟨master, .ctrl⟩ ∧ packet.payload = RequestCode.reply code := by
  have traffic := shaped.traffic packet packet_mem
  cases traffic with
  | reply master _ _ code => exact ⟨master, code, rfl, rfl⟩
  | hello | invitation | acknowledgement | payload => simp at here

theorem update (shaped : Shaped net hosts) {host : HostState}
    {sent : Multiset (Packet Endpoint Message)} (owned : Owned name sent net next)
    (sent_ok : ∀ packet ∈ sent, Sends name (hosts name) packet) (phase : host.phase.Shaped) :
    Shaped next (Function.update hosts name host) where
  traffic packet packet_mem := by
    rcases owned.mem_or_sent packet_mem with new | old
    · exact (shaped.of_sends (sent_ok packet new)).1
    · exact shaped.traffic packet old
  unicast packet packet_mem := by
    rcases owned.inFlight packet packet_mem with new | old
    · exact (shaped.of_sends (sent_ok packet new)).2
    · exact shaped.unicast packet old
  phase other := by
    by_cases same : other = name
    · subst other
      simpa using phase
    · simpa [same] using shaped.phase other

theorem silent (shaped : Shaped net hosts) {host : HostState} (owned : Owned name 0 net next)
    (phase : host.phase.Shaped) : Shaped next (Function.update hosts name host) :=
  shaped.update owned (by simp) phase

theorem deliver (shaped : Shaped net hosts) {index : ℕ}
    (delivered : net.deliver index = some next) : Shaped next hosts where
  traffic packet packet_mem :=
    shaped.traffic packet (Multiset.mem_of_le (Network.packets_deliver_le delivered) packet_mem)
  unicast packet packet_mem :=
    shaped.unicast packet (Network.mem_inFlight_of_deliver delivered packet_mem)
  phase := shaped.phase

theorem broadcast (shaped : Shaped net hosts) (number : ℕ) :
    Shaped (net.broadcast ⟨name, .join number⟩ (·.port == .ctrl) .hello) hosts where
  traffic packet packet_mem := by
    rcases Network.mem_packets_broadcast packet_mem with old | ⟨⟨host, port⟩, hears, rfl⟩
    · exact shaped.traffic packet old
    · obtain rfl : port = .ctrl := by simpa using hears
      exact .hello name host number
  unicast := shaped.unicast
  phase := shaped.phase

end Shaped

theorem shaped_initial : Shaped State.initial.net State.initial.hosts where
  traffic := by simp [State.initial]
  unicast := by simp [State.initial, Network.silent]
  phase _ := trivial

theorem shaped_step {state next : State} {action : Action} (shaped : Shaped state.net state.hosts)
    (step : Step state action next) : Shaped next.net next.hosts := by
  cases step with
  | deliver delivered => exact shaped.deliver delivered
  | start host_eq idle =>
      apply Shaped.broadcast
      exact shaped.silent (Owned.openSocket _ _ _) trivial
  | receiveReply phase_eq received =>
      exact shaped.silent ((Owned.receive received).trans (Owned.close _ _ _)) trivial
  | joinTimeout phase_eq quiet => exact shaped.silent (Owned.close _ _ _) trivial
  | connect phase_eq listening => exact shaped.silent (Owned.refl _ _) trivial
  | refused phase_eq deaf => exact shaped.silent (Owned.closeWhere _ _) trivial
  | send phase_eq => exact shaped.silent (Owned.refl _ _) trivial
  | openControl phase_eq => exact shaped.silent (Owned.openSocket _ _ _) trivial
  | @identify name packet net kind phase_eq received payload_eq =>
      apply shaped.silent (Owned.receive received)
      rcases Network.receive_effect received with ⟨-, here, -, -⟩
      rcases shaped.of_ctrl (Network.mem_packets_of_receive received) here with
        ⟨-, -, -, hello⟩ | ⟨master, number, -, source_eq, -⟩
      · rw [payload_eq] at hello
        contradiction
      · exact ⟨master, number, source_eq⟩
  | unknown phase_eq received payload_ne => exact shaped.silent (Owned.closeWhere _ _) trivial
  | @acknowledge name peer kind phase_eq =>
      have owned := (Owned.send name ⟨⟨name, .ctrl⟩, peer, .readyRecv kind⟩ state.net).trans
        (Owned.close name .ctrl _)
      refine shaped.update owned ?_ trivial
      intro packet packet_mem
      rw [Multiset.zero_add, Multiset.mem_singleton] at packet_mem
      exact packet_mem ▸ .acknowledgement phase_eq
  | openData phase_eq => exact shaped.silent (Owned.openSocket _ _ _) trivial
  | receiveData phase_eq received =>
      exact shaped.silent ((Owned.receive received).trans (Owned.close _ _ _)) trivial
  | badData phase_eq received rejected => exact shaped.silent (Owned.closeWhere _ _) trivial
  | masterStart phase_eq => exact shaped.silent (Owned.refl _ _) trivial
  | masterOpen phase_eq => exact shaped.silent (Owned.openSocket _ _ _) trivial
  | masterTimeout phase_eq quiet after_eq =>
      apply shaped.silent (Owned.close _ _ _)
      rcases after_eq with rfl | rfl <;> trivial
  | @masterReceive name packet net code phase_eq received code_eq =>
      apply shaped.silent (Owned.receive received)
      rcases Network.receive_effect received with ⟨-, here, -, -⟩
      rcases shaped.of_ctrl (Network.mem_packets_of_receive received) here with
        ⟨client, number, source_eq, -⟩ | ⟨-, -, kind, -, ready⟩
      · exact ⟨client, number, source_eq⟩
      · rw [ready] at code_eq
        rcases code_eq with ⟨hello, -⟩ | ⟨bye, -⟩ <;> contradiction
  | @masterReply name client code phase_eq =>
      refine shaped.update (Owned.send name ⟨⟨name, .ctrl⟩, client, code.reply⟩ state.net) ?_
        trivial
      intro packet packet_mem
      rw [Multiset.mem_singleton.mp packet_mem]
      exact .reply phase_eq
  | masterClose phase_eq => exact shaped.silent (Owned.close _ _ _) trivial
  | masterListen phase_eq => exact shaped.silent (Owned.refl _ _) trivial
  | masterAccept phase_eq first => exact shaped.silent (Owned.refl _ _) trivial
  | masterRecv phase_eq first stream_eq list_eq =>
      exact shaped.silent (Owned.openSocket _ _ _) trivial
  | refuseNodedata phase_eq first stream_eq => exact shaped.silent (Owned.closeWhere _ _) trivial
  | @busy action name before after sockets database sent net phase_eq before_busy after_busy owned
      sent_ok =>
      apply shaped.update owned sent_ok
      rcases after_busy with busy | rfl
      · cases after <;> trivial
      · trivial
  | stop running cause => exact shaped.silent (Owned.closeWhere _ _) trivial

theorem shaped_inductive (allowed : State → Action → Prop) :
    lan.Inductive allowed fun state => Shaped state.net state.hosts where
  initial := shaped_initial
  preserved stepped _ shaped := shaped_step shaped (Step.of_step stepped)

end NodeinfoSystem.Lan
