import NodeinfoSystem.Exchange.Basic

/-!
# What one step of the exchange can do

`Step` lists the branches of the step function with the guards under which each
is taken. Every invariant is proved by cases on it.
-/

namespace NodeinfoSystem.Exchange

open Foundation

variable {Master : Type} [DecidableEq Master]

/-- The branches of `State.step`. -/
inductive Step (state : State Master) : Action Master → State Master → Prop
  | deliver {index : ℕ} {net : Network (Endpoint Master) (Message Master)}
      (delivered : state.net.deliver index = some net) :
      Step state (.deliver index) (state.setNet net)
  | lose {index : ℕ} {net : Network (Endpoint Master) (Message Master)}
      (lost : state.net.lose index = some net) :
      Step state (.lose index) (state.setNet net)
  | bindCtrl (relay_eq : state.relay = .starting) :
      Step state .relayBind
        { state with net := state.net.bind .relayCtrl, relay := .accepting }
  | bindData {client : Endpoint Master} (relay_eq : state.relay = .receiving client) :
      Step state .relayBind (state.setNet (state.net.bind .relayData))
  | accept {packet : Packet (Endpoint Master) (Message Master)}
      {net : Network (Endpoint Master) (Message Master)} {kind : Kind}
      (relay_eq : state.relay = .accepting)
      (received : state.net.receive .relayCtrl = some (packet, net))
      (kind_eq : packet.payload.kind = some kind) :
      Step state .relayAccept
        { state with net := net, relay := .replying packet.source kind }
  | reject {packet : Packet (Endpoint Master) (Message Master)}
      {net : Network (Endpoint Master) (Message Master)}
      (relay_eq : state.relay = .accepting)
      (received : state.net.receive .relayCtrl = some (packet, net)) :
      Step state .relayAccept (state.setNet net)
  | replyJoin {client : Endpoint Master} (relay_eq : state.relay = .replying client .join) :
      Step state .relayReply { state with
        net := state.net.send ⟨.relayCtrl, client, .networkId state.networkId⟩
        networkId := state.networkId + 1
        relay := .accepting }
  | replyReady {client : Endpoint Master} (relay_eq : state.relay = .replying client .ready) :
      Step state .relayReply { state with
        net := state.net.send ⟨.relayCtrl, client, .readyRecv⟩
        relay := .receiving client }
  | replyFetch {client : Endpoint Master} (relay_eq : state.relay = .replying client .fetch) :
      Step state .relayReply { state with
        net := state.net.send ⟨.relayCtrl, client, .database⟩
        relay := .accepting }
  | consume {client : Endpoint Master} {packet : Packet (Endpoint Master) (Message Master)}
      {net : Network (Endpoint Master) (Message Master)}
      (relay_eq : state.relay = .receiving client)
      (received : state.net.receive .relayData = some (packet, net)) :
      Step state .relayReceive { state with
        net := net
        relay := .accepting
        consumed := (client, packet.payload) :: state.consumed }
  | request {master : Master} {kind : Kind} {current : MasterState} {client : Endpoint Master}
      (current_eq : current = state.masters master) (may : current.MayRequest kind)
      (client_eq : client = waitingSocket master current.nextRequest) :
      Step state (.request master kind)
        ((state.setNet ((state.net.bind client).send ⟨client, .relayCtrl, kind.message⟩)).setMaster
          master { current with
            phase := .waiting kind current.nextRequest
            nextRequest := current.nextRequest + 1 })
  | masterReceive {master : Master} {kind : Kind} {number : ℕ}
      {packet : Packet (Endpoint Master) (Message Master)}
      {net : Network (Endpoint Master) (Message Master)}
      (phase_eq : (state.masters master).phase = .waiting kind number)
      (received : state.net.receive (waitingSocket master number) = some (packet, net)) :
      Step state (.masterReceive master)
        ((state.setNet (net.close (waitingSocket master number))).setMaster master
          ((state.masters master).afterReply number kind packet.payload))
  | masterTimeout {master : Master} {kind : Kind} {number : ℕ}
      (phase_eq : (state.masters master).phase = .waiting kind number) :
      Step state (.masterTimeout master)
        ((state.setNet (state.net.close (waitingSocket master number))).setMaster master
          ((state.masters master).afterTimeout kind))
  | masterSendList {master : Master} {number : ℕ}
      (phase_eq : (state.masters master).phase = .holding number) :
      Step state (.masterSendList master)
        ((state.setNet (state.net.send
            ⟨.data ⟨master, number⟩, .relayData, .list ⟨master, number⟩⟩)).setMaster master
          { state.masters master with phase := .updating })
  | masterNextRound {master : Master} (phase_eq : (state.masters master).phase = .updating) :
      Step state (.masterNextRound master)
        (state.setMaster master { state.masters master with phase := .serving })
  | masterFail {master : Master}
      (phase_eq : (state.masters master).phase ∈
        [MasterPhase.starting, MasterPhase.serving, MasterPhase.updating]) :
      Step state (.masterFail master)
        (state.setMaster master { state.masters master with phase := .stopped })

theorem Step.of_relayBind {state next : State Master} (stepped : state.relayBind = some next) :
    Step state .relayBind next := by
  simp only [State.relayBind] at stepped
  split at stepped
  · next relay_eq =>
      simp only [Option.some.injEq] at stepped
      exact stepped ▸ .bindCtrl relay_eq
  · next client relay_eq =>
      split at stepped
      · contradiction
      · simp only [Option.some.injEq] at stepped
        exact stepped ▸ .bindData relay_eq
  · contradiction

theorem Step.of_relayAccept {state next : State Master}
    (stepped : state.relayAccept = some next) : Step state .relayAccept next := by
  simp only [State.relayAccept] at stepped
  split at stepped
  · next packet net relay_eq received =>
      split at stepped
      · next kind kind_eq =>
          simp only [Option.some.injEq] at stepped
          exact stepped ▸ .accept relay_eq received kind_eq
      · simp only [Option.some.injEq] at stepped
        exact stepped ▸ .reject relay_eq received
  · contradiction

theorem Step.of_relayReply {state next : State Master} (stepped : state.relayReply = some next) :
    Step state .relayReply next := by
  simp only [State.relayReply] at stepped
  split at stepped
  · next client relay_eq =>
      simp only [Option.some.injEq] at stepped
      exact stepped ▸ .replyJoin relay_eq
  · next client relay_eq =>
      simp only [Option.some.injEq] at stepped
      exact stepped ▸ .replyReady relay_eq
  · next client relay_eq =>
      simp only [Option.some.injEq] at stepped
      exact stepped ▸ .replyFetch relay_eq
  · contradiction

theorem Step.of_relayReceive {state next : State Master}
    (stepped : state.relayReceive = some next) : Step state .relayReceive next := by
  simp only [State.relayReceive] at stepped
  split at stepped
  · next client packet net relay_eq received =>
      simp only [Option.some.injEq] at stepped
      exact stepped ▸ .consume relay_eq received
  · contradiction

theorem Step.of_masterReceive {state next : State Master} {master : Master}
    (stepped : state.masterReceive master = some next) :
    Step state (.masterReceive master) next := by
  simp only [State.masterReceive] at stepped
  split at stepped
  · next kind number phase_eq =>
      split at stepped
      · contradiction
      · next packet net received =>
          simp only [Option.some.injEq] at stepped
          exact stepped ▸ .masterReceive phase_eq received
  · contradiction

theorem Step.of_masterTimeout {state next : State Master} {master : Master}
    (stepped : state.masterTimeout master = some next) :
    Step state (.masterTimeout master) next := by
  simp only [State.masterTimeout] at stepped
  split at stepped
  · next kind number phase_eq =>
      simp only [Option.some.injEq] at stepped
      exact stepped ▸ .masterTimeout phase_eq
  · contradiction

theorem Step.of_masterSendList {state next : State Master} {master : Master}
    (stepped : state.masterSendList master = some next) :
    Step state (.masterSendList master) next := by
  simp only [State.masterSendList] at stepped
  split at stepped
  · next number phase_eq =>
      simp only [Option.some.injEq] at stepped
      exact stepped ▸ .masterSendList phase_eq
  · contradiction

theorem Step.of_masterFail {state next : State Master} {master : Master}
    (stepped : state.masterFail master = some next) : Step state (.masterFail master) next := by
  simp only [State.masterFail] at stepped
  have running : (state.masters master).phase ∈
      [MasterPhase.starting, MasterPhase.serving, MasterPhase.updating] ∧
        state.setMaster master { state.masters master with phase := .stopped } = next := by
    split at stepped <;> simp_all
  exact running.2 ▸ .masterFail running.1

theorem Step.of_step {state next : State Master} {action : Action Master}
    (stepped : (system Master).step state action = some next) : Step state action next := by
  change state.step action = some next at stepped
  cases action with
  | deliver index =>
      rcases Option.map_eq_some_iff.mp stepped with ⟨net, delivered, rfl⟩
      exact .deliver delivered
  | lose index =>
      rcases Option.map_eq_some_iff.mp stepped with ⟨net, lost, rfl⟩
      exact .lose lost
  | relayBind => exact Step.of_relayBind stepped
  | relayAccept => exact Step.of_relayAccept stepped
  | relayReply => exact Step.of_relayReply stepped
  | relayReceive => exact Step.of_relayReceive stepped
  | request master kind =>
      simp only [State.step, State.request] at stepped
      split at stepped
      · next may =>
          simp only [Option.some.injEq] at stepped
          exact stepped ▸ .request rfl may rfl
      · contradiction
  | masterReceive master => exact Step.of_masterReceive stepped
  | masterTimeout master => exact Step.of_masterTimeout stepped
  | masterSendList master => exact Step.of_masterSendList stepped
  | masterNextRound master =>
      simp only [State.step, State.masterNextRound] at stepped
      split at stepped
      · next guard =>
          simp only [Option.some.injEq] at stepped
          exact stepped ▸ .masterNextRound guard.1
      · contradiction
  | masterFail master => exact Step.of_masterFail stepped

end NodeinfoSystem.Exchange
