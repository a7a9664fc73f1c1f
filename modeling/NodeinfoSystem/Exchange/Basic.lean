import NodeinfoSystem.Foundation.Network
import NodeinfoSystem.Foundation.Transition
import NodeinfoSystem.Types
import Mathlib.Logic.Function.Basic

/-!
# The relay and its masters

One relay runs `accept_request` and `receive_nodedata_list` in its main loop; any
number of masters run `request_join_huge_cluster`, the ready exchange of
`distribute_nodedata_list`, and `fetch_nodeinfo_database` against it. A step is
one socket operation of one process, or one action of the network.

Every request of a master opens a socket of its own, which is closed when the
reply has been received or the wait has timed out. What the masters do with their
members between two relay exchanges is not part of this system: it may take any
time and may end the master.

The relay's own calls of `socket`, `bind`, `recvfrom`, `sendto` and `malloc` succeed, and
no one else sends to its ports. The relay alone, with its failures, is `Relay.Round`.
-/

namespace NodeinfoSystem.Exchange

open Foundation

/-- One request of a master to the relay, numbered in the order they are made. -/
structure Request (Master : Type) where
  master : Master
  number : ℕ
  deriving DecidableEq

inductive Endpoint (Master : Type) where
  /-- The relay's `CTRL_MSG_PORT`. -/
  | relayCtrl
  /-- The relay's `NODEDATA_LIST_PORT`. -/
  | relayData
  /-- The ephemeral socket a request is made from. -/
  | client (request : Request Master)
  /-- The ephemeral socket the list of a request is sent from. -/
  | data (request : Request Master)
  deriving DecidableEq

instance (Master : Type) [DecidableEq Master] : LawfulBEq (Endpoint Master) :=
  inferInstance

inductive Kind where
  | join
  | ready
  | fetch
  deriving DecidableEq

/-- The datagrams of the system; a list is identified by the request it is sent for. -/
inductive Message (Master : Type) where
  /-- `HELLO_RELAY_SERVER_MSG`. -/
  | hello
  /-- `READY_SEND_NODEDATA_LIST_MSG`. -/
  | readySend
  /-- `GIVE_ME_DB_MSG`. -/
  | giveDb
  /-- The network id in network byte order. -/
  | networkId (id : Int32)
  /-- `READY_RECV_NODEDATA_LIST_MSG`. -/
  | readyRecv
  | list (request : Request Master)
  | database
  deriving DecidableEq

/-- The message that makes a request. -/
def Kind.message {Master : Type} : Kind → Message Master
  | .join => .hello
  | .ready => .readySend
  | .fetch => .giveDb

/-- The string comparisons of `accept_request`. -/
def Message.kind {Master : Type} : Message Master → Option Kind
  | .hello => some .join
  | .readySend => some .ready
  | .giveDb => some .fetch
  | _ => none

inductive RelayPhase (Master : Type) where
  /-- Before the control socket is bound. -/
  | starting
  /-- In `recvfrom` of `accept_request`. -/
  | accepting
  /-- A request has been received and not been answered yet. -/
  | replying (client : Endpoint Master) (kind : Kind)
  /-- In `receive_nodedata_list`, after acknowledging `client`. -/
  | receiving (client : Endpoint Master)
  deriving DecidableEq

inductive MasterPhase where
  /-- Before `request_join_huge_cluster`. -/
  | starting
  /-- In `recvfrom`, for the reply to a request. -/
  | waiting (kind : Kind) (number : ℕ)
  /-- Serving its members: a distribution or a fetch may come next. -/
  | serving
  /-- The ready exchange was acknowledged and the list has not been sent. -/
  | holding (number : ℕ)
  /-- After the ready exchange of a round, before the fetch of that round. -/
  | updating
  | stopped
  deriving DecidableEq

structure MasterState where
  phase : MasterPhase
  /-- `nd_list->network_id`. -/
  networkId : Int32
  nextRequest : ℕ

structure State (Master : Type) where
  net : Network (Endpoint Master) (Message Master)
  relay : RelayPhase Master
  /-- The relay's variable `network_id`. -/
  networkId : Int32
  masters : Master → MasterState
  /-- The lists received so far, each with the client acknowledged before it. -/
  consumed : List (Endpoint Master × Message Master)

inductive Action (Master : Type) where
  | deliver (index : ℕ)
  | lose (index : ℕ)
  /-- The relay binds the socket it is about to use. -/
  | relayBind
  | relayAccept
  | relayReply
  | relayReceive
  | request (master : Master) (kind : Kind)
  | masterReceive (master : Master)
  | masterTimeout (master : Master)
  | masterSendList (master : Master)
  /-- A master without a network id ends a round without a fetch. -/
  | masterNextRound (master : Master)
  /-- A master ends because of an error outside this system. -/
  | masterFail (master : Master)

def waitingSocket {Master : Type} (master : Master) (number : ℕ) : Endpoint Master :=
  .client ⟨master, number⟩

namespace MasterState

/-- Whether the master's program can make a request of this kind next. -/
def MayRequest (state : MasterState) : Kind → Prop
  | .join => state.phase = .starting
  | .ready => state.phase = .serving ∧ state.networkId ≠ isTimeout
  | .fetch => (state.phase = .serving ∨ state.phase = .updating) ∧ 0 < state.networkId.toInt

instance (state : MasterState) (kind : Kind) : Decidable (state.MayRequest kind) :=
  match kind with
  | .join => inferInstanceAs (Decidable (_ = _))
  | .ready => inferInstanceAs (Decidable (_ ∧ _))
  | .fetch => inferInstanceAs (Decidable (_ ∧ _))

/-- What a master does with the reply to a request. -/
def afterReply {Master : Type} (state : MasterState) (number : ℕ) :
    Kind → Message Master → MasterState
  | .join, .networkId id =>
      -- the caller takes the id `IS_TIMEOUT` for a timeout and other negative ids for errors
      if id ≠ isTimeout ∧ id.toInt < 0 then { state with phase := .stopped }
      else { state with networkId := id, phase := .serving }
  | .ready, .readyRecv => { state with phase := .holding number }
  | .fetch, .database => { state with phase := .serving }
  | _, _ => { state with phase := .stopped }

/-- What a master does when the reply to a request does not arrive in time. -/
def afterTimeout (state : MasterState) : Kind → MasterState
  | .join => { state with networkId := isTimeout, phase := .serving }
  -- "skip sending to relay this round"
  | .ready => { state with phase := .updating }
  | .fetch => { state with phase := .stopped }

end MasterState

section Step

variable {Master : Type} [DecidableEq Master]

namespace State

def initial : State Master where
  net := Network.silent
  relay := .starting
  networkId := 1
  masters _ := ⟨.starting, 0, 0⟩
  consumed := []

def setMaster (state : State Master) (master : Master) (new : MasterState) : State Master :=
  { state with masters := Function.update state.masters master new }

def setNet (state : State Master) (net : Network (Endpoint Master) (Message Master)) :
    State Master :=
  { state with net := net }

def relayBind (state : State Master) : Option (State Master) :=
  match state.relay with
  | .starting => some { state with net := state.net.bind .relayCtrl, relay := .accepting }
  | .receiving _ =>
      if .relayData ∈ state.net.bound then none
      else some (state.setNet (state.net.bind .relayData))
  | _ => none

def relayAccept (state : State Master) : Option (State Master) :=
  match state.relay, state.net.receive .relayCtrl with
  | .accepting, some (packet, net) =>
      match packet.payload.kind with
      | some kind => some { state with net := net, relay := .replying packet.source kind }
      | none => some (state.setNet net)
  | _, _ => none

def relayReply (state : State Master) : Option (State Master) :=
  match state.relay with
  | .replying client .join =>
      some { state with
        net := state.net.send ⟨.relayCtrl, client, .networkId state.networkId⟩
        networkId := state.networkId + 1
        relay := .accepting }
  | .replying client .ready =>
      some { state with
        net := state.net.send ⟨.relayCtrl, client, .readyRecv⟩
        relay := .receiving client }
  | .replying client .fetch =>
      some { state with
        net := state.net.send ⟨.relayCtrl, client, .database⟩
        relay := .accepting }
  | _ => none

/-- The sender of the list is not looked at. -/
def relayReceive (state : State Master) : Option (State Master) :=
  match state.relay, state.net.receive .relayData with
  | .receiving client, some (packet, net) =>
      some { state with
        net := net
        relay := .accepting
        consumed := (client, packet.payload) :: state.consumed }
  | _, _ => none

def request (state : State Master) (master : Master) (kind : Kind) : Option (State Master) :=
  let current := state.masters master
  if current.MayRequest kind then
    let client := waitingSocket master current.nextRequest
    some ((state.setNet ((state.net.bind client).send ⟨client, .relayCtrl, kind.message⟩)).setMaster
      master { current with
        phase := .waiting kind current.nextRequest
        nextRequest := current.nextRequest + 1 })
  else none

def masterReceive (state : State Master) (master : Master) : Option (State Master) :=
  let current := state.masters master
  match current.phase with
  | .waiting kind number =>
      match state.net.receive (waitingSocket master number) with
      | none => none
      | some (packet, net) =>
          some ((state.setNet (net.close (waitingSocket master number))).setMaster master
            (current.afterReply number kind packet.payload))
  | _ => none

def masterTimeout (state : State Master) (master : Master) : Option (State Master) :=
  let current := state.masters master
  match current.phase with
  | .waiting kind number =>
      some ((state.setNet (state.net.close (waitingSocket master number))).setMaster master
        (current.afterTimeout kind))
  | _ => none

def masterSendList (state : State Master) (master : Master) : Option (State Master) :=
  let current := state.masters master
  match current.phase with
  | .holding number =>
      some ((state.setNet (state.net.send
          ⟨.data ⟨master, number⟩, .relayData, .list ⟨master, number⟩⟩)).setMaster master
        { current with phase := .updating })
  | _ => none

def masterNextRound (state : State Master) (master : Master) : Option (State Master) :=
  let current := state.masters master
  if current.phase = .updating ∧ ¬0 < current.networkId.toInt then
    some (state.setMaster master { current with phase := .serving })
  else none

def masterFail (state : State Master) (master : Master) : Option (State Master) :=
  let current := state.masters master
  match current.phase with
  | .starting | .serving | .updating =>
      some (state.setMaster master { current with phase := .stopped })
  | _ => none

def step (state : State Master) : Action Master → Option (State Master)
  | .deliver index => (state.net.deliver index).map state.setNet
  | .lose index => (state.net.lose index).map state.setNet
  | .relayBind => state.relayBind
  | .relayAccept => state.relayAccept
  | .relayReply => state.relayReply
  | .relayReceive => state.relayReceive
  | .request master kind => state.request master kind
  | .masterReceive master => state.masterReceive master
  | .masterTimeout master => state.masterTimeout master
  | .masterSendList master => state.masterSendList master
  | .masterNextRound master => state.masterNextRound master
  | .masterFail master => state.masterFail master

end State

end Step

def system (Master : Type) [DecidableEq Master] :
    TransitionSystem (State Master) (Action Master) where
  initial := State.initial
  step := State.step

/-! ## A round of one of two masters -/

/-- The first master joins and makes a ready request, which the relay acknowledges. -/
def acknowledgedRound : List (Action (Fin 2)) :=
  [.relayBind, .request 0 .join, .deliver 0, .relayAccept, .relayReply, .deliver 0,
    .masterReceive 0, .request 0 .ready, .deliver 0, .relayAccept, .relayReply]

/-- The first master receives the acknowledgement and sends its list. -/
def completedRound : List (Action (Fin 2)) :=
  acknowledgedRound ++
    [.relayBind, .deliver 0, .masterReceive 0, .masterSendList 0, .deliver 0, .relayReceive]

/-- The first master stops waiting although the acknowledgement has been sent. -/
def abandonedRound : List (Action (Fin 2)) :=
  acknowledgedRound ++ [.masterTimeout 0]

end NodeinfoSystem.Exchange
