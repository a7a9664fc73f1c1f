import NodeinfoSystem.Exchange.Basic
import NodeinfoSystem.Foundation.Superposition
import NodeinfoSystem.Collector.RelayRequests
import NodeinfoSystem.Relay.Basic

/-!
# The huge cluster

The relay and its masters with the data they exchange. The exchange says which
datagrams are in flight and what every process waits for; the bytes of a list or of
a database are kept beside it, by the request they belong to. A list is what a master
hands to `sendto`, the relay updates its database from the bytes it receives, and a
master stores what the relay's reply holds.

Two steps of the exchange are refused here because the program does not get through
them: sending a list that is too long for a datagram, and receiving a database that
was too long to be sent.

As in the exchange, the relay's own calls of `socket`, `bind`, `recvfrom` and `sendto`
succeed, and so does the `malloc` of `receive_nodedata_list`; what fails here are the
allocations and probes of `update_nodeinfo_database`. `Relay.Round` has the other failures
as well. After one of them `main` goes on, and a list that has been acknowledged may then
be neither received nor waited for: the results about this system say nothing about such
a run.
-/

namespace NodeinfoSystem.HugeCluster

open Foundation Exchange Wire
open Collector (ListBlock listPayload databasePayload fetchNodeinfoDatabase)

/-- The text of a request. -/
def requestMsg : Kind → List UInt8
  | .join => helloRelayServerMsg
  | .ready => readySendNodedataListMsg
  | .fetch => giveMeDbMsg

theorem length_requestMsg_le (kind : Kind) : (requestMsg kind).length ≤ maxUdpPayload := by
  cases kind <;> decide

def requestDatagram (kind : Kind) : Datagram where
  bytes := requestMsg kind
  fits := length_requestMsg_le kind

/--
A round of the relay's main loop in which the relay's own calls succeed, outside
`update_nodeinfo_database`. The only `sendto` that fails is that of a database which is
too long for a datagram, as the database itself decides.
-/
def requestRound {Master : Type} (client : Endpoint Master) (kind : Kind) :
    Relay.Round (Endpoint Master) where
  ctrlOpens := true
  request := some (client, requestDatagram kind)
  replySent := true
  listOpens := true
  listGranted := true
  list := none
  os := Database.grantingOs

def listRound {Master : Type} (client : Endpoint Master) (list : Datagram) (os : Database.Os) :
    Relay.Round (Endpoint Master) :=
  { requestRound client .ready with list := some list, os := os }

/-- A reply to a request for the database. -/
structure Answer where
  datagram : Datagram
  /-- The rounds the relay had made before this one. -/
  position : ℕ

/-- `g_nodeinfo_db` of a master, with the request it was fetched by. -/
structure Copy where
  db : NodeinfoDatabase
  number : ℕ
  /-- The rounds the relay had made before it replied. -/
  position : ℕ

structure Data (Master : Type) where
  /-- The static variables of `db_manager.c`. -/
  manager : Database.State
  /-- The variable `db` of the relay's `main`. -/
  db : Option NodeinfoDatabase
  /-- The rounds the relay has completed, in their order. -/
  rounds : List (Relay.Round (Endpoint Master))
  /-- The replies of the relay, in their order. -/
  replies : List (Endpoint Master × Relay.Reply)
  /-- The lists handed to `sendto`, in their order, by the socket of their ready request. -/
  sent : List (Endpoint Master × Datagram)
  answers : Request Master → Option Answer
  nodeinfoDb : Master → Option Copy

/-- What a step is given beside the action. -/
structure Input where
  /-- The list of the master that sends one. -/
  list : ListBlock
  /-- The answers met by `update_nodeinfo_database`. -/
  os : Database.Os

section Update

variable {Master : Type} [DecidableEq Master]

namespace Data

def initial : Data Master where
  manager := Database.State.initial
  db := none
  rounds := []
  replies := []
  sent := []
  answers _ := none
  nodeinfoDb _ := none

/-- The relay has completed a round. -/
def complete (round : Relay.Round (Endpoint Master)) (data : Data Master) : Data Master :=
  { data with rounds := data.rounds ++ [round] }

def reply (client : Endpoint Master) (answer : Relay.Reply) (data : Data Master) : Data Master :=
  { data with replies := data.replies ++ [(client, answer)] }

/-- The database goes to the socket of the request, unless it is too long. -/
def replyFetch (client : Endpoint Master) (data : Data Master) : Data Master :=
  match client, databasePayload (Relay.served data.db) with
  | .client request, some datagram =>
      let answered := data.answers
      { (data.complete (requestRound client .fetch)).reply client (.database datagram) with
        answers := Function.update answered request (some ⟨datagram, data.rounds.length⟩) }
  | _, _ => data.complete (requestRound client .fetch)

def relayReply (state : State Master) (data : Data Master) : Data Master :=
  match state.relay with
  | .replying client .join =>
      (data.complete (requestRound client .join)).reply client (.networkId state.networkId)
  | .replying client .ready => data.reply client .readyRecv
  | .replying client .fetch => data.replyFetch client
  | _ => data

/--
`receive_nodedata_list`, with its buffer granted, and `update_nodeinfo_database` on a
datagram.
-/
def processList (client : Endpoint Master) (datagram : Datagram) (os : Database.Os)
    (data : Data Master) : Option (Data Master) :=
  let completed := data.complete (listRound client datagram os)
  match Wire.Relay.receiveNodedataList true (some datagram) with
  | none => some completed
  | some list =>
      match Database.updateNodeinfoDatabase os list data.manager with
      | none => none
      | some (db, manager) => some { completed with db := db, manager := manager }

def relayReceive (state : State Master) (os : Database.Os) (data : Data Master) :
    Option (Data Master) :=
  match state.relay, state.net.receive .relayData with
  | .receiving client, some (⟨_, _, .list request⟩, _) =>
      match data.sent.lookup (.client request) with
      | none => none
      | some datagram => data.processList client datagram os
  | _, _ => some data

def masterReceive (state : State Master) (master : Master) (data : Data Master) :
    Option (Data Master) :=
  match (state.masters master).phase with
  | .waiting .fetch number =>
      match state.net.receive (waitingSocket master number) with
      | some (⟨_, _, .database⟩, _) =>
          match data.answers ⟨master, number⟩ with
          | none => none
          | some answer =>
              match fetchNodeinfoDatabase true (.local (.datagram answer.datagram))
                  ((data.nodeinfoDb master).map Copy.db) with
              | (code, stored) =>
                  if code < 0 then none
                  else some { data with
                    nodeinfoDb := Function.update data.nodeinfoDb master
                      (stored.map fun db => ⟨db, number, answer.position⟩) }
      | _ => some data
  | _ => some data

def masterSendList (state : State Master) (master : Master) (list : ListBlock)
    (data : Data Master) : Option (Data Master) :=
  match (state.masters master).phase, listPayload list with
  | .holding number, some datagram =>
      some { data with sent := data.sent ++ [(waitingSocket master number, datagram)] }
  | .holding _, none => none
  | _, _ => some data

def update (state : State Master) (action : Action Master) (input : Input)
    (data : Data Master) : Option (Data Master) :=
  match action with
  | .relayReply => some (data.relayReply state)
  | .relayReceive => data.relayReceive state input.os
  | .masterReceive master => data.masterReceive state master
  | .masterSendList master => data.masterSendList state master input.list
  | _ => some data

end Data

end Update

def system (Master : Type) [DecidableEq Master] :
    TransitionSystem (State Master × Data Master) (Action Master × Input) :=
  (Exchange.system Master).superpose Data.initial Data.update

/-! ## A round of one of two masters -/

/-- A list of one node, of the network the first master gets. -/
def sampleInput : Input where
  list := ⟨1, 1, 1, [⟨21, 7, 4⟩]⟩
  os := Database.grantingOs

def sampleRun (actions : List (Action (Fin 2))) : List (Action (Fin 2) × Input) :=
  actions.map fun action => (action, sampleInput)

/-- A master receives the acknowledgement. -/
def receiveAcknowledgement {Master : Type} (master : Master) : List (Action Master) :=
  [.relayBind, .deliver 0, .masterReceive master]

/-- A master asks for the database and stores it. -/
def fetchRound {Master : Type} (master : Master) : List (Action Master) :=
  [.request master .fetch, .deliver 0, .relayAccept, .relayReply, .deliver 0,
    .masterReceive master]

end NodeinfoSystem.HugeCluster
