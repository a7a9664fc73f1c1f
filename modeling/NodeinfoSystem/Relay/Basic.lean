import NodeinfoSystem.Collector.Payload
import NodeinfoSystem.Database.Basic
import NodeinfoSystem.Wire.Messages

/-!
# The relay's main loop

One iteration of the loop of `main` waits for a control request and serves it:
`accept_request` answers a join or a ready request itself, a ready request is
followed by `receive_nodedata_list` and `update_nodeinfo_database`, and a database
request by `send_nodeinfo_database`. An iteration is one step; what it meets from
the operating system and from the network is a `Round`.

Three things outlive an iteration: the static variables of the control service,
the static variables of the database manager, and the pointer `db` of `main`, which
names the latest result of `update_nodeinfo_database`.
-/

namespace NodeinfoSystem.Relay

open Foundation Wire
open Collector (databasePayload)

/-- The result of `accept_request`. -/
inductive RequestCode where
  | error
  | join
  | recvNodedataList
  | nodeinfoDb
  deriving DecidableEq

/-- What the relay sends in answer to a request. -/
inductive Reply where
  | networkId (id : Int32)
  | readyRecv
  | database (datagram : Datagram)

/-- The bytes handed to `sendto`. -/
def Reply.payload : Reply → List UInt8
  | .networkId id => encodeWord (htonl id.toUInt32)
  | .readyRecv => readyRecvNodedataListMsg
  | .database datagram => datagram.bytes

structure State (Client : Type) where
  /-- The flag `g_ctrl_inited`: the control socket is bound. -/
  ctrlInited : Bool
  /-- `g_last_client`, once a requester has been remembered. -/
  lastClient : Option Client
  /-- The variable `network_id`. -/
  networkId : Int32
  /-- The flag `inited` of `receive_nodedata_list`. -/
  listInited : Bool
  /-- The static variables of `db_manager.c`. -/
  manager : Database.State
  /-- The variable `db` of `main`. -/
  db : Option NodeinfoDatabase
  /-- The replies that have been sent, in their order. -/
  replies : List (Client × Reply)

/-- What one iteration of the loop meets. -/
structure Round (Client : Type) where
  /-- The control socket can be bound, should that be needed. -/
  ctrlOpens : Bool
  /-- The request and its sender; none when `recvfrom` reports an error. -/
  request : Option (Client × Datagram)
  /-- `sendto` accepts a reply, if it is not too long. -/
  replySent : Bool
  /-- The socket for lists can be bound, should that be needed. -/
  listOpens : Bool
  /-- The outcome of `malloc` for the receive buffer. -/
  listGranted : Bool
  /-- The next datagram on that socket; none when `recvfrom` reports an error. -/
  list : Option Datagram
  /-- The answers met by `update_nodeinfo_database`. -/
  os : Database.Os

namespace State

variable {Client : Type}

def initial : State Client where
  ctrlInited := false
  lastClient := none
  networkId := 1
  listInited := false
  manager := Database.State.initial
  db := none
  replies := []

def reply (state : State Client) (client : Client) (answer : Reply) : State Client :=
  { state with replies := state.replies ++ [(client, answer)] }

end State

section Functions

variable {Client : Type} (round : Round Client) (state : State Client)

/-- The text of a request: `recvfrom` stores at most 255 bytes. -/
def requestText (datagram : Datagram) : List UInt8 :=
  cString (datagram.bytes.take 255)

def acceptRequest : RequestCode × State Client :=
  if state.ctrlInited || round.ctrlOpens then
    let state := { state with ctrlInited := true }
    match round.request with
    | none => (.error, state)
    | some (client, datagram) =>
        if requestText datagram = helloRelayServerMsg then
          if round.replySent then
            (.join, { state.reply client (.networkId state.networkId) with
              networkId := state.networkId + 1 })
          else (.error, state)
        else if requestText datagram = readySendNodedataListMsg then
          if round.replySent then (.recvNodedataList, state.reply client .readyRecv)
          else (.error, state)
        else if requestText datagram = giveMeDbMsg then
          (.nodeinfoDb, { state with lastClient := some client })
        else (.error, state)
  else (.error, state)

/-- `receive_nodedata_list`, the static socket included. -/
def receiveNodedataList : Option (NodedataList Int32) × State Client :=
  if state.listInited || round.listOpens then
    (Wire.Relay.receiveNodedataList round.listGranted round.list, { state with listInited := true })
  else (none, state)

/-- The header that stands for a database when there is none. -/
def emptyHdr : NodeinfoDatabase where
  maxSize := 0
  currentSize := 0
  elements := []
  inBounds := by decide

/-- The database that `send_nodeinfo_database` sends. -/
def served (db : Option NodeinfoDatabase) : NodeinfoDatabase :=
  db.getD emptyHdr

/-- `send_nodeinfo_database` with the pointer `db` of `main`. -/
def sendNodeinfoDatabase : ℤ × State Client :=
  if state.ctrlInited then
    match state.lastClient with
    | none => (-1, state)
    | some client =>
        match databasePayload (served state.db) with
        | none => (-1, state)
        | some datagram =>
            if round.replySent then (0, state.reply client (.database datagram)) else (-1, state)
  else (-1, state)

/-- One iteration; `none` where the database manager has undefined behaviour. -/
def iterate : Option (State Client) :=
  match acceptRequest round state with
  | (.error, state) => some state
  | (.join, state) => some state
  | (.recvNodedataList, state) =>
      match receiveNodedataList round state with
      | (none, state) => some state
      | (some list, state) =>
          match Database.updateNodeinfoDatabase round.os list state.manager with
          | none => none
          | some (db, manager) => some { state with db := db, manager := manager }
  | (.nodeinfoDb, state) => some (sendNodeinfoDatabase round state).2

end Functions

def relay (Client : Type) : TransitionSystem (State Client) (Round Client) where
  initial := State.initial
  step state round := iterate round state

/-! ## Rounds that meet no failure -/

def sampleRound (client : ℕ) (text : List UInt8) (fits : text.length ≤ maxUdpPayload) :
    Round ℕ where
  ctrlOpens := true
  request := some (client, ⟨text, fits⟩)
  replySent := true
  listOpens := true
  listGranted := true
  list := none
  os := Database.grantingOs

def helloRound (client : ℕ) : Round ℕ :=
  sampleRound client helloRelayServerMsg (by decide)

theorem length_encode_singletonList (networkId ipaddress : Int32) :
    (encodeNodedataList relayAddress (Database.singletonList networkId ipaddress)).length ≤
      maxUdpPayload := by
  rw [length_encodeNodedataList]
  exact (by decide : nodedataListSize + nodedataSize * (1 : Int32).toInt.toNat ≤ maxUdpPayload)

/-- A client sends a list of one node. -/
def listRound (client : ℕ) (networkId ipaddress : Int32) : Round ℕ :=
  { sampleRound client readySendNodedataListMsg (by decide) with
    list := some ⟨encodeNodedataList relayAddress (Database.singletonList networkId ipaddress),
      length_encode_singletonList networkId ipaddress⟩ }

def giveDbRound (client : ℕ) : Round ℕ :=
  sampleRound client giveMeDbMsg (by decide)

end NodeinfoSystem.Relay
