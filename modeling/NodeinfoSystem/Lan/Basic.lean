import NodeinfoSystem.Collector.Payload
import NodeinfoSystem.Foundation.Network
import NodeinfoSystem.Foundation.Transition
import Mathlib.Logic.Function.Basic

/-!
# The nodes of one LAN

Every host runs `main` of the collector: it broadcasts `Hello_master!`, becomes a
member when a reply arrives, and a master when none does in time. All hosts use
the same control port, and a broadcast reaches every host whose control socket is
bound at that moment. A step is one socket operation of one host, or the delivery
of a datagram; datagrams take any time and are not lost.

What a master does with the relay between two rounds, and what any host does with
its files, has no effect on the LAN other than the database a master ends up
with, and that the host may stop; both are left open. A host may also stop at any
moment for a reason of its own, and be started again.
-/

namespace NodeinfoSystem.Lan

open Foundation

/-- A host, named by its IPv4 address. -/
abbrev Host := UInt32

/-- The data a master distributes, `NODEDATA_LIST` or `NODEINFO_DATABASE`. -/
inductive Kind where
  | nodedataList
  | nodeinfoDatabase
  deriving DecidableEq

inductive Port where
  /-- `CTRL_MSG_PORT`. -/
  | ctrl
  /-- `NODEDATA_LIST_PORT` or `NODEINFO_DB_PORT`. -/
  | data (kind : Kind)
  /-- The ephemeral socket of `request_join_cluster`. -/
  | join (number : ℕ)
  /-- The ephemeral socket of one distribution. -/
  | distribution (number : ℕ)
  deriving DecidableEq

structure Endpoint where
  host : Host
  port : Port
  deriving DecidableEq

inductive Message where
  /-- `HELLO_MASTER_MSG`. -/
  | hello
  /-- `WELCOME_NODE_MSG`. -/
  | welcome
  /-- `BYE_MASTER_MSG`. -/
  | byeMaster
  /-- `BYE_NODE_MSG`. -/
  | byeNode
  /-- `READY_SEND_NODEDATA_LIST_MSG` or `READY_SEND_DB_MSG`. -/
  | readySend (kind : Kind)
  /-- `READY_RECV_NODEDATA_LIST_MSG` or `READY_RECV_DB_MSG`. -/
  | readyRecv (kind : Kind)
  | payload (datagram : Wire.Datagram)

abbrev LanNetwork := Network Endpoint Message

/-- `JOIN_REQUEST_CODE` or `LEAVE_REQUEST_CODE`. -/
inductive RequestCode where
  | join
  | leave
  deriving DecidableEq

def RequestCode.reply : RequestCode → Message
  | .join => .welcome
  | .leave => .byeNode

/-- Where `run_member_node_procedure` is. -/
inductive MemberPhase where
  /-- In `recvfrom` of `request_join_cluster`. -/
  | awaiting (number : ℕ)
  /-- Before `connect` of `send_my_nodedata`. -/
  | connecting (master : Host)
  /-- Between `connect` and `send`. -/
  | connected (master : Host)
  /-- At the top of the receive loop. -/
  | looping
  /-- In `recvfrom` of `identify_data_type_from_master`. -/
  | identifying
  /-- A control message has been received and not been acknowledged yet. -/
  | answering (peer : Endpoint) (kind : Kind)
  /-- Before the socket for the announced data is bound. -/
  | opening (kind : Kind)
  /-- In `recvfrom` for the announced data. -/
  | receiving (kind : Kind)
  deriving DecidableEq

inductive LoopPoint where
  /-- Before the control message is sent. -/
  | inviting
  /-- In `recvfrom`, for the acknowledgement. -/
  | awaitingAck
  /-- Before the payload is sent. -/
  | delivering
  deriving DecidableEq

/-- The loop of `send_nodedata_list_to_members` and `distribute_nodeinfo_database`. -/
structure Loop where
  /-- The current target, and those after it. -/
  targets : List Host
  /-- `attempt`, for the current target. -/
  attempt : ℕ
  /-- `failures` is not zero. -/
  failed : Bool
  point : LoopPoint
  deriving DecidableEq

/--
Where `run_master_node_procedure` is. The client of the current request is kept
after the reply, where the program forgets it.
-/
inductive MasterPhase where
  /-- Before the loop: the list is created and the relay is asked for a network id. -/
  | starting
  /-- In `accept_member_request`, before the control socket is bound. -/
  | opening
  /-- In `recvfrom` of `accept_member_request`. -/
  | waiting
  /-- The request has been received and not been answered yet. -/
  | replying (client : Endpoint) (code : RequestCode)
  /-- The reply has been sent; the control socket is still open. -/
  | closing (client : Endpoint) (code : RequestCode)
  /-- In `receive_nodedata`, before `listen`. -/
  | preparing (client : Endpoint) (code : RequestCode)
  /-- In `accept`. -/
  | accepting (client : Endpoint) (code : RequestCode)
  /-- In `recv`, on the accepted connection. -/
  | receiving (client : Endpoint) (code : RequestCode)
  /-- In one of the two distributions, with its ephemeral socket. -/
  | distributing (kind : Kind) (number : ℕ) (loop : Loop)
  /-- After the list has been distributed: the relay and the files. -/
  | relaying
  /-- In `fetch_nodeinfo_database`. -/
  | fetching
  deriving DecidableEq

inductive Exit where
  /-- `identify_data_type_from_master` returned an unknown type. -/
  | unknownDataType
  /-- The announced data was received and rejected. -/
  | badData (kind : Kind)
  | connectRefused
  | error
  deriving DecidableEq

/-- Where `main` is. -/
inductive Phase where
  | off
  | member (phase : MemberPhase)
  | master (phase : MasterPhase)
  | exited (reason : Exit)
  deriving DecidableEq

structure HostState where
  phase : Phase
  /-- Ephemeral sockets opened so far. -/
  sockets : ℕ
  /-- The block that a master's `nd_list` names. -/
  list : Collector.ListBlock
  /-- `g_nodeinfo_db`. -/
  database : Option NodeinfoDatabase

/-- What a connection to `NODEDATA_PORT` has carried so far. -/
inductive Stream where
  | open
  | sent (nodedata : Nodedata UInt32)
  /-- The client has stopped without sending. -/
  | closed
  deriving DecidableEq

/-- A connection to `NODEDATA_PORT`, in the backlog or accepted. -/
structure Connection where
  client : Host
  server : Host
  stream : Stream
  deriving DecidableEq

structure State where
  net : LanNetwork
  hosts : Host → HostState
  connections : List Connection
  /-- Nodedata sent so far, with the sender and the master it was sent to. -/
  sent : List (Host × Host)
  /-- Nodedata received so far, with the sender and the master. -/
  received : List (Host × Host)

inductive Action where
  | deliver (index : ℕ)
  /-- Open a socket and broadcast `Hello_master!`. -/
  | start (host : Host)
  | receiveReply (host : Host)
  | joinTimeout (host : Host)
  | connect (host : Host)
  | sendNodedata (host : Host) (userid cpuCoreNum : Int32)
  | openControl (host : Host)
  | identify (host : Host)
  | acknowledge (host : Host)
  | openData (host : Host)
  | receiveData (host : Host)
  | masterStart (host : Host) (garbage : Collector.Garbage) (userid cpuCoreNum networkId : Int32)
  | masterOpen (host : Host)
  | masterTimeout (host : Host)
  | masterReceive (host : Host)
  | masterReply (host : Host)
  | masterClose (host : Host)
  | masterListen (host : Host)
  | masterAccept (host : Host)
  /-- `stale` is what the freed block of a resized list happens to hold. -/
  | masterRecv (host : Host) (stale : Collector.ListBlock)
  | distribute (host : Host)
  | distributeReceive (host : Host)
  | distributeTimeout (host : Host)
  | masterRelay (host : Host)
  | masterFetch (host : Host) (received : Wire.Datagram)
  /-- The host stops because of an error of its own. -/
  | fail (host : Host)

end NodeinfoSystem.Lan
