import NodeinfoSystem.Lan.Basic

/-!
# The steps of the hosts

The functions of `member_node_procedure.c` and `master_node_procedure.c`, cut at
their socket operations. A function returns `none` when the host is not at that
operation, or blocked in it.
-/

namespace NodeinfoSystem.Lan

open Foundation

/-- Whether a host has a listening socket at `NODEDATA_PORT`. -/
def Phase.listens : Phase → Bool
  | .master (.accepting _ _) => true
  | .master (.receiving _ _) => true
  | _ => false

def Phase.runs : Phase → Bool
  | .member _ => true
  | .master _ => true
  | _ => false

/-- The datagram a master sends for one kind of data, if `sendto` can send it. -/
def HostState.payload (host : HostState) : Kind → Option Wire.Datagram
  | .nodedataList => Collector.listPayload host.list
  | .nodeinfoDatabase => host.database.bind Collector.databasePayload

/-- Whether the member's reader for one kind of data returns something. -/
def accepts : Kind → Message → Bool
  | .nodedataList, .payload datagram =>
      (Wire.Member.receiveNodedataList true true (some datagram)).isSome
  | .nodeinfoDatabase, .payload datagram =>
      (Wire.receiveDbOnSocketImpl true (some datagram)).isSome
  | _, _ => false

def firstConnection (server : Host) (connections : List Connection) : Option Connection :=
  connections.find? (·.server = server)

/-- The client's side of a connection sends the nodedata and closes. -/
def Connection.carry (client server : Host) (nodedata : Nodedata UInt32)
    (connection : Connection) : Connection :=
  if connection.client = client ∧ connection.server = server ∧ connection.stream = .open then
    { connection with stream := .sent nodedata }
  else connection

/-- The client of a connection stops. -/
def Connection.abandon (client : Host) (connection : Connection) : Connection :=
  if connection.client = client ∧ connection.stream = .open then
    { connection with stream := .closed }
  else connection

/-- The loop over the entries of the list. -/
def startLoop (list : Collector.ListBlock) : Loop where
  targets := list.entries.map (·.ipaddress)
  attempt := 0
  failed := false
  point := .inviting

def Loop.next (loop : Loop) (rest : List Host) (failed : Bool) : Loop :=
  ⟨rest, 0, loop.failed || failed, .inviting⟩

/-- `add_nodedata_to_list`, on the block behind the pointer that the loop keeps. -/
def addToList (stale list : Collector.ListBlock) (node : Nodedata UInt32) : Collector.ListBlock :=
  -- `resize_nodedata_list` frees the block that the loop goes on reading
  if list.maxSize.toInt ≤ list.currentSize.toInt then stale else list.push node

namespace State

def put (state : State) (name : Host) (host : HostState) (net : LanNetwork) : State :=
  { state with hosts := Function.update state.hosts name host, net := net }

def move (state : State) (name : Host) (phase : Phase) (net : LanNetwork) : State :=
  state.put name { state.hosts name with phase := phase } net

/-- A host stops: the operating system closes everything it has open. -/
def exit (state : State) (name : Host) (reason : Exit) : State :=
  { state.move name (.exited reason) (state.net.closeWhere (·.host == name)) with
    connections := (state.connections.filter (·.server ≠ name)).map (·.abandon name) }

def initial : State where
  net := Network.silent
  hosts _ := ⟨.off, 0, ⟨0, 0, 0, []⟩, none⟩
  connections := []
  sent := []
  received := []

/-! ## `request_join_cluster` and `send_my_nodedata` -/

def start (state : State) (name : Host) : Option State :=
  let host := state.hosts name
  if host.phase.runs then none
  else
    let socket : Endpoint := ⟨name, .join host.sockets⟩
    some (state.put name
      { host with phase := .member (.awaiting host.sockets), sockets := host.sockets + 1 }
      ((state.net.openSocket socket).broadcast socket (·.port == .ctrl) .hello))

/-- Whatever arrives counts as the reply, and its sender as the master. -/
def receiveReply (state : State) (name : Host) : Option State :=
  match (state.hosts name).phase with
  | .member (.awaiting number) =>
      match state.net.receive ⟨name, .join number⟩ with
      | none => none
      | some (packet, net) =>
          some (state.move name (.member (.connecting packet.source.host))
            (net.close ⟨name, .join number⟩))
  | _ => none

/-- Nothing has arrived, and `main` runs the master procedure. -/
def joinTimeout (state : State) (name : Host) : Option State :=
  match (state.hosts name).phase with
  | .member (.awaiting number) =>
      if (state.net.queueAt ⟨name, .join number⟩).isEmpty then
        some (state.move name (.master .starting) (state.net.close ⟨name, .join number⟩))
      else none
  | _ => none

def connect (state : State) (name : Host) : Option State :=
  match (state.hosts name).phase with
  | .member (.connecting master) =>
      if (state.hosts master).phase.listens then
        some { state.move name (.member (.connected master)) state.net with
          connections := state.connections ++ [⟨name, master, .open⟩] }
      else some (state.exit name .connectRefused)
  | _ => none

def sendNodedata (state : State) (name : Host) (userid cpuCoreNum : Int32) : Option State :=
  match (state.hosts name).phase with
  | .member (.connected master) =>
      let me : Nodedata UInt32 := ⟨name, userid, cpuCoreNum⟩
      if Collector.ValidNode me then
        some { state.move name (.member .looping) state.net with
          connections := state.connections.map (·.carry name master me)
          sent := (name, master) :: state.sent }
      else some (state.exit name .error)
  | _ => none

/-! ## `identify_data_type_from_master` -/

def openControl (state : State) (name : Host) : Option State :=
  match (state.hosts name).phase with
  | .member .looping =>
      some (state.move name (.member .identifying) (state.net.openSocket ⟨name, .ctrl⟩))
  | _ => none

def identify (state : State) (name : Host) : Option State :=
  match (state.hosts name).phase with
  | .member .identifying =>
      match state.net.receive ⟨name, .ctrl⟩ with
      | none => none
      | some (packet, net) =>
          match packet.payload with
          | .readySend kind => some (state.move name (.member (.answering packet.source kind)) net)
          -- no acknowledgement: the data type is 0, and the receive loop returns -1
          | _ => some (state.exit name .unknownDataType)
  | _ => none

def acknowledge (state : State) (name : Host) : Option State :=
  match (state.hosts name).phase with
  | .member (.answering peer kind) =>
      some (state.move name (.member (.opening kind))
        ((state.net.send ⟨⟨name, .ctrl⟩, peer, .readyRecv kind⟩).close ⟨name, .ctrl⟩))
  | _ => none

/-! ## The readers of a member -/

def openData (state : State) (name : Host) : Option State :=
  match (state.hosts name).phase with
  | .member (.opening kind) =>
      some (state.move name (.member (.receiving kind)) (state.net.openSocket ⟨name, .data kind⟩))
  | _ => none

def receiveData (state : State) (name : Host) : Option State :=
  match (state.hosts name).phase with
  | .member (.receiving kind) =>
      match state.net.receive ⟨name, .data kind⟩ with
      | none => none
      | some (packet, net) =>
          if accepts kind packet.payload then
            some (state.move name (.member .looping) (net.close ⟨name, .data kind⟩))
          else some (state.exit name (.badData kind))
  | _ => none

/-! ## `run_master_node_procedure` before the loop -/

def masterStart (state : State) (name : Host) (garbage : Collector.Garbage)
    (userid cpuCoreNum networkId : Int32) : Option State :=
  match (state.hosts name).phase with
  | .master .starting =>
      let me : Nodedata UInt32 := ⟨name, userid, cpuCoreNum⟩
      -- a negative id is an error of the relay exchange, unless it reports a timeout
      if Collector.ValidNode me ∧ ¬(networkId ≠ isTimeout ∧ networkId.toInt < 0) then
        some (state.put name { state.hosts name with
          phase := .master .opening
          list := { (Collector.emptyList garbage).push me with networkId := networkId }
          database := none } state.net)
      else some (state.exit name .error)
  | _ => none

/-! ## `accept_member_request` -/

def masterOpen (state : State) (name : Host) : Option State :=
  match (state.hosts name).phase with
  | .master .opening =>
      some (state.move name (.master .waiting) (state.net.openSocket ⟨name, .ctrl⟩))
  | _ => none

/-- No request has arrived. -/
def masterTimeout (state : State) (name : Host) : Option State :=
  match (state.hosts name).phase with
  | .master .waiting =>
      if (state.net.queueAt ⟨name, .ctrl⟩).isEmpty then
        let after : MasterPhase :=
          if 0 < (state.hosts name).list.networkId.toInt then .fetching else .opening
        some (state.move name (.master after) (state.net.close ⟨name, .ctrl⟩))
      else none
  | _ => none

def masterReceive (state : State) (name : Host) : Option State :=
  match (state.hosts name).phase with
  | .master .waiting =>
      match state.net.receive ⟨name, .ctrl⟩ with
      | none => none
      | some (packet, net) =>
          match packet.payload with
          | .hello => some (state.move name (.master (.replying packet.source .join)) net)
          | .byeMaster => some (state.move name (.master (.replying packet.source .leave)) net)
          | _ => some (state.exit name .error)
  | _ => none

def masterReply (state : State) (name : Host) : Option State :=
  match (state.hosts name).phase with
  | .master (.replying client code) =>
      some (state.move name (.master (.closing client code))
        (state.net.send ⟨⟨name, .ctrl⟩, client, code.reply⟩))
  | _ => none

def masterClose (state : State) (name : Host) : Option State :=
  match (state.hosts name).phase with
  | .master (.closing client code) =>
      some (state.move name (.master (.preparing client code)) (state.net.close ⟨name, .ctrl⟩))
  | _ => none

/-! ## `receive_nodedata` -/

def masterListen (state : State) (name : Host) : Option State :=
  match (state.hosts name).phase with
  | .master (.preparing client code) =>
      some (state.move name (.master (.accepting client code)) state.net)
  | _ => none

def masterAccept (state : State) (name : Host) : Option State :=
  match (state.hosts name).phase, firstConnection name state.connections with
  | .master (.accepting client code), some _ =>
      some (state.move name (.master (.receiving client code)) state.net)
  | _, _ => none

/-- The sockets of `receive_nodedata` are closed, and the nodedata is handled. -/
def takeNodedata (state : State) (name : Host) (code : RequestCode) (stale : Collector.ListBlock)
    (connection : Connection) (node : Nodedata UInt32) : State :=
  let host := state.hosts name
  let list := match code with
    | .join => addToList stale host.list node
    | .leave => host.list
  let closed : State := { state with
    connections := state.connections.filter (·.server ≠ name)
    received := (connection.client, name) :: state.received }
  -- the tests of the loop and of `distribute_nodedata_list`
  if Collector.ValidNode node ∧ 0 ≤ list.currentSize.toInt ∧ 0 < list.maxSize.toInt then
    closed.put name
      { host with
        phase := .master (.distributing .nodedataList host.sockets (startLoop list))
        sockets := host.sockets + 1
        list := list }
      (state.net.openSocket ⟨name, .distribution host.sockets⟩)
  else closed.exit name .error

def masterRecv (state : State) (name : Host) (stale : Collector.ListBlock) : Option State :=
  match (state.hosts name).phase, firstConnection name state.connections with
  | .master (.receiving _ code), some connection =>
      match connection.stream with
      | .open => none
      | .closed => some (state.exit name .error)
      | .sent node => some (state.takeNodedata name code stale connection node)
  | _, _ => none

/-! ## The two distributions -/

/-- The end of a distribution. -/
def finishLoop (state : State) (name : Host) (kind : Kind) (number : ℕ) (failed : Bool) : State :=
  let after : MasterPhase := match kind with
    | .nodedataList => .relaying
    | .nodeinfoDatabase => .opening
  if failed then state.exit name .error
  else state.move name (.master after) (state.net.close ⟨name, .distribution number⟩)

/-- The steps of the loop that do not wait. -/
def distribute (state : State) (name : Host) : Option State :=
  match (state.hosts name).phase with
  | .master (.distributing kind number loop) =>
      let socket : Endpoint := ⟨name, .distribution number⟩
      let goOn (loop : Loop) (net : LanNetwork) : State :=
        state.move name (.master (.distributing kind number loop)) net
      match loop.targets, loop.point with
      | [], _ => some (state.finishLoop name kind number loop.failed)
      | _ :: _, .awaitingAck => none
      | target :: rest, .inviting =>
          if target = 0 ∨ target = name then some (goOn (loop.next rest false) state.net)
          -- "skip payload"
          else if 3 ≤ loop.attempt then some (goOn (loop.next rest true) state.net)
          else
            some (goOn { loop with point := .awaitingAck }
              (state.net.send ⟨socket, ⟨target, .ctrl⟩, .readySend kind⟩))
      | target :: rest, .delivering =>
          match (state.hosts name).payload kind with
          | none => some (goOn (loop.next rest true) state.net)
          | some datagram =>
              some (goOn (loop.next rest false)
                (state.net.send ⟨socket, ⟨target, .data kind⟩, .payload datagram⟩))
  | _ => none

def acknowledges (kind : Kind) (target : Host) (packet : Packet Endpoint Message) : Bool :=
  packet.source.host == target &&
    match packet.payload with
    | .readyRecv other => other == kind
    | _ => false

def distributeReceive (state : State) (name : Host) : Option State :=
  match (state.hosts name).phase with
  | .master (.distributing kind number ⟨target :: rest, attempt, failed, .awaitingAck⟩) =>
      match state.net.receive ⟨name, .distribution number⟩ with
      | none => none
      | some (packet, net) =>
          let after : Loop :=
            if acknowledges kind target packet then ⟨target :: rest, attempt, failed, .delivering⟩
            else ⟨target :: rest, attempt + 1, failed, .inviting⟩
          some (state.move name (.master (.distributing kind number after)) net)
  | _ => none

def distributeTimeout (state : State) (name : Host) : Option State :=
  match (state.hosts name).phase with
  | .master (.distributing kind number ⟨target :: rest, attempt, failed, .awaitingAck⟩) =>
      if (state.net.queueAt ⟨name, .distribution number⟩).isEmpty then
        some (state.move name (.master (.distributing kind number
          ⟨target :: rest, attempt + 1, failed, .inviting⟩)) state.net)
      else none
  | _ => none

/-- The start of `distribute_nodeinfo_database`. -/
def startDatabase (state : State) (name : Host) : State :=
  let host := state.hosts name
  match host.database with
  | none => state.move name (.master .opening) state.net
  | some _ =>
      state.put name
        { host with
          phase := .master (.distributing .nodeinfoDatabase host.sockets (startLoop host.list))
          sockets := host.sockets + 1 }
        (state.net.openSocket ⟨name, .distribution host.sockets⟩)

/-! ## The relay, and a stop -/

def masterRelay (state : State) (name : Host) : Option State :=
  match (state.hosts name).phase with
  | .master .relaying =>
      if 0 < (state.hosts name).list.networkId.toInt then
        some (state.move name (.master .fetching) state.net)
      else some (state.startDatabase name)
  | _ => none

def masterFetch (state : State) (name : Host) (received : Wire.Datagram) : Option State :=
  match (state.hosts name).phase, Wire.receiveDbOnSocketImpl true (some received) with
  | .master .fetching, some db =>
      some ((state.put name { state.hosts name with database := some db } state.net).startDatabase
        name)
  | .master .fetching, none => some (state.exit name .error)
  | _, _ => none

def fail (state : State) (name : Host) : Option State :=
  if (state.hosts name).phase.runs then some (state.exit name .error) else none

def step (state : State) : Action → Option State
  | .deliver index => (state.net.deliver index).map fun net => { state with net := net }
  | .start name => state.start name
  | .receiveReply name => state.receiveReply name
  | .joinTimeout name => state.joinTimeout name
  | .connect name => state.connect name
  | .sendNodedata name userid cpuCoreNum => state.sendNodedata name userid cpuCoreNum
  | .openControl name => state.openControl name
  | .identify name => state.identify name
  | .acknowledge name => state.acknowledge name
  | .openData name => state.openData name
  | .receiveData name => state.receiveData name
  | .masterStart name garbage userid cpuCoreNum networkId =>
      state.masterStart name garbage userid cpuCoreNum networkId
  | .masterOpen name => state.masterOpen name
  | .masterTimeout name => state.masterTimeout name
  | .masterReceive name => state.masterReceive name
  | .masterReply name => state.masterReply name
  | .masterClose name => state.masterClose name
  | .masterListen name => state.masterListen name
  | .masterAccept name => state.masterAccept name
  | .masterRecv name stale => state.masterRecv name stale
  | .distribute name => state.distribute name
  | .distributeReceive name => state.distributeReceive name
  | .distributeTimeout name => state.distributeTimeout name
  | .masterRelay name => state.masterRelay name
  | .masterFetch name received => state.masterFetch name received
  | .fail name => state.fail name

end State

def lan : TransitionSystem State Action where
  initial := State.initial
  step := State.step

/-! ## A join -/

/-- Host 1 finds no master and becomes one. -/
def masterRun : List Action :=
  [.start 1, .joinTimeout 1, .masterStart 1 Collector.zeros 0 4 isTimeout, .masterOpen 1]

/-- Hosts 1 and 2 ask to join at the same time. -/
def togetherRun : List Action :=
  [.start 1, .start 2, .joinTimeout 1, .joinTimeout 2]

/-- Host 2 asks to join while the control socket of the master is closed. -/
def unheardRun : List Action :=
  [.start 1, .joinTimeout 1, .start 2, .joinTimeout 2]

/-- Hosts 2 and 3 ask to join; the master answers one and closes the control socket. -/
def droppedRun : List Action :=
  masterRun ++ [.start 2, .start 3, .masterReceive 1, .masterReply 1, .masterClose 1,
    .joinTimeout 3]

/-- Host 2 gives up while the master has its request. -/
def impatientRun : List Action :=
  masterRun ++ [.start 2, .masterReceive 1, .joinTimeout 2]

def welcomedRun : List Action :=
  masterRun ++ [.start 2, .masterReceive 1, .masterReply 1, .deliver 0, .receiveReply 2]

/-- Host 2 connects while the master is still to listen. -/
def refusedRun : List Action :=
  welcomedRun ++ [.connect 2]

/-- Host 2 has joined and waits for an announcement. -/
def joinedRun : List Action :=
  welcomedRun ++ [.masterClose 1, .masterListen 1, .connect 2, .sendNodedata 2 0 4, .masterAccept 1,
    .masterRecv 1 (Collector.emptyList Collector.zeros), .openControl 2]

/-- Host 3 starts while host 2 waits. -/
def disturbedRun : List Action :=
  joinedRun ++ [.start 3, .identify 2]

/-- Host 3 starts after the announcement has arrived, and host 2 receives the list. -/
def servedRun : List Action :=
  joinedRun ++ [.distribute 1, .distribute 1, .deliver 0, .start 3, .identify 2, .acknowledge 2,
    .openData 2, .deliver 0, .distributeReceive 1, .distribute 1, .deliver 0, .receiveData 2]

end NodeinfoSystem.Lan
