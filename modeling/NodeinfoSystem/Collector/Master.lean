import NodeinfoSystem.Collector.Deliveries
import NodeinfoSystem.Collector.MemberRequests
import NodeinfoSystem.Files.Update
import NodeinfoSystem.Foundation.Procedure

/-!
# The procedure of a master

`run_master_node_procedure` with everything it owns: the list, the database it
fetched last, and the two files. One step of the system is one round of its loop,
from one wait for a control message to the next, or to the `return -1` that ends
the procedure. A round has nine places where it can end, each with a message of
its own.
-/

namespace NodeinfoSystem.Collector

open Foundation

/-- Why the procedure returned from its loop, by the message it prints. -/
inductive MasterExit where
  /-- "Error in accepting request". -/
  | request
  /-- "Failed to receive valid nodedata from member node". -/
  | nodedata
  /-- "Failed to add nodedata to list". -/
  | addNodedata
  /-- "Failed to send nodedata_list". -/
  | nodedataList
  /-- "Failed to update nodeinfo". -/
  | nodeinfo
  /-- "Failed to update hostfile". -/
  | hostfile
  /-- "Failed to request nodeinfo_database". -/
  | fetch
  /-- "Some nodeinfo_database deliveries failed". -/
  | nodeinfoDatabase
  deriving DecidableEq

/-- What a master owns while its loop waits. -/
structure MasterState where
  master : Master
  gNodeinfoDb : Option NodeinfoDatabase
  nodeinfo : Files.File
  hostfile : Files.File

/-- Where the loop dereferences `nd_list`. -/
inductive ListRead where
  | timeoutBranch
  | distributeNodedataList
  | updateNodeinfo
  | updateHostfile
  | fetch
  | distributeNodeinfoDatabase

/-- What one round of the loop meets. -/
structure Round where
  control : ControlAnswers
  connection : Connection
  add : Environment
  /-- What a read through a pointer to a freed block finds. -/
  stale : ListRead → ListBlock
  members : Distribution
  relay : RelayDistribution
  nodeinfoIo : Files.Io
  hostfileIo : Files.Io
  /-- The outcome of `malloc` for the receive buffer. -/
  fetchGranted : Bool
  fetch : Exchange
  databaseMembers : Distribution

def MasterState.list (round : Round) (read : ListRead) (state : MasterState) : ListBlock :=
  (state.master.heap.load state.master.ndList).getD (round.stale read)

/-- The branch for `JOIN_REQUEST_CODE`; a node that leaves stays in the list. -/
def addStep (round : Round) (code : ℤ) (state : MasterState) : Status MasterExit MasterState :=
  if code = joinRequestCode then
    match addNodedataToList round.add (receiveNodedata round.connection) state.master.ndList
      state.master.heap with
    | (added, heap) =>
        .check .addNodedata added { state with master := { state.master with heap := heap } }
  else .waiting state

def distributeListStep (round : Round) (state : MasterState) : Status MasterExit MasterState :=
  .check .nodedataList
    (distributeNodedataList round.members round.relay (state.list round .distributeNodedataList))
    state

def nodeinfoStep (round : Round) (state : MasterState) : Status MasterExit MasterState :=
  match Files.updateNodeinfo round.nodeinfoIo (state.list round .updateNodeinfo).entries
    state.nodeinfo with
  | (code, nodeinfo) => .check .nodeinfo code { state with nodeinfo := nodeinfo }

def hostfileStep (round : Round) (state : MasterState) : Status MasterExit MasterState :=
  match Files.updateHostfile round.hostfileIo (state.list round .updateHostfile).entries
    state.hostfile with
  | (code, hostfile) => .check .hostfile code { state with hostfile := hostfile }

def fetchStep (round : Round) (state : MasterState) : Status MasterExit MasterState :=
  match fetchNodeinfoDatabase round.fetchGranted round.fetch state.gNodeinfoDb with
  | (code, db) => .check .fetch code { state with gNodeinfoDb := db }

def distributeDatabaseStep (round : Round) (state : MasterState) : Status MasterExit MasterState :=
  .check .nodeinfoDatabase
    (distributeNodeinfoDatabase round.databaseMembers
      (state.list round .distributeNodeinfoDatabase) state.gNodeinfoDb).1
    state

/-- The round in which no member asked for anything in time. -/
def timeoutRound (round : Round) (state : MasterState) : Status MasterExit MasterState :=
  if 0 < (state.list round .timeoutBranch).networkId.toInt then
    (fetchStep round state).andThen (distributeDatabaseStep round)
  else .waiting state

/-- The fetch of a round with a request: only a master with a network id asks the relay. -/
def fetchIfJoinedStep (round : Round) (state : MasterState) : Status MasterExit MasterState :=
  if 0 < (state.list round .fetch).networkId.toInt then fetchStep round state else .waiting state

/-- The round of a request, after its node data has been received. -/
def requestRound (round : Round) (code : ℤ) (state : MasterState) : Status MasterExit MasterState :=
  addStep round code state
    |>.andThen (distributeListStep round)
    |>.andThen (nodeinfoStep round)
    |>.andThen (hostfileStep round)
    |>.andThen (fetchIfJoinedStep round)
    |>.andThen (distributeDatabaseStep round)

/-- One round of the loop of `run_master_node_procedure`. -/
def masterRound (round : Round) (state : MasterState) : Status MasterExit MasterState :=
  let code := acceptMemberRequest round.control
  if code < 0 then .returned .request state
  else if code = timeoutCode then timeoutRound round state
  else if ValidNode (receiveNodedata round.connection) then requestRound round code state
  else .returned .nodedata state

/-- What the procedure meets before its loop. -/
structure MasterStart where
  malloc : Option Garbage
  /-- The result of `get_my_nodedata`. -/
  me : Nodedata UInt32
  join : Exchange

/-- A master that has started, before its first wait. -/
def masterStart (start : MasterStart) (nodeinfo hostfile : Files.File) : Option MasterState :=
  (startMaster start.malloc start.me (requestJoinHugeCluster start.join)).map fun master =>
    ⟨master, none, nodeinfo, hostfile⟩

/-- The loop of a master that has started. -/
def masterProcedure (state : MasterState) :
    TransitionSystem (Status MasterExit MasterState) Round :=
  Status.loop masterRound state

end NodeinfoSystem.Collector
