import NodeinfoSystem.Files.Update
import NodeinfoSystem.Foundation.Procedure
import NodeinfoSystem.Wire.Database
import NodeinfoSystem.Wire.Messages

/-!
# The procedure of a member

The loop of `run_member_node_procedure`: a control message of the master announces
a list or a database, and the payload follows. A list replaces the two files; a
database is only printed.
-/

namespace NodeinfoSystem.Collector

open Foundation Wire

/-- `NODEDATA_LIST`. -/
def nodedataListType : ℤ := 1

/-- `NODEINFO_DATABASE`. -/
def nodeinfoDatabaseType : ℤ := 2

/-- What one call of a function that binds a socket and receives a datagram meets. -/
structure BoundAnswers where
  socket : Bool
  bind : Bool
  reception : Reception

def BoundAnswers.received (answers : BoundAnswers) : Option Datagram :=
  if answers.socket && answers.bind then answers.reception.received else none

/-- `identify_data_type_from_master`; whether the acknowledgement can be sent is ignored. -/
def identifyDataTypeFromMaster (answers : BoundAnswers) : ℤ :=
  if answers.socket && answers.bind then
    match wrappedRecvfrom 255 answers.reception with
    | (r, bytes) =>
        if r ≤ 0 then -1
        else if cString bytes = readySendNodedataListMsg then nodedataListType
        else if cString bytes = readySendDbMsg then nodeinfoDatabaseType
        else 0
  else -1

/-- Why the procedure returned from its loop, by the message it prints. -/
inductive MemberExit where
  /-- "Failed to receive nodedata list". -/
  | nodedataList
  /-- "Failed to update nodeinfo file". -/
  | nodeinfo
  /-- "Failed to update hostfile". -/
  | hostfile
  /-- "Failed to receive nodeinfo_database". -/
  | nodeinfoDatabase
  /-- "Unknown data type received". -/
  | dataType
  deriving DecidableEq

/-- The files of a member. -/
structure MemberState where
  nodeinfo : Files.File
  hostfile : Files.File

/-- What one round of the loop meets. -/
structure MemberRound where
  control : BoundAnswers
  data : BoundAnswers
  /-- The outcomes of `malloc` for the receive buffer and for the copy. -/
  bufferGranted : Bool
  copyGranted : Bool
  nodeinfoIo : Files.Io
  hostfileIo : Files.Io

/-- The two updates after a list has been received. -/
def updateFiles (round : MemberRound) (nodes : List (Nodedata UInt32)) (state : MemberState) :
    Status MemberExit MemberState :=
  match Files.updateNodeinfo round.nodeinfoIo nodes state.nodeinfo with
  | (code, nodeinfo) =>
      (Status.check .nodeinfo code { state with nodeinfo := nodeinfo }).andThen fun state =>
        match Files.updateHostfile round.hostfileIo nodes state.hostfile with
        | (code, hostfile) => Status.check .hostfile code { state with hostfile := hostfile }

/-- One round of the loop of `run_member_node_procedure`. -/
def memberRound (round : MemberRound) (state : MemberState) : Status MemberExit MemberState :=
  let dataType := identifyDataTypeFromMaster round.control
  if dataType = nodedataListType then
    match Wire.Member.receiveNodedataList round.bufferGranted round.copyGranted
      round.data.received with
    | none => .returned .nodedataList state
    | some list => updateFiles round list.entries state
  else if dataType = nodeinfoDatabaseType then
    match receiveDbOnSocketImpl round.bufferGranted round.data.received with
    | none => .returned .nodeinfoDatabase state
    | some _ => .waiting state
  else .returned .dataType state

/-- The loop of a member that has joined. -/
def memberProcedure (state : MemberState) :
    TransitionSystem (Status MemberExit MemberState) MemberRound :=
  Status.loop memberRound state

end NodeinfoSystem.Collector
