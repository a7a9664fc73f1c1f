import NodeinfoSystem.Collector.NodedataList
import NodeinfoSystem.Wire.Messages

/-!
# Requests of the members

A round of the master starts with one control message of a member, and a request
is followed by the node data of the member over TCP. `recv` may deliver the data
in pieces of any size.
-/

namespace NodeinfoSystem.Collector

open Wire

def timeoutCode : ℤ := 0

def joinRequestCode : ℤ := 1

def leaveRequestCode : ℤ := 2

/-- What one call of `accept_member_request` meets. -/
structure ControlAnswers where
  socket : Bool
  bind : Bool
  reception : Reception
  /-- Whether the given reply can be sent. -/
  sendto : List UInt8 → Bool

def acceptMemberRequest (answers : ControlAnswers) : ℤ :=
  if answers.socket && answers.bind then
    match wrappedRecvfrom 255 answers.reception with
    | (r, bytes) =>
        if r = isTimeout.toInt then timeoutCode
        else if r ≤ 0 then -1
        else if cString bytes = helloMasterMsg then
          if answers.sendto welcomeNodeMsg then joinRequestCode else -1
        else if cString bytes = byeMasterMsg then
          if answers.sendto byeNodeMsg then leaveRequestCode else -1
        else -1
  else -1

/-- What one call of `receive_nodedata` meets. -/
structure Connection where
  socket : Bool
  bind : Bool
  listen : Bool
  accept : Bool
  /-- What has arrived when `recv` is called for the given time; nothing, if it fails. -/
  recv : ℕ → List UInt8

/--
The loop `while (got < need)`. Every call that does not end it adds at least one
byte, so as many calls as there are bytes are enough.
-/
def receiveBytes (recv : ℕ → List UInt8) (need : ℕ) : ℕ → ℕ → List UInt8 → Option (List UInt8)
  | 0, _, got => some got
  | calls + 1, index, got =>
      if got.length < need then
        match (recv index).take (need - got.length) with
        | [] => none
        | byte :: bytes => receiveBytes recv need calls (index + 1) (got ++ byte :: bytes)
      else some got

/-- The record that `receive_nodedata` returns when it fails. -/
def invalidNodedata : Nodedata UInt32 where
  ipaddress := 0
  userid := -1
  cpuCoreNum := 0

def receiveNodedata (connection : Connection) : Nodedata UInt32 :=
  if connection.socket && connection.bind && connection.listen && connection.accept then
    match receiveBytes connection.recv nodedataSize nodedataSize 0 [] with
    | none => invalidNodedata
    | some bytes => nodedataAt collectorAddress bytes 0
  else invalidNodedata

end NodeinfoSystem.Collector
