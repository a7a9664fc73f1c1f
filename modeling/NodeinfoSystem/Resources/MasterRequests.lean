import NodeinfoSystem.Collector.Master
import NodeinfoSystem.Resources.Common

/-!
# What the functions of a master open and close

Each function of `master_node_procedure.c` opens its sockets anew and closes them
before it returns. The loops over the members read the list, and send it or the
database, through pointers: these have to name live blocks.
-/

namespace NodeinfoSystem.Resources

open Foundation Wire
open Collector (Connection ControlAnswers Exchange ListBlock invalidNodedata joinRequestCode
  leaveRequestCode listPayload timeoutCode)

/-! ## Requests of the members -/

def acceptMemberRequest (answers : ControlAnswers) : Program ℤ :=
  if answers.socket then do
    let sock ← acquire .descriptor
    access sock
    if answers.bind then
      access sock
      match wrappedRecvfrom 255 answers.reception with
      | (r, bytes) =>
          if r = isTimeout.toInt then
            release sock
            return timeoutCode
          else if r ≤ 0 then
            release sock
            return -1
          else if cString bytes = helloMasterMsg then
            access sock
            if answers.sendto welcomeNodeMsg then
              release sock
              return joinRequestCode
            else
              release sock
              return -1
          else if cString bytes = byeMasterMsg then
            access sock
            if answers.sendto byeNodeMsg then
              release sock
              return leaveRequestCode
            else
              release sock
              return -1
          else
            release sock
            return -1
    else
      release sock
      return -1
  else return -1

/-- The loop `while (got < need)` of `receive_nodedata`. -/
def receiveBytes (connSock : Item) (recv : ℕ → List UInt8) (need : ℕ) :
    ℕ → ℕ → List UInt8 → Program (Option (List UInt8))
  | 0, _, got => return some got
  | calls + 1, index, got =>
      if got.length < need then do
        access connSock
        match (recv index).take (need - got.length) with
        | [] => return none
        | byte :: bytes =>
            receiveBytes connSock recv need calls (index + 1) (got ++ byte :: bytes)
      else return some got

def receiveNodedata (connection : Connection) : Program (Nodedata UInt32) :=
  if connection.socket then do
    let listenSock ← acquire .descriptor
    access listenSock
    if connection.bind then
      access listenSock
      if connection.listen then
        access listenSock
        if connection.accept then
          let connSock ← acquire .descriptor
          match ← receiveBytes connSock connection.recv nodedataSize nodedataSize 0 [] with
          | none =>
              release connSock
              release listenSock
              return invalidNodedata
          | some bytes =>
              release connSock
              release listenSock
              return nodedataAt collectorAddress bytes 0
        else
          release listenSock
          return invalidNodedata
      else
        release listenSock
        return invalidNodedata
    else
      release listenSock
      return invalidNodedata
  else return invalidNodedata

theorem meets_acceptMemberRequest (answers : ControlAnswers) :
    Meets ∅ (acceptMemberRequest answers) (returns (Collector.acceptMemberRequest answers) ∅) := by
  simp only [acceptMemberRequest, Collector.acceptMemberRequest, Bool.and_eq_true, ite_and]
  apply Meets.ite
  · apply meets_acquire
    intro sock _ fresh
    have owned := Finset.mem_insert_self sock ∅
    have answered (reply : List UInt8) (code : ℤ) : Meets (insert sock ∅)
        (do
          access sock
          if answers.sendto reply then
            release sock
            return code
          else
            release sock
            return -1)
        (returns (if answers.sendto reply then code else -1) ∅) := by
      apply meets_access owned
      apply Meets.ite
      · exact meets_close fresh _
      · exact meets_close fresh _
    apply meets_access owned
    apply Meets.ite
    · apply meets_access owned
      apply Meets.ite
      · exact meets_close fresh _
      · apply Meets.ite
        · exact meets_close fresh _
        · apply Meets.ite
          · exact answered _ _
          · apply Meets.ite
            · exact answered _ _
            · exact meets_close fresh _
    · exact meets_close fresh _
  · exact meets_return _ ∅

theorem meets_receiveBytes (connSock : Item) (recv : ℕ → List UInt8) (need calls index : ℕ)
    (got : List UInt8) : Meets {connSock} (receiveBytes connSock recv need calls index got)
      (returns (Collector.receiveBytes recv need calls index got) {connSock}) := by
  induction calls generalizing index got with
  | zero => exact meets_return _ _
  | succ calls ih =>
      unfold receiveBytes Collector.receiveBytes
      apply Meets.ite
      · apply meets_access (Finset.mem_singleton_self connSock)
        cases (recv index).take (need - got.length) with
        | nil => exact meets_return _ _
        | cons byte bytes => exact ih (index + 1) _
      · exact meets_return _ _

theorem meets_receiveNodedata (connection : Connection) :
    Meets ∅ (receiveNodedata connection) (returns (Collector.receiveNodedata connection) ∅) := by
  simp only [receiveNodedata, Collector.receiveNodedata, Bool.and_eq_true, ite_and]
  apply Meets.ite
  · apply meets_acquire
    intro listenSock _ fresh
    have owned := Finset.mem_insert_self listenSock ∅
    apply meets_access owned
    apply Meets.ite
    · apply meets_access owned
      apply Meets.ite
      · apply meets_access owned
        apply Meets.ite
        · apply meets_acquire
          intro connSock _ connFresh
          apply (meets_receiveBytes connSock connection.recv _ _ 0 []).borrow (by simp)
          cases Collector.receiveBytes connection.recv nodedataSize nodedataSize 0 [] with
          | none =>
              apply meets_release_insert connFresh
              exact meets_close fresh _
          | some bytes =>
              apply meets_release_insert connFresh
              exact meets_close fresh _
        · exact meets_close fresh _
      · exact meets_close fresh _
    · exact meets_close fresh _
  · exact meets_return _ ∅

/-! ## Requests to the relay -/

def requestJoinHugeCluster (exchange : Exchange) : Program Int32 :=
  if exchange.socket then do
    let sock ← acquire .descriptor
    access sock
    if exchange.sendto then
      access sock
      match wrappedRecvfrom 4 exchange.reply with
      | (r, bytes) =>
          if r = isTimeout.toInt then
            release sock
            return isTimeout
          else if r ≤ 0 then
            release sock
            return -1
          else if r ≠ 4 then
            release sock
            return -1
          else
            release sock
            return (ntohl (decodeWord bytes)).toInt32
    else
      release sock
      return -1
  else return -1

def relayRequestReadyForNodedataList (exchange : Exchange) : Program ℤ :=
  if exchange.socket then do
    let sock ← acquire .descriptor
    access sock
    if exchange.sendto then
      access sock
      match wrappedRecvfrom 127 exchange.reply with
      | (r, bytes) =>
          if r = isTimeout.toInt then
            release sock
            return isTimeout.toInt
          else if r ≤ 0 then
            release sock
            return -1
          else if cString bytes = readyRecvNodedataListMsg then
            release sock
            return 0
          else
            release sock
            return -1
    else
      release sock
      return -1
  else return -1

/-- `send_nodedata_list_to_relay_server`, whose `sendto` reads the list. -/
def sendNodedataListToRelayServer (list : Item) (socket sendto : Bool) (block : ListBlock) :
    Program ℤ := do
  access list
  if socket then
    let sock ← acquire .descriptor
    access sock
    access list
    if sendto && (listPayload block).isSome then
      access list
      release sock
      return 0
    else
      release sock
      return -1
  else return -1

theorem meets_requestJoinHugeCluster (exchange : Exchange) :
    Meets ∅ (requestJoinHugeCluster exchange)
      (returns (Collector.requestJoinHugeCluster exchange) ∅) := by
  simp only [requestJoinHugeCluster, Collector.requestJoinHugeCluster, Bool.and_eq_true, ite_and]
  apply Meets.ite
  · apply meets_acquire
    intro sock _ fresh
    have owned := Finset.mem_insert_self sock ∅
    apply meets_access owned
    apply Meets.ite
    · apply meets_access owned
      apply Meets.ite
      · exact meets_close fresh _
      · apply Meets.ite
        · exact meets_close fresh _
        · apply Meets.ite
          · exact meets_close fresh _
          · exact meets_close fresh _
    · exact meets_close fresh _
  · exact meets_return _ ∅

theorem meets_relayRequestReadyForNodedataList (exchange : Exchange) :
    Meets ∅ (relayRequestReadyForNodedataList exchange)
      (returns (Collector.relayRequestReadyForNodedataList exchange) ∅) := by
  simp only [relayRequestReadyForNodedataList, Collector.relayRequestReadyForNodedataList,
    Bool.and_eq_true, ite_and]
  apply Meets.ite
  · apply meets_acquire
    intro sock _ fresh
    have owned := Finset.mem_insert_self sock ∅
    apply meets_access owned
    apply Meets.ite
    · apply meets_access owned
      apply Meets.ite
      · exact meets_close fresh _
      · apply Meets.ite
        · exact meets_close fresh _
        · apply Meets.ite
          · exact meets_close fresh _
          · exact meets_close fresh _
    · exact meets_close fresh _
  · exact meets_return _ ∅

theorem meets_sendNodedataListToRelayServer (list : Item) (socket sendto : Bool)
    (block : ListBlock) : Meets {list} (sendNodedataListToRelayServer list socket sendto block)
      (returns (Collector.sendNodedataListToRelayServer socket sendto block) {list}) := by
  simp only [sendNodedataListToRelayServer, Collector.sendNodedataListToRelayServer, Bool.and_assoc,
    @Bool.and_eq_true socket, ite_and]
  apply meets_access (Finset.mem_singleton_self list)
  apply Meets.ite
  · apply meets_acquire
    intro sock _ fresh
    apply meets_access (by simp)
    apply meets_access (by simp)
    apply Meets.ite
    · apply meets_access (by simp)
      exact meets_close fresh _
    · exact meets_close fresh _
  · exact meets_return _ _

end NodeinfoSystem.Resources
