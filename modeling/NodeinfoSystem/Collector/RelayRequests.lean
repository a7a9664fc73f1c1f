import NodeinfoSystem.Collector.Payload
import NodeinfoSystem.Wire.Messages

/-!
# The master's requests to the relay

A master makes three kinds of requests to the relay, each from a socket of its own
with a receive timeout: it joins, it announces its list, and it asks for the
database. The first two tell a timeout from an error by the code they return.
`fetch_nodeinfo_database` sees a null pointer in both cases.

The address of the relay is a valid one: `init_relay_server_ip` takes over only
what `inet_pton` accepts.
-/

namespace NodeinfoSystem.Collector

open Wire

/-- What one request to the relay meets. -/
structure Exchange where
  socket : Bool
  sendto : Bool
  reply : Reception

def requestJoinHugeCluster (exchange : Exchange) : Int32 :=
  if exchange.socket && exchange.sendto then
    match wrappedRecvfrom 4 exchange.reply with
    | (r, bytes) =>
        if r = isTimeout.toInt then isTimeout
        else if r ≤ 0 then -1
        else if r ≠ 4 then -1
        else (ntohl (decodeWord bytes)).toInt32
  else -1

def relayRequestReadyForNodedataList (exchange : Exchange) : ℤ :=
  if exchange.socket && exchange.sendto then
    match wrappedRecvfrom 127 exchange.reply with
    | (r, bytes) =>
        if r = isTimeout.toInt then isTimeout.toInt
        else if r ≤ 0 then -1
        else if cString bytes = readyRecvNodedataListMsg then 0
        else -1
  else -1

/-- `send_nodedata_list_to_relay_server`; the list is sent in one datagram or not at all. -/
def sendNodedataListToRelayServer (socket sendto : Bool) (list : ListBlock) : ℤ :=
  if socket && sendto && (listPayload list).isSome then 0 else -1

/--
`fetch_nodeinfo_database`: the code, and `g_nodeinfo_db` afterwards. `granted` is
the outcome of `malloc` for the receive buffer.
-/
def fetchNodeinfoDatabase (granted : Bool) (exchange : Exchange)
    (gNodeinfoDb : Option NodeinfoDatabase) : ℤ × Option NodeinfoDatabase :=
  if exchange.socket && exchange.sendto then
    match receiveDbOnSocketImpl granted exchange.reply.received with
    | none => (-1, gNodeinfoDb)
    | some db => (0, some db)
  else (-1, gNodeinfoDb)

/-- An exchange whose local calls succeed. -/
def Exchange.local (reply : Reception) : Exchange where
  socket := true
  sendto := true
  reply := reply

section Replies

variable {datagram : Datagram}

theorem requestJoinHugeCluster_datagram {id : Int32}
    (bytes_eq : datagram.bytes = encodeWord (htonl id.toUInt32)) :
    requestJoinHugeCluster (.local (.datagram datagram)) = id := by
  have received := wrappedRecvfrom_datagram bytes_eq (Nat.le_refl 4)
  have decoded : decodeWord (encodeWord (htonl id.toUInt32)) = htonl id.toUInt32 := by
    rw [← List.append_nil (encodeWord _), decodeWord_encodeWord_append]
  have different : ((4 : ℕ) : ℤ) ≠ isTimeout.toInt := by decide
  simp only [requestJoinHugeCluster, Exchange.local, received, length_encodeWord,
    if_neg different, decoded, ntohl_htonl]
  simp

theorem requestJoinHugeCluster_timeout :
    requestJoinHugeCluster (.local .timeout) = isTimeout := by
  simp [requestJoinHugeCluster, Exchange.local, wrappedRecvfrom]

theorem relayRequestReady_timeout :
    relayRequestReadyForNodedataList (.local .timeout) = isTimeout.toInt := by
  simp [relayRequestReadyForNodedataList, Exchange.local, wrappedRecvfrom]

theorem relayRequestReady_datagram (bytes_eq : datagram.bytes = readyRecvNodedataListMsg) :
    relayRequestReadyForNodedataList (.local (.datagram datagram)) = 0 := by
  have received := wrappedRecvfrom_datagram bytes_eq (by decide : _ ≤ 127)
  have length_eq : readyRecvNodedataListMsg.length = 27 := by decide
  have different : ((27 : ℕ) : ℤ) ≠ isTimeout.toInt := by decide
  have text : cString readyRecvNodedataListMsg = readyRecvNodedataListMsg := by decide
  simp only [relayRequestReadyForNodedataList, Exchange.local, received, length_eq,
    if_neg different, text]
  simp

theorem fetchNodeinfoDatabase_datagram {granted : Bool} {db : NodeinfoDatabase}
    {stored : Option NodeinfoDatabase}
    (returned : receiveDbOnSocketImpl granted (some datagram) = some db) :
    fetchNodeinfoDatabase granted (.local (.datagram datagram)) stored = (0, some db) := by
  simp [fetchNodeinfoDatabase, Exchange.local, Reception.received, returned]

/-- A fetch that fails, for whatever reason, keeps the database that is stored. -/
theorem fetchNodeinfoDatabase_failed {granted : Bool} {exchange : Exchange}
    {stored after : Option NodeinfoDatabase} {code : ℤ}
    (fetched : fetchNodeinfoDatabase granted exchange stored = (code, after)) (failed : code < 0) :
    after = stored := by
  unfold fetchNodeinfoDatabase at fetched
  split at fetched
  · split at fetched
    · rcases fetched with ⟨rfl, rfl⟩
      rfl
    · rcases fetched with ⟨rfl, rfl⟩
      contradiction
  · rcases fetched with ⟨rfl, rfl⟩
    rfl

theorem fetchNodeinfoDatabase_timeout (granted : Bool) (stored : Option NodeinfoDatabase) :
    fetchNodeinfoDatabase granted (.local .timeout) stored = (-1, stored) := by
  cases granted <;> rfl

end Replies

end NodeinfoSystem.Collector
