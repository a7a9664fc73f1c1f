import NodeinfoSystem.Collector.RelayRequests

/-!
# Distributing a list or a database

A master sends its list, and the database it fetched, to every other node of the
list: a control message, which is repeated until the node itself acknowledges it
but at most three times, and then the payload. A node that fails is counted and
the loop goes on to the next one.

What one entry meets is given for its index and its address. The functions return
what they hand to `sendto`, with the address and the port, next to the code.
-/

namespace NodeinfoSystem.Collector

open Wire

/-- One round of the acknowledgement loop. -/
structure Attempt where
  /-- Whether the whole control message was sent. -/
  sendto : Bool
  /-- The source address of the datagram that arrives, if one does. -/
  sender : UInt32
  reply : Reception

/-- What the distribution to one entry meets. -/
structure Delivery where
  attempts : ℕ → Attempt
  /-- Whether the payload was sent, if a datagram can hold it. -/
  sendto : Bool

abbrev Deliveries := ℕ → UInt32 → Delivery

/-- What is handed to `sendto`, for which address, and whether all of it was sent. -/
inductive Sent where
  /-- To `CTRL_MSG_PORT`. -/
  | control (ip : UInt32) (message : List UInt8) (complete : Bool)
  /-- There is no datagram if the memory handed over is too long for one. -/
  | payload (ip : UInt32) (port : ℕ) (datagram : Option Datagram) (complete : Bool)

/-- What a distribution sends to every node, and the text it waits for in between. -/
structure Offer where
  /-- The control message. -/
  ready : List UInt8
  ack : List UInt8
  /-- The port for the payload. -/
  port : ℕ
  /-- The payload, unless it is too long for a datagram. -/
  payload : Option Datagram

def Attempt.acknowledges (ack : List UInt8) (ip : UInt32) (attempt : Attempt) : Bool :=
  match wrappedRecvfrom 127 attempt.reply with
  | (r, bytes) => decide (0 < r) && attempt.sender == ip && cString bytes == ack

/-- `for (attempt = 0; attempt < 3 && !ack_ok; attempt++)`, with the attempts that are left. -/
def awaitAck (offer : Offer) (ip : UInt32) (attempts : ℕ → Attempt) : ℕ → ℕ → Bool × List Sent
  | 0, _ => (false, [])
  | left + 1, attempt =>
      if (attempts attempt).sendto then
        if (attempts attempt).acknowledges offer.ack ip then
          (true, [.control ip offer.ready true])
        else
          match awaitAck offer ip attempts left (attempt + 1) with
          | (ackOk, sent) => (ackOk, .control ip offer.ready true :: sent)
      else (false, [.control ip offer.ready false])

/-- The body of a distribution loop for an entry that is not skipped. -/
def deliver (offer : Offer) (ip : UInt32) (delivery : Delivery) : Bool × List Sent :=
  match awaitAck offer ip delivery.attempts 3 0 with
  | (false, sent) => (false, sent)
  | (true, sent) =>
      (delivery.sendto && offer.payload.isSome,
        sent ++ [.payload ip offer.port offer.payload (delivery.sendto && offer.payload.isSome)])

/--
A distribution loop: the failures, and what was sent. `myIp` is the own address
when the entry of the given index is looked at.
-/
def deliverAll (offer : Offer) (myIp : ℕ → UInt32) (deliveries : Deliveries) :
    ℕ → List UInt32 → ℕ × List Sent
  | _, [] => (0, [])
  | index, ip :: ips =>
      if ip = 0 ∨ ip = myIp index then deliverAll offer myIp deliveries (index + 1) ips
      else
        match deliver offer ip (deliveries index ip),
          deliverAll offer myIp deliveries (index + 1) ips with
        | (delivered, sent), (failures, rest) =>
            (if delivered then failures else failures + 1, sent ++ rest)

/-- What one call of a distribution function meets. -/
structure Distribution where
  socket : Bool
  /-- The address that `get_my_nodedata` returns when it is called for the given entry. -/
  myIp : ℕ → UInt32
  deliveries : Deliveries

def ListBlock.ips (list : ListBlock) : List UInt32 :=
  list.entries.map (·.ipaddress)

def nodedataListPort : ℕ := 8002

def nodeinfoDbPort : ℕ := 8003

def listOffer (list : ListBlock) : Offer where
  ready := readySendNodedataListMsg
  ack := readyRecvNodedataListMsg
  port := nodedataListPort
  payload := listPayload list

def databaseOffer (db : NodeinfoDatabase) : Offer where
  ready := readySendDbMsg
  ack := readyRecvDbMsg
  port := nodeinfoDbPort
  payload := databasePayload db

def sendNodedataListToMembers (distribution : Distribution) (list : ListBlock) : ℤ × List Sent :=
  if distribution.socket then
    match deliverAll (listOffer list) distribution.myIp distribution.deliveries 0 list.ips with
    | (failures, sent) => (if failures = 0 then 0 else -1, sent)
  else (-1, [])

/-- `distribute_nodeinfo_database`, which asks for the own address once. -/
def distributeNodeinfoDatabase (distribution : Distribution) (list : ListBlock)
    (gNodeinfoDb : Option NodeinfoDatabase) : ℤ × List Sent :=
  match gNodeinfoDb with
  | none => (0, [])
  | some db =>
      if distribution.socket then
        match deliverAll (databaseOffer db) (fun _ => distribution.myIp 0)
          distribution.deliveries 0 list.ips with
        | (failures, sent) => (if failures = 0 then 0 else -1, sent)
      else (-1, [])

/-- What one call of `distribute_nodedata_list` meets at the relay. -/
structure RelayDistribution where
  ready : Exchange
  socket : Bool
  sendto : Bool

def distributeNodedataList (members : Distribution) (relay : RelayDistribution) (list : ListBlock) :
    ℤ :=
  if list.currentSize.toInt < 0 ∨ list.maxSize.toInt ≤ 0 then -1
  else if (sendNodedataListToMembers members list).1 < 0 then -1
  else if list.networkId = isTimeout then 0
  else if relayRequestReadyForNodedataList relay.ready = isTimeout.toInt then 0
  else if relayRequestReadyForNodedataList relay.ready < 0 then -1
  else if sendNodedataListToRelayServer relay.socket relay.sendto list < 0 then -1
  else 0

/-! ## Deliveries that succeed -/

/-- The node acknowledges one of the three control messages, and the payload can be sent. -/
structure Delivery.Succeeds (ack : List UInt8) (ip : UInt32) (delivery : Delivery) : Prop where
  acknowledged : ∃ attempt < 3, (delivery.attempts attempt).acknowledges ack ip = true ∧
    ∀ earlier ≤ attempt, (delivery.attempts earlier).sendto = true
  sendto : delivery.sendto = true

structure Distribution.Succeeds (ack : List UInt8) (distribution : Distribution) : Prop where
  socket : distribution.socket = true
  deliveries : ∀ index ip, (distribution.deliveries index ip).Succeeds ack ip

theorem awaitAck_of_acknowledges {offer : Offer} {ip : UInt32} {attempts : ℕ → Attempt}
    {left attempt target : ℕ} (started : attempt ≤ target) (inside : target < attempt + left)
    (acknowledged : (attempts target).acknowledges offer.ack ip = true)
    (sent : ∀ earlier ≤ target, (attempts earlier).sendto = true) :
    (awaitAck offer ip attempts left attempt).1 = true := by
  induction left generalizing attempt with
  | zero => omega
  | succ left ih =>
      rw [awaitAck, if_pos (sent attempt started)]
      split
      · rfl
      · next unacknowledged =>
          apply ih
          · apply Nat.lt_of_le_of_ne started
            rintro rfl
            exact unacknowledged acknowledged
          · omega

theorem deliver_of_succeeds {offer : Offer} {ip : UInt32} {delivery : Delivery}
    (succeeds : delivery.Succeeds offer.ack ip) (fits : offer.payload.isSome = true) :
    (deliver offer ip delivery).1 = true := by
  rcases succeeds.acknowledged with ⟨target, inside, acknowledged, sent⟩
  have ackOk : (awaitAck offer ip delivery.attempts 3 0).1 = true :=
    awaitAck_of_acknowledges (Nat.zero_le target) (by omega) acknowledged sent
  unfold deliver
  split
  · next unacknowledged =>
      rw [unacknowledged] at ackOk
      contradiction
  · simp [succeeds.sendto, fits]

theorem deliverAll_of_succeeds {offer : Offer} {deliveries : Deliveries}
    (succeeds : ∀ index ip, (deliveries index ip).Succeeds offer.ack ip)
    (fits : offer.payload.isSome = true) (myIp : ℕ → UInt32) (index : ℕ) (ips : List UInt32) :
    (deliverAll offer myIp deliveries index ips).1 = 0 := by
  induction ips generalizing index with
  | nil => rfl
  | cons ip ips ih =>
      rw [deliverAll]
      split
      · exact ih (index + 1)
      · simp only [deliver_of_succeeds (succeeds index ip) fits, if_true]
        exact ih (index + 1)

theorem sendNodedataListToMembers_of_succeeds {distribution : Distribution} {list : ListBlock}
    (succeeds : distribution.Succeeds readyRecvNodedataListMsg)
    (fits : (listPayload list).isSome = true) :
    (sendNodedataListToMembers distribution list).1 = 0 := by
  have delivered := @deliverAll_of_succeeds (listOffer list) _ succeeds.deliveries fits
    distribution.myIp 0 list.ips
  simp only [sendNodedataListToMembers, succeeds.socket, if_true, delivered]

theorem distributeNodeinfoDatabase_of_succeeds {distribution : Distribution} {list : ListBlock}
    {gNodeinfoDb : Option NodeinfoDatabase} (succeeds : distribution.Succeeds readyRecvDbMsg)
    (fits : ∀ db, gNodeinfoDb = some db → (databasePayload db).isSome = true) :
    (distributeNodeinfoDatabase distribution list gNodeinfoDb).1 = 0 := by
  cases gNodeinfoDb with
  | none => rfl
  | some db =>
      have delivered := @deliverAll_of_succeeds (databaseOffer db) _ succeeds.deliveries
        (fits db rfl) (fun _ => distribution.myIp 0) 0 list.ips
      simp only [distributeNodeinfoDatabase, succeeds.socket, if_true, delivered]

end NodeinfoSystem.Collector
