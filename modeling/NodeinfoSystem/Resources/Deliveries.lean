import NodeinfoSystem.Resources.MasterRequests

/-!
# What a distribution reads

The two distribution loops read the list entry by entry, and hand the memory of the
list or of the database to `sendto`. Their socket is open from the first entry to the
last. The loop for lists asks for the own address at every entry, which opens and
closes something each time.
-/

namespace NodeinfoSystem.Resources

open Foundation
open Collector (Attempt Delivery Deliveries Distribution HostAnswers ListBlock Offer
  RelayDistribution Sent databaseOffer listOffer)

/-- What the calls of `get_my_nodedata` in a distribution meet. -/
structure Hosts (myIp : ℕ → UInt32) where
  answers : ℕ → HostAnswers
  address_eq : ∀ index, address (answers index) = myIp index

section Loops

variable (sock payloadItem : Item) (offer : Offer)

def awaitAck (ip : UInt32) (attempts : ℕ → Attempt) : ℕ → ℕ → Program (Bool × List Sent)
  | 0, _ => return (false, [])
  | left + 1, attempt => do
      access sock
      if (attempts attempt).sendto then
        access sock
        if (attempts attempt).acknowledges offer.ack ip then
          return (true, [.control ip offer.ready true])
        else
          let (ackOk, sent) ← awaitAck ip attempts left (attempt + 1)
          return (ackOk, .control ip offer.ready true :: sent)
      else return (false, [.control ip offer.ready false])

/-- The body of a distribution loop for an entry that is not skipped. -/
def deliver (ip : UInt32) (delivery : Delivery) : Program (Bool × List Sent) := do
  match ← awaitAck sock offer ip delivery.attempts 3 0 with
  | (false, sent) => return (false, sent)
  | (true, sent) =>
      access sock
      access payloadItem
      return (delivery.sendto && offer.payload.isSome,
        sent ++ [.payload ip offer.port offer.payload (delivery.sendto && offer.payload.isSome)])

/-- A distribution loop over the entries of a list; `me` finds the own address. -/
def deliverAll (list : Item) (me : ℕ → Program UInt32) (deliveries : Deliveries) :
    ℕ → List UInt32 → Program (ℕ × List Sent)
  | _, [] => do
      access list
      return (0, [])
  | index, ip :: ips => do
      access list
      if ip = 0 then deliverAll list me deliveries (index + 1) ips
      else
        let myIp ← me index
        if ip = myIp then deliverAll list me deliveries (index + 1) ips
        else
          let (delivered, sent) ← deliver sock payloadItem offer ip (deliveries index ip)
          let (failures, rest) ← deliverAll list me deliveries (index + 1) ips
          return (if delivered then failures else failures + 1, sent ++ rest)

theorem meets_awaitAck (ip : UInt32) (attempts : ℕ → Attempt) (left attempt : ℕ) :
    Meets {sock} (awaitAck sock offer ip attempts left attempt)
      (returns (Collector.awaitAck offer ip attempts left attempt) {sock}) := by
  have owned := Finset.mem_singleton_self sock
  induction left generalizing attempt with
  | zero => exact meets_return _ _
  | succ left ih =>
      unfold awaitAck Collector.awaitAck
      apply meets_access owned
      apply Meets.ite
      · apply meets_access owned
        apply Meets.ite
        · exact meets_return _ _
        · apply (ih (attempt + 1)).borrow (Finset.Subset.refl _)
          exact meets_return _ _
      · exact meets_return _ _

variable {sock payloadItem} {mine : Finset Item}

theorem meets_deliver (sockOpen : sock ∈ mine) (payloadLive : payloadItem ∈ mine) (ip : UInt32)
    (delivery : Delivery) : Meets mine (deliver sock payloadItem offer ip delivery)
      (returns (Collector.deliver offer ip delivery) mine) := by
  unfold deliver Collector.deliver
  apply (meets_awaitAck sock offer ip delivery.attempts 3 0).borrow
    (Finset.singleton_subset_iff.mpr sockOpen)
  rcases Collector.awaitAck offer ip delivery.attempts 3 0 with ⟨_ | _, sent⟩
  · exact meets_return _ mine
  · apply meets_access sockOpen
    apply meets_access payloadLive
    exact meets_return _ mine

theorem meets_deliverAll {list : Item} {me : ℕ → Program UInt32} {myIp : ℕ → UInt32}
    (found : ∀ index, Meets ∅ (me index) (returns (myIp index) ∅)) (sockOpen : sock ∈ mine)
    (payloadLive : payloadItem ∈ mine) (listLive : list ∈ mine) (deliveries : Deliveries)
    (index : ℕ) (ips : List UInt32) :
    Meets mine (deliverAll sock payloadItem offer list me deliveries index ips)
      (returns (Collector.deliverAll offer myIp deliveries index ips) mine) := by
  induction ips generalizing index with
  | nil =>
      apply meets_access listLive
      exact meets_return _ mine
  | cons ip ips ih =>
      simp only [deliverAll, Collector.deliverAll, ite_or]
      apply meets_access listLive
      apply Meets.ite
      · exact ih (index + 1)
      · apply (found index).call
        apply Meets.ite
        · exact ih (index + 1)
        · apply (meets_deliver offer sockOpen payloadLive ip _).borrow (Finset.Subset.refl _)
          apply (ih (index + 1)).borrow (Finset.Subset.refl _)
          exact meets_return _ mine

end Loops

/-! ## The distribution functions -/

def sendNodedataListToMembers (list : Item) (distribution : Distribution)
    (hosts : Hosts distribution.myIp) (block : ListBlock) : Program (ℤ × List Sent) :=
  if distribution.socket then do
    let sock ← acquire .descriptor
    let (failures, sent) ← deliverAll sock list (listOffer block) list
      (fun index => ownAddress (hosts.answers index)) distribution.deliveries 0 block.ips
    release sock
    return (if failures = 0 then 0 else -1, sent)
  else return (-1, [])

/-- `distribute_nodeinfo_database`, with the stored database and its block. -/
def distributeNodeinfoDatabase (list : Item) (distribution : Distribution)
    (hosts : Hosts distribution.myIp) (block : ListBlock)
    (gNodeinfoDb : Option (Item × NodeinfoDatabase)) : Program (ℤ × List Sent) :=
  match gNodeinfoDb with
  | none => return (0, [])
  | some (stored, db) => do
      let myIp ← ownAddress (hosts.answers 0)
      access stored
      if distribution.socket then
        let sock ← acquire .descriptor
        let (failures, sent) ← deliverAll sock stored (databaseOffer db) list
          (fun _ => return myIp) distribution.deliveries 0 block.ips
        release sock
        return (if failures = 0 then 0 else -1, sent)
      else return (-1, [])

def distributeNodedataList (list : Item) (members : Distribution) (hosts : Hosts members.myIp)
    (relay : RelayDistribution) (block : ListBlock) : Program ℤ := do
  access list
  if block.currentSize.toInt < 0 ∨ block.maxSize.toInt ≤ 0 then return -1
  else
    let (sent, _) ← sendNodedataListToMembers list members hosts block
    if sent < 0 then return -1
    else
      access list
      if block.networkId = isTimeout then return 0
      else
        let ready ← relayRequestReadyForNodedataList relay.ready
        if ready = isTimeout.toInt then return 0
        else if ready < 0 then return -1
        else
          let sent ← sendNodedataListToRelayServer list relay.socket relay.sendto block
          if sent < 0 then return -1 else return 0

section Distribution

variable {list : Item} {mine : Finset Item} (distribution : Distribution)
  (hosts : Hosts distribution.myIp) (block : ListBlock)

theorem meets_sendNodedataListToMembers (listLive : list ∈ mine) :
    Meets mine (sendNodedataListToMembers list distribution hosts block)
      (returns (Collector.sendNodedataListToMembers distribution block) mine) := by
  unfold sendNodedataListToMembers Collector.sendNodedataListToMembers
  apply Meets.ite
  · apply meets_acquire
    intro sock _ fresh
    have found (index : ℕ) : Meets ∅ (ownAddress (hosts.answers index))
        (returns (distribution.myIp index) ∅) := by
      rw [← hosts.address_eq]
      exact meets_ownAddress _
    have live : list ∈ insert sock mine := Finset.mem_insert_of_mem listLive
    apply (meets_deliverAll _ found (Finset.mem_insert_self sock mine) live live _ 0
      block.ips).borrow (Finset.Subset.refl _)
    exact meets_close fresh _
  · exact meets_return _ mine

theorem meets_distributeNodeinfoDatabase (listLive : list ∈ mine)
    {gNodeinfoDb : Option (Item × NodeinfoDatabase)}
    (storedLive : ∀ stored db, gNodeinfoDb = some (stored, db) → stored ∈ mine) :
    Meets mine (distributeNodeinfoDatabase list distribution hosts block gNodeinfoDb)
      (returns (Collector.distributeNodeinfoDatabase distribution block
        (gNodeinfoDb.map Prod.snd)) mine) := by
  rcases gNodeinfoDb with _ | ⟨stored, db⟩
  · exact meets_return _ mine
  · have live := storedLive stored db rfl
    simp only [distributeNodeinfoDatabase, Collector.distributeNodeinfoDatabase, Option.map_some]
    apply (meets_ownAddress (hosts.answers 0)).call
    rw [hosts.address_eq]
    apply meets_access live
    apply Meets.ite
    · apply meets_acquire
      intro sock _ fresh
      have found (_ : ℕ) : Meets ∅ (return distribution.myIp 0 : Program UInt32)
          (returns (distribution.myIp 0) ∅) := meets_return _ ∅
      apply (meets_deliverAll _ found (Finset.mem_insert_self sock mine)
        (Finset.mem_insert_of_mem live) (Finset.mem_insert_of_mem listLive) _ 0 block.ips).borrow
        (Finset.Subset.refl _)
      exact meets_close fresh _
    · exact meets_return _ mine

theorem meets_distributeNodedataList (listLive : list ∈ mine) (relay : RelayDistribution) :
    Meets mine (distributeNodedataList list distribution hosts relay block)
      (returns (Collector.distributeNodedataList distribution relay block) mine) := by
  have given := Finset.singleton_subset_iff.mpr listLive
  unfold distributeNodedataList Collector.distributeNodedataList
  apply meets_access listLive
  apply Meets.ite
  · exact meets_return _ mine
  · apply (meets_sendNodedataListToMembers distribution hosts block listLive).borrow
      (Finset.Subset.refl _)
    apply Meets.ite
    · exact meets_return _ mine
    · apply meets_access listLive
      apply Meets.ite
      · exact meets_return _ mine
      · apply (meets_relayRequestReadyForNodedataList relay.ready).call
        apply Meets.ite
        · exact meets_return _ mine
        · apply Meets.ite
          · exact meets_return _ mine
          · apply (meets_sendNodedataListToRelayServer list _ _ block).borrow given
            apply Meets.ite
            · exact meets_return _ mine
            · exact meets_return _ mine

end Distribution

end NodeinfoSystem.Resources
