import Mathlib.Data.Multiset.AddSub
import Mathlib.Data.Multiset.Filter
import Mathlib.Data.List.Basic
import Mathlib.Tactic.Common

/-!
# Datagram sockets

A network carries packets between endpoints. A sent packet is in flight until it
is delivered or lost, in any order; delivery appends it to the queue of its
destination if a socket is bound there, and discards it otherwise. A socket
receives the packets queued at its endpoint in order of arrival, and closing it
drops what is still queued. A broadcast is queued at once at every endpoint that
hears it and is bound at that moment. No operation duplicates a packet.

The packets that can still be received are counted by the multiset `packets`, so
that a conservation argument about a protocol is a calculation with multisets.
-/

namespace NodeinfoSystem.Foundation

universe u v

/-- A datagram with the endpoints it travels between. -/
structure Packet (Endpoint : Type u) (Payload : Type v) where
  source : Endpoint
  destination : Endpoint
  payload : Payload
  deriving DecidableEq

/-- The sockets that are bound, and the packets on their way to a receiver. -/
structure Network (Endpoint : Type u) (Payload : Type v) where
  bound : List Endpoint
  inFlight : List (Packet Endpoint Payload)
  /-- Packets at bound sockets, in order of arrival. -/
  queued : List (Packet Endpoint Payload)

namespace Network

variable {Endpoint : Type u} {Payload : Type v}

def silent : Network Endpoint Payload := ⟨[], [], []⟩

/-- The packets that may still be received. -/
def packets (net : Network Endpoint Payload) : Multiset (Packet Endpoint Payload) :=
  (net.inFlight ++ net.queued : List (Packet Endpoint Payload))

theorem mem_packets {net : Network Endpoint Payload} {packet : Packet Endpoint Payload} :
    packet ∈ net.packets ↔ packet ∈ net.inFlight ∨ packet ∈ net.queued := by
  simp [packets]

def bind (endpoint : Endpoint) (net : Network Endpoint Payload) : Network Endpoint Payload :=
  { net with bound := endpoint :: net.bound }

def send (packet : Packet Endpoint Payload) (net : Network Endpoint Payload) :
    Network Endpoint Payload :=
  { net with inFlight := packet :: net.inFlight }

def lose (index : ℕ) (net : Network Endpoint Payload) : Option (Network Endpoint Payload) :=
  match net.inFlight[index]? with
  | none => none
  | some _ => some { net with inFlight := net.inFlight.eraseIdx index }

section

variable [DecidableEq Endpoint]

def close (endpoint : Endpoint) (net : Network Endpoint Payload) : Network Endpoint Payload where
  bound := net.bound.filter (· ≠ endpoint)
  inFlight := net.inFlight
  queued := net.queued.filter (·.destination ≠ endpoint)

/-- Deliver a packet in flight, or discard it when nobody is bound to its destination. -/
def deliver (index : ℕ) (net : Network Endpoint Payload) : Option (Network Endpoint Payload) :=
  match net.inFlight[index]? with
  | none => none
  | some packet =>
      if packet.destination ∈ net.bound then
        some { net with
          inFlight := net.inFlight.eraseIdx index
          queued := net.queued ++ [packet] }
      else some { net with inFlight := net.inFlight.eraseIdx index }

def receive (endpoint : Endpoint) (net : Network Endpoint Payload) :
    Option (Packet Endpoint Payload × Network Endpoint Payload) :=
  match net.queued.find? (·.destination = endpoint) with
  | none => none
  | some packet =>
      some (packet, { net with queued := net.queued.eraseP (·.destination = endpoint) })

/-- Open a fresh socket at an endpoint, with nothing queued. -/
def openSocket (endpoint : Endpoint) (net : Network Endpoint Payload) :
    Network Endpoint Payload :=
  (net.close endpoint).bind endpoint

/-- Close all sockets that a process owns. -/
def closeWhere (owns : Endpoint → Bool) (net : Network Endpoint Payload) :
    Network Endpoint Payload where
  bound := net.bound.filter (!owns ·)
  inFlight := net.inFlight
  queued := net.queued.filter (!owns ·.destination)

/-- Queue a copy of a payload at every bound endpoint that hears the broadcast. -/
def broadcast (source : Endpoint) (hears : Endpoint → Bool) (payload : Payload)
    (net : Network Endpoint Payload) : Network Endpoint Payload :=
  { net with
    queued := net.queued ++
      (net.bound.filter hears).map fun destination => ⟨source, destination, payload⟩ }

def queueAt (endpoint : Endpoint) (net : Network Endpoint Payload) :
    List (Packet Endpoint Payload) :=
  net.queued.filter (·.destination = endpoint)

end

/-! ## What the operations do to the packets -/

@[simp]
theorem packets_silent : (silent : Network Endpoint Payload).packets = 0 := rfl

@[simp]
theorem packets_bind (endpoint : Endpoint) (net : Network Endpoint Payload) :
    (net.bind endpoint).packets = net.packets := rfl

@[simp]
theorem packets_send (packet : Packet Endpoint Payload) (net : Network Endpoint Payload) :
    (net.send packet).packets = packet ::ₘ net.packets := rfl

theorem cons_eraseIdx_append {α : Type u} {front : List α} {index : ℕ} {x : α}
    (found : front[index]? = some x) (back : List α) :
    ((front ++ back : List α) : Multiset α) = x ::ₘ (front.eraseIdx index ++ back : List α) := by
  rcases List.getElem?_eq_some_iff.mp found with ⟨inside, rfl⟩
  rw [Multiset.cons_coe, Multiset.coe_eq_coe]
  exact (List.getElem_cons_eraseIdx_perm inside).symm.append_right back

theorem perm_cons_eraseP {α : Type u} {test : α → Bool} {xs : List α} {x : α}
    (found : xs.find? test = some x) : xs.Perm (x :: xs.eraseP test) := by
  induction xs with
  | nil => simp at found
  | cons first rest ih =>
      cases hit : test first with
      | true =>
          simp only [List.find?_cons, hit, Option.some.injEq] at found
          rw [List.eraseP_cons_of_pos hit, found]
      | false =>
          simp only [List.find?_cons, hit] at found
          rw [List.eraseP_cons_of_neg (by simp [hit])]
          exact ((ih found).cons first).trans (List.Perm.swap _ _ _)

theorem lose_effect {net next : Network Endpoint Payload} {index : ℕ}
    (lost : net.lose index = some next) :
    next.bound = net.bound ∧ ∃ packet, net.packets = packet ::ₘ next.packets := by
  simp only [lose] at lost
  split at lost
  · contradiction
  · next packet found =>
      simp only [Option.some.injEq] at lost
      subst next
      exact ⟨rfl, packet, cons_eraseIdx_append found net.queued⟩

theorem packets_lose_le {net next : Network Endpoint Payload} {index : ℕ}
    (lost : net.lose index = some next) : next.packets ≤ net.packets := by
  rcases lose_effect lost with ⟨-, packet, removed⟩
  exact removed ▸ Multiset.le_cons_self _ _

section

variable [DecidableEq Endpoint]

/-- Closing drops packets that were queued at the endpoint, and no others. -/
theorem packets_close (endpoint : Endpoint) (net : Network Endpoint Payload) :
    ∃ dropped : Multiset (Packet Endpoint Payload),
      (∀ packet ∈ dropped, packet.destination = endpoint) ∧
        net.packets = (net.close endpoint).packets + dropped := by
  refine ⟨(net.queued.filter (·.destination = endpoint) : List _), ?_, ?_⟩
  · intro packet packet_mem
    simp only [Multiset.mem_coe, List.mem_filter, decide_eq_true_eq] at packet_mem
    exact packet_mem.2
  · simp only [packets, close, Multiset.coe_add, Multiset.coe_eq_coe, List.append_assoc]
    refine List.Perm.append_left _ (List.Perm.trans ?_ List.perm_append_comm)
    have split := List.filter_append_perm (fun packet => packet.destination = endpoint) net.queued
    simpa only [decide_not] using split.symm

theorem packets_close_le (endpoint : Endpoint) (net : Network Endpoint Payload) :
    (net.close endpoint).packets ≤ net.packets := by
  rcases net.packets_close endpoint with ⟨dropped, -, packets_eq⟩
  rw [packets_eq]
  exact Multiset.le_add_right _ _

theorem mem_packets_close {net : Network Endpoint Payload} {endpoint : Endpoint}
    {packet : Packet Endpoint Payload} (packet_mem : packet ∈ net.packets)
    (elsewhere : packet.destination ≠ endpoint) : packet ∈ (net.close endpoint).packets := by
  rcases net.packets_close endpoint with ⟨dropped, dropped_here, packets_eq⟩
  rw [packets_eq, Multiset.mem_add] at packet_mem
  rcases packet_mem with kept | gone
  · exact kept
  · exact absurd (dropped_here packet gone) elsewhere

/-- A delivered packet is queued at its destination, or discarded when nobody is bound there. -/
theorem deliver_effect {net next : Network Endpoint Payload} {index : ℕ}
    (delivered : net.deliver index = some next) :
    next.bound = net.bound ∧ ∃ packet, net.inFlight[index]? = some packet ∧
      ((packet.destination ∈ net.bound ∧ next.packets = net.packets) ∨
        (packet.destination ∉ net.bound ∧ net.packets = packet ::ₘ next.packets)) := by
  simp only [deliver] at delivered
  split at delivered
  · contradiction
  · next packet found =>
      have removed := cons_eraseIdx_append found net.queued
      split at delivered
      · next isBound =>
          simp only [Option.some.injEq] at delivered
          subst next
          refine ⟨rfl, packet, found, Or.inl ⟨isBound, ?_⟩⟩
          rw [packets, packets, removed, Multiset.cons_coe, Multiset.coe_eq_coe]
          rw [← List.append_assoc, ← List.cons_append]
          exact List.perm_append_singleton packet _
      · next unbound =>
          simp only [Option.some.injEq] at delivered
          subst next
          exact ⟨rfl, packet, found, Or.inr ⟨unbound, removed⟩⟩

/-- Whether the packet is queued or discarded, none is added. -/
theorem packets_deliver_le {net next : Network Endpoint Payload} {index : ℕ}
    (delivered : net.deliver index = some next) : next.packets ≤ net.packets := by
  rcases deliver_effect delivered with ⟨-, packet, -, ⟨-, same⟩ | ⟨-, removed⟩⟩
  · exact le_of_eq same
  · exact removed ▸ Multiset.le_cons_self _ _

theorem receive_effect {net next : Network Endpoint Payload} {endpoint : Endpoint}
    {packet : Packet Endpoint Payload} (received : net.receive endpoint = some (packet, next)) :
    next.bound = net.bound ∧ packet.destination = endpoint ∧ packet ∈ net.queued ∧
      net.packets = packet ::ₘ next.packets := by
  simp only [receive] at received
  split at received
  · contradiction
  · next first found =>
      simp only [Option.some.injEq, Prod.mk.injEq] at received
      rcases received with ⟨rfl, rfl⟩
      have here := List.find?_some found
      simp only [decide_eq_true_eq] at here
      refine ⟨rfl, here, List.mem_of_find?_eq_some found, ?_⟩
      rw [packets, packets, Multiset.cons_coe, Multiset.coe_eq_coe]
      exact ((perm_cons_eraseP found).append_left _).trans List.perm_middle

theorem mem_packets_of_receive {net next : Network Endpoint Payload} {endpoint : Endpoint}
    {packet : Packet Endpoint Payload} (received : net.receive endpoint = some (packet, next)) :
    packet ∈ net.packets := by
  rcases receive_effect received with ⟨-, -, -, removed⟩
  exact removed ▸ Multiset.mem_cons_self packet _

theorem packets_receive_le {net next : Network Endpoint Payload} {endpoint : Endpoint}
    {packet : Packet Endpoint Payload} (received : net.receive endpoint = some (packet, next)) :
    next.packets ≤ net.packets := by
  rcases receive_effect received with ⟨-, -, -, removed⟩
  exact removed ▸ Multiset.le_cons_self _ _

/-- A socket that is closed after one packet has been received from it. -/
theorem packets_close_le_of_receive {net next : Network Endpoint Payload} {endpoint : Endpoint}
    {packet : Packet Endpoint Payload} (received : net.receive endpoint = some (packet, next)) :
    (next.close endpoint).packets ≤ net.packets :=
  (packets_close_le endpoint next).trans (packets_receive_le received)

theorem inFlight_receive {net next : Network Endpoint Payload} {endpoint : Endpoint}
    {packet : Packet Endpoint Payload} (received : net.receive endpoint = some (packet, next)) :
    next.inFlight = net.inFlight := by
  simp only [receive] at received
  split at received
  · contradiction
  · simp only [Option.some.injEq, Prod.mk.injEq] at received
    rw [← received.2]

theorem mem_inFlight_of_deliver {net next : Network Endpoint Payload} {index : ℕ}
    (delivered : net.deliver index = some next) {packet : Packet Endpoint Payload}
    (packet_mem : packet ∈ next.inFlight) : packet ∈ net.inFlight := by
  simp only [deliver] at delivered
  split at delivered
  · contradiction
  · split at delivered <;>
    · simp only [Option.some.injEq] at delivered
      subst next
      exact List.mem_of_mem_eraseIdx packet_mem

omit [DecidableEq Endpoint] in
theorem packets_broadcast (source : Endpoint) (hears : Endpoint → Bool) (payload : Payload)
    (net : Network Endpoint Payload) :
    (net.broadcast source hears payload).packets = net.packets +
      ((net.bound.filter hears).map fun destination =>
        (⟨source, destination, payload⟩ : Packet Endpoint Payload) : List _) := by
  simp only [packets, broadcast, Multiset.coe_add, List.append_assoc]

omit [DecidableEq Endpoint] in
theorem mem_packets_broadcast {net : Network Endpoint Payload} {source : Endpoint}
    {hears : Endpoint → Bool} {payload : Payload} {packet : Packet Endpoint Payload}
    (packet_mem : packet ∈ (net.broadcast source hears payload).packets) :
    packet ∈ net.packets ∨
      ∃ endpoint, hears endpoint = true ∧ packet = ⟨source, endpoint, payload⟩ := by
  rw [packets_broadcast, Multiset.mem_add, Multiset.mem_coe, List.mem_map] at packet_mem
  rcases packet_mem with old | ⟨endpoint, heard, rfl⟩
  · exact Or.inl old
  · exact Or.inr ⟨endpoint, (List.mem_filter.mp heard).2, rfl⟩

/-! ## What the operations do to one queue -/

@[simp]
theorem queueAt_send (endpoint : Endpoint) (packet : Packet Endpoint Payload)
    (net : Network Endpoint Payload) : (net.send packet).queueAt endpoint = net.queueAt endpoint :=
  rfl

theorem queueAt_close_self (endpoint : Endpoint) (net : Network Endpoint Payload) :
    (net.close endpoint).queueAt endpoint = [] := by
  simp only [queueAt, close, List.filter_filter]
  rw [List.filter_eq_nil_iff]
  simp

theorem queueAt_close_of_ne {endpoint other : Endpoint} (different : other ≠ endpoint)
    (net : Network Endpoint Payload) : (net.close endpoint).queueAt other = net.queueAt other := by
  simp only [queueAt, close, List.filter_filter]
  apply List.filter_congr
  intro packet _
  by_cases here : packet.destination = other <;> simp [here, different]

theorem queueAt_openSocket_self (endpoint : Endpoint) (net : Network Endpoint Payload) :
    (net.openSocket endpoint).queueAt endpoint = [] :=
  queueAt_close_self endpoint net

theorem queueAt_openSocket_of_ne {endpoint other : Endpoint} (different : other ≠ endpoint)
    (net : Network Endpoint Payload) :
    (net.openSocket endpoint).queueAt other = net.queueAt other :=
  queueAt_close_of_ne different net

theorem queueAt_closeWhere_of_not {owns : Endpoint → Bool} {endpoint : Endpoint}
    (foreign : owns endpoint = false) (net : Network Endpoint Payload) :
    (net.closeWhere owns).queueAt endpoint = net.queueAt endpoint := by
  simp only [queueAt, closeWhere, List.filter_filter]
  apply List.filter_congr
  intro packet _
  by_cases here : packet.destination = endpoint <;> simp [here, foreign]

theorem queueAt_deliver {net next : Network Endpoint Payload} {index : ℕ}
    (delivered : net.deliver index = some next) (endpoint : Endpoint) :
    ∃ arrived, next.queueAt endpoint = net.queueAt endpoint ++ arrived ∧
      ∀ packet ∈ arrived, packet ∈ net.inFlight ∧ packet.destination = endpoint := by
  simp only [deliver] at delivered
  split at delivered
  · contradiction
  · next packet found =>
      have packet_mem := List.mem_of_getElem? found
      split at delivered
      · simp only [Option.some.injEq] at delivered
        subst next
        refine ⟨[packet].filter (·.destination = endpoint), ?_, ?_⟩
        · simp only [queueAt, List.filter_append]
        · intro other other_mem
          simp only [List.mem_filter, List.mem_singleton, decide_eq_true_eq] at other_mem
          exact ⟨other_mem.1 ▸ packet_mem, other_mem.2⟩
      · simp only [Option.some.injEq] at delivered
        subst next
        exact ⟨[], by simp [queueAt], by simp⟩

omit [DecidableEq Endpoint] in
theorem filter_eraseP {α : Type u} {test : α → Bool} {xs : List α} {x : α}
    (found : xs.find? test = some x) : xs.filter test = x :: (xs.eraseP test).filter test := by
  induction xs with
  | nil => simp at found
  | cons first rest ih =>
      cases hit : test first with
      | true =>
          simp only [List.find?_cons, hit, Option.some.injEq] at found
          rw [List.filter_cons_of_pos hit, List.eraseP_cons_of_pos hit, found]
      | false =>
          simp only [List.find?_cons, hit] at found
          rw [List.filter_cons_of_neg (by simp [hit]), List.eraseP_cons_of_neg (by simp [hit]),
            List.filter_cons_of_neg (by simp [hit])]
          exact ih found

omit [DecidableEq Endpoint] in
theorem filter_eraseP_of_disjoint {α : Type u} {test keep : α → Bool}
    (disjoint : ∀ x, test x = true → keep x = false) (xs : List α) :
    (xs.eraseP test).filter keep = xs.filter keep := by
  induction xs with
  | nil => rfl
  | cons first rest ih =>
      cases hit : test first with
      | true =>
          rw [List.eraseP_cons_of_pos hit, List.filter_cons_of_neg (by simp [disjoint first hit])]
      | false =>
          rw [List.eraseP_cons_of_neg (by simp [hit]), List.filter_cons, List.filter_cons, ih]

theorem queueAt_receive {net next : Network Endpoint Payload} {endpoint : Endpoint}
    {packet : Packet Endpoint Payload} (received : net.receive endpoint = some (packet, next)) :
    net.queueAt endpoint = packet :: next.queueAt endpoint ∧
      ∀ other, other ≠ endpoint → next.queueAt other = net.queueAt other := by
  simp only [receive] at received
  split at received
  · contradiction
  · next first found =>
      simp only [Option.some.injEq, Prod.mk.injEq] at received
      rcases received with ⟨rfl, rfl⟩
      refine ⟨filter_eraseP found, ?_⟩
      intro other different
      apply filter_eraseP_of_disjoint
      intro queued here
      simp only [decide_eq_true_eq] at here
      simp [here, different.symm]

/-- A broadcast is appended to the queues of the endpoints that are bound and hear it. -/
theorem queueAt_broadcast (source : Endpoint) (hears : Endpoint → Bool) (payload : Payload)
    (net : Network Endpoint Payload) (endpoint : Endpoint) :
    ∃ copies, (net.broadcast source hears payload).queueAt endpoint =
        net.queueAt endpoint ++ copies ∧
      (∀ packet ∈ copies, packet = ⟨source, endpoint, payload⟩) ∧
      (copies ≠ [] ↔ endpoint ∈ net.bound ∧ hears endpoint = true) := by
  refine ⟨((net.bound.filter hears).map fun destination =>
    (⟨source, destination, payload⟩ : Packet Endpoint Payload)).filter (·.destination = endpoint),
    ?_, ?_, ?_⟩
  · simp only [queueAt, broadcast, List.filter_append]
  · intro packet packet_mem
    simp only [List.mem_filter, List.mem_map, decide_eq_true_eq] at packet_mem
    rcases packet_mem with ⟨⟨destination, -, rfl⟩, rfl⟩
    rfl
  · rw [ne_eq, List.filter_eq_nil_iff, ← List.mem_filter]
    constructor
    · intro some
      by_contra absent
      apply some
      intro packet packet_mem here
      rcases List.mem_map.mp packet_mem with ⟨destination, heard, rfl⟩
      exact absent (of_decide_eq_true here ▸ heard)
    · intro heard none
      exact none _ (List.mem_map_of_mem heard) (decide_eq_true rfl)

end

end Network

end NodeinfoSystem.Foundation
