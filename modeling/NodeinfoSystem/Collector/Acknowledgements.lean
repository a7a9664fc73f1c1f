import NodeinfoSystem.Collector.Deliveries

/-!
# What a distribution sends

Both distribution loops treat their entries one after the other, and the turn of an entry
depends on the answers of its own attempts only. It is empty for the own node, it has at
most three control messages, and it has the payload exactly when one of the datagrams that
arrive in it comes from the node and is the expected acknowledgement. An acknowledgement
that comes too late is read in the turn of another entry, which it does not answer.
-/

namespace NodeinfoSystem.Collector

open Wire

/-! ## Acknowledgements -/

/-- The datagram that arrives comes from the node, and its text is the acknowledgement. -/
def Attempt.Answers (ack : List UInt8) (ip : UInt32) (attempt : Attempt) : Prop :=
  attempt.sender = ip ∧
    ∃ datagram, attempt.reply = .datagram datagram ∧ cString datagram.bytes = ack

/-- One of the attempts that are made for the node is answered. -/
def Delivery.Acknowledged (ack : List UInt8) (ip : UInt32) (delivery : Delivery) : Prop :=
  ∃ attempt < 3, (∀ earlier ≤ attempt, (delivery.attempts earlier).sendto = true) ∧
    (delivery.attempts attempt).Answers ack ip

def Sent.isControl : Sent → Bool
  | .control _ _ _ => true
  | .payload _ _ _ _ => false

def Sent.isPayload : Sent → Bool
  | .control _ _ _ => false
  | .payload _ _ _ _ => true

/-- What the acknowledgement loop sends and decides, from the given attempt on. -/
structure Awaited (offer : Offer) (ip : UInt32) (attempts : ℕ → Attempt) (left attempt : ℕ)
    (ackOk : Bool) (sent : List Sent) : Prop where
  controls : ∀ message ∈ sent, ∃ complete, message = .control ip offer.ready complete
  length_le : sent.length ≤ left
  length_pos : 0 < left → 0 < sent.length
  ackOk_iff : ackOk = true ↔ ∃ target, attempt ≤ target ∧ target < attempt + left ∧
    (∀ earlier, attempt ≤ earlier → earlier ≤ target → (attempts earlier).sendto = true) ∧
      (attempts target).acknowledges offer.ack ip = true

/-- The loop passes over the entry. -/
def IsSkipped (me ip : UInt32) : Prop :=
  ip = 0 ∨ ip = me

instance (me ip : UInt32) : Decidable (IsSkipped me ip) :=
  inferInstanceAs (Decidable (_ ∨ _))

/-- What the loop sends for one entry. -/
structure Turn (offer : Offer) (me ip : UInt32) (delivery : Delivery) (turn : List Sent) :
    Prop where
  skipped : IsSkipped me ip → turn = []
  contents : ∀ message ∈ turn, ∃ complete, message = .control ip offer.ready complete ∨
    message = .payload ip offer.port offer.payload complete
  tried : ¬IsSkipped me ip → 0 < turn.countP Sent.isControl
  controls_le : turn.countP Sent.isControl ≤ 3
  payload : ¬IsSkipped me ip → delivery.Acknowledged offer.ack ip →
    turn.countP Sent.isPayload = 1
  noPayload : ¬delivery.Acknowledged offer.ack ip → turn.countP Sent.isPayload = 0
  /-- Only what fits a datagram is ever sent completely. -/
  fits : .payload ip offer.port offer.payload true ∈ turn → offer.payload.isSome = true

section Turns

variable {offer : Offer} {me ip : UInt32} {delivery : Delivery}

theorem Awaited.countP {attempts : ℕ → Attempt} {left attempt : ℕ} {ackOk : Bool}
    {sent : List Sent} (awaited : Awaited offer ip attempts left attempt ackOk sent) :
    sent.countP Sent.isControl = sent.length ∧ sent.countP Sent.isPayload = 0 := by
  refine ⟨?_, ?_⟩
  · rw [List.countP_eq_length]
    intro message message_mem
    rcases awaited.controls message message_mem with ⟨complete, rfl⟩
    rfl
  · rw [List.countP_eq_zero]
    intro message message_mem
    rcases awaited.controls message message_mem with ⟨complete, rfl⟩
    simp [Sent.isPayload]

theorem Awaited.payload_notMem {attempts : ℕ → Attempt} {left attempt : ℕ} {ackOk : Bool}
    {sent : List Sent} (awaited : Awaited offer ip attempts left attempt ackOk sent)
    (complete : Bool) : .payload ip offer.port offer.payload complete ∉ sent := by
  intro payload_mem
  rcases awaited.controls _ payload_mem with ⟨_, impossible⟩
  contradiction

theorem Awaited.contents {attempts : ℕ → Attempt} {left attempt : ℕ} {ackOk : Bool}
    {sent : List Sent} (awaited : Awaited offer ip attempts left attempt ackOk sent) :
    ∀ message ∈ sent, ∃ complete, message = .control ip offer.ready complete ∨
      message = .payload ip offer.port offer.payload complete := by
  intro message message_mem
  rcases awaited.controls message message_mem with ⟨complete, control⟩
  exact ⟨complete, Or.inl control⟩

theorem Awaited.turn {ackOk : Bool} {sent : List Sent} (notSkipped : ¬IsSkipped me ip)
    (awaited : Awaited offer ip delivery.attempts 3 0 ackOk sent)
    (silent : ¬delivery.Acknowledged offer.ack ip) : Turn offer me ip delivery sent where
  skipped skipped := absurd skipped notSkipped
  contents := awaited.contents
  tried _ := by
    rw [awaited.countP.1]
    exact awaited.length_pos (by decide)
  controls_le := by
    rw [awaited.countP.1]
    exact awaited.length_le
  payload _ acknowledged := absurd acknowledged silent
  noPayload _ := awaited.countP.2
  fits payload_mem := absurd payload_mem (awaited.payload_notMem true)

end Turns

/-! ## Both distributions -/

end NodeinfoSystem.Collector
