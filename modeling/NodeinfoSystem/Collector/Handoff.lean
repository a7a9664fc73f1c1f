import NodeinfoSystem.Collector.MyNodedata
import NodeinfoSystem.Collector.Segments

/-!
# From a member to its master

`send_my_nodedata` writes the record of the node to a connection and closes it. The
code it returns says whether `send` failed, and not whether `send` took the whole
record. The master reads the other end in pieces, and what it makes of them is the
record of the node or nothing at all.
-/

namespace NodeinfoSystem.Collector

open Foundation Wire Segments

/-- What one call of `send_my_nodedata` meets. -/
structure SendAnswers where
  socket : Bool
  connect : Bool
  host : HostAnswers
  /-- How many bytes `send` takes, or `none` when it fails. -/
  send : Option ℕ

/-- What one call of `send_my_nodedata` leaves: its code, and the bytes on the connection. -/
structure SentNodedata where
  code : ℤ
  stream : List UInt8
  deriving DecidableEq

/-- `send_my_nodedata`; `none` where the parser of the user name has undefined behaviour. -/
def sendMyNodedata (long : LongType) (answers : SendAnswers) : Option SentNodedata :=
  if answers.socket && answers.connect then
    match getMyNodedata long answers.host with
    | none => none
    | some node =>
        if ValidNode node then
          match answers.send with
          | none => some ⟨-1, []⟩
          | some taken => some ⟨0, (encodeNodedata collectorAddress node).take taken⟩
        else some ⟨-1, []⟩
  else some ⟨-1, []⟩

/-- Whatever is on the connection is the front of the record of the node. -/
theorem stream_sendMyNodedata {long : LongType} {answers : SendAnswers} {sent : SentNodedata}
    (returned : sendMyNodedata long answers = some sent) (some_ : sent.stream ≠ []) :
    sent.code = 0 ∧ ∃ node, getMyNodedata long answers.host = some node ∧ ValidNode node ∧
      sent.stream <+: encodeNodedata collectorAddress node := by
  rw [sendMyNodedata] at returned
  split at returned
  · split at returned
    · contradiction
    · next node node_eq =>
        split at returned
        · next valid =>
            cases taken_eq : answers.send with
            | none =>
                rw [taken_eq] at returned
                obtain rfl := Option.some.inj returned
                exact absurd rfl some_
            | some taken =>
                rw [taken_eq] at returned
                obtain rfl := Option.some.inj returned
                exact ⟨rfl, node, node_eq, valid, List.take_prefix taken _⟩
        · obtain rfl := Option.some.inj returned
          exact absurd rfl some_
  · obtain rfl := Option.some.inj returned
    exact absurd rfl some_

/-- A stream that is as long as the record is the record. -/
theorem whole_sendMyNodedata {long : LongType} {answers : SendAnswers} {sent : SentNodedata}
    (returned : sendMyNodedata long answers = some sent)
    (whole : nodedataSize ≤ sent.stream.length) :
    sent.code = 0 ∧ sent.stream.length = nodedataSize ∧
      ∃ node, getMyNodedata long answers.host = some node ∧ ValidNode node ∧
        sent.stream = encodeNodedata collectorAddress node := by
  have some_ : sent.stream ≠ [] := by
    intro none_
    rw [none_] at whole
    exact absurd whole (by decide)
  rcases stream_sendMyNodedata returned some_ with ⟨code_eq, node, node_eq, valid, front⟩
  have stream_eq : sent.stream = encodeNodedata collectorAddress node :=
    front.eq_of_length_le whole
  exact ⟨code_eq, by rw [stream_eq]; rfl, node, node_eq, valid, stream_eq⟩

theorem not_validNode_invalidNodedata : ¬ValidNode invalidNodedata := by
  decide

/--
The master takes the node data of a member only when every byte of it has arrived, and then
takes what the member found out about itself. When it has less, because the member's `send`
took less or a `recv` failed, it gets the invalid record and its round ends there with the
state it had, although the member may have returned 0.
-/
theorem nodedata_handoff {long : LongType} {answers : SendAnswers} {sent : SentNodedata}
    {frame : Frame} {arrivals : List Arrival} {node : Nodedata UInt32}
    (returned : sendMyNodedata long answers = some sent)
    (carried : arrived arrivals <+: sent.stream)
    (received : Segments.receiveNodedata (accepted frame arrivals) = some node) :
    (ValidNode node ↔ arrived arrivals = sent.stream ∧ sent.stream.length = nodedataSize) ∧
    (ValidNode node → sent.code = 0 ∧ getMyNodedata long answers.host = some node) ∧
    (¬ValidNode node → node = invalidNodedata ∧
      ∀ round state, Delivers round.connection arrivals →
        0 < acceptMemberRequest round.control →
          masterRound round state = .returned .nodedata state) := by
  by_cases enough : nodedataSize ≤ (arrived arrivals).length
  · rcases whole_sendMyNodedata returned (enough.trans carried.length_le) with
      ⟨code_eq, length_eq, own, own_eq, valid, stream_eq⟩
    have same : arrived arrivals = sent.stream := carried.eq_of_length_le (by omega)
    have node_eq : node = own := by
      rw [receiveNodedata_accepted, if_pos enough, same, stream_eq] at received
      have read : nodedataAt collectorAddress (encodeNodedata collectorAddress own ++ []) 0 = own :=
        (nodedataFormat collectorAddress).decodeAt_append [] own []
      rw [List.append_nil] at read
      exact (Option.some.inj received).symm.trans read
    subst node_eq
    exact ⟨⟨fun _ => ⟨same, length_eq⟩, fun _ => valid⟩, fun _ => ⟨code_eq, own_eq⟩,
      fun rejected => absurd valid rejected⟩
  · have node_eq : node = invalidNodedata := by
      have received_eq := received
      rw [receiveNodedata_accepted, if_neg enough] at received_eq
      split at received_eq
      · exact (Option.some.inj received_eq).symm
      · contradiction
    have rejected : ¬ValidNode node := by
      rw [node_eq]
      exact not_validNode_invalidNodedata
    refine ⟨⟨fun valid => absurd valid rejected, ?_⟩, fun valid => absurd valid rejected, ?_⟩
    · rintro ⟨same, length_eq⟩
      rw [same, length_eq] at enough
      exact absurd le_rfl enough
    · refine fun _ => ⟨node_eq, fun round state delivers request => ?_⟩
      rw [node_eq] at received
      exact masterRound_of_invalid state request (receiveNodedata_refines delivers received)

/-- A member whose `send` takes ten of the twelve bytes, and returns 0. -/
def shortAnswers : SendAnswers where
  socket := true
  connect := true
  host := {
    getifaddrs := some [⟨none, false⟩, ⟨some ⟨true, 0x7F000001⟩, true⟩,
      ⟨some ⟨true, 0xC0A80001⟩, false⟩]
    socket := true
    connect := true
    getsockname := none
    pwName := some (username 125)
    cores := 8 }
  send := some 10

def shortStream : List UInt8 := [1, 0, 168, 192, 125, 0, 0, 0, 8, 0]

theorem nodedata_handoff_shortAnswers :
    (ValidNode invalidNodedata ↔
      arrived [.bytes shortStream, .bytes []] = shortStream ∧
        shortStream.length = nodedataSize) ∧
    (ValidNode invalidNodedata → (0 : ℤ) = 0 ∧
      getMyNodedata long64 shortAnswers.host = some invalidNodedata) ∧
    (¬ValidNode invalidNodedata → invalidNodedata = invalidNodedata ∧
      ∀ round state, Delivers round.connection [.bytes shortStream, .bytes []] →
        0 < acceptMemberRequest round.control →
          masterRound round state = .returned .nodedata state) :=
  @nodedata_handoff long64 shortAnswers ⟨0, shortStream⟩ sampleFrame
    [.bytes shortStream, .bytes []] invalidNodedata (by decide) ⟨[], by decide⟩ (by decide)

end NodeinfoSystem.Collector
