import NodeinfoSystem.Collector.Master
import NodeinfoSystem.Wire.RoundTrip

/-!
# Node data that arrives in pieces

`receive_nodedata` once more, down to the memory of its local variable `result`.
The bytes that arrive on the connection are stored into the record at the place
that has been reached, until the record is complete or a `recv` fails, and a record
that is only partly filled is cleared before it is returned. What comes out depends
on the bytes alone, not on the pieces they arrive in, and it is what the coarser
`receiveNodedata` of the master's loop returns.

The socket of the connection has no receive timeout, so a call waits for as long as
the peer neither sends nor closes.
-/

namespace NodeinfoSystem.Collector

open Foundation Wire

namespace Segments

/-- What one `recv` on the connection meets. -/
inductive Arrival where
  /-- The bytes that are there to be read; none at the end of the stream. -/
  | bytes (available : List UInt8)
  | timeout
  | error

/-- `wrapped_recv` for a buffer of `size` bytes: the returned code, and the bytes stored. -/
def wrappedRecv (size : ℕ) : Arrival → ℤ × List UInt8
  | .bytes available => ((available.take size).length, available.take size)
  | .timeout => (isTimeout.toInt, [])
  | .error => (-1, [])

/-- The memory with the bytes stored from the offset on. -/
def overwrite (memory : List UInt8) (offset : ℕ) (bytes : List UInt8) : List UInt8 :=
  memory.take offset ++ bytes ++ memory.drop (offset + bytes.length)

/-- `memset(&result, 0, sizeof(result)); result.userid = -1;` -/
def resetRecord (memory : List UInt8) : List UInt8 :=
  overwrite (overwrite memory 0 (List.replicate nodedataSize 0)) 4
    (encodeWord (-1 : Int32).toUInt32)

/-- The memory from the address of `result` on, and the variable `got`. -/
structure RecvState where
  memory : List UInt8
  got : ℕ

inductive RecvExit where
  | complete
  | failed

/-- One round of `while (got < need)`, up to the next test of the condition. -/
def recvRound (arrival : Arrival) (state : RecvState) : Status RecvExit RecvState :=
  match wrappedRecv (nodedataSize - state.got) arrival with
  | (r, bytes) =>
      if r ≤ 0 then .returned .failed { state with memory := resetRecord state.memory }
      else
        let next : RecvState := ⟨overwrite state.memory state.got bytes, state.got + r.toNat⟩
        if next.got < nodedataSize then .waiting next else .returned .complete next

/-- The record of the call before it is initialised, and the memory behind it. -/
structure Frame where
  record : List UInt8
  beyond : List UInt8
  whole : record.length = nodedataSize

/-- What one call of `receive_nodedata` meets, with the calls of `recv` one by one. -/
structure Incoming where
  socket : Bool
  bind : Bool
  listen : Bool
  accept : Bool
  frame : Frame
  arrivals : List Arrival

/-- The loop, from the initialised record on. -/
def receiveRecord (frame : Frame) (arrivals : List Arrival) : Status RecvExit RecvState :=
  Status.feed recvRound arrivals ⟨resetRecord (frame.record ++ frame.beyond), 0⟩

/-- `return result;`, which a call that waits for more has not reached. -/
def returnResult : Status RecvExit RecvState → Option (Nodedata UInt32)
  | .waiting _ => none
  | .returned _ state => some (nodedataAt collectorAddress state.memory 0)

def receiveNodedata (incoming : Incoming) : Option (Nodedata UInt32) :=
  if incoming.socket && incoming.bind && incoming.listen && incoming.accept then
    returnResult (receiveRecord incoming.frame incoming.arrivals)
  else
    some (nodedataAt collectorAddress
      (resetRecord (incoming.frame.record ++ incoming.frame.beyond)) 0)

/-! ## The bytes that arrive -/

def Arrival.delivered : Arrival → List UInt8
  | .bytes available => available
  | _ => []

/-- The bytes that arrive before the first `recv` whose result is not positive. -/
def arrived : List Arrival → List UInt8
  | [] => []
  | arrival :: rest =>
      if arrival.delivered = [] then [] else arrival.delivered ++ arrived rest

/-- One of the calls of `recv` has a result that is not positive. -/
def Stops (arrivals : List Arrival) : Prop :=
  ∃ arrival ∈ arrivals, arrival.delivered = []

instance (arrivals : List Arrival) : Decidable (Stops arrivals) :=
  inferInstanceAs (Decidable (∃ arrival ∈ arrivals, arrival.delivered = []))

theorem wrappedRecv_eq {size : ℕ} (arrival : Arrival) (some_ : arrival.delivered ≠ []) :
    wrappedRecv size arrival =
      (((arrival.delivered.take size).length : ℤ), arrival.delivered.take size) := by
  cases arrival with
  | bytes available => rfl
  | timeout => contradiction
  | error => contradiction

theorem wrappedRecv_stop {size : ℕ} {arrival : Arrival} (none_ : arrival.delivered = []) :
    (wrappedRecv size arrival).1 ≤ 0 := by
  cases arrival with
  | bytes available =>
      obtain rfl : available = [] := none_
      simp [wrappedRecv]
  | timeout => exact (by decide : isTimeout.toInt ≤ 0)
  | error => exact (by decide : (-1 : ℤ) ≤ 0)

section Stored

variable {need : ℕ} {got delivered stored : List UInt8}

theorem length_stored (stored_eq : delivered.take (need - got.length) = stored) :
    stored.length = min (need - got.length) delivered.length := by
  rw [← stored_eq, List.length_take]

theorem stored_of_unfinished (stored_eq : delivered.take (need - got.length) = stored)
    (unfinished : got.length + stored.length < need) : stored = delivered := by
  have counted := length_stored stored_eq
  rw [← stored_eq]
  exact List.take_of_length_le (by omega)

/-- What is cut off from the bytes that arrive would not have been needed. -/
theorem take_of_finished (stored_eq : delivered.take (need - got.length) = stored)
    (finished : got.length + stored.length = need) (rest : List UInt8) :
    (got ++ delivered ++ rest).take need = got ++ stored := by
  have counted := length_stored stored_eq
  rw [List.append_assoc, List.take_append, List.take_of_length_le (by omega),
    List.take_append_of_le_length (by omega), stored_eq]

end Stored

/-! ## The memory -/

theorem overwrite_append (front old beyond bytes : List UInt8) (fits : bytes.length ≤ old.length) :
    overwrite (front ++ old ++ beyond) front.length bytes =
      front ++ bytes ++ (old.drop bytes.length ++ beyond) := by
  rw [overwrite, List.append_assoc front old beyond, List.take_left, List.drop_append,
    List.drop_of_length_le (by omega), List.nil_append, Nat.add_sub_cancel_left,
    List.drop_append_of_le_length fits]

theorem resetRecord_append {record : List UInt8} (whole : record.length = nodedataSize)
    (beyond : List UInt8) :
    resetRecord (record ++ beyond) = encodeNodedata collectorAddress invalidNodedata ++ beyond := by
  have zeros_length : (List.replicate nodedataSize (0 : UInt8)).length ≤ record.length := by
    rw [List.length_replicate, whole]
  have zeroed := overwrite_append [] record beyond (List.replicate nodedataSize 0) zeros_length
  rw [List.drop_of_length_le (by rw [List.length_replicate, whole])] at zeroed
  have assigned := overwrite_append (List.replicate 4 0) (List.replicate 8 0) beyond
    (encodeWord (-1 : Int32).toUInt32) (by decide)
  have cleared := congrArg (overwrite · 4 (encodeWord (-1 : Int32).toUInt32)) zeroed
  exact cleared.trans assigned

/-! ## The loop -/

/-- The record is filled with the bytes so far, and the memory behind it is as it was. -/
structure Filled (frame : Frame) (data : List UInt8) (state : RecvState) : Prop where
  got_eq : state.got = data.length
  short : data.length < nodedataSize
  memory_eq : ∃ rest, state.memory = data ++ rest ++ frame.beyond ∧
    data.length + rest.length = nodedataSize

/-- Between two calls of `recv`, when `rest` is still to come of what amounts to `total`. -/
def Receiving (frame : Frame) (total : List UInt8) (stopped : Prop) (rest : List Arrival)
    (state : RecvState) : Prop :=
  ∃ data, Filled frame data state ∧ data ++ arrived rest = total ∧ (Stops rest ↔ stopped)

/-- What the loop leaves when it ends. -/
def Received (frame : Frame) (total : List UInt8) (stopped : Prop) : RecvExit → RecvState → Prop
  | .complete, state =>
      nodedataSize ≤ total.length ∧ state.memory = total.take nodedataSize ++ frame.beyond
  | .failed, state =>
      total.length < nodedataSize ∧ stopped ∧
        state.memory = encodeNodedata collectorAddress invalidNodedata ++ frame.beyond

theorem stops_cons {arrival : Arrival} {rest : List Arrival} (some_ : arrival.delivered ≠ []) :
    Stops (arrival :: rest) ↔ Stops rest := by
  simp [Stops, some_]

theorem recvRound_stop {arrival : Arrival} (none_ : arrival.delivered = []) (state : RecvState) :
    recvRound arrival state =
      .returned .failed { state with memory := resetRecord state.memory } :=
  if_pos (wrappedRecv_stop none_)

theorem recvRound_bytes {arrival : Arrival} {state : RecvState} (some_ : arrival.delivered ≠ [])
    (short : state.got < nodedataSize) {stored : List UInt8}
    (stored_eq : arrival.delivered.take (nodedataSize - state.got) = stored) :
    let next : RecvState :=
      ⟨overwrite state.memory state.got stored, state.got + stored.length⟩
    recvRound arrival state =
      if next.got < nodedataSize then .waiting next else .returned .complete next := by
  have length_pos := List.length_pos_iff.mpr some_
  have positive : ¬(stored.length : ℤ) ≤ 0 := by
    rw [← stored_eq, List.length_take]
    omega
  rw [recvRound, wrappedRecv_eq arrival some_, stored_eq]
  simp only [if_neg positive, Int.toNat_natCast]

section Round

variable {frame : Frame} {total data stored : List UInt8} {stopped : Prop} {arrival : Arrival}
  {rest : List Arrival} {state : RecvState}

theorem Filled.overwrite_eq (filled : Filled frame data state)
    (fits : data.length + stored.length ≤ nodedataSize) :
    ∃ old, overwrite state.memory state.got stored = data ++ stored ++ old ++ frame.beyond ∧
      (data ++ stored).length + old.length = nodedataSize := by
  rcases filled with ⟨got_eq, -, old, memory_eq, whole⟩
  refine ⟨old.drop stored.length, ?_, ?_⟩
  · rw [memory_eq, got_eq, overwrite_append data old frame.beyond stored (by omega)]
    simp only [List.append_assoc]
  · rw [List.length_append, List.length_drop]
    omega

theorem Receiving.stop (receiving : Receiving frame total stopped (arrival :: rest) state)
    (none_ : arrival.delivered = []) :
    Received frame total stopped .failed { state with memory := resetRecord state.memory } := by
  rcases receiving with ⟨data, ⟨-, short, old, memory_eq, whole⟩, total_eq, stops_iff⟩
  rw [arrived, if_pos none_, List.append_nil] at total_eq
  subst total_eq
  refine ⟨short, stops_iff.mp ⟨arrival, by simp, none_⟩, ?_⟩
  rw [memory_eq]
  exact resetRecord_append (by rw [List.length_append, whole]) _

theorem Receiving.store (receiving : Receiving frame total stopped (arrival :: rest) state)
    (some_ : arrival.delivered ≠ [])
    (stored_eq : arrival.delivered.take (nodedataSize - state.got) = stored) :
    let next : RecvState :=
      ⟨overwrite state.memory state.got stored, state.got + stored.length⟩
    (next.got < nodedataSize → Receiving frame total stopped rest next) ∧
      (¬next.got < nodedataSize → Received frame total stopped .complete next) := by
  rcases receiving with ⟨data, filled, total_eq, stops_iff⟩
  have short := filled.short
  rw [arrived, if_neg some_, ← List.append_assoc] at total_eq
  rw [stops_cons some_] at stops_iff
  rw [filled.got_eq] at stored_eq
  have counted := length_stored stored_eq
  have fits : data.length + stored.length ≤ nodedataSize := by omega
  rcases filled.overwrite_eq fits with ⟨old, memory_eq, whole⟩
  refine ⟨?_, ?_⟩
  · intro unfinished
    simp only [filled.got_eq] at unfinished
    obtain rfl := stored_of_unfinished stored_eq unfinished
    refine ⟨data ++ arrival.delivered, ⟨?_, ?_, old, memory_eq, whole⟩, total_eq, stops_iff⟩
    · rw [List.length_append, filled.got_eq]
    · rw [List.length_append]
      exact unfinished
  · intro finished
    simp only [filled.got_eq] at finished
    have total_take := take_of_finished stored_eq (by omega) (arrived rest)
    rw [total_eq] at total_take
    have enough := congrArg List.length total_take
    rw [List.length_take, List.length_append] at enough
    rw [List.length_append] at whole
    obtain rfl : old = [] := List.eq_nil_of_length_eq_zero (by omega)
    refine ⟨by omega, ?_⟩
    rw [total_take, memory_eq, List.append_nil]

theorem recvRound_satisfies (arrival : Arrival) (rest : List Arrival) (state : RecvState)
    (receiving : Receiving frame total stopped (arrival :: rest) state) :
    (recvRound arrival state).Satisfies (Receiving frame total stopped rest)
      (Received frame total stopped) := by
  by_cases none_ : arrival.delivered = []
  · rw [recvRound_stop none_]
    exact receiving.stop none_
  · rcases receiving.store none_ rfl with ⟨goesOn, ends⟩
    rcases receiving with ⟨data, filled, -⟩
    have short := filled.short
    rw [recvRound_bytes none_ (by rw [filled.got_eq]; exact short) rfl]
    split
    · next unfinished => exact goesOn unfinished
    · next finished => exact ends finished

end Round

theorem receiveRecord_satisfies (frame : Frame) (arrivals : List Arrival) :
    (receiveRecord frame arrivals).Satisfies
      (Receiving frame (arrived arrivals) (Stops arrivals) [])
      (Received frame (arrived arrivals) (Stops arrivals)) := by
  apply Status.feed_satisfies recvRound_satisfies
  refine ⟨[], ⟨rfl, by decide, ?_⟩, rfl, Iff.rfl⟩
  refine ⟨encodeNodedata collectorAddress invalidNodedata, ?_, rfl⟩
  rw [resetRecord_append frame.whole, List.nil_append]

/-! ## The coarser model -/

/-- The connection of the master's loop has these calls of `recv`, and its sockets work. -/
structure Delivers (connection : Connection) (arrivals : List Arrival) : Prop where
  opened : (connection.socket && connection.bind && connection.listen && connection.accept) = true
  recv_eq : ∀ index (inside : index < arrivals.length),
    connection.recv index = arrivals[index].delivered

theorem receiveBytes_full {recv : ℕ → List UInt8} {need : ℕ} (calls index : ℕ)
    {got : List UInt8} (full : got.length = need) :
    receiveBytes recv need calls index got = some got := by
  cases calls with
  | zero => rfl
  | succ calls => rw [receiveBytes, if_neg (by omega)]

/-- By induction on the calls of `recv`, of which there are enough for what is still needed. -/
theorem receiveBytes_eq {recv : ℕ → List UInt8} {need calls index : ℕ} {got : List UInt8}
    {arrivals : List Arrival}
    (recv_eq : ∀ offset (inside : offset < arrivals.length),
      recv (index + offset) = arrivals[offset].delivered)
    (short : got.length ≤ need) (enough : need ≤ got.length + calls) :
    (need ≤ (got ++ arrived arrivals).length →
      receiveBytes recv need calls index got = some ((got ++ arrived arrivals).take need)) ∧
    ((got ++ arrived arrivals).length < need → Stops arrivals →
      receiveBytes recv need calls index got = none) := by
  induction arrivals generalizing calls index got with
  | nil =>
      refine ⟨?_, ?_⟩
      · intro all
        rw [arrived, List.append_nil] at all ⊢
        rw [receiveBytes_full calls index (by omega), List.take_of_length_le short]
      · rintro - ⟨arrival, arrival_mem, -⟩
        contradiction
  | cons arrival rest ih =>
      by_cases full : got.length = need
      · refine ⟨?_, ?_⟩
        · intro _
          rw [receiveBytes_full calls index full, List.take_left' full]
        · intro missing
          rw [List.length_append] at missing
          omega
      · obtain ⟨more, rfl⟩ : ∃ more, calls = more + 1 := Nat.exists_eq_succ_of_ne_zero (by omega)
        have first : recv index = arrival.delivered := recv_eq 0 (by simp)
        rw [receiveBytes, if_pos (by omega), first, arrived]
        by_cases none_ : arrival.delivered = []
        · rw [if_pos none_, none_, List.append_nil, List.take_nil]
          refine ⟨fun all => absurd all (by omega), fun _ _ => rfl⟩
        · obtain ⟨stored, stored_eq⟩ : ∃ stored,
              arrival.delivered.take (need - got.length) = stored := ⟨_, rfl⟩
          have counted := length_stored stored_eq
          have delivered_pos := List.length_pos_iff.mpr none_
          rw [if_neg none_, ← List.append_assoc, stored_eq]
          cases stored with
          | nil =>
              rw [List.length_nil] at counted
              omega
          | cons byte bytes =>
              rcases Nat.lt_or_ge (got.length + (byte :: bytes).length) need with unfinished | ends
              · have same := stored_of_unfinished stored_eq unfinished
                have recv_rest : ∀ offset (inside : offset < rest.length),
                    recv (index + 1 + offset) = rest[offset].delivered := by
                  intro offset inside
                  have shifted := recv_eq (offset + 1) (Nat.succ_lt_succ inside)
                  rw [← Nat.add_assoc, Nat.add_right_comm] at shifted
                  exact shifted
                rw [← List.length_append] at unfinished
                have still_short : (got ++ byte :: bytes).length ≤ need := by omega
                have still_enough : need ≤ (got ++ byte :: bytes).length + more := by
                  rw [List.length_append, List.length_cons]
                  omega
                have later := @ih more (index + 1) _ recv_rest still_short still_enough
                rw [← same]
                refine ⟨later.1, fun missing stops => later.2 missing ?_⟩
                exact (stops_cons none_).mp stops
              · have finished : got.length + (byte :: bytes).length = need := by omega
                have whole := take_of_finished stored_eq finished (arrived rest)
                have full_now : (got ++ byte :: bytes).length = need := by
                  rw [List.length_append, finished]
                have enough := congrArg List.length whole
                rw [List.length_take, full_now] at enough
                refine ⟨fun _ => ?_, fun missing _ => absurd missing (by omega)⟩
                rw [whole]
                exact receiveBytes_full more (index + 1) full_now

/-! ## What is returned -/

theorem nodedataAt_of_append {bytes stream beyond : List UInt8}
    (bytes_eq : bytes = stream.take nodedataSize ++ beyond)
    (enough : nodedataSize ≤ stream.length) :
    nodedataAt collectorAddress bytes 0 = nodedataAt collectorAddress stream 0 := by
  have front : bytes.take nodedataSize = stream.take nodedataSize := by
    rw [bytes_eq, List.take_left' (by rw [List.length_take]; omega)]
  have word (offset : ℕ) (inside : offset + 4 ≤ nodedataSize) :
      wordAt bytes offset = wordAt stream offset := by
    rw [← wordAt_take inside, front, wordAt_take inside]
  simp only [nodedataAt, intAt, word 0 (by decide), word (0 + 4) (by decide),
    word (0 + 8) (by decide)]

theorem nodedataAt_cleared (beyond : List UInt8) :
    nodedataAt collectorAddress
      (encodeNodedata collectorAddress invalidNodedata ++ beyond) 0 = invalidNodedata :=
  (nodedataFormat collectorAddress).decodeAt_append [] invalidNodedata beyond

/-- A call whose connection has been accepted. -/
def accepted (frame : Frame) (arrivals : List Arrival) : Incoming where
  socket := true
  bind := true
  listen := true
  accept := true
  frame := frame
  arrivals := arrivals

/-- The record is complete, or a `recv` has failed, or the call waits for more. -/
theorem receiveNodedata_accepted (frame : Frame) (arrivals : List Arrival) :
    receiveNodedata (accepted frame arrivals) =
      if nodedataSize ≤ (arrived arrivals).length then
        some (nodedataAt collectorAddress (arrived arrivals) 0)
      else if Stops arrivals then some invalidNodedata
      else none := by
  have satisfies := receiveRecord_satisfies frame arrivals
  change returnResult (receiveRecord frame arrivals) = _
  cases received : receiveRecord frame arrivals with
  | waiting state =>
      rw [received] at satisfies
      rcases satisfies with ⟨data, filled, total_eq, stops_iff⟩
      have short := filled.short
      rw [arrived, List.append_nil] at total_eq
      rw [total_eq] at short
      have running : ¬Stops arrivals := by
        intro stops
        rcases stops_iff.mpr stops with ⟨arrival, arrival_mem, -⟩
        contradiction
      rw [if_neg (by omega), if_neg running]
      rfl
  | returned exit state =>
      rw [received] at satisfies
      cases exit with
      | complete =>
          rcases satisfies with ⟨enough, memory_eq⟩
          rw [if_pos enough]
          exact congrArg some (nodedataAt_of_append memory_eq enough)
      | failed =>
          rcases satisfies with ⟨short, stopped, memory_eq⟩
          rw [if_neg (by omega), if_pos stopped, returnResult, memory_eq, nodedataAt_cleared]

/-- The record is the only memory that the loop writes to. -/
theorem receiveRecord_keeps_beyond (frame : Frame) (arrivals : List Arrival) :
    (receiveRecord frame arrivals).Satisfies
      (fun state => state.memory.drop nodedataSize = frame.beyond)
      (fun _ state => state.memory.drop nodedataSize = frame.beyond) := by
  apply (receiveRecord_satisfies frame arrivals).imp
  · rintro state ⟨data, ⟨-, -, rest, memory_eq, whole⟩, -⟩
    rw [memory_eq, List.drop_left' (by rw [List.length_append, whole])]
  · intro exit state received
    cases exit with
    | complete =>
        rcases received with ⟨enough, memory_eq⟩
        rw [memory_eq, List.drop_left' (by rw [List.length_take]; omega)]
    | failed =>
        rcases received with ⟨-, -, memory_eq⟩
        rw [memory_eq]
        exact List.drop_left' rfl

/-- What a call returns is what the coarser model returns for the same connection. -/
theorem receiveNodedata_refines {frame : Frame} {arrivals : List Arrival} {connection : Connection}
    {node : Nodedata UInt32} (delivers : Delivers connection arrivals)
    (returned : receiveNodedata (accepted frame arrivals) = some node) :
    Collector.receiveNodedata connection = node := by
  have coarse := @receiveBytes_eq connection.recv nodedataSize nodedataSize 0 [] arrivals
    (by intro offset inside; rw [Nat.zero_add]; exact delivers.recv_eq offset inside)
    (by decide) (by decide)
  rw [List.nil_append] at coarse
  rw [Collector.receiveNodedata, if_pos delivers.opened]
  rw [receiveNodedata_accepted] at returned
  split at returned
  · next enough =>
      rw [coarse.1 enough, ← Option.some.inj returned]
      exact nodedataAt_of_append (List.append_nil _).symm enough
  · next missing =>
      split at returned
      · next stops =>
          rw [coarse.2 (by omega) stops]
          exact Option.some.inj returned
      · contradiction

theorem masterRound_of_invalid {round : Round} (state : MasterState)
    (request : 0 < acceptMemberRequest round.control)
    (invalid : Collector.receiveNodedata round.connection = invalidNodedata) :
    masterRound round state = .returned .nodedata state := by
  have rejected : ¬ValidNode (Collector.receiveNodedata round.connection) := by
    rw [invalid]
    decide
  have notTimeout : acceptMemberRequest round.control ≠ timeoutCode := by
    rw [timeoutCode]
    omega
  simp only [masterRound]
  rw [if_neg (by omega), if_neg notTimeout, if_neg rejected]

/--
Whatever the pieces are, a call returns the node data at the front of the stream once all its
bytes have arrived. If a `recv` fails before that, it returns the invalid record, with which
the master's round ends before the list is touched. It writes to nothing but the record.
-/
theorem receiveNodedata_reassembles (frame : Frame) (stream : List UInt8)
    (arrivals : List Arrival) (sent : arrived arrivals <+: stream) :
    (nodedataSize ≤ (arrived arrivals).length →
      receiveNodedata (accepted frame arrivals) = some (nodedataAt collectorAddress stream 0)) ∧
    ((arrived arrivals).length < nodedataSize → Stops arrivals →
      receiveNodedata (accepted frame arrivals) = some invalidNodedata ∧
        ∀ round state, Delivers round.connection arrivals →
          0 < acceptMemberRequest round.control →
            masterRound round state = .returned .nodedata state) ∧
    (receiveRecord frame arrivals).Satisfies
      (fun state => state.memory.drop nodedataSize = frame.beyond)
      (fun _ state => state.memory.drop nodedataSize = frame.beyond) := by
  refine ⟨?_, ?_, receiveRecord_keeps_beyond frame arrivals⟩
  · intro enough
    rcases sent with ⟨later, rfl⟩
    rw [receiveNodedata_accepted, if_pos enough]
    have front : arrived arrivals = (arrived arrivals ++ later).take nodedataSize ++
        (arrived arrivals).drop nodedataSize := by
      rw [List.take_append_of_le_length enough, List.take_append_drop]
    refine congrArg some (nodedataAt_of_append front ?_)
    rw [List.length_append]
    omega
  · intro short stops
    have returned : receiveNodedata (accepted frame arrivals) = some invalidNodedata := by
      rw [receiveNodedata_accepted, if_neg (by omega), if_pos stops]
    refine ⟨returned, ?_⟩
    intro round state delivers request
    exact masterRound_of_invalid state request (receiveNodedata_refines delivers returned)

/-- A record that arrives in three pieces, the last of which the peer has sent more behind. -/
def threePieces : List Arrival :=
  [.bytes [1, 0, 168], .bytes [192, 125, 0, 0, 0], .bytes [8, 0, 0, 0, 7, 7]]

/-- Uninitialised memory. -/
def sampleFrame : Frame where
  record := List.replicate 12 90
  beyond := [91, 92]
  whole := by decide

theorem receiveNodedata_reassembles_threePieces :
    (nodedataSize ≤ (arrived threePieces).length →
      receiveNodedata (accepted sampleFrame threePieces) =
        some (nodedataAt collectorAddress (arrived threePieces) 0)) ∧
    ((arrived threePieces).length < nodedataSize → Stops threePieces →
      receiveNodedata (accepted sampleFrame threePieces) = some invalidNodedata ∧
        ∀ round state, Delivers round.connection threePieces →
          0 < acceptMemberRequest round.control →
            masterRound round state = .returned .nodedata state) ∧
    (receiveRecord sampleFrame threePieces).Satisfies
      (fun state => state.memory.drop nodedataSize = sampleFrame.beyond)
      (fun _ state => state.memory.drop nodedataSize = sampleFrame.beyond) :=
  receiveNodedata_reassembles sampleFrame (arrived threePieces) threePieces ⟨[], by decide⟩

example : receiveNodedata (accepted sampleFrame threePieces) = some ⟨0xC0A80001, 125, 8⟩ := by
  decide

end Segments

end NodeinfoSystem.Collector
