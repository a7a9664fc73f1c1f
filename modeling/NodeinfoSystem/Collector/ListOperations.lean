import NodeinfoSystem.Collector.Joins
import NodeinfoSystem.Foundation.ShiftRemove

/-!
# The list as a sequence

`remove_nodedata_from_list`, which nothing calls yet, and its interplay with
`add_nodedata_to_list`. As long as no node is added to a full list, the elements
in use are a plain sequence: adding appends to it, and removing deletes one
position and keeps the order of the rest. A removal leaves the slot behind the
last element as it was, and the next node that is added overwrites it.
-/

namespace NodeinfoSystem.Collector

open Foundation

/-- The loop of `remove_nodedata_from_list`, and `current_size--;`. -/
def ListBlock.removeAt (block : ListBlock) (index : ℕ) : ListBlock :=
  { block with
    slots := shiftLoop (block.currentSize.toInt.toNat - 1 - index) index block.slots
    currentSize := block.currentSize - 1 }

/-- `remove_nodedata_from_list` for a pointer that is not null. -/
def removeNodedataFromList (env : Environment) (index : Int32) (list : Address)
    (heap : Heap ListBlock) : ℤ × Heap ListBlock :=
  if index.toInt < 0 ∨ (env.read list heap).currentSize.toInt ≤ index.toInt then (-1, heap)
  else (0, heap.store list ((env.read list heap).removeAt index.toInt.toNat))

/-! ## Operations on the list and on the sequence -/

inductive Operation where
  | add (node : Nodedata UInt32)
  | remove (index : Int32)

/-- One call of either function, and the answers met while it runs. -/
structure ListCall where
  operation : Operation
  env : Environment

def ListCall.perform (call : ListCall) (list : Address) (heap : Heap ListBlock) :
    ℤ × Heap ListBlock :=
  match call.operation with
  | .add node => addNodedataToList call.env node list heap
  | .remove index => removeNodedataFromList call.env index list heap

/-- Calls with one pointer, from a heap on; none of them ends the program. -/
def listCalls (list : Address) (start : Heap ListBlock) :
    TransitionSystem (Heap ListBlock) ListCall where
  initial := start
  step heap call := some (call.perform list heap).2

/-- The operation on a sequence: the code that is returned, and the sequence afterwards. -/
def Operation.apply (nodes : List (Nodedata UInt32)) : Operation → ℤ × List (Nodedata UInt32)
  | .add node => (0, nodes ++ [node])
  | .remove index =>
      if 0 ≤ index.toInt ∧ index.toInt < nodes.length then (0, nodes.eraseIdx index.toInt.toNat)
      else (-1, nodes)

/-- The sequence after some calls. -/
def sequenceAfter (calls : List ListCall) (nodes : List (Nodedata UInt32)) :
    List (Nodedata UInt32) :=
  calls.foldl (fun nodes call => (call.operation.apply nodes).2) nodes

/-- The slots of the block that the operation reads or writes. -/
def Operation.accesses (block : ListBlock) : Operation → List ℤ
  | .add _ => [block.currentSize.toInt]
  | .remove index =>
      if index.toInt < 0 ∨ block.currentSize.toInt ≤ index.toInt then []
      else
        (shiftAccesses (block.currentSize.toInt.toNat - 1 - index.toInt.toNat)
          index.toInt.toNat).map fun slot : ℕ => (slot : ℤ)

/-- No call of the run adds a node to a list that is full. -/
def AddsWithRoom (list : Address) (start : Heap ListBlock) (calls : List ListCall) : Prop :=
  ∀ before call after, (listCalls list start).Takes calls before call after →
    ∀ node block, call.operation = .add node → before.load list = some block →
      block.currentSize ≠ block.maxSize

/-! ## One call -/

/-- The block behind the pointer has the sequence in its slots, and the header it started with. -/
def Represents (list : Address) (start : ListBlock) (heap : Heap ListBlock)
    (nodes : List (Nodedata UInt32)) : Prop :=
  ∃ block, heap.load list = some block ∧ block.WellFormed ∧ block.entries = nodes ∧
    block.maxSize = start.maxSize ∧ block.networkId = start.networkId

/-- What one call does to a block that represents a sequence. -/
structure CallRefines (list : Address) (start : ListBlock) (before : Heap ListBlock)
    (call : ListCall) (nodes : List (Nodedata UInt32)) : Prop where
  represents : Represents list start before nodes
  represents_after : Represents list start (call.perform list before).2
    (call.operation.apply nodes).2
  code_eq : (call.perform list before).1 = (call.operation.apply nodes).1
  unchanged : (call.perform list before).1 = -1 → (call.perform list before).2 = before
  inBounds : ∀ block, before.load list = some block → ∀ slot ∈ call.operation.accesses block,
    0 ≤ slot ∧ slot < block.maxSize.toInt

section Call

variable {list : Address} {start block : ListBlock} {heap : Heap ListBlock}

theorem toInt_currentSize_removeAt {index : ℕ} (inside : (index : ℤ) < block.currentSize.toInt) :
    (block.removeAt index).currentSize.toInt = block.currentSize.toInt - 1 := by
  have upper := Int32.toInt_lt block.currentSize
  have counted : (block.removeAt index).currentSize =
      Int32.ofInt (block.currentSize.toInt - 1) := by
    rw [Int32.ofInt_sub, Int32.ofInt_toInt]
    rfl
  rw [counted]
  apply toInt_ofInt_of_fitsInt
  constructor <;> omega

theorem removeAt_spec {index : ℕ} (wellFormed : block.WellFormed)
    (inside : (index : ℤ) < block.currentSize.toInt) :
    (block.removeAt index).WellFormed ∧
      (block.removeAt index).entries = block.entries.eraseIdx index := by
  have counted := toInt_currentSize_removeAt inside
  have bounded := wellFormed.bounded
  have slots_length := wellFormed.slots_length
  have reached : index + (block.currentSize.toInt.toNat - 1 - index) < block.slots.length := by
    omega
  refine ⟨⟨by omega, ?_, ?_⟩, ?_⟩
  · change _ ≤ block.maxSize.toInt
    omega
  · change ((shiftLoop _ index block.slots).length : ℤ) = _
    rw [length_shiftLoop reached]
    exact slots_length
  · have shifted := take_shiftLoop reached
    have last : index + (block.currentSize.toInt.toNat - 1 - index) =
        (block.removeAt index).currentSize.toInt.toNat := by
      omega
    have all : index + (block.currentSize.toInt.toNat - 1 - index) + 1 =
        block.currentSize.toInt.toNat := by
      omega
    rw [all, last] at shifted
    exact shifted

variable {nodes more : List (Nodedata UInt32)} {call : ListCall}

theorem CallRefines.of_refused (live : heap.load list = some block)
    (represents : Represents list start heap nodes)
    (performed : call.perform list heap = (-1, heap))
    (applied : call.operation.apply nodes = (-1, nodes))
    (noAccess : call.operation.accesses block = []) : CallRefines list start heap call nodes where
  represents := represents
  represents_after := by
    rw [performed, applied]
    exact represents
  code_eq := by rw [performed, applied]
  unchanged _ := by rw [performed]
  inBounds other other_live slot slot_mem := by
    obtain rfl : block = other := Option.some.inj (live.symm.trans other_live)
    rw [noAccess] at slot_mem
    contradiction

theorem CallRefines.of_stored {after : ListBlock} (live : heap.load list = some block)
    (represents : Represents list start heap nodes)
    (performed : call.perform list heap = (0, heap.store list after))
    (applied : call.operation.apply nodes = (0, more))
    (stored : Represents list start (heap.store list after) more)
    (inBounds : ∀ slot ∈ call.operation.accesses block, 0 ≤ slot ∧ slot < block.maxSize.toInt) :
    CallRefines list start heap call nodes where
  represents := represents
  represents_after := by
    rw [performed, applied]
    exact stored
  code_eq := by rw [performed, applied]
  unchanged := by
    rw [performed]
    intro failed
    contradiction
  inBounds other other_live := by
    obtain rfl : block = other := Option.some.inj (live.symm.trans other_live)
    exact inBounds

theorem callRefines_add {env : Environment} {node : Nodedata UInt32}
    (represents : Represents list start heap nodes)
    (notFull : ∀ block, heap.load list = some block → block.currentSize ≠ block.maxSize) :
    CallRefines list start heap ⟨.add node, env⟩ nodes := by
  have before := represents
  rcases represents with ⟨block, live, wellFormed, rfl, maxSize_eq, networkId_eq⟩
  have bounded := wellFormed.bounded
  have different : block.currentSize.toInt ≠ block.maxSize.toInt :=
    fun equal => notFull block live (Int32.toInt_inj.mp equal)
  have room : block.currentSize.toInt < block.maxSize.toInt := by omega
  apply CallRefines.of_stored live before
  · exact addNodedataToList_of_room live room
  · rfl
  · refine ⟨block.push node, Heap.load_store live _, ListBlock.wellFormed_push wellFormed room node,
      ListBlock.entries_push wellFormed room node, ?_, ?_⟩
    · rw [ListBlock.maxSize_push, maxSize_eq]
    · rw [ListBlock.networkId_push, networkId_eq]
  · intro slot slot_mem
    obtain rfl := List.mem_singleton.mp slot_mem
    exact ⟨wellFormed.nonneg, room⟩

theorem callRefines_remove {env : Environment} {index : Int32}
    (represents : Represents list start heap nodes) :
    CallRefines list start heap ⟨.remove index, env⟩ nodes := by
  have before := represents
  rcases represents with ⟨block, live, wellFormed, rfl, maxSize_eq, networkId_eq⟩
  have counted := wellFormed.length_entries
  have read_eq := env.read_of_live live
  by_cases outside : index.toInt < 0 ∨ block.currentSize.toInt ≤ index.toInt
  · apply CallRefines.of_refused live before
    · rw [← read_eq] at outside
      exact if_pos outside
    · apply if_neg
      omega
    · exact if_pos outside
  · have inside : (index.toInt.toNat : ℤ) < block.currentSize.toInt := by omega
    rcases removeAt_spec wellFormed inside with ⟨wellFormed_after, entries_after⟩
    have performed : ListCall.perform ⟨.remove index, env⟩ list heap =
        (0, heap.store list (block.removeAt index.toInt.toNat)) := by
      rw [← read_eq] at outside ⊢
      exact if_neg outside
    apply CallRefines.of_stored live before performed
    · apply if_pos
      omega
    · exact ⟨_, Heap.load_store live _, wellFormed_after, entries_after, maxSize_eq, networkId_eq⟩
    · intro slot slot_mem
      rw [Operation.accesses, if_neg outside, List.mem_map] at slot_mem
      rcases slot_mem with ⟨position, position_mem, rfl⟩
      have reached := le_of_mem_shiftAccesses position_mem
      have bounded := wellFormed.bounded
      omega

/-- The step of the refinement, by the kind of the operation. -/
theorem callRefines {call : ListCall} (represents : Represents list start heap nodes)
    (notFull : ∀ node block, call.operation = .add node → heap.load list = some block →
      block.currentSize ≠ block.maxSize) :
    CallRefines list start heap call nodes := by
  rcases call with ⟨operation, env⟩
  cases operation with
  | add node => exact callRefines_add represents fun block => notFull node block rfl
  | remove index => exact callRefines_remove represents

end Call

/-! ## Any number of calls -/

theorem exists_run_listCalls (list : Address) (start : Heap ListBlock) (calls : List ListCall) :
    ∃ final, (listCalls list start).run calls = some final := by
  have total : ∀ {before : Heap ListBlock} {call : ListCall}, True → True →
      ∃ after, (listCalls list start).step before call = some after ∧ True :=
    fun _ _ => ⟨_, rfl, trivial⟩
  rcases TransitionSystem.exists_runFrom _ total (fun call (_ : call ∈ calls) => trivial) trivial
    with ⟨final, ran, -⟩
  exact ⟨final, ran⟩

theorem AddsWithRoom.of_append {list : Address} {start : Heap ListBlock}
    {calls more : List ListCall} (room : AddsWithRoom list start (calls ++ more)) :
    AddsWithRoom list start calls := by
  intro before call after takes
  exact room before call after takes.append

theorem represents_of_run {list : Address} {block : ListBlock} {start final : Heap ListBlock}
    {calls : List ListCall} (live : start.load list = some block) (wellFormed : block.WellFormed)
    (room : AddsWithRoom list start calls)
    (ran : (listCalls list start).run calls = some final) :
    Represents list block final (sequenceAfter calls block.entries) := by
  apply TransitionSystem.run_refines (listCalls list start) _ ran
  · exact ⟨block, live, wellFormed, rfl, rfl, rfl⟩
  · intro before call after nodes takes represents
    have refined := callRefines represents (room before call after takes)
    rcases takes with ⟨-, -, -, -, stepped⟩
    obtain rfl : (call.perform list before).2 = after := Option.some.inj stepped
    exact refined.represents_after

/--
In every run that adds no node to a full list, the list is at every point the sequence that
the same operations lead to, and every call does to it what it does to the sequence.
-/
theorem listCalls_refine (list : Address) (block : ListBlock) (start : Heap ListBlock)
    (calls : List ListCall) (live : start.load list = some block)
    (wellFormed : block.WellFormed) (room : AddsWithRoom list start calls) :
    (∃ final, (listCalls list start).run calls = some final ∧
      Represents list block final (sequenceAfter calls block.entries)) ∧
    ∀ earlier call later, calls = earlier ++ call :: later →
      ∃ before, (listCalls list start).run earlier = some before ∧
        CallRefines list block before call (sequenceAfter earlier block.entries) := by
  refine ⟨?_, ?_⟩
  · rcases exists_run_listCalls list start calls with ⟨final, ran⟩
    exact ⟨final, ran, represents_of_run live wellFormed room ran⟩
  · rintro earlier call later rfl
    rcases exists_run_listCalls list start earlier with ⟨before, ran⟩
    refine ⟨before, ran, ?_⟩
    apply callRefines (represents_of_run live wellFormed room.of_append ran)
    exact room before call _ ⟨earlier, later, rfl, ran, rfl⟩

/-- A full list of two nodes. -/
def fullPair : ListBlock where
  maxSize := 2
  currentSize := 2
  networkId := 5
  slots := [⟨21, 7, 4⟩, ⟨22, -1, 8⟩]

/-- The first node leaves, and another one takes the slot that has become free. -/
def leaveAndJoin : List ListCall :=
  [⟨.remove 0, ⟨none, fullPair⟩⟩, ⟨.add ⟨23, 7, 4⟩, ⟨none, fullPair⟩⟩]

theorem addsWithRoom_leaveAndJoin : AddsWithRoom 0 ⟨[some fullPair]⟩ leaveAndJoin := by
  rintro before call after ⟨earlier, later, split, ran, -⟩ node block isAdd live
  rcases earlier with _ | ⟨first, _ | ⟨second, rest⟩⟩
  · obtain rfl := (List.cons.inj split).1
    contradiction
  · obtain rfl := (List.cons.inj split).1
    obtain rfl := Option.some.inj ran
    obtain rfl := Option.some.inj live
    decide
  · have lengths := congrArg List.length split
    simp [leaveAndJoin] at lengths

theorem listCalls_refine_leaveAndJoin :
    (∃ final, (listCalls 0 ⟨[some fullPair]⟩).run leaveAndJoin = some final ∧
      Represents 0 fullPair final (sequenceAfter leaveAndJoin fullPair.entries)) ∧
    ∀ earlier call later, leaveAndJoin = earlier ++ call :: later →
      ∃ before, (listCalls 0 ⟨[some fullPair]⟩).run earlier = some before ∧
        CallRefines 0 fullPair before call (sequenceAfter earlier fullPair.entries) :=
  listCalls_refine 0 fullPair ⟨[some fullPair]⟩ leaveAndJoin rfl
    ⟨by decide, by decide, by decide⟩ addsWithRoom_leaveAndJoin

end NodeinfoSystem.Collector
