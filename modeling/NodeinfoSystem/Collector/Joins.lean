import NodeinfoSystem.Collector.NodedataList

/-!
# Joins through the caller's pointer

While the list has room, a join appends to the block that `nd_list` names. The
join that finds the list full moves the elements to a new block and frees the
old one, but only the local variable of `resize_nodedata_list` learns the new
address: the join reports success and `nd_list` is left naming a freed block.
With the initial capacity of 16 and the master's own entry in front, this is the
sixteenth join.
-/

namespace NodeinfoSystem.Collector

open Foundation

namespace ListBlock

/-- The count lies within the capacity, and the slots are the ones allocated for it. -/
structure WellFormed (block : ListBlock) : Prop where
  nonneg : 0 ≤ block.currentSize.toInt
  bounded : block.currentSize.toInt ≤ block.maxSize.toInt
  slots_length : (block.slots.length : ℤ) = block.maxSize.toInt

theorem WellFormed.length_entries {block : ListBlock} (wellFormed : block.WellFormed) :
    (block.entries.length : ℤ) = block.currentSize.toInt := by
  have nonneg := wellFormed.nonneg
  have bounded := wellFormed.bounded
  have slots_length := wellFormed.slots_length
  simp only [entries, List.length_take]
  omega

@[simp]
theorem maxSize_push (block : ListBlock) (node : Nodedata UInt32) :
    (block.push node).maxSize = block.maxSize := by
  simp only [push, writeSlot]
  split <;> rfl

@[simp]
theorem networkId_push (block : ListBlock) (node : Nodedata UInt32) :
    (block.push node).networkId = block.networkId := by
  simp only [push, writeSlot]
  split <;> rfl

theorem slots_push {block : ListBlock} (nonneg : 0 ≤ block.currentSize.toInt)
    (node : Nodedata UInt32) :
    (block.push node).slots = block.slots.set block.currentSize.toInt.toNat node := by
  simp [push, writeSlot, nonneg]

theorem toInt_currentSize_push {block : ListBlock} (wellFormed : block.WellFormed)
    (room : block.currentSize.toInt < block.maxSize.toInt) (node : Nodedata UInt32) :
    (block.push node).currentSize.toInt = block.currentSize.toInt + 1 := by
  have upper := Int32.toInt_lt block.maxSize
  have nonneg := wellFormed.nonneg
  have counted : (block.push node).currentSize = Int32.ofInt (block.currentSize.toInt + 1) := by
    rw [Int32.ofInt_add, Int32.ofInt_toInt]
    rfl
  rw [counted]
  apply toInt_ofInt_of_fitsInt
  constructor <;> omega

theorem entries_push {block : ListBlock} (wellFormed : block.WellFormed)
    (room : block.currentSize.toInt < block.maxSize.toInt) (node : Nodedata UInt32) :
    (block.push node).entries = block.entries ++ [node] := by
  have nonneg := wellFormed.nonneg
  have slots_length := wellFormed.slots_length
  have inside : block.currentSize.toInt.toNat < block.slots.length := by omega
  have next : (block.currentSize.toInt + 1).toNat = block.currentSize.toInt.toNat + 1 := by omega
  simp only [entries, toInt_currentSize_push wellFormed room, slots_push nonneg, next]
  rw [List.take_succ_eq_append_getElem (by simpa using inside), List.getElem_set_self,
    List.take_set_of_le (Nat.le_refl _)]

theorem wellFormed_push {block : ListBlock} (wellFormed : block.WellFormed)
    (room : block.currentSize.toInt < block.maxSize.toInt) (node : Nodedata UInt32) :
    (block.push node).WellFormed := by
  have nonneg := wellFormed.nonneg
  have counted := toInt_currentSize_push wellFormed room node
  refine ⟨?_, ?_, ?_⟩
  · omega
  · rw [maxSize_push]
    omega
  · rw [maxSize_push, slots_push nonneg, List.length_set]
    exact wellFormed.slots_length

end ListBlock

/-- A join the loop accepts: valid nodedata, and a `malloc` that succeeds. -/
structure Join.Accepted (request : Join) : Prop where
  valid : ValidNode request.nodedata
  granted : request.env.malloc.isSome

/-- What the caller of `add_nodedata_to_list` relies on after a run of joins. -/
def ListIntact (nodes : List (Nodedata UInt32)) (master : Master) : Prop :=
  ∃ block, master.heap.load master.ndList = some block ∧ block.entries = nodes ∧
    block.currentSize.toInt ≤ block.maxSize.toInt

def InitialBlock (nodes : List (Nodedata UInt32)) (master : Master) : Prop :=
  ∃ block, master.heap.load master.ndList = some block ∧ block.entries = nodes ∧
    block.WellFormed ∧ block.maxSize.toInt = 16

theorem InitialBlock.listIntact {nodes : List (Nodedata UInt32)} {master : Master}
    (initial : InitialBlock nodes master) : ListIntact nodes master := by
  rcases initial with ⟨block, live, entries_eq, wellFormed, -⟩
  exact ⟨block, live, entries_eq, wellFormed.bounded⟩

theorem createNodedataList_eq_some {malloc : Option Garbage} {me : Nodedata UInt32}
    {heap created : Heap ListBlock} {list : Address}
    (returned : createNodedataList malloc me heap = (some list, created)) :
    ∃ garbage, created.load list = some ((emptyList garbage).push me) := by
  rcases malloc with _ | garbage
  · simp [createNodedataList] at returned
  · refine ⟨garbage, ?_⟩
    simp only [createNodedataList] at returned
    split at returned
    · simp only [Prod.mk.injEq, Option.some.injEq] at returned
      rcases returned with ⟨rfl, rfl⟩
      exact Heap.load_store (Heap.load_malloc heap (emptyList garbage)) _
    · simp at returned

theorem wellFormed_emptyList (garbage : Garbage) : (emptyList garbage).WellFormed where
  nonneg := by simp [emptyList]
  bounded := by simp [emptyList, initialSizeOfNodedataList]
  slots_length := by simp [emptyList, Garbage.block, initialSizeOfNodedataList]

theorem startMaster_eq_some {malloc : Option Garbage} {me : Nodedata UInt32} {networkId : Int32}
    {start : Master} (started : startMaster malloc me networkId = some start) :
    ∃ garbage, start.heap.load start.ndList =
      some { (emptyList garbage).push me with networkId := networkId } := by
  simp only [startMaster] at started
  split at started
  · contradiction
  · next ndList heap created =>
      rcases createNodedataList_eq_some created with ⟨garbage, live⟩
      split at started
      · contradiction
      · simp only [live, Option.some.injEq] at started
        subst start
        exact ⟨garbage, Heap.load_store live _⟩

theorem exists_startMaster_of_created {malloc : Option Garbage} {me : Nodedata UInt32}
    {networkId : Int32} {list : Address} {heap : Heap ListBlock}
    (created : createNodedataList malloc me Heap.empty = (some list, heap))
    (joined : networkId = isTimeout ∨ 0 ≤ networkId.toInt) :
    ∃ start, startMaster malloc me networkId = some start := by
  have goesOn : ¬(networkId ≠ isTimeout ∧ networkId.toInt < 0) := by
    rintro ⟨other, negative⟩
    rcases joined with rfl | nonneg
    · contradiction
    · omega
  rcases createNodedataList_eq_some created with ⟨garbage, live⟩
  simp only [startMaster, created, if_neg goesOn, live]
  exact ⟨_, rfl⟩

/-- A master starts when it has memory, valid data of its own, and an id or a timeout. -/
theorem exists_startMaster {malloc : Option Garbage} {me : Nodedata UInt32} {networkId : Int32}
    (granted : malloc.isSome = true) (valid : ValidNode me)
    (joined : networkId = isTimeout ∨ 0 ≤ networkId.toInt) :
    ∃ start, startMaster malloc me networkId = some start := by
  rcases Option.isSome_iff_exists.mp granted with ⟨garbage, rfl⟩
  have created : createNodedataList (some garbage) me Heap.empty = (some _, _) := if_pos valid
  exact exists_startMaster_of_created created joined

theorem initialBlock_startMaster {malloc : Option Garbage} {me : Nodedata UInt32}
    {networkId : Int32} {start : Master} (started : startMaster malloc me networkId = some start) :
    InitialBlock [me] start := by
  rcases startMaster_eq_some started with ⟨garbage, live⟩
  have room : (emptyList garbage).currentSize.toInt < (emptyList garbage).maxSize.toInt := by
    simp [emptyList, initialSizeOfNodedataList]
  refine ⟨_, live, ?_, ?_, ?_⟩
  · exact ListBlock.entries_push (wellFormed_emptyList garbage) room me
  · have pushed := ListBlock.wellFormed_push (wellFormed_emptyList garbage) room me
    exact ⟨pushed.nonneg, pushed.bounded, pushed.slots_length⟩
  · rw [ListBlock.maxSize_push]
    simp [emptyList, initialSizeOfNodedataList]

theorem Environment.read_of_live (env : Environment) {heap : Heap ListBlock} {list : Address}
    {block : ListBlock} (live : heap.load list = some block) : env.read list heap = block := by
  simp [Environment.read, live]

theorem addNodedataToList_of_room {env : Environment} {node : Nodedata UInt32} {list : Address}
    {heap : Heap ListBlock} {block : ListBlock} (live : heap.load list = some block)
    (room : block.currentSize.toInt < block.maxSize.toInt) :
    addNodedataToList env node list heap = (0, heap.store list (block.push node)) := by
  simp [addNodedataToList, makeRoom, env.read_of_live live, Int.not_le.mpr room]

theorem join_of_room {nodes : List (Nodedata UInt32)} {master : Master} {request : Join}
    (initial : InitialBlock nodes master) (room : nodes.length < 16)
    (accepted : request.Accepted) :
    ∃ next, master.join request = some next ∧
      InitialBlock (nodes ++ [request.nodedata]) next := by
  rcases initial with ⟨block, live, rfl, wellFormed, capacity⟩
  have counted := wellFormed.length_entries
  have notFull : block.currentSize.toInt < block.maxSize.toInt := by omega
  let appended := master.heap.store master.ndList (block.push request.nodedata)
  have stored : appended.load master.ndList = some (block.push request.nodedata) :=
    Heap.load_store live _
  refine ⟨{ master with heap := appended }, ?_, _, stored, ?_, ?_, ?_⟩
  · simp [Master.join, accepted.valid, addNodedataToList_of_room live notFull, appended]
  · exact ListBlock.entries_push wellFormed notFull _
  · exact ListBlock.wellFormed_push wellFormed notFull _
  · rw [ListBlock.maxSize_push]
    exact capacity

/-- The join that finds the list full succeeds and frees the block `nd_list` names. -/
theorem join_of_full {nodes : List (Nodedata UInt32)} {master : Master} {request : Join}
    (initial : InitialBlock nodes master) (full : nodes.length = 16)
    (accepted : request.Accepted) :
    ∃ next, master.join request = some next ∧ next.heap.load next.ndList = none := by
  rcases initial with ⟨block, live, rfl, wellFormed, capacity⟩
  have counted := wellFormed.length_entries
  have atCapacity : block.maxSize.toInt ≤ block.currentSize.toInt := by omega
  have found := request.env.read_of_live live
  rcases Option.isSome_iff_exists.mp accepted.granted with ⟨garbage, granted⟩
  let moved := (master.heap.malloc (resizedBlock garbage block)).2.free master.ndList
  have dead : moved.load master.ndList = none := Heap.load_free _ _
  refine ⟨{ master with heap := moved }, ?_, dead⟩
  simp [Master.join, accepted.valid, addNodedataToList, makeRoom, found, atCapacity,
    resizeNodedataList, granted, Heap.store_of_dead dead, moved]

/-- Joins that fit the initial capacity keep the list in its initial block. -/
theorem runFrom_of_room (start : Master) {master : Master} {nodes : List (Nodedata UInt32)}
    (joins : List Join) (initial : InitialBlock nodes master)
    (room : nodes.length + joins.length ≤ 16)
    (accepted : ∀ request ∈ joins, request.Accepted) :
    ∃ final, (masterLoop start).runFrom master joins = some final ∧
      InitialBlock (nodes ++ joins.map Join.nodedata) final := by
  induction joins generalizing master nodes with
  | nil => exact ⟨master, rfl, by simpa using initial⟩
  | cons request requests ih =>
      simp only [List.length_cons] at room
      rcases join_of_room initial (by omega) (accepted request (by simp)) with
        ⟨next, joined, nextInitial⟩
      have room' : (nodes ++ [request.nodedata]).length + requests.length ≤ 16 := by
        simp only [List.length_append, List.length_singleton]
        omega
      have accepted' : ∀ other ∈ requests, other.Accepted :=
        fun other other_mem => accepted other (by simp [other_mem])
      rcases ih nextInitial room' accepted' with ⟨final, ran, finalInitial⟩
      refine ⟨final, ?_, by simpa using finalInitial⟩
      exact (TransitionSystem.runFrom_cons_eq_some _).mpr ⟨next, joined, ran⟩

/-- After every prefix of the joins the list is intact. -/
def ListKept (me : Nodedata UInt32) (start : Master) (joins : List Join) : Prop :=
  ∀ earlier later, joins = earlier ++ later → ∀ master,
    (masterLoop start).run earlier = some master →
      ListIntact (me :: earlier.map Join.nodedata) master

theorem exists_split_of_lt_length {joins : List Join} {index : ℕ} (inside : index < joins.length) :
    ∃ earlier request later, joins = earlier ++ request :: later ∧ earlier.length = index := by
  refine ⟨joins.take index, joins[index], joins.drop (index + 1), ?_, ?_⟩
  · rw [← List.drop_eq_getElem_cons inside, List.take_append_drop]
  · rw [List.length_take]
    omega

theorem listKept_of_few {me : Nodedata UInt32} {start : Master} {joins : List Join}
    (initial : InitialBlock [me] start) (accepted : ∀ request ∈ joins, request.Accepted)
    (few : joins.length ≤ 15) : ListKept me start joins := by
  intro earlier later joins_eq master ran
  subst joins
  have short : [me].length + earlier.length ≤ 16 := by
    simp only [List.length_append] at few
    simp only [List.length_singleton]
    omega
  have accepted' : ∀ other ∈ earlier, other.Accepted :=
    fun other other_mem => accepted other (by simp [other_mem])
  rcases runFrom_of_room start earlier initial short accepted' with ⟨final, ran', finalInitial⟩
  obtain rfl : final = master := Option.some.inj (ran'.symm.trans ran)
  exact finalInitial.listIntact

/-- The sixteenth of many joins leaves `nd_list` naming a freed block. -/
theorem exists_dead_of_many {me : Nodedata UInt32} {start : Master} {joins : List Join}
    (initial : InitialBlock [me] start) (accepted : ∀ request ∈ joins, request.Accepted)
    (many : 15 < joins.length) :
    ∃ earlier later master, joins = earlier ++ later ∧
      (masterLoop start).run earlier = some master ∧ master.heap.load master.ndList = none := by
  rcases exists_split_of_lt_length many with ⟨earlier, request, later, joins_eq, fifteen⟩
  subst joins
  have accepted' : ∀ other ∈ earlier, other.Accepted :=
    fun other other_mem => accepted other (by simp [other_mem])
  rcases runFrom_of_room start earlier initial (by simp [fifteen]) accepted' with
    ⟨full, toFull, fullInitial⟩
  rcases join_of_full fullInitial (by simp [fifteen]) (accepted request (by simp)) with
    ⟨next, joined, dead⟩
  have ran : (masterLoop start).run (earlier ++ [request]) = some next :=
    (TransitionSystem.runFrom_append_eq_some _).mpr
      ⟨full, toFull, (TransitionSystem.runFrom_cons_eq_some _).mpr ⟨next, joined, rfl⟩⟩
  exact ⟨earlier ++ [request], later, next, by simp, ran, dead⟩

theorem not_listKept_of_many {me : Nodedata UInt32} {start : Master} {joins : List Join}
    (initial : InitialBlock [me] start) (accepted : ∀ request ∈ joins, request.Accepted)
    (many : 15 < joins.length) : ¬ListKept me start joins := by
  intro kept
  rcases exists_dead_of_many initial accepted many with
    ⟨earlier, later, master, joins_eq, ran, dead⟩
  rcases kept earlier later joins_eq master ran with ⟨block, live, -, -⟩
  rw [dead] at live
  contradiction

/-- The list is kept by exactly the runs of at most fifteen joins. -/
theorem listKept_iff (garbage : Garbage) (me : Nodedata UInt32) (networkId : Int32)
    (start : Master) (joins : List Join)
    (started : startMaster (some garbage) me networkId = some start)
    (accepted : ∀ request ∈ joins, request.Accepted) :
    ListKept me start joins ↔ joins.length ≤ 15 := by
  have initial := initialBlock_startMaster started
  constructor
  · intro kept
    apply Nat.le_of_not_lt
    intro many
    exact not_listKept_of_many initial accepted many kept
  · exact listKept_of_few initial accepted

/-! ## A run of sixteen joins -/

/-- Fresh memory that is all zero. -/
def zeros : Garbage where
  maxSize := 0
  currentSize := 0
  networkId := 0
  slot _ := ⟨0, 0, 0⟩

def sampleJoin (ipaddress : ℕ) : Join where
  nodedata := ⟨UInt32.ofNat ipaddress, 0, 4⟩
  env := ⟨some zeros, emptyList zeros⟩

/-- The joins of the nodes with addresses `2, …, count + 1`. -/
def sampleJoins (count : ℕ) : List Join :=
  (List.range count).map fun index => sampleJoin (index + 2)

theorem exists_startMaster_zeros :
    ∃ start, startMaster (some zeros) ⟨1, 0, 4⟩ 1 = some start :=
  Option.isSome_iff_exists.mp (by decide)

theorem accepted_of_mem_sampleJoins {count : ℕ} (small : count ≤ 100) :
    ∀ request ∈ sampleJoins count, request.Accepted := by
  intro request request_mem
  simp only [sampleJoins, List.mem_map, List.mem_range] at request_mem
  rcases request_mem with ⟨index, index_lt, rfl⟩
  refine ⟨⟨?_, by simp [sampleJoin]⟩, rfl⟩
  simp only [sampleJoin]
  intro isZero
  have value : (index + 2) % 2 ^ 32 = 0 := by
    simpa using congrArg UInt32.toNat isZero
  omega

theorem listKept_iff_sampleJoins : ∃ start, startMaster (some zeros) ⟨1, 0, 4⟩ 1 = some start ∧
    (ListKept ⟨1, 0, 4⟩ start (sampleJoins 15) ↔ (sampleJoins 15).length ≤ 15) := by
  rcases exists_startMaster_zeros with ⟨start, started⟩
  exact ⟨start, started, listKept_iff zeros _ 1 start _ started
    (accepted_of_mem_sampleJoins (by decide))⟩

/-- The sixteenth join of a correct run loses the list. -/
theorem not_listKept_sampleJoins : ¬∀ (garbage : Garbage) (me : Nodedata UInt32)
    (networkId : Int32) (start : Master) (joins : List Join),
    startMaster (some garbage) me networkId = some start →
      (∀ request ∈ joins, request.Accepted) → ListKept me start joins := by
  intro always
  rcases exists_startMaster_zeros with ⟨start, started⟩
  have accepted : ∀ request ∈ sampleJoins 16, request.Accepted :=
    accepted_of_mem_sampleJoins (by decide)
  exact not_listKept_of_many (initialBlock_startMaster started) accepted (by decide)
    (always zeros _ 1 start (sampleJoins 16) started accepted)

end NodeinfoSystem.Collector
