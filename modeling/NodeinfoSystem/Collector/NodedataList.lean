import NodeinfoSystem.Foundation.Heap
import NodeinfoSystem.Foundation.Transition
import NodeinfoSystem.Types

/-!
# The master's node list

`create_nodedata_list`, `resize_nodedata_list`, `add_nodedata_to_list` and the
part of `run_master_node_procedure` that owns the list, over an explicit heap.
The answers of `malloc` are inputs: a failure, or the bytes the fresh block
happens to hold.

A pointer to a freed block may still be dereferenced by the program. That is
undefined in C; the model lets the program go on, with a read that finds
arbitrary contents and a write that changes no block, so that it can be asked
whether the block a pointer names is live at all.
-/

namespace NodeinfoSystem.Collector

open Foundation

/-- A `struct nodedata_list` with every slot allocated after its header. -/
structure ListBlock where
  maxSize : Int32
  currentSize : Int32
  networkId : Int32
  slots : List (Nodedata UInt32)

namespace ListBlock

def entries (block : ListBlock) : List (Nodedata UInt32) :=
  block.slots.take block.currentSize.toInt.toNat

/-- `nodedatas[index] = node`; an index outside the slots changes none of them. -/
def writeSlot (block : ListBlock) (index : ℤ) (node : Nodedata UInt32) : ListBlock :=
  if 0 ≤ index then { block with slots := block.slots.set index.toNat node } else block

/-- `nodedatas[current_size] = node; current_size++;`. -/
def push (block : ListBlock) (node : Nodedata UInt32) : ListBlock :=
  { block.writeSlot block.currentSize.toInt node with currentSize := block.currentSize + 1 }

end ListBlock

/-- What a fresh block happens to hold. -/
structure Garbage where
  maxSize : Int32
  currentSize : Int32
  networkId : Int32
  slot : ℕ → Nodedata UInt32

def Garbage.block (garbage : Garbage) (capacity : ℕ) : ListBlock where
  maxSize := garbage.maxSize
  currentSize := garbage.currentSize
  networkId := garbage.networkId
  slots := (List.range capacity).map garbage.slot

/-- The block that `create_nodedata_list` fills in. -/
def emptyList (garbage : Garbage) : ListBlock :=
  { garbage.block initialSizeOfNodedataList with
    maxSize := Int32.ofNat initialSizeOfNodedataList
    currentSize := 0 }

/-- The test every node passes before it is stored: an address, and at least one core. -/
def ValidNode (node : Nodedata UInt32) : Prop :=
  node.ipaddress ≠ 0 ∧ 0 < node.cpuCoreNum.toInt

instance (node : Nodedata UInt32) : Decidable (ValidNode node) :=
  inferInstanceAs (Decidable (_ ∧ _))

/-- `create_nodedata_list`, where `me` is the result of `get_my_nodedata`. -/
def createNodedataList (malloc : Option Garbage) (me : Nodedata UInt32) (heap : Heap ListBlock) :
    Option Address × Heap ListBlock :=
  match malloc with
  | none => (none, heap)
  | some garbage =>
      match heap.malloc (emptyList garbage) with
      | (list, heap) =>
          if ValidNode me then (some list, heap.store list ((emptyList garbage).push me))
          else (none, heap.free list)

structure Environment where
  /-- The answer of `malloc`, should the list be resized. -/
  malloc : Option Garbage
  /-- What a read through a pointer to a freed block finds. -/
  stale : ListBlock

def Environment.read (env : Environment) (list : Address) (heap : Heap ListBlock) : ListBlock :=
  (heap.load list).getD env.stale

/--
The block that `resize_nodedata_list` builds: the header fields it assigns, the
elements it copies, and whatever the fresh block held everywhere else.
-/
def resizedBlock (garbage : Garbage) (list : ListBlock) : ListBlock :=
  let newMaxSize := list.maxSize * 2
  let fresh := garbage.block newMaxSize.toInt.toNat
  { fresh with
    maxSize := newMaxSize
    currentSize := list.currentSize
    slots := list.entries ++ fresh.slots.drop list.currentSize.toInt.toNat }

/--
`resize_nodedata_list`. The pointer is passed by value, so the address of the new
block is dropped when the function returns.
-/
def resizeNodedataList (env : Environment) (list : Address) (heap : Heap ListBlock) :
    ℤ × Heap ListBlock :=
  match env.malloc with
  | none => (-1, heap)
  | some garbage =>
      match heap.malloc (resizedBlock garbage (env.read list heap)) with
      | (_, heap) => (0, heap.free list)

/-- The first half of `add_nodedata_to_list`: make room if the list is full. -/
def makeRoom (env : Environment) (list : Address) (heap : Heap ListBlock) : ℤ × Heap ListBlock :=
  if (env.read list heap).maxSize.toInt ≤ (env.read list heap).currentSize.toInt then
    resizeNodedataList env list heap
  else (0, heap)

/-- `add_nodedata_to_list` for pointers that are not null. -/
def addNodedataToList (env : Environment) (node : Nodedata UInt32) (list : Address)
    (heap : Heap ListBlock) : ℤ × Heap ListBlock :=
  match makeRoom env list heap with
  | (code, heap) =>
      if code < 0 then (-1, heap)
      else (0, heap.store list ((env.read list heap).push node))

/-! ## The main loop -/

/-- The local variable `nd_list` of `run_master_node_procedure`, and the heap. -/
structure Master where
  ndList : Address
  heap : Heap ListBlock

/--
`run_master_node_procedure` up to its loop. `networkId` is the result of
`request_join_huge_cluster`; a negative one other than `IS_TIMEOUT` ends the
procedure.
-/
def startMaster (malloc : Option Garbage) (me : Nodedata UInt32) (networkId : Int32) :
    Option Master :=
  match createNodedataList malloc me Heap.empty with
  | (none, _) => none
  | (some ndList, heap) =>
      if networkId ≠ isTimeout ∧ networkId.toInt < 0 then none
      else
        match heap.load ndList with
        | none => none
        | some block =>
            some ⟨ndList, heap.store ndList { block with networkId := networkId }⟩

/-- The nodedata of one join request, and the answers met while it is added. -/
structure Join where
  nodedata : Nodedata UInt32
  env : Environment

/-- The handling of a join request in the loop; `none` when the procedure returns `-1`. -/
def Master.join (master : Master) (request : Join) : Option Master :=
  if ValidNode request.nodedata then
    match addNodedataToList request.env request.nodedata master.ndList master.heap with
    | (code, heap) => if code < 0 then none else some { master with heap := heap }
  else none

/-- The loop of a started master, as far as its list is concerned. -/
def masterLoop (start : Master) : TransitionSystem Master Join where
  initial := start
  step := Master.join

end NodeinfoSystem.Collector
