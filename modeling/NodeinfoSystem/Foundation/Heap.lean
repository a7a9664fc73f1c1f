import Mathlib.Data.List.Basic
import Mathlib.Tactic.Common

/-!
# A heap of blocks

An address is the number of the allocation that returned it, so a new block
never reuses the address of an old one. Freeing a block removes it; what a dead
address names is `none`, and writing through it changes no block.
-/

namespace NodeinfoSystem.Foundation

universe u

abbrev Address := ℕ

/-- The blocks allocated so far; a freed block leaves an empty cell. -/
structure Heap (Block : Type u) where
  cells : List (Option Block)

namespace Heap

variable {Block : Type u}

def empty : Heap Block := ⟨[]⟩

/-- The block an address names, if it is live. -/
def load (heap : Heap Block) (address : Address) : Option Block :=
  heap.cells[address]?.join

def malloc (heap : Heap Block) (block : Block) : Address × Heap Block :=
  (heap.cells.length, ⟨heap.cells ++ [some block]⟩)

def free (heap : Heap Block) (address : Address) : Heap Block :=
  ⟨heap.cells.set address none⟩

/-- Overwrite the block an address names, if it is live. -/
def store (heap : Heap Block) (address : Address) (block : Block) : Heap Block :=
  match heap.load address with
  | none => heap
  | some _ => ⟨heap.cells.set address (some block)⟩

theorem lt_length_of_load {heap : Heap Block} {address : Address} {block : Block}
    (live : heap.load address = some block) : address < heap.cells.length := by
  rcases Nat.lt_or_ge address heap.cells.length with inside | outside
  · exact inside
  · simp [load, List.getElem?_eq_none outside] at live

theorem load_malloc (heap : Heap Block) (block : Block) :
    (heap.malloc block).2.load (heap.malloc block).1 = some block := by
  simp [malloc, load]

theorem load_free (heap : Heap Block) (address : Address) :
    (heap.free address).load address = none := by
  simp only [free, load, List.getElem?_set_self']
  cases heap.cells[address]? <;> rfl

theorem load_free_of_ne {heap : Heap Block} {address other : Address}
    (different : address ≠ other) :
    (heap.free address).load other = heap.load other := by
  simp only [free, load, List.getElem?_set_ne different]

theorem load_store {heap : Heap Block} {address : Address} {old : Block}
    (live : heap.load address = some old) (block : Block) :
    (heap.store address block).load address = some block := by
  have inside := lt_length_of_load live
  simp only [store, live]
  simp only [load, List.getElem?_set_self inside, Option.join_some]

theorem store_of_dead {heap : Heap Block} {address : Address}
    (dead : heap.load address = none) (block : Block) : heap.store address block = heap := by
  simp [store, dead]

end Heap

end NodeinfoSystem.Foundation
