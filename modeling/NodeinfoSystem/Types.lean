import Mathlib.Algebra.Group.Int.Defs
import Mathlib.Data.Int.Notation
import Mathlib.Data.Nat.Notation
import Mathlib.Tactic.Common

/-!
# Data shared by the two programs

The structures of `common.h` and `db_types.h`. Both programs declare
`struct nodedata`; the collector stores the address as `uint32_t` and the relay
as `int`, so the structure here takes the address type as a parameter. Fields of
C type `int` and `uint32_t` are `Int32` and `UInt32`.

A `NodedataList` or `NodeinfoDatabase` is a block whose element count has been
checked against the elements it holds: the count may be anything at most the
number of elements, negative values included, because that is what the loops
`for (i = 0; i < current_size; i++)` need to stay inside the block.
-/

namespace NodeinfoSystem

def initialSizeOfNodedataList : ℕ := 16

def isTimeout : Int32 := -2

/-- `struct nodedata`, with the address as `uint32_t` or as `int`. -/
structure Nodedata (Address : Type) where
  ipaddress : Address
  userid : Int32
  cpuCoreNum : Int32
  deriving DecidableEq, Repr

/-- `struct nodedata_list` with the elements the block holds. -/
structure NodedataList (Address : Type) where
  maxSize : Int32
  currentSize : Int32
  networkId : Int32
  nodedatas : List (Nodedata Address)
  /-- The count never reaches past the elements of the block. -/
  inBounds : currentSize.toInt ≤ nodedatas.length
  deriving DecidableEq

structure NodeinfoDatabaseElement where
  networkId : Int32
  ipaddress : UInt32
  userid : Int32
  cpuCoreNum : Int32
  controlPortNum : Int32
  messagePortNum : Int32
  deriving DecidableEq, Repr

/-- `struct nodeinfo_database` with the elements the block holds. -/
structure NodeinfoDatabase where
  maxSize : Int32
  currentSize : Int32
  elements : List NodeinfoDatabaseElement
  /-- The count never reaches past the elements of the block. -/
  inBounds : currentSize.toInt ≤ elements.length
  deriving DecidableEq

namespace NodedataList

variable {Address : Type}

/-- The elements a loop over `0 .. current_size - 1` visits, in order. -/
def entries (list : NodedataList Address) : List (Nodedata Address) :=
  list.nodedatas.take list.currentSize.toInt.toNat

theorem length_entries (list : NodedataList Address) :
    list.entries.length = list.currentSize.toInt.toNat := by
  have := list.inBounds
  simp only [entries, List.length_take]
  omega

end NodedataList

namespace NodeinfoDatabase

/-- The elements a loop over `0 .. current_size - 1` visits, in order. -/
def entries (db : NodeinfoDatabase) : List NodeinfoDatabaseElement :=
  db.elements.take db.currentSize.toInt.toNat

end NodeinfoDatabase

/-- The range of the C type `int`. -/
def FitsInt (value : ℤ) : Prop :=
  -2 ^ 31 ≤ value ∧ value < 2 ^ 31

instance (value : ℤ) : Decidable (FitsInt value) :=
  inferInstanceAs (Decidable (_ ∧ _))

/-- A value computed in `int`; `none` when it overflows, which is undefined in C. -/
def checkedInt (value : ℤ) : Option ℤ :=
  if FitsInt value then some value else none

theorem checkedInt_of_fitsInt {value : ℤ} (fits : FitsInt value) : checkedInt value = some value :=
  if_pos fits

theorem eq_of_checkedInt {value result : ℤ} (computed : checkedInt value = some result) :
    result = value := by
  unfold checkedInt at computed
  split at computed
  · exact (Option.some.inj computed).symm
  · contradiction

theorem fitsInt_of_checkedInt {value result : ℤ} (computed : checkedInt value = some result) :
    FitsInt value := by
  unfold checkedInt at computed
  split at computed
  · assumption
  · contradiction

theorem toInt_ofInt_of_fitsInt {value : ℤ} (fits : FitsInt value) :
    (Int32.ofInt value).toInt = value := by
  rcases fits with ⟨lower, upper⟩
  exact Int32.toInt_ofInt_of_le lower upper

theorem toInt_ofInt_natCast_le (count : ℕ) : (Int32.ofInt count).toInt ≤ count := by
  rw [Int32.toInt_ofInt, Int.bmod]
  simp only [Int32.size]
  have nonneg := Int.natCast_nonneg count
  split <;> omega

end NodeinfoSystem
