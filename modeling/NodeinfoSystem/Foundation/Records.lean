import Mathlib.Data.List.Basic
import Mathlib.Data.List.Flatten
import Mathlib.Data.List.TakeDrop
import Mathlib.Data.Nat.Notation
import Mathlib.Tactic.Common

/-!
# Records of a fixed width

A format writes every record in the same number of symbols and can read one back
from the middle of a longer string. Records written one after the other are then
read back by their index, and a prefix of the string that ends between two
records holds a prefix of the records.
-/

namespace NodeinfoSystem.Foundation

universe u v

/-- How records are written in `size` symbols and read at a position. -/
structure RecordFormat (Symbol : Type u) (Record : Type v) where
  size : ℕ
  size_pos : 0 < size
  encode : Record → List Symbol
  decodeAt : List Symbol → ℕ → Record
  length_encode : ∀ record, (encode record).length = size
  /-- Whatever stands before and after it, a record is read back where it was written. -/
  decodeAt_append : ∀ front record rest,
    decodeAt (front ++ (encode record ++ rest)) front.length = record

namespace RecordFormat

variable {Symbol : Type u} {Record : Type v} (format : RecordFormat Symbol Record)

def encodeAll (records : List Record) : List Symbol :=
  records.flatMap format.encode

/-- The records at `count` consecutive places from `start`. -/
def decodeAll (symbols : List Symbol) (start count : ℕ) : List Record :=
  (List.range count).map fun index => format.decodeAt symbols (start + format.size * index)

theorem encodeAll_cons (record : Record) (records : List Record) :
    format.encodeAll (record :: records) = format.encode record ++ format.encodeAll records := by
  simp [encodeAll]

theorem take_encodeAll (records : List Record) (count : ℕ) :
    (format.encodeAll records).take (format.size * count) =
      format.encodeAll (records.take count) := by
  induction records generalizing count with
  | nil => simp [encodeAll]
  | cons record records ih =>
      cases count with
      | zero => simp [encodeAll]
      | succ count =>
          have length_eq := format.length_encode record
          rw [List.take_succ_cons, encodeAll_cons, encodeAll_cons, List.take_append, length_eq,
            List.take_of_length_le, ← ih]
          · have remaining : format.size * (count + 1) - format.size = format.size * count := by
              rw [Nat.mul_add, Nat.mul_one, Nat.add_sub_cancel]
            rw [remaining]
          · rw [length_eq]
            exact Nat.le_mul_of_pos_right _ (Nat.succ_pos count)

theorem decodeAll_succ (symbols : List Symbol) (start count : ℕ) :
    format.decodeAll symbols start (count + 1) =
      format.decodeAt symbols start :: format.decodeAll symbols (start + format.size) count := by
  simp only [decodeAll, List.range_succ_eq_map, List.map_cons, List.map_map, Nat.mul_zero,
    Nat.add_zero, List.cons.injEq, true_and]
  apply List.map_congr_left
  intro index _
  simp only [Function.comp_apply, Nat.mul_succ]
  congr 1
  omega

/-- Records written after `front` are read back in order, whatever follows them. -/
theorem decodeAll_append (front rest : List Symbol) (records : List Record) :
    format.decodeAll (front ++ (format.encodeAll records ++ rest)) front.length records.length =
      records := by
  induction records generalizing front with
  | nil => rfl
  | cons record records ih =>
      have here := format.decodeAt_append front record (format.encodeAll records ++ rest)
      have later := ih (front ++ format.encode record)
      rw [List.length_append, format.length_encode, List.append_assoc] at later
      rw [List.length_cons, decodeAll_succ, encodeAll_cons, List.append_assoc, here, later]

end RecordFormat

end NodeinfoSystem.Foundation
