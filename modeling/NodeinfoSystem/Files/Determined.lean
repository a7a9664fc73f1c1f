import NodeinfoSystem.Files.Update
import Mathlib.Data.List.Forall2

/-!
# What the files tell about the list

`nodeinfo` and `hostfile` together have every field of every entry in them: the
address and the user id in the one, the address and the core count in the other.
Only the user ids below zero are written alike. Two lists that lead to the same
files therefore have the same entries up to that, and a file has as many lines as
its list has entries. A list with a negative count has none, like an empty one.
-/

namespace NodeinfoSystem.Files

open Foundation

/-! ## A line determines its entry -/

theorem formatInt_of_nonneg {value : Int32} (nonneg : ¬value.toInt < 0) :
    formatInt value = Nat.toDigits 10 value.toInt.toNat :=
  if_neg nonneg

theorem formatInt_injective : Function.Injective formatInt := by
  have noSign (value : ℕ) (digits : Text) : '-' :: digits ≠ Nat.toDigits 10 value := by
    intro equal
    have sign_mem : '-' ∈ Nat.toDigits 10 value := by
      rw [← equal]
      exact List.mem_cons_self
    exact not_mem_toDigits (by decide) value sign_mem
  intro first second equal
  apply Int32.toInt_inj.mp
  rw [formatInt, formatInt] at equal
  split at equal
  · split at equal
    · have digits := toDigits_injective (List.cons.inj equal).2
      omega
    · exact absurd equal (noSign _ _)
  · split at equal
    · exact absurd equal.symm (noSign _ _)
    · have digits := toDigits_injective equal
      omega

/-- The same entry, but for the user ids below zero. -/
structure SameNode (first second : Nodedata UInt32) : Prop where
  ipaddress : first.ipaddress = second.ipaddress
  cpuCoreNum : first.cpuCoreNum = second.cpuCoreNum
  userid : first.userid = second.userid ∨ first.userid.toInt < 0 ∧ second.userid.toInt < 0

/-- The part of a line of `nodeinfo` behind the address. -/
def userField (node : Nodedata UInt32) : Text :=
  if node.userid.toInt < 0 then "NotAndroid".toList ++ [newline]
  else "u0_a".toList ++ formatInt node.userid ++ [newline]

theorem nodeinfoLine_eq (node : Nodedata UInt32) :
    nodeinfoLine node = inetNtop node.ipaddress ++ ' ' :: userField node := by
  rw [nodeinfoLine, userField]
  split <;> rfl

theorem userField_eq_iff {first second : Nodedata UInt32} :
    userField first = userField second ↔
      first.userid = second.userid ∨ first.userid.toInt < 0 ∧ second.userid.toInt < 0 := by
  have notAndroid (digits : Text) :
      "NotAndroid".toList ++ [newline] ≠ "u0_a".toList ++ digits ++ [newline] := by
    intro equal
    have heads := congrArg List.head? equal
    simp at heads
  constructor
  · intro equal
    rw [userField, userField] at equal
    split at equal
    · next first_negative =>
        split at equal
        · next second_negative => exact Or.inr ⟨first_negative, second_negative⟩
        · exact absurd equal (notAndroid _)
    · split at equal
      · exact absurd equal.symm (notAndroid _)
      · left
        apply formatInt_injective
        simpa using equal
  · rintro (same | ⟨first_negative, second_negative⟩)
    · rw [userField, userField, same]
    · rw [userField, userField, if_pos first_negative, if_pos second_negative]

theorem addressField_inj {first second : Nodedata UInt32} {rest more : Text} :
    inetNtop first.ipaddress ++ ' ' :: rest = inetNtop second.ipaddress ++ ' ' :: more ↔
      first.ipaddress = second.ipaddress ∧ rest = more := by
  have noSpace (address : UInt32) : ' ' ∉ inetNtop address :=
    not_mem_inetNtop (by decide) (by decide) address
  rw [append_separator_inj (noSpace _) (noSpace _), inetNtop_injective.eq_iff]

theorem sameNode_iff {first second : Nodedata UInt32} :
    SameNode first second ↔
      nodeinfoLine first = nodeinfoLine second ∧ hostfileLine first = hostfileLine second := by
  rw [nodeinfoLine_eq, nodeinfoLine_eq, addressField_inj, userField_eq_iff, hostfileLine,
    hostfileLine, addressField_inj]
  constructor
  · rintro ⟨ipaddress, cpuCoreNum, userid⟩
    exact ⟨⟨ipaddress, userid⟩, ipaddress, by rw [cpuCoreNum]⟩
  · rintro ⟨⟨ipaddress, userid⟩, -, coreField⟩
    refine ⟨ipaddress, formatInt_injective ?_, userid⟩
    simpa using coreField

/-! ## A text determines its lines -/

theorem flatMap_eq_iff {line : Nodedata UInt32 → Text} (writes : WritesHost line)
    {first second : List (Nodedata UInt32)} :
    first.flatMap line = second.flatMap line ↔ first.map line = second.map line := by
  constructor
  · intro texts
    have broken := congrArg lines texts
    rw [lines_flatMap writes, lines_flatMap writes] at broken
    have ended (node : Nodedata UInt32) : line node = (line node).dropLast ++ [newline] := by
      rcases writes node with ⟨rest, -, line_eq⟩
      rw [line_eq, ← List.cons_append, ← List.append_assoc, List.dropLast_concat]
    have restored (nodes : List (Nodedata UInt32)) :
        nodes.map line = (nodes.map fun node => (line node).dropLast).map (· ++ [newline]) := by
      rw [List.map_map]
      apply List.map_congr_left
      intro node _
      exact ended node
    rw [restored, restored, broken]
  · intro same
    rw [List.flatMap_def, List.flatMap_def, same]

/-- The update can leave the text as the new content of its target. -/
def Writes (update : Io → List (Nodedata UInt32) → File → ℤ × File)
    (list : NodedataList UInt32) (text : Text) : Prop :=
  ∃ io file after, update io list.entries file = (0, after) ∧ after.target = some text

theorem writes_updateFile_iff {line : Nodedata UInt32 → Text} {list : NodedataList UInt32}
    {text : Text} : Writes (updateFile line) list text ↔ text = list.entries.flatMap line := by
  constructor
  · rintro ⟨io, file, after, updated, target_eq⟩
    rw [target_of_updateFile updated (by decide)] at target_eq
    exact (Option.some.inj target_eq).symm
  · rintro rfl
    exact ⟨allGranted, ⟨none, none⟩, _, updateFile_allGranted line list.entries _, rfl⟩

/-- Both updates write the same text for one list as for the other. -/
def SameFiles (first second : NodedataList UInt32) : Prop :=
  (∃ text, Writes updateNodeinfo first text ∧ Writes updateNodeinfo second text) ∧
    ∃ text, Writes updateHostfile first text ∧ Writes updateHostfile second text

theorem sameFiles_iff_lines {first second : NodedataList UInt32} :
    SameFiles first second ↔
      first.entries.map nodeinfoLine = second.entries.map nodeinfoLine ∧
        first.entries.map hostfileLine = second.entries.map hostfileLine := by
  simp only [SameFiles, updateNodeinfo, updateHostfile, writes_updateFile_iff, exists_eq_left,
    flatMap_eq_iff writesHost_nodeinfoLine, flatMap_eq_iff writesHost_hostfileLine]

/-- By induction on the lines, which the two lists take one entry each for. -/
theorem map_lines_eq_iff {first second : List (Nodedata UInt32)} :
    (first.map nodeinfoLine = second.map nodeinfoLine ∧
        first.map hostfileLine = second.map hostfileLine) ↔ List.Forall₂ SameNode first second := by
  induction first generalizing second with
  | nil => cases second <;> simp
  | cons node first ih =>
      cases second with
      | nil => simp
      | cons other second =>
          simp only [List.map_cons, List.cons.injEq, List.forall₂_cons, ← ih, sameNode_iff]
          constructor
          · rintro ⟨⟨nodeinfo, moreNodeinfo⟩, hostfile, moreHostfile⟩
            exact ⟨⟨nodeinfo, hostfile⟩, moreNodeinfo, moreHostfile⟩
          · rintro ⟨⟨nodeinfo, hostfile⟩, moreNodeinfo, moreHostfile⟩
            exact ⟨⟨nodeinfo, moreNodeinfo⟩, hostfile, moreHostfile⟩

/--
Two lists lead to the same files exactly when they agree, entry by entry. Their counts
then agree as well, except that a negative one is as good as zero.
-/
theorem sameFiles_iff (first second : NodedataList UInt32) :
    SameFiles first second ↔
      first.currentSize.toInt.toNat = second.currentSize.toInt.toNat ∧
        List.Forall₂ SameNode first.entries second.entries := by
  rw [sameFiles_iff_lines, map_lines_eq_iff, ← first.length_entries, ← second.length_entries]
  constructor
  · intro same
    exact ⟨same.length_eq, same⟩
  · rintro ⟨-, same⟩
    exact same

/-- A list without entries, whose count the caller chooses. -/
def noEntries (currentSize : Int32) (noneInUse : currentSize.toInt ≤ 0) : NodedataList UInt32 where
  maxSize := 0
  currentSize := currentSize
  networkId := 0
  nodedatas := []
  inBounds := noneInUse

/-- The count `-1`, which the readers let through, leads to the same empty files as `0`. -/
theorem not_forall_sameFiles : ¬∀ first second : NodedataList UInt32, SameFiles first second →
    first.currentSize = second.currentSize ∧
      List.Forall₂ SameNode first.entries second.entries := by
  intro determined
  have same : SameFiles (noEntries (-1) (by decide)) (noEntries 0 (by decide)) := by
    rw [sameFiles_iff_lines]
    exact ⟨rfl, rfl⟩
  exact absurd (determined _ _ same).1 (by decide)

end NodeinfoSystem.Files
