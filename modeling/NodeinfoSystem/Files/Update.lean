import NodeinfoSystem.Files.Text

/-!
# Replacing a file

`update_nodeinfo` and `update_hostfile` write the new text to a temporary file and
rename it over the target. Every library call they make may fail; the answers are
an argument. They differ in the names of the files and in the line they print.

The permission bits that `chmod` sets on a new file are not part of the model:
the call comes after the rename, and its failure is only reported. An `unlink` of
the temporary file always succeeds.
-/

namespace NodeinfoSystem.Files

/-- What the library answers during one call, entry by entry where it is called in the loop. -/
structure Io where
  fopen : Bool
  inetNtop : ℕ → Bool
  fprintf : ℕ → Bool
  fflush : Bool
  fsync : Bool
  fclose : Bool
  rename : Bool

/-- Every call of an update with so many entries succeeds, `fsync` apart. -/
structure Io.Completes (io : Io) (count : ℕ) : Prop where
  fopen : io.fopen = true
  entries : ∀ index < count, io.inetNtop index = true ∧ io.fprintf index = true
  fflush : io.fflush = true
  fclose : io.fclose = true
  rename : io.rename = true

/-- A target and its temporary file; a file that does not exist has no text. -/
structure File where
  target : Option Text
  tmp : Option Text

namespace File

/-- `fopen(tmp, "w")`. -/
def openTmp (file : File) : File :=
  { file with tmp := some [] }

def printTmp (line : Text) (file : File) : File :=
  { file with tmp := file.tmp.map (· ++ line) }

/-- `fsync`: its failure is reported, and the update goes on. -/
def syncTmp (_synced : Bool) (file : File) : File :=
  file

def unlinkTmp (file : File) : File :=
  { file with tmp := none }

def renameTmp (file : File) : File where
  target := file.tmp
  tmp := none

end File

/-- The loop over the entries; the flag tells whether every call in it succeeded. -/
def printEntries (line : Nodedata UInt32 → Text) (io : Io) :
    ℕ → List (Nodedata UInt32) → File → Bool × File
  | _, [], file => (true, file)
  | index, node :: nodes, file =>
      if io.inetNtop index ∧ io.fprintf index then
        printEntries line io (index + 1) nodes (file.printTmp (line node))
      else (false, file)

def updateFile (line : Nodedata UInt32 → Text) (io : Io) (nodes : List (Nodedata UInt32))
    (file : File) : ℤ × File :=
  if io.fopen then
    match printEntries line io 0 nodes file.openTmp with
    | (false, file) => (-1, file.unlinkTmp)
    | (true, file) =>
        if io.fflush ∧ io.fclose ∧ io.rename then (0, (file.syncTmp io.fsync).renameTmp)
        else (-1, file.unlinkTmp)
  else (-1, file)

/-- `update_nodeinfo` for a list that is not null. -/
def updateNodeinfo : Io → List (Nodedata UInt32) → File → ℤ × File :=
  updateFile nodeinfoLine

/-- `update_hostfile` for a list that is not null. -/
def updateHostfile : Io → List (Nodedata UInt32) → File → ℤ × File :=
  updateFile hostfileLine

section Effect

variable {line : Nodedata UInt32 → Text} {io : Io} {nodes : List (Nodedata UInt32)} {file : File}

theorem printEntries_effect (line : Nodedata UInt32 → Text) (io : Io) (index : ℕ)
    (nodes : List (Nodedata UInt32)) (written : Text) (file : File)
    (open_ : file.tmp = some written) :
    (printEntries line io index nodes file).2.target = file.target ∧
      ((printEntries line io index nodes file).1 = true →
        (printEntries line io index nodes file).2.tmp = some (written ++ nodes.flatMap line)) := by
  induction nodes generalizing index written file with
  | nil => simp [printEntries, open_]
  | cons node nodes ih =>
      rw [printEntries]
      split
      · have printed : (file.printTmp (line node)).tmp = some (written ++ line node) := by
          simp [File.printTmp, open_]
        rcases ih (index + 1) _ _ printed with ⟨target_eq, complete⟩
        refine ⟨target_eq, ?_⟩
        intro success
        rw [complete success, List.flatMap_cons, List.append_assoc]
      · simp

/-- The loop comes to its end exactly when every call in it succeeds. -/
theorem printEntries_finished_iff (line : Nodedata UInt32 → Text) (io : Io) (index : ℕ)
    (nodes : List (Nodedata UInt32)) (file : File) :
    (printEntries line io index nodes file).1 = true ↔
      ∀ offset < nodes.length,
        io.inetNtop (index + offset) = true ∧ io.fprintf (index + offset) = true := by
  induction nodes generalizing index file with
  | nil => simp [printEntries]
  | cons node nodes ih =>
      have later (offset : ℕ) : index + 1 + offset = index + (offset + 1) := by omega
      rw [printEntries, List.length_cons, Nat.forall_lt_succ_left]
      split
      · next granted => simp [ih, later, granted]
      · next refused => simp [refused]

/--
An update replaces the target by the whole text, or reports failure and leaves it alone.
Either way the temporary file is gone if it was opened.
-/
theorem updateFile_cases (line : Nodedata UInt32 → Text) (io : Io)
    (nodes : List (Nodedata UInt32)) (file : File) :
    updateFile line io nodes file = (0, ⟨some (nodes.flatMap line), none⟩) ∨
      (updateFile line io nodes file).1 = -1 ∧
        (updateFile line io nodes file).2.target = file.target ∧
        (io.fopen = true → (updateFile line io nodes file).2.tmp = none) := by
  unfold updateFile
  split
  · have effect := printEntries_effect line io 0 nodes [] file.openTmp rfl
    split
    · next unfinished printed =>
        right
        rw [printed] at effect
        exact ⟨rfl, effect.1, fun _ => rfl⟩
    · next finished printed =>
        rw [printed] at effect
        split
        · left
          rw [File.renameTmp, File.syncTmp, effect.2 rfl, List.nil_append]
        · right
          exact ⟨rfl, effect.1, fun _ => rfl⟩
  · next closed =>
      right
      exact ⟨rfl, rfl, fun opened => absurd opened closed⟩

/-- What decides is whether a call other than `fsync` fails. -/
theorem updateFile_succeeds_iff :
    (updateFile line io nodes file).1 = 0 ↔ io.Completes nodes.length := by
  have finished_iff := printEntries_finished_iff line io 0 nodes file.openTmp
  simp only [Nat.zero_add] at finished_iff
  rcases printed : printEntries line io 0 nodes file.openTmp with ⟨finished, after⟩
  rw [printed] at finished_iff
  simp only [updateFile, printed]
  constructor
  · intro success
    by_cases opened : io.fopen = true
    · rw [if_pos opened] at success
      cases finished with
      | false => contradiction
      | true =>
          by_cases ended : io.fflush = true ∧ io.fclose = true ∧ io.rename = true
          · exact ⟨opened, finished_iff.mp rfl, ended.1, ended.2.1, ended.2.2⟩
          · simp [ended] at success
    · rw [if_neg opened] at success
      contradiction
  · rintro ⟨opened, entries, flushed, closed, renamed⟩
    obtain rfl := finished_iff.mpr entries
    simp [opened, flushed, closed, renamed]

theorem target_of_updateFile {code : ℤ} {after : File}
    (updated : updateFile line io nodes file = (code, after)) (success : ¬code < 0) :
    after.target = some (nodes.flatMap line) := by
  rcases updateFile_cases line io nodes file with replaced | ⟨failed, -⟩
  · rw [replaced, Prod.mk.injEq] at updated
    rw [← updated.2]
  · rw [updated] at failed
    simp only at failed
    omega

theorem target_eq_of_updateFile {code : ℤ} {after : File}
    (updated : updateFile line io nodes file = (code, after)) (failure : code < 0) :
    after.target = file.target := by
  rcases updateFile_cases line io nodes file with replaced | ⟨-, kept, -⟩
  · rw [replaced, Prod.mk.injEq] at updated
    omega
  · rw [updated] at kept
    exact kept

end Effect

/-! ## All or nothing -/

/--
What an update may leave: the target with one line for each entry, in their order, or
everything as before; and no temporary file that it opened. It fails only where one of
its calls does, and not for `fsync`.
-/
def AllOrNothing (line : Nodedata UInt32 → Text) (io : Io) (nodes : List (Nodedata UInt32))
    (file : File) (outcome : ℤ × File) : Prop :=
  (outcome.1 = 0 ↔ io.Completes nodes.length) ∧
    ((outcome.1 = 0 ∧ outcome.2.tmp = none ∧ ∃ text, outcome.2.target = some text ∧
        text = nodes.flatMap line ∧ lines text = nodes.map fun node => (line node).dropLast) ∨
      outcome.1 = -1 ∧ outcome.2.target = file.target ∧
        (io.fopen = true → outcome.2.tmp = none))

theorem updateFile_allOrNothing {line : Nodedata UInt32 → Text} (writes : WritesHost line)
    (io : Io) (nodes : List (Nodedata UInt32)) (file : File) :
    AllOrNothing line io nodes file (updateFile line io nodes file) := by
  refine ⟨updateFile_succeeds_iff, ?_⟩
  rcases updateFile_cases line io nodes file with replaced | failed
  · rw [replaced]
    exact Or.inl ⟨rfl, rfl, nodes.flatMap line, rfl, rfl, lines_flatMap writes nodes⟩
  · exact Or.inr failed

/-- Whichever calls of the library fail, both updates are made as a whole or not at all. -/
theorem updates_allOrNothing (io : Io) (nodes : List (Nodedata UInt32)) (file : File) :
    AllOrNothing nodeinfoLine io nodes file (updateNodeinfo io nodes file) ∧
      AllOrNothing hostfileLine io nodes file (updateHostfile io nodes file) :=
  ⟨updateFile_allOrNothing writesHost_nodeinfoLine io nodes file,
    updateFile_allOrNothing writesHost_hostfileLine io nodes file⟩

/-- The answers of a library in which every call succeeds. -/
def allGranted : Io where
  fopen := true
  inetNtop _ := true
  fprintf _ := true
  fflush := true
  fsync := true
  fclose := true
  rename := true

theorem completes_allGranted (count : ℕ) : allGranted.Completes count :=
  ⟨rfl, fun _ _ => ⟨rfl, rfl⟩, rfl, rfl, rfl⟩

theorem updateFile_allGranted (line : Nodedata UInt32 → Text) (nodes : List (Nodedata UInt32))
    (file : File) :
    updateFile line allGranted nodes file = (0, ⟨some (nodes.flatMap line), none⟩) := by
  rcases updateFile_cases line allGranted nodes file with replaced | ⟨failed, -⟩
  · exact replaced
  · have success := (@updateFile_succeeds_iff line allGranted nodes file).mpr
      (completes_allGranted nodes.length)
    rw [failed] at success
    contradiction

/-- Two nodes, and the first one is an Android device. -/
def sampleNodes : List (Nodedata UInt32) := [⟨1, 7, 4⟩, ⟨2, -1, 8⟩]

/-- Both files are replaced. -/
theorem updates_allOrNothing_sampleNodes :
    updateNodeinfo allGranted sampleNodes ⟨none, none⟩ =
        (0, ⟨some "1.0.0.0 u0_a7\n2.0.0.0 NotAndroid\n".toList, none⟩) ∧
      updateHostfile allGranted sampleNodes ⟨none, none⟩ =
        (0, ⟨some "1.0.0.0 cpu=4\n2.0.0.0 cpu=8\n".toList, none⟩) ∧
      AllOrNothing nodeinfoLine allGranted sampleNodes ⟨none, none⟩
        (updateNodeinfo allGranted sampleNodes ⟨none, none⟩) ∧
      AllOrNothing hostfileLine allGranted sampleNodes ⟨none, none⟩
        (updateHostfile allGranted sampleNodes ⟨none, none⟩) :=
  ⟨rfl, rfl, updates_allOrNothing allGranted sampleNodes ⟨none, none⟩⟩

end NodeinfoSystem.Files
