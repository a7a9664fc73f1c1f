import NodeinfoSystem.Files.Update
import NodeinfoSystem.Foundation.CrashSafety

/-!
# Updates and crashes

Both files are written under a temporary name, synchronized and renamed, so that the
machine can stop at any moment: whatever is found under the target's name afterwards
is a whole text. The failure of `fsync` is only reported. Then the renaming can reach
the disk before the text does.
-/

namespace NodeinfoSystem.Files

open Foundation

/-- One call of an update, with what the library answers. -/
structure Update where
  io : Io
  nodes : List (Nodedata UInt32)

section Operations

variable (line : Nodedata UInt32 → Text)

/-- What the loop over the entries does to the temporary file. -/
def printOperations (io : Io) : ℕ → List (Nodedata UInt32) → Bool × List (Operation Char)
  | _, [] => (true, [])
  | index, node :: nodes =>
      if io.inetNtop index ∧ io.fprintf index then
        match printOperations io (index + 1) nodes with
        | (finished, operations) => (finished, .write (line node) :: operations)
      else (false, [])

/-- What `fsync` does; if it fails, the text may not have reached the disk. -/
def syncOperations (synced : Bool) : List (Operation Char) :=
  if synced then [.sync] else []

def updateOperations (update : Update) : List (Operation Char) :=
  if update.io.fopen then
    match printOperations line update.io 0 update.nodes with
    | (false, printed) => .create :: printed ++ [.unlink]
    | (true, printed) =>
        if update.io.fflush then
          if update.io.fclose ∧ update.io.rename then
            .create :: printed ++ syncOperations update.io.fsync ++ [.rename]
          else .create :: printed ++ syncOperations update.io.fsync ++ [.unlink]
        else .create :: printed ++ [.unlink]
  else []

/-- What processes see while there is no crash. -/
def view (volume : Volume Char) : File where
  target := volume.target.map Content.data
  tmp := volume.tmp.map Content.data

end Operations

section Effect

variable {line : Nodedata UInt32 → Text}

theorem view_perform_syncOperations (synced : Bool) (volume : Volume Char) :
    view (volume.perform (syncOperations synced)) = view volume := by
  cases synced with
  | false => rfl
  | true =>
      simp only [syncOperations, if_true, Volume.perform_cons, Volume.perform_nil, view,
        Volume.apply, Option.map_map]
      rfl

theorem view_unlink (volume : Volume Char) :
    view (volume.apply .unlink) = (view volume).unlinkTmp :=
  rfl

theorem view_rename (volume : Volume Char) :
    view (volume.apply .rename) = (view volume).renameTmp :=
  rfl

theorem view_write (volume : Volume Char) (text : Text) :
    view (volume.apply (.write text)) = (view volume).printTmp text := by
  simp only [view, Volume.apply, File.printTmp, Option.map_map]
  rfl

theorem view_printOperations (io : Io) (index : ℕ) (nodes : List (Nodedata UInt32))
    (volume : Volume Char) :
    ((printOperations line io index nodes).1,
      view (volume.perform (printOperations line io index nodes).2)) =
        printEntries line io index nodes (view volume) := by
  induction nodes generalizing index volume with
  | nil => rfl
  | cons node nodes ih =>
      rw [printOperations, printEntries]
      split
      · rw [Volume.perform_cons, ih, view_write]
      · rfl

/-- The operations of an update make of the files what the update makes of them. -/
theorem view_updateOperations (update : Update) (volume : Volume Char) :
    view (volume.perform (updateOperations line update)) =
      (updateFile line update.io update.nodes (view volume)).2 := by
  unfold updateOperations updateFile
  split
  · have printed := @view_printOperations line update.io 0 update.nodes (volume.apply .create)
    change _ = printEntries line update.io 0 update.nodes (view volume).openTmp at printed
    rw [← printed]
    rcases printOperations line update.io 0 update.nodes with ⟨_ | _, operations⟩
    · simp [view_unlink]
    · simp only [ite_and]
      split
      · split
        · split
          · simp [view_rename, view_perform_syncOperations, File.syncTmp]
          · simp [view_unlink, view_perform_syncOperations]
        · simp [view_unlink, view_perform_syncOperations]
      · simp [view_unlink]
  · rfl

theorem rename_notMem_printOperations (io : Io) (index : ℕ) (nodes : List (Nodedata UInt32)) :
    .rename ∉ (printOperations line io index nodes).2 := by
  induction nodes generalizing index with
  | nil => exact List.not_mem_nil
  | cons node nodes ih =>
      rw [printOperations]
      split
      · simp [ih]
      · exact List.not_mem_nil

theorem rename_notMem_syncOperations (synced : Bool) : .rename ∉ syncOperations synced := by
  cases synced <;> simp [syncOperations]

/-- A loop that comes to its end has written every line. -/
theorem tmp_printOperations {io : Io} {index : ℕ} {nodes : List (Nodedata UInt32)} {text : Text}
    {volume : Volume Char} (finished : (printOperations line io index nodes).1 = true)
    (opened : volume.tmp = some ⟨text, false⟩) :
    (volume.perform (printOperations line io index nodes).2).tmp =
      some ⟨text ++ nodes.flatMap line, false⟩ := by
  induction nodes generalizing index text volume with
  | nil => simpa [printOperations] using opened
  | cons node nodes ih =>
      rw [printOperations] at finished ⊢
      split at finished
      · next granted =>
          rw [if_pos granted, Volume.perform_cons]
          have printed : (volume.apply (.write (line node))).tmp =
              some ⟨text ++ line node, false⟩ := by
            simp [Volume.apply, opened]
          rw [ih finished printed, List.flatMap_cons, List.append_assoc]
      · contradiction

theorem tmp_syncOperations {text : Text} {volume : Volume Char} (synced : Bool)
    (printed : volume.tmp = some ⟨text, false⟩) :
    (volume.perform (syncOperations synced)).tmp = some ⟨text, synced⟩ := by
  cases synced with
  | false => exact printed
  | true => simp [syncOperations, Volume.apply, printed]

/-- An update that succeeds renames the whole text, and one that fails renames nothing. -/
theorem updateOperations_cases (line : Nodedata UInt32 → Text) (update : Update)
    (volume : Volume Char) :
    (updateFile line update.io update.nodes (view volume)).1 = -1 ∧
        .rename ∉ updateOperations line update ∨
      (updateFile line update.io update.nodes (view volume)).1 = 0 ∧
        ∃ operations, updateOperations line update = operations ++ [.rename] ∧
          .rename ∉ operations ∧ ∀ other : Volume Char, (other.perform operations).tmp =
            some ⟨update.nodes.flatMap line, update.io.fsync⟩ := by
  have noRename := @rename_notMem_printOperations line update.io 0 update.nodes
  have noRenameSync := rename_notMem_syncOperations update.io.fsync
  have printed := @view_printOperations line update.io 0 update.nodes (volume.apply .create)
  have complete := @tmp_printOperations line update.io 0 update.nodes []
  change _ = printEntries line update.io 0 update.nodes (view volume).openTmp at printed
  unfold updateOperations updateFile
  rw [← printed]
  generalize printOperations line update.io 0 update.nodes = outcome at noRename complete
  rcases outcome with ⟨_ | _, operations⟩
  · left
    split
    · exact ⟨rfl, by simpa using noRename⟩
    · exact ⟨rfl, List.not_mem_nil⟩
  · simp only [ite_and]
    split
    · split
      · split
        · split
          · right
            refine ⟨rfl, _, rfl, by simpa [not_or] using ⟨noRename, noRenameSync⟩, ?_⟩
            intro other
            rw [Volume.perform_append, Volume.perform_cons]
            exact tmp_syncOperations _ (complete rfl rfl)
          · left
            exact ⟨rfl, by simpa [not_or] using ⟨noRename, noRenameSync⟩⟩
        · left
          exact ⟨rfl, by simpa [not_or] using ⟨noRename, noRenameSync⟩⟩
      · left
        exact ⟨rfl, by simpa using noRename⟩
    · left
      exact ⟨rfl, List.not_mem_nil⟩

theorem replaces_updateOperations (line : Nodedata UInt32 → Text) (update : Update) :
    Replaces (update.nodes.flatMap line) update.io.fsync (updateOperations line update) := by
  rcases updateOperations_cases line update ⟨none, none, []⟩ with
    ⟨-, noRename⟩ | ⟨-, operations, operations_eq, noRename, written⟩
  · exact .keeps noRename
  · rw [operations_eq]
    exact .renames noRename written

/-- If `fsync` failed and the renaming did not, a crash can leave anything. -/
theorem found_of_unsynced {line : Nodedata UInt32 → Text} {update : Update} {volume : Volume Char}
    (unsynced : update.io.fsync = false)
    (success : (updateFile line update.io update.nodes (view volume)).1 = 0) (text : Text) :
    (volume.perform (updateOperations line update)).Found (some text) := by
  rcases updateOperations_cases line update volume with
    ⟨failed, -⟩ | ⟨-, operations, operations_eq, noRename, written⟩
  · rw [failed] at success
    contradiction
  · rw [operations_eq, Volume.perform_append, Volume.perform_cons, Volume.perform_nil,
      Volume.found_rename, written, unsynced]
    exact Or.inl rfl

end Effect

/--
In every history of updates, with crashes at any moments, a crash leaves under the
target's name what was there at the start or the whole text of one of the updates, if no
`fsync` fails. After an update that succeeds although its `fsync` failed, a crash can
leave any text.
-/
theorem target_survives_crashes (line : Nodedata UInt32 → Text) (start volume : Volume Char)
    (history : List Update) (reached : Reached (updateOperations line) start history volume) :
    ((∀ update ∈ history, update.io.fsync = true) → ∀ found, volume.Found found →
      start.Found found ∨ ∃ update ∈ history, found = some (update.nodes.flatMap line)) ∧
    ∀ update, update.io.fsync = false →
      (updateFile line update.io update.nodes (view volume)).1 = 0 →
        ∀ text, (volume.perform (updateOperations line update)).Found (some text) := by
  constructor
  · intro synced found survived
    apply reached.written _ found survived
    intro update update_mem
    rw [← synced update update_mem]
    exact replaces_updateOperations line update
  · intro update unsynced success text
    exact found_of_unsynced unsynced success text

def firstUpdate : Update where
  io := allGranted
  nodes := [⟨1, 7, 4⟩]

def secondUpdate : Update where
  io := allGranted
  nodes := [⟨1, 7, 4⟩, ⟨2, 8, 4⟩]

/-- The machine stops when the second update has written its first line. -/
theorem target_survives_crashes_secondUpdate : ∃ start volume : Volume Char,
    Reached (updateOperations hostfileLine) start [firstUpdate, secondUpdate] volume ∧
      view volume = ⟨some (hostfileText firstUpdate.nodes), none⟩ ∧
      ((∀ update ∈ [firstUpdate, secondUpdate], update.io.fsync = true) →
        ∀ found, volume.Found found → start.Found found ∨
          ∃ update ∈ [firstUpdate, secondUpdate],
            found = some (update.nodes.flatMap hostfileLine)) ∧
      ∀ update, update.io.fsync = false →
        (updateFile hostfileLine update.io update.nodes (view volume)).1 = 0 →
          ∀ text, (volume.perform (updateOperations hostfileLine update)).Found (some text) := by
  have first : Reached (updateOperations hostfileLine) ⟨none, none, []⟩ [firstUpdate]
      (Volume.perform ⟨none, none, []⟩ (updateOperations hostfileLine firstUpdate)) :=
    .update firstUpdate .start
  have stopped : Reached (updateOperations hostfileLine) ⟨none, none, []⟩
      ([firstUpdate] ++ [secondUpdate]) (.restart (some (hostfileText firstUpdate.nodes)) none) :=
    .crash secondUpdate first (List.take_prefix 2 _)
      (.restart none ⟨_, List.mem_cons_self, rfl⟩)
  exact ⟨_, _, stopped, rfl, target_survives_crashes hostfileLine _ _ _ stopped⟩

end NodeinfoSystem.Files
