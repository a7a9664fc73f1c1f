import Mathlib.Data.List.Basic
import Mathlib.Logic.Basic

/-!
# Replacing a file in spite of crashes

A file is written under a temporary name and renamed over its target. What has been
written reaches the disk late: until it is synchronized, a crash can leave anything in
its place. A renaming reaches the disk late as well, but at once, so after a crash the
target is one of the files that it has ever been since the last start.
-/

namespace NodeinfoSystem.Foundation

universe u

variable {Byte : Type u}

/-- A file, and whether all of it has reached the disk. -/
structure Content (Byte : Type u) where
  data : List Byte
  synced : Bool

/-- What a crash can leave of a file. -/
def Survives : Option (Content Byte) → Option (List Byte) → Prop
  | none, found => found = none
  | some content, found => if content.synced then found = some content.data else found.isSome

/-- The two names of one directory, and the files that the target was before. -/
structure Volume (Byte : Type u) where
  target : Option (Content Byte)
  tmp : Option (Content Byte)
  earlier : List (Option (Content Byte))

/-- The operations of a process that replaces the target. -/
inductive Operation (Byte : Type u) where
  | create
  | write (data : List Byte)
  | sync
  | unlink
  | rename

namespace Volume

/-- After a crash the target can be read as this, or it does not exist. -/
def Found (volume : Volume Byte) (found : Option (List Byte)) : Prop :=
  ∃ content ∈ volume.target :: volume.earlier, Survives content found

/-- What was found is on the disk, under either name. -/
def restart (target tmp : Option (List Byte)) : Volume Byte where
  target := target.map fun data => ⟨data, true⟩
  tmp := tmp.map fun data => ⟨data, true⟩
  earlier := []

/-- A crash, and the start that follows it. -/
inductive Crash (volume : Volume Byte) : Volume Byte → Prop
  | restart {found : Option (List Byte)} (tmp : Option (List Byte))
      (survived : volume.Found found) : Crash volume (.restart found tmp)

def apply (volume : Volume Byte) : Operation Byte → Volume Byte
  | .create => { volume with tmp := some ⟨[], false⟩ }
  | .write data =>
      { volume with tmp := volume.tmp.map fun content => ⟨content.data ++ data, false⟩ }
  | .sync => { volume with tmp := volume.tmp.map fun content => { content with synced := true } }
  | .unlink => { volume with tmp := none }
  | .rename => ⟨volume.tmp, none, volume.target :: volume.earlier⟩

def perform (volume : Volume Byte) (operations : List (Operation Byte)) : Volume Byte :=
  operations.foldl apply volume

section Operations

variable {volume : Volume Byte} {found : Option (List Byte)}

@[simp]
theorem perform_nil (volume : Volume Byte) : volume.perform [] = volume := rfl

@[simp]
theorem perform_cons (volume : Volume Byte) (operation : Operation Byte)
    (operations : List (Operation Byte)) :
    volume.perform (operation :: operations) = (volume.apply operation).perform operations := rfl

@[simp]
theorem perform_append (volume : Volume Byte) (first second : List (Operation Byte)) :
    volume.perform (first ++ second) = (volume.perform first).perform second :=
  List.foldl_append

theorem found_restart (target tmp : Option (List Byte)) :
    (restart target tmp).Found found ↔ found = target := by
  cases target <;> simp [Found, restart, Survives]

theorem found_rename : (volume.apply .rename).Found found ↔
    Survives volume.tmp found ∨ volume.Found found := by
  simp [Found, apply]

/-- Only a renaming changes what can be found. -/
theorem found_perform {operations : List (Operation Byte)}
    (noRename : .rename ∉ operations) :
    (volume.perform operations).Found found ↔ volume.Found found := by
  induction operations generalizing volume with
  | nil => rfl
  | cons operation operations ih =>
      rw [List.mem_cons, not_or] at noRename
      rw [perform_cons, ih noRename.2]
      cases operation with
      | rename => exact absurd rfl noRename.1
      | create | write | sync | unlink => rfl

end Operations

end Volume

/-! ## Replacements -/

/-- The target is replaced by the data, in one renaming that comes last, or not at all. -/
inductive Replaces (data : List Byte) (synced : Bool) : List (Operation Byte) → Prop
  | keeps {operations : List (Operation Byte)} (noRename : .rename ∉ operations) :
      Replaces data synced operations
  | renames {operations : List (Operation Byte)} (noRename : .rename ∉ operations)
      (written : ∀ volume : Volume Byte, (volume.perform operations).tmp = some ⟨data, synced⟩) :
      Replaces data synced (operations ++ [.rename])

theorem Replaces.found_of_prefix {data : List Byte} {synced : Bool}
    {operations done : List (Operation Byte)} (replaces : Replaces data synced operations)
    (begun : done <+: operations) {volume : Volume Byte} {found : Option (List Byte)}
    (survived : (volume.perform done).Found found) :
    volume.Found found ∨ Survives (some ⟨data, synced⟩) found := by
  cases replaces with
  | keeps noRename =>
      left
      exact (Volume.found_perform fun renamed => noRename (begun.subset renamed)).mp survived
  | @renames operations noRename written =>
      rcases List.prefix_concat_iff.mp begun with rfl | begun
      · rw [Volume.perform_append, Volume.perform_cons, Volume.perform_nil, Volume.found_rename,
          written, Volume.found_perform noRename] at survived
        exact survived.symm
      · left
        exact (Volume.found_perform fun renamed => noRename (begun.subset renamed)).mp survived

section Histories

variable {Update : Type*} (operations : Update → List (Operation Byte)) (start : Volume Byte)

/-- The volumes after a history of updates, of which any may have ended in a crash. -/
inductive Reached : List Update → Volume Byte → Prop
  | start : Reached [] start
  | update {history : List Update} {volume : Volume Byte} (update : Update)
      (reached : Reached history volume) :
      Reached (history ++ [update]) (volume.perform (operations update))
  | crash {history : List Update} {volume after : Volume Byte} (update : Update)
      {done : List (Operation Byte)} (reached : Reached history volume)
      (begun : done <+: operations update) (crashed : (volume.perform done).Crash after) :
      Reached (history ++ [update]) after

variable {operations start}

/-- What is found was there at the start, or it is what one of the updates wrote. -/
def Written (start : Volume Byte) (data : Update → List Byte) (history : List Update)
    (found : Option (List Byte)) : Prop :=
  start.Found found ∨ ∃ update ∈ history, found = some (data update)

theorem Written.append {data : Update → List Byte} {history : List Update} {update : Update}
    {volume : Volume Byte} {done : List (Operation Byte)} {found : Option (List Byte)}
    (replaces : Replaces (data update) true (operations update))
    (begun : done <+: operations update)
    (survived : (volume.perform done).Found found)
    (before : ∀ found, volume.Found found → Written start data history found) :
    Written start data (history ++ [update]) found := by
  rcases replaces.found_of_prefix begun survived with old | new
  · rcases before found old with atStart | ⟨earlier, earlier_mem, found_eq⟩
    · exact Or.inl atStart
    · exact Or.inr ⟨earlier, List.mem_append_left _ earlier_mem, found_eq⟩
  · exact Or.inr ⟨update, by simp, by simpa [Survives] using new⟩

/-- Whenever a crash comes, the target is what it was at the start or what an update wrote. -/
theorem Reached.written {data : Update → List Byte} {history : List Update} {volume : Volume Byte}
    (reached : Reached operations start history volume)
    (replaces : ∀ update ∈ history, Replaces (data update) true (operations update)) :
    ∀ found, volume.Found found → Written start data history found := by
  induction reached with
  | start => exact fun found survived => Or.inl survived
  | @update history volume update reached ih =>
      have before := ih fun earlier earlier_mem =>
        replaces earlier (List.mem_append_left _ earlier_mem)
      intro found survived
      exact .append (replaces update (by simp)) (List.prefix_refl _) survived before
  | @crash history volume after update done reached begun crashed ih =>
      have before := ih fun earlier earlier_mem =>
        replaces earlier (List.mem_append_left _ earlier_mem)
      cases crashed with
      | restart tmp left =>
          intro found survived
          obtain rfl := (Volume.found_restart _ tmp).mp survived
          exact .append (replaces update (by simp)) begun left before

end Histories

end NodeinfoSystem.Foundation
