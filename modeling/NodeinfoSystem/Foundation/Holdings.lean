import Mathlib.Data.Finset.Basic
import Mathlib.Data.Finset.Lattice.Lemmas
import Mathlib.Tactic.Common

/-!
# Programs that acquire and release resources

Resources of several kinds are handed out one by one, and none is handed out twice.
A program is a function of what is held; it is stuck when it uses or gives back
something that is not held.

`Meets` is a judgement about programs in the manner of separation logic. It names
the resources a program is given and those it still has at the end. Whatever else
is held stays as it is, so a specification holds wherever the program is called.
-/

namespace NodeinfoSystem.Foundation

universe u

structure Resource (Kind : Type u) where
  kind : Kind
  /-- How many resources had been handed out before this one. -/
  number : ℕ
  deriving DecidableEq

/-- What is held, and how many resources have been handed out so far. -/
structure Holdings (Kind : Type u) where
  issued : ℕ
  held : Finset (Resource Kind)
  older : ∀ resource ∈ held, resource.number < issued

/-- A program whose state is what is held; it has no result where it is stuck. -/
abbrev Using (Kind : Type u) : Type u → Type u :=
  StateT (Holdings Kind) Option

namespace Holdings

def none (Kind : Type u) : Holdings Kind where
  issued := 0
  held := ∅
  older := by simp

variable {Kind : Type u}

/-- The next resource of a kind. -/
def next (holdings : Holdings Kind) (kind : Kind) : Resource Kind :=
  ⟨kind, holdings.issued⟩

theorem next_notMem (holdings : Holdings Kind) (kind : Kind) :
    holdings.next kind ∉ holdings.held := by
  intro held
  exact Nat.lt_irrefl _ (holdings.older _ held)

variable [DecidableEq Kind]

def withNext (holdings : Holdings Kind) (kind : Kind) : Holdings Kind where
  issued := holdings.issued + 1
  held := insert (holdings.next kind) holdings.held
  older := by
    intro resource resource_mem
    rcases Finset.mem_insert.mp resource_mem with rfl | held
    · exact Nat.lt_succ_self _
    · exact Nat.lt_succ_of_lt (holdings.older resource held)

def without (holdings : Holdings Kind) (resource : Resource Kind) : Holdings Kind where
  issued := holdings.issued
  held := holdings.held.erase resource
  older other other_mem := holdings.older other (Finset.mem_of_mem_erase other_mem)

end Holdings

section Operations

variable {Kind : Type u} [DecidableEq Kind]

def acquire (kind : Kind) : Using Kind (Resource Kind) :=
  fun holdings => some (holdings.next kind, holdings.withNext kind)

def release (resource : Resource Kind) : Using Kind PUnit :=
  fun holdings =>
    if resource ∈ holdings.held then some (⟨⟩, holdings.without resource) else none

/-- Use a resource. -/
def access (resource : Resource Kind) : Using Kind PUnit :=
  fun holdings => if resource ∈ holdings.held then some (⟨⟩, holdings) else none

end Operations

/-- A program that has no result. -/
def stuck {Kind Value : Type u} : Using Kind Value :=
  fun _ => none

/-! ## The judgement -/

section Judgement

variable {Kind Value Other : Type u} [DecidableEq Kind]

/--
Given the resources `mine`, whatever the others are, the program has a result and leaves
the others alone; the condition is about its value and the resources it has left.
-/
def Meets (mine : Finset (Resource Kind)) (program : Using Kind Value)
    (post : Value → Finset (Resource Kind) → Prop) : Prop :=
  ∀ holdings others, holdings.held = mine ∪ others → Disjoint mine others →
    ∃ value later kept, program holdings = some (value, later) ∧ later.held = kept ∪ others ∧
      Disjoint kept others ∧ post value kept

/-- The program returns this value, and has these resources left. -/
def returns (value : Value) (kept : Finset (Resource Kind)) :
    Value → Finset (Resource Kind) → Prop :=
  fun result left => result = value ∧ left = kept

/-- The program returns this value with a new resource of a kind, or nothing. -/
def returnsNew (kind : Kind) (value : Option Value) (kept : Finset (Resource Kind)) :
    Option (Resource Kind × Value) → Finset (Resource Kind) → Prop
  | none, left => value = none ∧ left = kept
  | some (resource, contents), left =>
      value = some contents ∧ resource.kind = kind ∧ resource ∉ kept ∧ left = insert resource kept

variable {mine lent kept : Finset (Resource Kind)} {program first : Using Kind Value}
  {rest : Value → Using Kind Other} {post middle : Value → Finset (Resource Kind) → Prop}
  {after : Other → Finset (Resource Kind) → Prop} {value : Value}

theorem meets_pure (holds : post value mine) : Meets mine (pure value) post := by
  intro holdings others held_eq disjoint
  exact ⟨value, holdings, mine, rfl, held_eq, disjoint, holds⟩

theorem meets_return (value : Value) (mine : Finset (Resource Kind)) :
    Meets mine (pure value) (returns value mine) :=
  meets_pure ⟨rfl, rfl⟩

theorem meets_returnNone (kind : Kind) (mine : Finset (Resource Kind)) :
    Meets mine (pure none) (returnsNew kind (none : Option Value) mine) :=
  meets_pure ⟨rfl, rfl⟩

theorem Meets.imp (meets : Meets mine program middle)
    (weaker : ∀ value left, middle value left → post value left) : Meets mine program post := by
  intro holdings others held_eq disjoint
  rcases meets holdings others held_eq disjoint with
    ⟨value, later, left, ran, later_eq, apart, holds⟩
  exact ⟨value, later, left, ran, later_eq, apart, weaker value left holds⟩

theorem Meets.bind (meets : Meets mine first middle)
    (goesOn : ∀ value left, middle value left → Meets left (rest value) after) :
    Meets mine (first >>= rest) after := by
  intro holdings others held_eq disjoint
  rcases meets holdings others held_eq disjoint with
    ⟨value, later, left, ran, later_eq, apart, holds⟩
  rcases goesOn value left holds later others later_eq apart with
    ⟨result, last, remaining, ranOn, last_eq, lastApart, result_holds⟩
  refine ⟨result, last, remaining, ?_, last_eq, lastApart, result_holds⟩
  exact (congrArg (Option.bind · _) ran).trans ranOn

/-- A program that is given nothing, where nothing is held. -/
theorem Meets.run (meets : Meets ∅ program post) :
    ∃ value later, program (Holdings.none Kind) = some (value, later) ∧ post value later.held := by
  rcases meets (Holdings.none Kind) ∅ rfl (Finset.disjoint_empty_left ∅) with
    ⟨value, later, kept, ran, later_eq, -, holds⟩
  rw [Finset.union_empty] at later_eq
  rw [← later_eq] at holds
  exact ⟨value, later, ran, holds⟩

/-- What a program is not given, it leaves alone. -/
theorem Meets.frame {unused : Finset (Resource Kind)} (meets : Meets mine program middle)
    (disjoint : Disjoint mine unused) :
    Meets (mine ∪ unused) program fun value left =>
      ∃ own, left = own ∪ unused ∧ Disjoint own unused ∧ middle value own := by
  intro holdings others held_eq apart
  rw [Finset.disjoint_union_left] at apart
  have away : Disjoint mine (unused ∪ others) :=
    Finset.disjoint_union_right.mpr ⟨disjoint, apart.1⟩
  rw [Finset.union_assoc] at held_eq
  rcases meets holdings (unused ∪ others) held_eq away with
    ⟨value, later, own, ran, later_eq, own_apart, holds⟩
  rw [Finset.disjoint_union_right] at own_apart
  refine ⟨value, later, own ∪ unused, ran, ?_, ?_, own, rfl, own_apart.1, holds⟩
  · rw [later_eq, Finset.union_assoc]
  · exact Finset.disjoint_union_left.mpr ⟨own_apart.2, apart.2⟩

/-- A program that keeps all it is given also keeps what else there is. -/
theorem Meets.widen (meets : Meets lent first (returns value lent)) (given : lent ⊆ mine) :
    Meets mine first (returns value mine) := by
  have framed := meets.frame (@Finset.disjoint_sdiff _ _ lent mine)
  rw [Finset.union_sdiff_of_subset given] at framed
  apply framed.imp
  rintro _ _ ⟨_, rfl, -, rfl, rfl⟩
  exact ⟨rfl, Finset.union_sdiff_of_subset given⟩

/-- A call of a program that has all it was given left when it returns. -/
theorem Meets.borrow (meets : Meets lent first (returns value lent)) (given : lent ⊆ mine)
    (goesOn : Meets mine (rest value) after) : Meets mine (first >>= rest) after := by
  apply (meets.widen given).bind
  rintro _ _ ⟨rfl, rfl⟩
  exact goesOn

/-- A call of a program that neither is given anything nor has anything left. -/
theorem Meets.call (meets : Meets ∅ first (returns value ∅))
    (goesOn : Meets mine (rest value) after) : Meets mine (first >>= rest) after :=
  meets.borrow (Finset.empty_subset mine) goesOn

theorem Meets.ite {condition : Prop} [Decidable condition] {other : Using Kind Value}
    {otherValue : Value} (holds : Meets mine program (returns value kept))
    (fails : Meets mine other (returns otherValue kept)) :
    Meets mine (if condition then program else other)
      (returns (if condition then value else otherValue) kept) := by
  split
  · exact holds
  · exact fails

end Judgement

/-! ## The operations -/

section Rules

variable {Kind Value : Type u} [DecidableEq Kind] {mine : Finset (Resource Kind)}
  {post : Value → Finset (Resource Kind) → Prop} {resource : Resource Kind}

theorem meets_acquire {kind : Kind} {rest : Resource Kind → Using Kind Value}
    (goesOn : ∀ resource, resource.kind = kind → resource ∉ mine →
      Meets (insert resource mine) (rest resource) post) :
    Meets mine (acquire kind >>= rest) post := by
  intro holdings others held_eq disjoint
  have fresh := holdings.next_notMem kind
  rw [held_eq, Finset.mem_union, not_or] at fresh
  apply goesOn (holdings.next kind) rfl fresh.1 (holdings.withNext kind) others
  · rw [Finset.insert_union, ← held_eq]
    rfl
  · exact Finset.disjoint_insert_left.mpr ⟨fresh.2, disjoint⟩

theorem meets_released (fresh : resource ∉ mine) :
    Meets (insert resource mine) (release resource) (returns ⟨⟩ mine) := by
  intro holdings others held_eq disjoint
  rw [Finset.disjoint_insert_left] at disjoint
  have held : resource ∈ holdings.held := by
    rw [held_eq]
    exact Finset.mem_union_left others (Finset.mem_insert_self resource mine)
  refine ⟨⟨⟩, holdings.without resource, mine, if_pos held, ?_, disjoint.2, rfl, rfl⟩
  change holdings.held.erase resource = mine ∪ others
  rw [held_eq, Finset.erase_union_distrib, Finset.erase_insert fresh,
    Finset.erase_eq_of_notMem disjoint.1]

/-- Resources are mostly given back in the opposite order. -/
theorem meets_release_insert {rest : PUnit → Using Kind Value} (fresh : resource ∉ mine)
    (goesOn : Meets mine (rest ⟨⟩) post) :
    Meets (insert resource mine) (release resource >>= rest) post := by
  apply (meets_released fresh).bind
  rintro _ _ ⟨rfl, rfl⟩
  exact goesOn

theorem meets_release {rest : PUnit → Using Kind Value} (owned : resource ∈ mine)
    (goesOn : Meets (mine.erase resource) (rest ⟨⟩) post) :
    Meets mine (release resource >>= rest) post := by
  rw [← Finset.insert_erase owned]
  exact meets_release_insert (Finset.notMem_erase resource mine) goesOn

/-- The last steps of most programs: give back what was acquired, and return. -/
theorem meets_close (fresh : resource ∉ mine) (value : Value) :
    Meets (insert resource mine) (release resource >>= fun _ => pure value)
      (returns value mine) := by
  apply meets_release_insert fresh
  exact meets_return value mine

/-- A resource that is given back before a newer one. -/
theorem meets_release_older {newer : Resource Kind} {rest : PUnit → Using Kind Value}
    (fresh : resource ∉ mine) (newerFresh : newer ∉ insert resource mine)
    (goesOn : Meets (insert newer mine) (rest ⟨⟩) post) :
    Meets (insert newer (insert resource mine)) (release resource >>= rest) post := by
  rw [Finset.mem_insert, not_or] at newerFresh
  have stillFresh : resource ∉ insert newer mine := by
    rw [Finset.mem_insert, not_or]
    exact ⟨Ne.symm newerFresh.1, fresh⟩
  rw [Finset.insert_comm]
  exact meets_release_insert stillFresh goesOn

theorem meets_accessed (owned : resource ∈ mine) :
    Meets mine (access resource) (returns ⟨⟩ mine) := by
  intro holdings others held_eq disjoint
  have held : resource ∈ holdings.held := by
    rw [held_eq]
    exact Finset.mem_union_left others owned
  exact ⟨⟨⟩, holdings, mine, if_pos held, held_eq, disjoint, rfl, rfl⟩

theorem meets_access {rest : PUnit → Using Kind Value} (owned : resource ∈ mine)
    (goesOn : Meets mine (rest ⟨⟩) post) : Meets mine (access resource >>= rest) post :=
  (meets_accessed owned).borrow (Finset.Subset.refl mine) goesOn

end Rules

/-! ## Getting stuck -/

section Sticks

variable {Kind Value Other : Type u} [DecidableEq Kind] {mine : Finset (Resource Kind)}
  {first : Using Kind Value} {rest : Value → Using Kind Other}

/-- Where exactly `mine` is held, the program has no result. -/
def Sticks (mine : Finset (Resource Kind)) (program : Using Kind Value) : Prop :=
  ∀ holdings : Holdings Kind, holdings.held = mine → program holdings = none

omit [DecidableEq Kind] in
theorem Sticks.bind (sticks : Sticks mine first) : Sticks mine (first >>= rest) := by
  intro holdings held_eq
  exact congrArg (Option.bind · _) (sticks holdings held_eq)

theorem Meets.sticks {middle : Value → Finset (Resource Kind) → Prop}
    (meets : Meets mine first middle)
    (goesOn : ∀ value left, middle value left → Sticks left (rest value)) :
    Sticks mine (first >>= rest) := by
  intro holdings held_eq
  have given : holdings.held = mine ∪ ∅ := held_eq.trans (Finset.union_empty mine).symm
  rcases meets holdings ∅ given (Finset.disjoint_empty_right mine) with
    ⟨value, later, left, ran, later_eq, -, holds⟩
  rw [Finset.union_empty] at later_eq
  exact (congrArg (Option.bind · _) ran).trans (goesOn value left holds later later_eq)

/-- A call that returns, before a program that is stuck. -/
theorem Meets.call_sticks {value : Value} (meets : Meets ∅ first (returns value ∅))
    (sticks : Sticks mine (rest value)) : Sticks mine (first >>= rest) := by
  apply (meets.widen (Finset.empty_subset mine)).sticks
  rintro _ _ ⟨rfl, rfl⟩
  exact sticks

theorem sticks_access {resource : Resource Kind} {rest : PUnit → Using Kind Value}
    (gone : resource ∉ mine) : Sticks mine (access resource >>= rest) := by
  apply Sticks.bind
  rintro holdings rfl
  exact if_neg gone

end Sticks

end NodeinfoSystem.Foundation
