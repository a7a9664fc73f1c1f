import NodeinfoSystem.Database.Basic
import NodeinfoSystem.Resources.Common
import Mathlib.Data.Finset.Option

/-!
# What the database manager opens and allocates

Every probe for a port opens up to two sockets and closes them. The database has one
block, `g_db`, which is freed when a larger one takes its place; a successful update
hands a second block, the copy, to its caller.

A program is stuck where the first model has undefined behaviour.
-/

namespace NodeinfoSystem.Resources

open Foundation
open Database (Os State allocate growCapacity)

/-! ## The ports -/

/-- What one call of `is_port_available_os` meets. -/
structure PortAnswers where
  tcpSocket : Bool
  tcpBind : Bool
  udpSocket : Bool
  udpBind : Bool

/-- The answer it gives. -/
def PortAnswers.available (answers : PortAnswers) : Bool :=
  answers.tcpSocket && answers.tcpBind && answers.udpSocket && answers.udpBind

def isPortAvailableOs (answers : PortAnswers) : Program Bool :=
  if answers.tcpSocket then do
    let sock ← acquire .descriptor
    access sock
    if answers.tcpBind then
      release sock
      if answers.udpSocket then
        let sock ← acquire .descriptor
        access sock
        if answers.udpBind then
          release sock
          return true
        else
          release sock
          return false
      else return false
    else
      release sock
      return false
  else return false

/-- The answers behind those that the first model is given. -/
structure Probes (os : Os) where
  answers : ℕ → ℤ → PortAnswers
  available_eq : ∀ probe port, (answers probe port).available = os.isPortAvailable probe port

/-- A read through a pointer that is tested first. -/
def use : Option Item → Program PUnit
  | none => return ⟨⟩
  | some item => access item

section Search

variable {os : Os} (probes : Probes os) (gDb : Option Item) (state : State)

def isPortInDb (port : ℤ) : Program Bool := do
  use gDb
  return Database.isPortInDb state port

def scanPorts : ℕ → ℤ → ℕ → Program (Option ℤ × ℕ)
  | 0, _, probe => return (none, probe)
  | count + 1, port, probe => do
      if ← isPortInDb gDb state port then scanPorts count (port + 1) probe
      else if ← isPortAvailableOs (probes.answers probe port) then return (some port, probe + 1)
      else scanPorts count (port + 1) (probe + 1)

def findNextFreePort : Program (ℤ × State) := do
  let start := Database.searchStart state
  match ← scanPorts probes gDb state (Database.portLast + 1 - start).toNat start state.probes with
  | (some port, probe) => return (port, { state with nextPort := port + 1, probes := probe })
  | (none, probe) =>
      match ← scanPorts probes gDb state
        (min start (Database.portLast + 1) - Database.portBase).toNat Database.portBase probe with
      | (some port, probe) => return (port, { state with nextPort := port + 1, probes := probe })
      | (none, probe) =>
          return (-1, { state with
            nextPort := start
            probes := probe
            failedSearches := state.failedSearches + 1 })

theorem meets_isPortAvailableOs (answers : PortAnswers) :
    Meets ∅ (isPortAvailableOs answers) (returns answers.available ∅) := by
  have nested : answers.available = if answers.tcpSocket then
      if answers.tcpBind then
        if answers.udpSocket then if answers.udpBind then true else false else false
      else false
    else false := by
    rcases answers with ⟨_ | _, _ | _, _ | _, _ | _⟩ <;> rfl
  rw [nested, isPortAvailableOs]
  apply Meets.ite
  · apply meets_acquire
    intro tcpSock _ tcpFresh
    apply meets_access (Finset.mem_insert_self tcpSock ∅)
    apply Meets.ite
    · apply meets_release_insert tcpFresh
      apply Meets.ite
      · apply meets_acquire
        intro udpSock _ udpFresh
        apply meets_access (Finset.mem_insert_self udpSock ∅)
        apply Meets.ite
        · exact meets_close udpFresh _
        · exact meets_close udpFresh _
      · exact meets_return _ ∅
    · exact meets_close tcpFresh _
  · exact meets_return _ ∅

theorem meets_use : Meets gDb.toFinset (use gDb) (returns ⟨⟩ gDb.toFinset) := by
  cases gDb with
  | none => exact meets_return _ _
  | some item => exact meets_accessed (by simp)

theorem meets_scanPorts (count : ℕ) (port : ℤ) (probe : ℕ) :
    Meets gDb.toFinset (scanPorts probes gDb state count port probe)
      (returns (Database.scanPorts os state count port probe) gDb.toFinset) := by
  induction count generalizing port probe with
  | zero => exact meets_return _ _
  | succ count ih =>
      have inDb : Meets gDb.toFinset (isPortInDb gDb state port)
          (returns (Database.isPortInDb state port) gDb.toFinset) := by
        apply (meets_use gDb).borrow (Finset.Subset.refl _)
        exact meets_return _ _
      unfold scanPorts Database.scanPorts
      apply inDb.borrow (Finset.Subset.refl _)
      apply Meets.ite
      · exact ih (port + 1) probe
      · apply (meets_isPortAvailableOs (probes.answers probe port)).call
        rw [probes.available_eq]
        apply Meets.ite
        · exact meets_return _ _
        · exact ih (port + 1) (probe + 1)

theorem meets_findNextFreePort :
    Meets gDb.toFinset (findNextFreePort probes gDb state)
      (returns (Database.findNextFreePort os state) gDb.toFinset) := by
  unfold findNextFreePort Database.findNextFreePort
  apply (meets_scanPorts probes gDb state _ _ _).borrow (Finset.Subset.refl _)
  dsimp only
  rcases Database.scanPorts os state _ _ state.probes with ⟨_ | port, probe⟩
  · apply (meets_scanPorts probes gDb state _ _ _).borrow (Finset.Subset.refl _)
    dsimp only
    rcases Database.scanPorts os state _ _ probe with ⟨_ | port, probe⟩
    · exact meets_return _ _
    · exact meets_return _ _
  · exact meets_return _ _

end Search

/-! ## The database -/

/-- The static variables of `db_manager.c`, with the block that `g_db` names. -/
structure ManagerOwner where
  state : State
  gDb : Option Item

namespace ManagerOwner

def owned (owner : ManagerOwner) : Finset Item :=
  owner.gDb.toFinset

structure Sound (owner : ManagerOwner) : Prop where
  isSome_eq : owner.gDb.isSome = owner.state.gDb.isSome
  isBlock : ∀ item ∈ owner.owned, item.kind = .block

end ManagerOwner

/-- The copy from the old block, and its end. -/
def retire : Option Item → Program PUnit
  | none => return ⟨⟩
  | some item => do
      access item
      release item

section Functions

variable (os : Os)

def ensureDbCapacity (need : ℤ) (owner : ManagerOwner) : Program (ℤ × ManagerOwner) :=
  if owner.state.gDb.isSome ∧ need ≤ owner.state.gDbCapacity then return (0, owner)
  else
    match growCapacity need 32
      (if 0 < owner.state.gDbCapacity then owner.state.gDbCapacity else 16) with
    | none => stuck
    | some newCap =>
        match allocate os owner.state with
        | (false, state) => return (-1, { owner with state := state })
        | (true, state) =>
            if fits : state.entries.length ≤ newCap.toNat then do
              let newdb ← acquire .block
              access newdb
              retire owner.gDb
              return (0, {
                state := { state with
                  gDb := some ⟨newCap.toNat, state.entries, fits⟩
                  gDbCapacity := newCap }
                gDb := some newdb })
            else stuck

def growIfFull (owner : ManagerOwner) : Program (ℤ × ManagerOwner) :=
  match owner.state.gDb with
  | none => stuck
  | some block => do
      use owner.gDb
      if block.maxSize ≤ block.elements.length then
        match checkedInt (block.elements.length + 1) with
        | none => stuck
        | some need => ensureDbCapacity os need owner
      else return (0, owner)

/-- How one iteration of the add loop ends. -/
inductive OwnedIteration where
  | next (owner : ManagerOwner)
  | leave (owner : ManagerOwner)

end Functions

namespace OwnedIteration

def owner : OwnedIteration → ManagerOwner
  | .next owner => owner
  | .leave owner => owner

/-- The iteration of the first model. -/
def iteration : OwnedIteration → Database.Iteration
  | .next owner => .next owner.state
  | .leave owner => .leave owner.state

end OwnedIteration

/-- The end of the body of the add loop, for an element with both its ports. -/
def storeElement (os : Os) (element : NodeinfoDatabaseElement) (owner : ManagerOwner) :
    Program OwnedIteration := do
  let (grown, owner) ← growIfFull os owner
  if grown < 0 then return .leave owner
  else
    use owner.gDb
    match Database.appendElement element owner.state with
    | none => stuck
    | some state => return .next { owner with state := state }

section Functions

variable {os : Os} (probes : Probes os)

/-- The body of the add loop. -/
def addNode (networkId : Int32) (node : Nodedata Int32) (owner : ManagerOwner) :
    Program OwnedIteration := do
  use owner.gDb
  if Database.existsInDb owner.state networkId (Database.storedAddress node) then
    return .next owner
  else
    let (ctrlPort, state) ← findNextFreePort probes owner.gDb owner.state
    let owner := { owner with state := state }
    if ctrlPort < 0 then return .next owner
    else
      let (msgPort, state) ← findNextFreePort probes owner.gDb owner.state
      let owner := { owner with state := state }
      if msgPort < 0 then return .next owner
      else
        storeElement os (Database.newElement networkId node ctrlPort msgPort) owner

def addNodes (networkId : Int32) : List (Nodedata Int32) → ManagerOwner → Program ManagerOwner
  | [], owner => return owner
  | node :: nodes, owner => do
      match ← addNode probes networkId node owner with
      | .next owner => addNodes networkId nodes owner
      | .leave owner => return owner

/-- `update_nodeinfo_database`, with the block of the copy it returns. -/
def updateNodeinfoDatabase (list : NodedataList Int32) (owner : ManagerOwner) :
    Program (Option (Item × NodeinfoDatabase) × ManagerOwner) := do
  use owner.gDb
  let owner := { owner with state := Database.removeObsolete list owner.state }
  match checkedInt (owner.state.entries.length + list.currentSize.toInt) with
  | none => stuck
  | some needCapacity =>
      let (ensured, owner) ←
        ensureDbCapacity os (if needCapacity < 16 then 16 else needCapacity) owner
      if ensured < 0 then return (none, owner)
      else
        let owner ← addNodes probes list.networkId list.entries owner
        match owner.state.gDb, allocate os owner.state with
        | none, _ => stuck
        | some _, (false, state) => return (none, { owner with state := state })
        | some block, (true, state) =>
            let out ← acquire .block
            access out
            use owner.gDb
            return (some (out, block.snapshot), { owner with state := state })

end Functions

/-- What is left belongs to this owner. -/
def Settled (owner : ManagerOwner) (left : Finset Item) : Prop :=
  owner.Sound ∧ left = owner.owned

section Manages

variable {os : Os} {owner : ManagerOwner}

theorem meets_retire {kept : Finset Item} {gDb : Option Item}
    (disjoint : Disjoint kept gDb.toFinset) :
    Meets (kept ∪ gDb.toFinset) (retire gDb) (returns ⟨⟩ kept) := by
  cases gDb with
  | none =>
      rw [Option.toFinset_none, Finset.union_empty]
      exact meets_return _ kept
  | some item =>
      rw [Option.toFinset_some, Finset.disjoint_singleton_right] at disjoint
      rw [Option.toFinset_some, Finset.union_comm]
      apply meets_access (Finset.mem_insert_self item kept)
      exact meets_released disjoint

theorem ManagerOwner.Sound.of_isSome_eq (sound : owner.Sound) {state : State}
    (isSome_eq : state.gDb.isSome = owner.state.gDb.isSome) :
    ({ owner with state := state } : ManagerOwner).Sound :=
  ⟨sound.isSome_eq.trans isSome_eq.symm, sound.isBlock⟩

/-- A growth that succeeds frees the old block and owns the new one. -/
theorem meets_ensureDbCapacity (sound : owner.Sound) {need code : ℤ} {next : State}
    (returned : Database.ensureDbCapacity os need owner.state = some (code, next)) :
    Meets owner.owned (ensureDbCapacity os need owner) fun result left =>
      result.1 = code ∧ result.2.state = next ∧ Settled result.2 left := by
  unfold Database.ensureDbCapacity at returned
  unfold ensureDbCapacity
  split at returned
  · next enough =>
      rw [if_pos enough]
      simp only [Option.some.injEq, Prod.mk.injEq] at returned
      rcases returned with ⟨rfl, rfl⟩
      exact meets_pure ⟨rfl, rfl, sound, rfl⟩
  · next tooSmall =>
      rw [if_neg tooSmall]
      cases grown : growCapacity need 32
          (if 0 < owner.state.gDbCapacity then owner.state.gDbCapacity else 16) with
      | none =>
          rw [grown] at returned
          contradiction
      | some newCap =>
          simp only [grown] at returned ⊢
          cases granted : os.malloc owner.state.allocations with
          | false =>
              simp only [allocate, granted, Option.some.injEq, Prod.mk.injEq] at returned ⊢
              rcases returned with ⟨rfl, rfl⟩
              exact meets_pure ⟨rfl, rfl, sound.of_isSome_eq rfl, rfl⟩
          | true =>
              simp only [allocate, granted] at returned ⊢
              split at returned
              · next fits =>
                  simp only [Option.some.injEq, Prod.mk.injEq] at returned
                  rcases returned with ⟨rfl, rfl⟩
                  rw [dif_pos fits]
                  apply meets_acquire
                  intro newdb isBlock fresh
                  apply meets_access (Finset.mem_insert_self newdb owner.owned)
                  have disjoint : Disjoint {newdb} owner.owned :=
                    Finset.disjoint_singleton_left.mpr fresh
                  apply (meets_retire disjoint).bind
                  rintro _ _ ⟨rfl, rfl⟩
                  apply meets_pure
                  refine ⟨rfl, rfl, ⟨rfl, ?_⟩, ?_⟩
                  · simpa [ManagerOwner.owned] using isBlock
                  · exact (Option.toFinset_some).symm
              · contradiction

theorem meets_growIfFull (sound : owner.Sound) {code : ℤ} {next : State}
    (returned : Database.growIfFull os owner.state = some (code, next)) :
    Meets owner.owned (growIfFull os owner) fun result left =>
      result.1 = code ∧ result.2.state = next ∧ Settled result.2 left := by
  unfold Database.growIfFull at returned
  unfold growIfFull
  cases present : owner.state.gDb with
  | none =>
      rw [present] at returned
      contradiction
  | some block =>
      simp only [present] at returned
      apply (meets_use owner.gDb).borrow (Finset.Subset.refl _)
      split at returned
      · next full =>
          rw [if_pos full]
          cases computed : checkedInt (block.elements.length + 1) with
          | none => simp [computed] at returned
          | some need =>
              rw [computed] at returned
              exact meets_ensureDbCapacity sound returned
      · next room =>
          rw [if_neg room]
          simp only [Option.some.injEq, Prod.mk.injEq] at returned
          rcases returned with ⟨rfl, rfl⟩
          exact meets_pure ⟨rfl, rfl, sound, rfl⟩

theorem gDb_findNextFreePort (os : Os) (state : State) :
    (Database.findNextFreePort os state).2.gDb = state.gDb := by
  unfold Database.findNextFreePort
  dsimp only
  split
  · rfl
  · split
    · rfl
    · rfl

theorem isSome_gDb_appendElement {element : NodeinfoDatabaseElement} {before after : State}
    (appended : Database.appendElement element before = some after) :
    after.gDb.isSome = before.gDb.isSome := by
  unfold Database.appendElement at appended
  split at appended
  · contradiction
  · next block present =>
      split at appended
      · obtain rfl := Option.some.inj appended
        rw [present]
        rfl
      · contradiction

theorem meets_storeElement (sound : owner.Sound) {element : NodeinfoDatabaseElement}
    {iteration : Database.Iteration}
    (returned : (match Database.growIfFull os owner.state with
      | none => none
      | some (grown, state) =>
          if grown < 0 then some (.leave state)
          else (Database.appendElement element state).map .next) = some iteration) :
    Meets owner.owned (storeElement os element owner) fun result left =>
      result.iteration = iteration ∧ Settled result.owner left := by
  cases grown : Database.growIfFull os owner.state with
  | none =>
      rw [grown] at returned
      contradiction
  | some outcome =>
      rcases outcome with ⟨code, state⟩
      rw [grown] at returned
      apply (meets_growIfFull sound grown).bind
      rintro ⟨_, next⟩ _ ⟨rfl, rfl, nextSound, rfl⟩
      simp only [] at returned ⊢
      split at returned
      · next failed =>
          rw [if_pos failed]
          obtain rfl := Option.some.inj returned
          exact meets_pure ⟨rfl, nextSound, rfl⟩
      · next success =>
          rw [if_neg success]
          rcases Option.map_eq_some_iff.mp returned with ⟨after, appended, rfl⟩
          apply (meets_use next.gDb).borrow (Finset.Subset.refl _)
          simp only [appended]
          apply meets_pure
          exact ⟨rfl, nextSound.of_isSome_eq (isSome_gDb_appendElement appended), rfl⟩

theorem meets_addNode (probes : Probes os) (sound : owner.Sound) {networkId : Int32}
    {node : Nodedata Int32} {iteration : Database.Iteration}
    (returned : Database.addNode os networkId node owner.state = some iteration) :
    Meets owner.owned (addNode probes networkId node owner) fun result left =>
      result.iteration = iteration ∧ Settled result.owner left := by
  unfold Database.addNode at returned
  unfold addNode
  apply (meets_use owner.gDb).borrow (Finset.Subset.refl _)
  split at returned
  · next known =>
      rw [if_pos known]
      obtain rfl := Option.some.inj returned
      exact meets_pure ⟨rfl, sound, rfl⟩
  · next unknown =>
      rw [if_neg unknown]
      apply (meets_findNextFreePort probes owner.gDb owner.state).borrow (Finset.Subset.refl _)
      have kept := gDb_findNextFreePort os owner.state
      cases ctrlSearch : Database.findNextFreePort os owner.state with
      | mk ctrlPort afterCtrl =>
          rw [ctrlSearch] at kept
          have ctrlSound := sound.of_isSome_eq (congrArg Option.isSome kept)
          simp only [ctrlSearch] at returned ⊢
          split at returned
          · next noPort =>
              rw [if_pos noPort]
              obtain rfl := Option.some.inj returned
              exact meets_pure ⟨rfl, ctrlSound, rfl⟩
          · next ctrlFound =>
              rw [if_neg ctrlFound]
              apply (meets_findNextFreePort probes owner.gDb afterCtrl).borrow
                (Finset.Subset.refl _)
              have keptAgain := gDb_findNextFreePort os afterCtrl
              cases msgSearch : Database.findNextFreePort os afterCtrl with
              | mk msgPort afterMsg =>
                  rw [msgSearch] at keptAgain
                  have msgSound := ctrlSound.of_isSome_eq (congrArg Option.isSome keptAgain)
                  simp only [msgSearch] at returned ⊢
                  split at returned
                  · next noPort =>
                      rw [if_pos noPort]
                      obtain rfl := Option.some.inj returned
                      exact meets_pure ⟨rfl, msgSound, rfl⟩
                  · next msgFound =>
                      rw [if_neg msgFound]
                      exact meets_storeElement msgSound returned

theorem meets_addNodes (probes : Probes os) {networkId : Int32} {nodes : List (Nodedata Int32)}
    {next : State} (sound : owner.Sound)
    (returned : Database.addNodes os networkId nodes owner.state = some next) :
    Meets owner.owned (addNodes probes networkId nodes owner) fun result left =>
      result.state = next ∧ Settled result left := by
  induction nodes generalizing owner with
  | nil =>
      obtain rfl : owner.state = next := Option.some.inj returned
      exact meets_pure ⟨rfl, sound, rfl⟩
  | cons node nodes ih =>
      unfold Database.addNodes at returned
      cases added : Database.addNode os networkId node owner.state with
      | none =>
          rw [added] at returned
          contradiction
      | some iteration =>
          rw [added] at returned
          apply (meets_addNode probes sound added).bind
          rintro (after | after) _ ⟨rfl, afterSound, rfl⟩
          · exact ih afterSound returned
          · obtain rfl : after.state = next := Option.some.inj returned
            exact meets_pure ⟨rfl, afterSound, rfl⟩

theorem isSome_gDb_removeObsolete (list : NodedataList Int32) (state : State) :
    (Database.removeObsolete list state).gDb.isSome = state.gDb.isSome := by
  unfold Database.removeObsolete
  split
  · rfl
  · next block present =>
      rw [present]
      rfl

/-- An update keeps the database and, if it succeeds, returns a block of its own. -/
theorem meets_updateNodeinfoDatabase (probes : Probes os) (sound : owner.Sound)
    {list : NodedataList Int32} {db : Option NodeinfoDatabase} {next : State}
    (returned : Database.updateNodeinfoDatabase os list owner.state = some (db, next)) :
    Meets owner.owned (updateNodeinfoDatabase probes list owner) fun result left =>
      result.2.state = next ∧ result.2.Sound ∧
        returnsNew .block db result.2.owned result.1 left := by
  have removed := sound.of_isSome_eq (isSome_gDb_removeObsolete list owner.state)
  unfold Database.updateNodeinfoDatabase at returned
  unfold updateNodeinfoDatabase
  apply (meets_use owner.gDb).borrow (Finset.Subset.refl _)
  dsimp only at returned ⊢
  cases computed : checkedInt ((Database.removeObsolete list owner.state).entries.length +
      list.currentSize.toInt) with
  | none => simp [computed] at returned
  | some needCapacity =>
      simp only [computed] at returned ⊢
      split at returned
      · contradiction
      · next code state ensured =>
          apply (meets_ensureDbCapacity removed ensured).bind
          rintro ⟨_, middle⟩ _ ⟨rfl, rfl, middleSound, rfl⟩
          dsimp only at returned ⊢
          split at returned
          · next failed =>
              rw [if_pos failed]
              simp only [Option.some.injEq, Prod.mk.injEq] at returned
              rcases returned with ⟨rfl, rfl⟩
              exact meets_pure ⟨rfl, middleSound, rfl, rfl⟩
          · next success =>
              rw [if_neg success]
              split at returned
              · contradiction
              · next last added =>
                  apply (meets_addNodes probes middleSound added).bind
                  rintro last _ ⟨rfl, lastSound, rfl⟩
                  cases present : last.state.gDb with
                  | none =>
                      rw [present] at returned
                      contradiction
                  | some block =>
                      rw [present] at returned
                      cases granted : os.malloc last.state.allocations with
                      | false =>
                          simp only [allocate, granted, Option.some.injEq, Prod.mk.injEq]
                            at returned ⊢
                          rcases returned with ⟨rfl, rfl⟩
                          exact meets_pure ⟨rfl, lastSound.of_isSome_eq rfl, rfl, rfl⟩
                      | true =>
                          simp only [allocate, granted, Option.some.injEq, Prod.mk.injEq]
                            at returned ⊢
                          rcases returned with ⟨rfl, rfl⟩
                          apply meets_acquire
                          intro out isBlock fresh
                          apply meets_access (Finset.mem_insert_self out _)
                          apply (meets_use last.gDb).borrow (Finset.subset_insert out _)
                          apply meets_pure
                          exact ⟨rfl, lastSound.of_isSome_eq rfl, rfl, isBlock, fresh, rfl⟩

end Manages

end NodeinfoSystem.Resources
