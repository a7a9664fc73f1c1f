import NodeinfoSystem.Relay.Basic
import NodeinfoSystem.Resources.Manager

/-!
# What the relay holds

The relay opens two sockets and keeps them. Besides them it holds the block of its
database and the copy that the latest update returned, which `db` of `main` names.
The list of an update is freed, and so is the old block of a database that grows.

The copy is not: an update overwrites `db`, and the copy before it is lost.
-/

namespace NodeinfoSystem.Resources

open Foundation Wire
open Relay (RequestCode requestText served)

/-- The variables of the relay, with the sockets and blocks they name. -/
structure RelayOwner (Client : Type) where
  state : Relay.State Client
  /-- `g_ctrl_sock`. -/
  ctrlSock : Option Item
  /-- `sock` of `receive_nodedata_list`. -/
  listSock : Option Item
  gDb : Option Item
  db : Option Item

/-- What one iteration meets, down to the calls of `socket` and `bind`. -/
structure SocketRound (Client : Type) where
  round : Relay.Round Client
  ctrlSocket : Bool
  ctrlBind : Bool
  listSocket : Bool
  listBind : Bool
  ctrlOpens_eq : round.ctrlOpens = (ctrlSocket && ctrlBind)
  listOpens_eq : round.listOpens = (listSocket && listBind)
  probes : Probes round.os

variable {Client : Type}

namespace RelayOwner

def initial : RelayOwner Client where
  state := Relay.State.initial
  ctrlSock := none
  listSock := none
  gDb := none
  db := none

variable (owner : RelayOwner Client)

def sockets : Finset Item :=
  owner.ctrlSock.toFinset ∪ owner.listSock.toFinset

def manager : ManagerOwner where
  state := owner.state.manager
  gDb := owner.gDb

def owned : Finset Item :=
  owner.manager.owned ∪ (owner.sockets ∪ owner.db.toFinset)

end RelayOwner

/-! ## The functions -/

/-- The socket of a static variable, which is opened at the first call that can. -/
def openStatic (static : Option Item) (socket bind : Bool) : Program (Option Item) :=
  match static with
  | some sock => return some sock
  | none =>
      if socket then do
        let sock ← acquire .descriptor
        access sock
        if bind then return some sock
        else
          release sock
          return none
      else return none

section Functions

variable (answers : SocketRound Client) (owner : RelayOwner Client)

def acceptRequest : Program (RequestCode × RelayOwner Client) := do
  match ← openStatic owner.ctrlSock answers.ctrlSocket answers.ctrlBind with
  | none => return (.error, owner)
  | some sock =>
      let state := { owner.state with ctrlInited := true }
      let owner := { owner with state := state, ctrlSock := some sock }
      access sock
      match answers.round.request with
      | none => return (.error, owner)
      | some (client, datagram) =>
          if requestText datagram = helloRelayServerMsg then
            access sock
            if answers.round.replySent then
              return (.join, { owner with
                state := { state.reply client (.networkId state.networkId) with
                  networkId := state.networkId + 1 } })
            else return (.error, owner)
          else if requestText datagram = readySendNodedataListMsg then
            access sock
            if answers.round.replySent then
              return (.recvNodedataList, { owner with state := state.reply client .readyRecv })
            else return (.error, owner)
          else if requestText datagram = giveMeDbMsg then
            return (.nodeinfoDb, { owner with state := { state with lastClient := some client } })
          else return (.error, owner)

/-- `receive_nodedata_list` of the relay once its socket is bound. -/
def receiveListOn (sock : Item) (granted : Bool) (received : Option Datagram) :
    Program (Option (Item × NodedataList Int32)) :=
  if granted then do
    let buf ← acquire .block
    access sock
    match received with
    | none =>
        release buf
        return none
    | some datagram =>
        if datagram.bytes.length < nodedataListSize then
          release buf
          return none
        else
          access buf
          if rejected : datagram.bytes.length < expectedListSize datagram.bytes then
            release buf
            return none
          else return some (buf, overlayNodedataList relayAddress datagram rejected)
  else return none

def receiveRelayList : Program (Option (Item × NodedataList Int32) × RelayOwner Client) := do
  match ← openStatic owner.listSock answers.listSocket answers.listBind with
  | none => return (none, owner)
  | some sock =>
      let list ← receiveListOn sock answers.round.listGranted answers.round.list
      return (list, { owner with
        state := { owner.state with listInited := true }
        listSock := some sock })

def sendNodeinfoDatabase : Program (ℤ × RelayOwner Client) :=
  match owner.ctrlSock, owner.state.lastClient with
  | none, _ => return (-1, owner)
  | some _, none => return (-1, owner)
  | some sock, some client => do
      use owner.db
      access sock
      match Collector.databasePayload (served owner.state.db) with
      | none => return (-1, owner)
      | some datagram =>
          if answers.round.replySent then
            return (0, { owner with state := owner.state.reply client (.database datagram) })
          else return (-1, owner)

/-- The update after a list has been received, and the end of the list. -/
def updateWith (list : Item) (contents : NodedataList Int32) : Program (RelayOwner Client) := do
  access list
  let (db, manager) ← updateNodeinfoDatabase answers.probes contents owner.manager
  release list
  return { owner with
    state := { owner.state with db := db.map Prod.snd, manager := manager.state }
    gDb := manager.gDb
    db := db.map Prod.fst }

/-- One iteration of the loop of `main`. -/
def iterate : Program (RelayOwner Client) := do
  match ← acceptRequest answers owner with
  | (.error, owner) => return owner
  | (.join, owner) => return owner
  | (.recvNodedataList, owner) =>
      match ← receiveRelayList answers owner with
      | (none, owner) => return owner
      | (some (list, contents), owner) => updateWith answers owner list contents
  | (.nodeinfoDb, owner) =>
      let (_, owner) ← sendNodeinfoDatabase answers owner
      return owner

end Functions

/-! ## What they leave -/

/-- Each flag and pointer of the relay says whether there is an item, and no two are the same. -/
structure RelayOwner.Sound (owner : RelayOwner Client) : Prop where
  ctrl_isSome : owner.ctrlSock.isSome = owner.state.ctrlInited
  list_isSome : owner.listSock.isSome = owner.state.listInited
  manager : owner.manager.Sound
  db_isSome : owner.db.isSome = owner.state.db.isSome
  isDescriptor : ∀ item ∈ owner.sockets, item.kind = .descriptor
  db_isBlock : ∀ item ∈ owner.db.toFinset, item.kind = .block
  sockets_apart : Disjoint owner.ctrlSock.toFinset owner.listSock.toFinset
  blocks_apart : Disjoint owner.manager.owned owner.db.toFinset

theorem disjoint_of_kind {first second : Finset Item} {kind other : Kind} (different : kind ≠ other)
    (firstKind : ∀ item ∈ first, item.kind = kind)
    (secondKind : ∀ item ∈ second, item.kind = other) :
    Disjoint first second := by
  rw [Finset.disjoint_left]
  intro item inFirst inSecond
  exact different ((firstKind item inFirst).symm.trans (secondKind item inSecond))

/-- A static socket is the one it was, or none, or a new one. -/
theorem meets_openStatic {static : Option Item} {mine : Finset Item}
    (owned : static.toFinset ⊆ mine) (socket bind : Bool) :
    Meets mine (openStatic static socket bind) fun result left =>
      result.isSome = (static.isSome || (socket && bind)) ∧
      (result = static ∧ left = mine ∨
        static = none ∧ ∃ sock, result = some sock ∧ sock.kind = .descriptor ∧ sock ∉ mine ∧
          left = insert sock mine) := by
  unfold openStatic
  cases static with
  | some sock => exact meets_pure ⟨rfl, Or.inl ⟨rfl, rfl⟩⟩
  | none =>
      cases socket with
      | false => exact meets_pure ⟨rfl, Or.inl ⟨rfl, rfl⟩⟩
      | true =>
          rw [if_pos rfl]
          apply meets_acquire
          intro sock isDescriptor fresh
          apply meets_access (Finset.mem_insert_self sock mine)
          cases bind with
          | false =>
              apply meets_release_insert fresh
              exact meets_pure ⟨rfl, Or.inl ⟨rfl, rfl⟩⟩
          | true =>
              exact meets_pure ⟨rfl, Or.inr ⟨rfl, sock, rfl, isDescriptor, fresh, rfl⟩⟩

theorem openedAs {static : Option Item} {sock : Item} {mine left : Finset Item}
    (opened : some sock = static ∧ left = mine ∨
      static = none ∧ ∃ new, some sock = some new ∧ new.kind = .descriptor ∧ new ∉ mine ∧
        left = insert new mine) :
    static = some sock ∧ left = mine ∨
      static = none ∧ sock.kind = .descriptor ∧ sock ∉ mine ∧ left = insert sock mine := by
  rcases opened with ⟨rfl, left_eq⟩ | ⟨absent, new, new_eq, rest⟩
  · exact Or.inl ⟨rfl, left_eq⟩
  · obtain rfl := Option.some.inj new_eq
    exact Or.inr ⟨absent, rest⟩

/-- What is left belongs to this owner. -/
def RelayOwner.Settled (owner : RelayOwner Client) (left : Finset Item) : Prop :=
  owner.Sound ∧ left = owner.owned

section Sound

variable {owner : RelayOwner Client}

/-- A state with the same flags, the same database and the same pointers. -/
theorem RelayOwner.Sound.of_flags_eq (sound : owner.Sound) {state : Relay.State Client}
    (ctrl_eq : state.ctrlInited = owner.state.ctrlInited)
    (list_eq : state.listInited = owner.state.listInited)
    (manager_eq : state.manager = owner.state.manager) (db_eq : state.db = owner.state.db) :
    ({ owner with state := state } : RelayOwner Client).Settled owner.owned := by
  have sameManager : ({ owner with state := state } : RelayOwner Client).manager =
      owner.manager := by
    rw [RelayOwner.manager, manager_eq]
    rfl
  refine ⟨⟨?_, ?_, ?_, ?_, sound.isDescriptor, sound.db_isBlock, sound.sockets_apart, ?_⟩, ?_⟩
  · exact sound.ctrl_isSome.trans ctrl_eq.symm
  · exact sound.list_isSome.trans list_eq.symm
  · rw [sameManager]
    exact sound.manager
  · exact sound.db_isSome.trans (congrArg Option.isSome db_eq.symm)
  · rw [sameManager]
    exact sound.blocks_apart
  · rw [RelayOwner.owned, RelayOwner.owned, sameManager]
    rfl

theorem RelayOwner.Sound.openCtrl (sound : owner.Sound) {sock : Item} {left : Finset Item}
    (opened : owner.ctrlSock = some sock ∧ left = owner.owned ∨
      owner.ctrlSock = none ∧ sock.kind = .descriptor ∧ sock ∉ owner.owned ∧
        left = insert sock owner.owned) :
    ({ owner with
      state := { owner.state with ctrlInited := true }
      ctrlSock := some sock } : RelayOwner Client).Settled left := by
  rcases opened with ⟨present, rfl⟩ | ⟨absent, isDescriptor, fresh, rfl⟩
  · have inited : owner.state.ctrlInited = true := by rw [← sound.ctrl_isSome, present]; rfl
    rw [← present]
    exact sound.of_flags_eq inited.symm rfl rfl rfl
  · simp only [RelayOwner.owned, RelayOwner.sockets, absent, Finset.mem_union, not_or,
      Option.toFinset_none, Finset.empty_union] at fresh ⊢
    refine ⟨⟨rfl, sound.list_isSome, sound.manager, sound.db_isSome, ?_, sound.db_isBlock, ?_,
      sound.blocks_apart⟩, ?_⟩
    · intro item item_mem
      simp only [RelayOwner.sockets, Option.toFinset_some, Finset.mem_union,
        Finset.mem_singleton] at item_mem
      rcases item_mem with rfl | inList
      · exact isDescriptor
      · exact sound.isDescriptor item (Finset.mem_union_right _ inList)
    · rw [Option.toFinset_some, Finset.disjoint_singleton_left]
      exact fresh.2.1
    · ext item
      simp only [RelayOwner.owned, RelayOwner.sockets, RelayOwner.manager, Option.toFinset_some,
        Finset.mem_insert, Finset.mem_union, Finset.mem_singleton]
      tauto

theorem RelayOwner.Sound.openList (sound : owner.Sound) {sock : Item} {left : Finset Item}
    (opened : owner.listSock = some sock ∧ left = owner.owned ∨
      owner.listSock = none ∧ sock.kind = .descriptor ∧ sock ∉ owner.owned ∧
        left = insert sock owner.owned) :
    ({ owner with
      state := { owner.state with listInited := true }
      listSock := some sock } : RelayOwner Client).Settled left := by
  rcases opened with ⟨present, rfl⟩ | ⟨absent, isDescriptor, fresh, rfl⟩
  · have inited : owner.state.listInited = true := by rw [← sound.list_isSome, present]; rfl
    rw [← present]
    exact sound.of_flags_eq rfl inited.symm rfl rfl
  · simp only [RelayOwner.owned, RelayOwner.sockets, absent, Finset.mem_union, not_or,
      Option.toFinset_none, Finset.union_empty] at fresh ⊢
    refine ⟨⟨sound.ctrl_isSome, rfl, sound.manager, sound.db_isSome, ?_, sound.db_isBlock, ?_,
      sound.blocks_apart⟩, ?_⟩
    · intro item item_mem
      simp only [RelayOwner.sockets, Option.toFinset_some, Finset.mem_union,
        Finset.mem_singleton] at item_mem
      rcases item_mem with inCtrl | rfl
      · exact sound.isDescriptor item (Finset.mem_union_left _ inCtrl)
      · exact isDescriptor
    · rw [Option.toFinset_some, Finset.disjoint_singleton_right]
      exact fresh.2.1
    · ext item
      simp only [RelayOwner.owned, RelayOwner.sockets, RelayOwner.manager, Option.toFinset_some,
        Finset.mem_insert, Finset.mem_union, Finset.mem_singleton]
      tauto

end Sound

section Steps

variable (answers : SocketRound Client) {owner : RelayOwner Client}

theorem meets_acceptRequest (sound : owner.Sound) :
    Meets owner.owned (acceptRequest answers owner) fun result left =>
      (result.1, result.2.state) = Relay.acceptRequest answers.round owner.state ∧
        result.2.Settled left := by
  have given : owner.ctrlSock.toFinset ⊆ owner.owned := by
    intro item item_mem
    simp only [RelayOwner.owned, RelayOwner.sockets, Finset.mem_union]
    tauto
  unfold acceptRequest Relay.acceptRequest
  rw [← sound.ctrl_isSome, answers.ctrlOpens_eq]
  apply (meets_openStatic given _ _).bind
  rintro (_ | sock) left ⟨isSome_eq, opened⟩
  · rw [← isSome_eq]
    rcases opened with ⟨-, rfl⟩ | ⟨-, _, impossible, -⟩
    · exact meets_pure ⟨rfl, sound, rfl⟩
    · contradiction
  · rw [← isSome_eq]
    have settled := sound.openCtrl (openedAs opened)
    rcases settled with ⟨nextSound, rfl⟩
    have sockOpen : sock ∈ RelayOwner.owned { owner with
        state := { owner.state with ctrlInited := true }
        ctrlSock := some sock } := by
      simp [RelayOwner.owned, RelayOwner.sockets]
    simp only [Option.isSome_some, if_true]
    apply meets_access sockOpen
    cases answers.round.request with
    | none => exact meets_pure ⟨rfl, nextSound, rfl⟩
    | some request =>
        rcases request with ⟨client, datagram⟩
        dsimp only
        split
        · apply meets_access sockOpen
          split
          · exact meets_pure ⟨rfl, nextSound.of_flags_eq rfl rfl rfl rfl⟩
          · exact meets_pure ⟨rfl, nextSound, rfl⟩
        · split
          · apply meets_access sockOpen
            split
            · exact meets_pure ⟨rfl, nextSound.of_flags_eq rfl rfl rfl rfl⟩
            · exact meets_pure ⟨rfl, nextSound, rfl⟩
          · split
            · exact meets_pure ⟨rfl, nextSound.of_flags_eq rfl rfl rfl rfl⟩
            · exact meets_pure ⟨rfl, nextSound, rfl⟩

theorem meets_receiveListOn {sock : Item} {mine : Finset Item} (owned : sock ∈ mine)
    (granted : Bool) (received : Option Datagram) :
    Meets mine (receiveListOn sock granted received)
      (returnsNew .block (Wire.Relay.receiveNodedataList granted received) mine) := by
  unfold receiveListOn Wire.Relay.receiveNodedataList
  split
  · apply meets_acquire
    intro buf isBlock fresh
    apply meets_access (Finset.mem_insert_of_mem owned)
    cases received with
    | none =>
        apply meets_release_insert fresh
        exact meets_returnNone _ mine
    | some datagram =>
        dsimp only
        split
        · apply meets_release_insert fresh
          exact meets_returnNone _ mine
        · apply meets_access (Finset.mem_insert_self buf mine)
          split
          · apply meets_release_insert fresh
            exact meets_returnNone _ mine
          · exact meets_pure ⟨rfl, isBlock, fresh, rfl⟩
  · exact meets_returnNone _ mine

theorem meets_receiveRelayList (sound : owner.Sound) :
    Meets owner.owned (receiveRelayList answers owner) fun result left =>
      result.2.state = (Relay.receiveNodedataList answers.round owner.state).2 ∧ result.2.Sound ∧
        returnsNew .block (Relay.receiveNodedataList answers.round owner.state).1 result.2.owned
          result.1 left := by
  have given : owner.listSock.toFinset ⊆ owner.owned := by
    intro item item_mem
    simp only [RelayOwner.owned, RelayOwner.sockets, Finset.mem_union]
    tauto
  unfold receiveRelayList Relay.receiveNodedataList
  rw [← sound.list_isSome, answers.listOpens_eq]
  apply (meets_openStatic given _ _).bind
  rintro (_ | sock) left ⟨isSome_eq, opened⟩
  · rw [← isSome_eq]
    rcases opened with ⟨-, rfl⟩ | ⟨-, _, impossible, -⟩
    · exact meets_pure ⟨rfl, sound, rfl, rfl⟩
    · contradiction
  · rw [← isSome_eq]
    rcases sound.openList (openedAs opened) with ⟨nextSound, rfl⟩
    simp only [Option.isSome_some, if_true]
    apply (meets_receiveListOn (by simp [RelayOwner.owned, RelayOwner.sockets]) _ _).bind
    intro list left received
    exact meets_pure ⟨rfl, nextSound, received⟩

theorem meets_sendNodeinfoDatabase (sound : owner.Sound) :
    Meets owner.owned (sendNodeinfoDatabase answers owner) fun result left =>
      (result.1, result.2.state) = Relay.sendNodeinfoDatabase answers.round owner.state ∧
        result.2.Settled left := by
  unfold sendNodeinfoDatabase Relay.sendNodeinfoDatabase
  rw [← sound.ctrl_isSome]
  cases present : owner.ctrlSock with
  | none => exact meets_pure ⟨rfl, sound, rfl⟩
  | some sock =>
      simp only [Option.isSome_some, if_true]
      cases owner.state.lastClient with
      | none => exact meets_pure ⟨rfl, sound, rfl⟩
      | some client =>
          have dbGiven : owner.db.toFinset ⊆ owner.owned := by
            intro item item_mem
            simp only [RelayOwner.owned, Finset.mem_union]
            tauto
          have sockOpen : sock ∈ owner.owned := by
            simp [RelayOwner.owned, RelayOwner.sockets, present]
          apply (meets_use owner.db).borrow dbGiven
          apply meets_access sockOpen
          dsimp only
          cases Collector.databasePayload (served owner.state.db) with
          | none => exact meets_pure ⟨rfl, sound, rfl⟩
          | some datagram =>
              dsimp only
              split
              · rw [← present]
                exact meets_pure ⟨rfl, sound.of_flags_eq rfl rfl rfl rfl⟩
              · exact meets_pure ⟨rfl, sound, rfl⟩

/-- The copy that `db` named is lost; the list is not. -/
theorem meets_updateWith (sound : owner.Sound) {list : Item} (fresh : list ∉ owner.owned)
    {contents : NodedataList Int32} {db : Option NodeinfoDatabase} {manager : Database.State}
    (returned : Database.updateNodeinfoDatabase answers.round.os contents owner.state.manager =
      some (db, manager)) :
    Meets (insert list owner.owned) (updateWith answers owner list contents) fun after left =>
      after.state = { owner.state with db := db, manager := manager } ∧
        Leaves RelayOwner.Settled .block (if owner.state.db.isSome then 1 else 0) after left := by
  have differ : Kind.block ≠ Kind.descriptor := by decide
  simp only [RelayOwner.owned, Finset.mem_union, not_or] at fresh
  have given : insert list owner.owned =
      owner.manager.owned ∪ insert list (owner.sockets ∪ owner.db.toFinset) := by
    rw [RelayOwner.owned, Finset.union_insert]
  have socketsApart := disjoint_of_kind differ sound.manager.isBlock sound.isDescriptor
  have dbApart := disjoint_of_kind differ sound.db_isBlock sound.isDescriptor
  have disjoint : Disjoint owner.manager.owned
      (insert list (owner.sockets ∪ owner.db.toFinset)) := by
    rw [Finset.disjoint_insert_right, Finset.disjoint_union_right]
    exact ⟨fresh.1, socketsApart, sound.blocks_apart⟩
  apply meets_access (Finset.mem_insert_self list _)
  rw [given]
  apply ((meets_updateNodeinfoDatabase answers.probes sound.manager returned).frame disjoint).bind
  rintro ⟨result, next⟩ _ ⟨own, rfl, apart, rfl, nextSound, new⟩
  simp only [Finset.disjoint_insert_right, Finset.disjoint_union_right] at apart
  apply meets_release (by simp)
  apply meets_pure
  have left_eq : (own ∪ insert list (owner.sockets ∪ owner.db.toFinset)).erase list =
      own ∪ owner.sockets ∪ owner.db.toFinset := by
    rw [Finset.union_insert, Finset.erase_insert, Finset.union_assoc]
    simp only [Finset.mem_union, not_or]
    exact ⟨apart.1, fresh.2⟩
  have gone_card : owner.db.toFinset.card = if owner.state.db.isSome then 1 else 0 := by
    rw [← sound.db_isSome]
    cases owner.db with
    | none => rfl
    | some item => rfl
  have gone_apart : Disjoint (own ∪ owner.sockets) owner.db.toFinset :=
    Finset.disjoint_union_left.mpr ⟨apart.2.2, dbApart.symm⟩
  rcases result with _ | ⟨out, copy⟩
  · rcases new with ⟨rfl, rfl⟩
    refine ⟨rfl, _, _, left_eq, gone_apart, ⟨⟨sound.ctrl_isSome, sound.list_isSome, nextSound, rfl,
      sound.isDescriptor, ?_, sound.sockets_apart, ?_⟩, ?_⟩, gone_card, sound.db_isBlock⟩
    · simp
    · simp
    · simp [RelayOwner.owned, RelayOwner.manager, RelayOwner.sockets, ManagerOwner.owned]
  · rcases new with ⟨rfl, isBlock, outFresh, rfl⟩
    refine ⟨rfl, _, _, left_eq, gone_apart, ⟨⟨sound.ctrl_isSome, sound.list_isSome, nextSound, rfl,
      sound.isDescriptor, ?_, sound.sockets_apart, ?_⟩, ?_⟩, gone_card, sound.db_isBlock⟩
    · simpa using isBlock
    · exact Finset.disjoint_singleton_right.mpr outFresh
    · ext item
      simp only [RelayOwner.owned, RelayOwner.manager, RelayOwner.sockets, ManagerOwner.owned,
        Option.map_some, Option.toFinset_some, Finset.mem_insert, Finset.mem_union,
        Finset.mem_singleton]
      tauto

end Steps

/-! ## The loop -/

/-- The iterations that call `update_nodeinfo_database` while `db` names a copy. -/
def replaces (state : Relay.State Client) (round : Relay.Round Client) : ℕ :=
  match Relay.acceptRequest round state with
  | (.recvNodedataList, next) =>
      if (Relay.receiveNodedataList round next).1.isSome ∧ next.db.isSome then 1 else 0
  | _ => 0

theorem Settled.leaves {owner : RelayOwner Client} {left : Finset Item}
    (settled : owner.Settled left) : Leaves RelayOwner.Settled Kind.block 0 owner left :=
  ⟨left, ∅, by simp, by simp, settled, rfl, by simp⟩

theorem db_receiveNodedataList (round : Relay.Round Client) (state : Relay.State Client) :
    (Relay.receiveNodedataList round state).2.db = state.db := by
  unfold Relay.receiveNodedataList
  split
  · rfl
  · rfl

theorem meets_iterate (answers : SocketRound Client) {owner : RelayOwner Client}
    {next : Relay.State Client} (sound : owner.Sound)
    (returned : Relay.iterate answers.round owner.state = some next) :
    Meets owner.owned (iterate answers owner) fun after left =>
      after.state = next ∧
        Leaves RelayOwner.Settled .block (replaces owner.state answers.round) after left := by
  unfold Relay.iterate at returned
  unfold iterate replaces
  apply (meets_acceptRequest answers sound).bind
  rintro ⟨code, accepted⟩ _ ⟨accepted_eq, acceptedSound, rfl⟩
  rw [← accepted_eq] at returned ⊢
  cases code with
  | error =>
      obtain rfl := Option.some.inj returned
      exact meets_pure ⟨rfl, Settled.leaves ⟨acceptedSound, rfl⟩⟩
  | join =>
      obtain rfl := Option.some.inj returned
      exact meets_pure ⟨rfl, Settled.leaves ⟨acceptedSound, rfl⟩⟩
  | nodeinfoDb =>
      obtain rfl := Option.some.inj returned
      apply (meets_sendNodeinfoDatabase answers acceptedSound).bind
      rintro ⟨code, after⟩ left ⟨sent_eq, settled⟩
      rw [← sent_eq]
      exact meets_pure ⟨rfl, Settled.leaves settled⟩
  | recvNodedataList =>
      apply (meets_receiveRelayList answers acceptedSound).bind
      rintro ⟨list, received⟩ left ⟨received_eq, receivedSound, new⟩
      cases found : Relay.receiveNodedataList answers.round accepted.state with
      | mk contents state =>
          have db_eq := db_receiveNodedataList answers.round accepted.state
          rw [found] at received_eq new db_eq
          simp only [found] at returned ⊢
          rcases list with _ | ⟨list, nodes⟩
          · rcases new with ⟨rfl, rfl⟩
            obtain rfl := Option.some.inj returned
            exact meets_pure ⟨received_eq, Settled.leaves ⟨receivedSound, rfl⟩⟩
          · rcases new with ⟨rfl, -, fresh, rfl⟩
            dsimp only at received_eq returned db_eq
            subst received_eq
            split at returned
            · contradiction
            · next db manager updated =>
                obtain rfl := Option.some.inj returned
                simpa [db_eq] using meets_updateWith answers receivedSound fresh updated

/-- The loop of `main`. -/
def runRelay (rounds : List (SocketRound Client)) : Program (RelayOwner Client) :=
  rounds.foldlM (fun owner answers => iterate answers owner) RelayOwner.initial

theorem sound_initial : (RelayOwner.initial : RelayOwner Client).Settled ∅ := by
  refine ⟨⟨rfl, rfl, ⟨rfl, ?_⟩, rfl, ?_, ?_, ?_, ?_⟩, rfl⟩
  all_goals simp [RelayOwner.initial, RelayOwner.manager, RelayOwner.sockets, ManagerOwner.owned]

/-- How many items of a kind are held. -/
def countOf (kind : Kind) (held : Finset Item) : ℕ :=
  (held.filter (·.kind = kind)).card

theorem countOf_union (kind : Kind) {first second : Finset Item}
    (disjoint : Disjoint first second) :
    countOf kind (first ∪ second) = countOf kind first + countOf kind second := by
  rw [countOf, Finset.filter_union,
    Finset.card_union_of_disjoint (Finset.disjoint_filter_filter disjoint)]
  rfl

theorem countOf_of_kind {kind : Kind} {held : Finset Item}
    (same : ∀ item ∈ held, item.kind = kind) :
    countOf kind held = held.card := by
  rw [countOf, Finset.filter_true_of_mem same]

theorem countOf_of_other {kind other : Kind} {held : Finset Item} (different : other ≠ kind)
    (same : ∀ item ∈ held, item.kind = other) : countOf kind held = 0 := by
  rw [countOf, Finset.card_eq_zero, Finset.filter_eq_empty_iff]
  intro item item_mem equal
  exact different ((same item item_mem).symm.trans equal)

theorem card_toFinset_option (pointer : Option Item) :
    pointer.toFinset.card = pointer.isSome.toNat := by
  cases pointer with
  | none => rfl
  | some item => rfl

section Counts

variable {owner : RelayOwner Client} (sound : owner.Sound)
include sound

theorem RelayOwner.Sound.kind_eq {item : Item} (item_mem : item ∈ owner.owned) :
    item.kind = .descriptor ∨ item.kind = .block := by
  simp only [RelayOwner.owned, Finset.mem_union] at item_mem
  rcases item_mem with inManager | inSockets | inDb
  · exact Or.inr (sound.manager.isBlock item inManager)
  · exact Or.inl (sound.isDescriptor item inSockets)
  · exact Or.inr (sound.db_isBlock item inDb)

theorem RelayOwner.Sound.countOf_owned (kind : Kind) : countOf kind owner.owned =
    countOf kind owner.manager.owned + (countOf kind owner.sockets +
      countOf kind owner.db.toFinset) := by
  have differ : Kind.block ≠ Kind.descriptor := by decide
  have socketsApart := disjoint_of_kind differ sound.manager.isBlock sound.isDescriptor
  have dbApart := disjoint_of_kind differ sound.db_isBlock sound.isDescriptor
  rw [RelayOwner.owned, countOf_union, countOf_union]
  · exact dbApart.symm
  · exact Finset.disjoint_union_right.mpr ⟨socketsApart, sound.blocks_apart⟩

theorem RelayOwner.Sound.countOf_descriptor : countOf .descriptor owner.owned =
    owner.state.ctrlInited.toNat + owner.state.listInited.toNat := by
  have differ : Kind.block ≠ Kind.descriptor := by decide
  rw [sound.countOf_owned, countOf_of_other differ sound.manager.isBlock,
    countOf_of_other differ sound.db_isBlock, countOf_of_kind sound.isDescriptor, Nat.zero_add,
    Nat.add_zero, RelayOwner.sockets, Finset.card_union_of_disjoint sound.sockets_apart,
    card_toFinset_option, card_toFinset_option, sound.ctrl_isSome, sound.list_isSome]

theorem RelayOwner.Sound.countOf_block : countOf .block owner.owned =
    owner.state.manager.gDb.isSome.toNat + owner.state.db.isSome.toNat := by
  have differ : Kind.descriptor ≠ Kind.block := by decide
  have manager_isSome : owner.gDb.isSome = owner.state.manager.gDb.isSome :=
    sound.manager.isSome_eq
  rw [sound.countOf_owned, countOf_of_kind sound.manager.isBlock,
    countOf_of_kind sound.db_isBlock, countOf_of_other differ sound.isDescriptor, Nat.zero_add,
    ManagerOwner.owned, card_toFinset_option, card_toFinset_option, sound.db_isSome,
    RelayOwner.manager, manager_isSome]

end Counts

/--
The relay never uses or gives back anything it does not hold. It holds what its variables
name, which are the static sockets, the database and the copy `db`, and one lost copy for
every update that was called while `db` already named one.
-/
theorem relay_holds (rounds : List (SocketRound Client)) (state : Relay.State Client)
    (ran : (Relay.relay Client).run (rounds.map SocketRound.round) = some state) :
    ∃ owner holdings lost, runRelay rounds (Holdings.none Kind) = some (owner, holdings) ∧
      owner.state = state ∧ owner.Sound ∧
      holdings.held = owner.owned ∪ lost ∧ Disjoint owner.owned lost ∧
      Blocks ((Relay.relay Client).total replaces Relay.State.initial
        (rounds.map SocketRound.round)) lost ∧
      countOf .descriptor holdings.held = state.ctrlInited.toNat + state.listInited.toNat ∧
      countOf .block holdings.held = state.manager.gDb.isSome.toNat + state.db.isSome.toNat +
        (Relay.relay Client).total replaces Relay.State.initial (rounds.map SocketRound.round) ∧
      ∀ item ∈ holdings.held, item.kind = .descriptor ∨ item.kind = .block := by
  have loop := @meets_foldlM Kind _ _ _ _ _ (Relay.relay Client) replaces
    (fun owner answers => iterate answers owner) RelayOwner.state SocketRound.round
    RelayOwner.Settled Kind.block ?_ rounds RelayOwner.initial state ∅ sound_initial ran
  · rcases loop.run with ⟨owner, holdings, ran_eq, rfl, _, lost, held_eq, apart, ⟨sound, rfl⟩,
      lost_card, lost_kind⟩
    refine ⟨owner, holdings, lost, ran_eq, rfl, sound, held_eq, apart, ⟨lost_card, lost_kind⟩,
      ?_, ?_, ?_⟩
    · rw [held_eq, countOf_union _ apart, sound.countOf_descriptor,
        countOf_of_other (by decide) lost_kind, Nat.add_zero]
    · rw [held_eq, countOf_union _ apart, sound.countOf_block, countOf_of_kind lost_kind, lost_card]
      rfl
    · intro item item_mem
      rw [held_eq, Finset.mem_union] at item_mem
      rcases item_mem with owned | isLost
      · exact sound.kind_eq owned
      · exact Or.inr (lost_kind item isLost)
  · rintro owner answers next _ ⟨sound, rfl⟩ stepped
    exact meets_iterate answers sound stepped

/-- A round in which every socket can be opened and every port is available. -/
def reportRound (networkId ipaddress : Int32) : SocketRound ℕ where
  round := Relay.listRound 1 networkId ipaddress
  ctrlSocket := true
  ctrlBind := true
  listSocket := true
  listBind := true
  ctrlOpens_eq := rfl
  listOpens_eq := rfl
  probes := ⟨fun _ _ => ⟨true, true, true, true⟩, fun _ _ => rfl⟩

/-- One node is reported three times. -/
def reportingRun : List (SocketRound ℕ) :=
  [reportRound 1 21, reportRound 1 21, reportRound 1 21]

/-- Two of the three copies are lost. -/
example : (Relay.relay ℕ).total replaces Relay.State.initial
    (reportingRun.map SocketRound.round) = 2 := by decide

theorem relay_holds_reportingRun : ∃ state owner holdings lost,
    (Relay.relay ℕ).run (reportingRun.map SocketRound.round) = some state ∧
    runRelay reportingRun (Holdings.none Kind) = some (owner, holdings) ∧
    owner.state = state ∧ owner.Sound ∧
    holdings.held = owner.owned ∪ lost ∧ Disjoint owner.owned lost ∧
    Blocks ((Relay.relay ℕ).total replaces Relay.State.initial
      (reportingRun.map SocketRound.round)) lost ∧
    countOf .descriptor holdings.held = state.ctrlInited.toNat + state.listInited.toNat ∧
    countOf .block holdings.held = state.manager.gDb.isSome.toNat + state.db.isSome.toNat +
      (Relay.relay ℕ).total replaces Relay.State.initial (reportingRun.map SocketRound.round) ∧
    ∀ item ∈ holdings.held, item.kind = .descriptor ∨ item.kind = .block := by
  obtain ⟨state, ran⟩ := Option.isSome_iff_exists.mp
    (by decide : ((Relay.relay ℕ).run (reportingRun.map SocketRound.round)).isSome)
  obtain ⟨owner, holdings, lost, result⟩ := relay_holds reportingRun state ran
  exact ⟨state, owner, holdings, lost, ran, result⟩

end NodeinfoSystem.Resources
