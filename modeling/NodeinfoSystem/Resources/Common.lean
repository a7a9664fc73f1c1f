import NodeinfoSystem.Collector.Member
import NodeinfoSystem.Collector.MyNodedata
import NodeinfoSystem.Foundation.Ledger

/-!
# What the shared functions of a node open and close

The functions of `common.c` once more, with the calls that open and close something:
sockets, the list that `getifaddrs` builds, the stream of a temporary file, and the
blocks of `malloc`. Each of them returns what its first model returns, and gives back
all it opened except the block of a database, which it hands to its caller.
-/

namespace NodeinfoSystem.Resources

open Foundation Wire
open Collector (BoundAnswers HostAnswers Interface)

/-- What a process holds. -/
inductive Kind where
  | descriptor
  /-- A list of `getifaddrs`, until `freeifaddrs`. -/
  | interfaces
  /-- A stream of `fopen`, until `fclose`. -/
  | stream
  /-- A block of `malloc`, until `free`. -/
  | block
  deriving DecidableEq

abbrev Program := Using Kind

abbrev Item := Resource Kind

/-- What is held is so many blocks, and nothing else. -/
structure Blocks (count : ℕ) (held : Finset Item) : Prop where
  card_eq : held.card = count
  isBlock : ∀ item ∈ held, item.kind = .block

/-! ## The own address -/

/-- The address in the result of `get_my_nodedata`. -/
def address (answers : HostAnswers) : UInt32 :=
  if answers.interfaceAddress = 0 then answers.routeAddress else answers.interfaceAddress

/-- The loop over the interfaces. -/
def interfaceAddress (answers : HostAnswers) : Program UInt32 :=
  match answers.getifaddrs with
  | none => return 0
  | some interfaces => do
      let ifaddr ← acquire .interfaces
      access ifaddr
      release ifaddr
      return (interfaces.findSome? Interface.address).getD 0

/-- The source address of a route to the outside. -/
def routeAddress (answers : HostAnswers) : Program UInt32 :=
  if answers.socket then do
    let s ← acquire .descriptor
    access s
    if answers.connect then
      access s
      release s
      return answers.getsockname.getD 0
    else
      release s
      return 0
  else return 0

/-- The part of `get_my_nodedata` that opens anything, with the address it finds. -/
def ownAddress (answers : HostAnswers) : Program UInt32 := do
  let ipaddress ← interfaceAddress answers
  if ipaddress = 0 then routeAddress answers else return ipaddress

theorem meets_interfaceAddress (answers : HostAnswers) :
    Meets ∅ (interfaceAddress answers) (returns answers.interfaceAddress ∅) := by
  unfold interfaceAddress HostAnswers.interfaceAddress
  cases answers.getifaddrs with
  | none => exact meets_return _ ∅
  | some interfaces =>
      apply meets_acquire
      intro ifaddr _ fresh
      apply meets_access (Finset.mem_insert_self ifaddr ∅)
      exact meets_close fresh _

theorem meets_routeAddress (answers : HostAnswers) :
    Meets ∅ (routeAddress answers) (returns answers.routeAddress ∅) := by
  simp only [routeAddress, HostAnswers.routeAddress, Bool.and_eq_true, ite_and]
  apply Meets.ite
  · apply meets_acquire
    intro s _ fresh
    apply meets_access (Finset.mem_insert_self s ∅)
    apply Meets.ite
    · apply meets_access (Finset.mem_insert_self s ∅)
      exact meets_close fresh _
    · exact meets_close fresh _
  · exact meets_return _ ∅

theorem meets_ownAddress (answers : HostAnswers) :
    Meets ∅ (ownAddress answers) (returns (address answers) ∅) := by
  apply (meets_interfaceAddress answers).call
  apply Meets.ite
  · exact meets_routeAddress answers
  · exact meets_return _ ∅

/-! ## The files -/

/-- The loop over the entries, which prints each of them to the stream. -/
def printEntries (fp : Item) (line : Nodedata UInt32 → Files.Text) (io : Files.Io) :
    ℕ → List (Nodedata UInt32) → Files.File → Program (Bool × Files.File)
  | _, [], file => return (true, file)
  | index, node :: nodes, file =>
      if io.inetNtop index then do
        access fp
        if io.fprintf index then
          printEntries fp line io (index + 1) nodes (file.printTmp (line node))
        else return (false, file)
      else return (false, file)

/-- `update_nodeinfo` or `update_hostfile`; `fclose` ends the stream even when it fails. -/
def updateFile (line : Nodedata UInt32 → Files.Text) (io : Files.Io)
    (nodes : List (Nodedata UInt32)) (file : Files.File) : Program (ℤ × Files.File) :=
  if io.fopen then do
    let fp ← acquire .stream
    match ← printEntries fp line io 0 nodes file.openTmp with
    | (false, file) =>
        release fp
        return (-1, file.unlinkTmp)
    | (true, file) =>
        access fp
        if io.fflush then
          access fp
          release fp
          if io.fclose ∧ io.rename then return (0, (file.syncTmp io.fsync).renameTmp)
          else return (-1, file.unlinkTmp)
        else
          release fp
          return (-1, file.unlinkTmp)
  else return (-1, file)

section Files

variable (line : Nodedata UInt32 → Files.Text) (io : Files.Io)

theorem meets_printEntries (fp : Item) (index : ℕ) (nodes : List (Nodedata UInt32))
    (file : Files.File) : Meets {fp} (printEntries fp line io index nodes file)
      (returns (Files.printEntries line io index nodes file) {fp}) := by
  induction nodes generalizing index file with
  | nil => exact meets_return _ {fp}
  | cons node nodes ih =>
      simp only [printEntries, Files.printEntries, ite_and]
      apply Meets.ite
      · apply meets_access (Finset.mem_singleton_self fp)
        apply Meets.ite
        · exact ih (index + 1) _
        · exact meets_return _ {fp}
      · exact meets_return _ {fp}

theorem meets_updateFile (nodes : List (Nodedata UInt32)) (file : Files.File) :
    Meets ∅ (updateFile line io nodes file) (returns (Files.updateFile line io nodes file) ∅) := by
  unfold updateFile Files.updateFile
  apply Meets.ite
  · apply meets_acquire
    intro fp _ fresh
    have owned := Finset.mem_insert_self fp ∅
    apply (meets_printEntries line io fp 0 nodes file.openTmp).borrow (by simp)
    rcases Files.printEntries line io 0 nodes file.openTmp with ⟨_ | _, file⟩
    · exact meets_close fresh _
    · simp only [ite_and]
      apply meets_access owned
      apply Meets.ite
      · apply meets_access owned
        apply meets_release_insert fresh
        apply Meets.ite
        · apply Meets.ite
          · exact meets_return _ ∅
          · exact meets_return _ ∅
        · exact meets_return _ ∅
      · exact meets_close fresh _
  · exact meets_return _ ∅

end Files

/-! ## Receiving a database -/

/--
`receive_db_on_socket_impl`, with the block of the database it returns. A block that
`realloc` makes smaller is still the block it was.
-/
def receiveDbOnSocketImpl (sock : Item) (granted : Bool) (received : Option Datagram) :
    Program (Option (Item × NodeinfoDatabase)) :=
  if granted then do
    let buf ← acquire .block
    access sock
    match received with
    | none =>
        release buf
        return none
    | some datagram =>
        if datagram.bytes.length = 0 then
          release buf
          return none
        else if datagram.bytes.length < nodeinfoDatabaseSize then
          release buf
          return none
        else
          access buf
          if rejected : datagram.bytes.length < expectedDatabaseSize sizeBits datagram.bytes then
            release buf
            return none
          else return some (buf, overlayNodeinfoDatabase datagram rejected)
  else return none

/-- `receive_nodeinfo_database_bound`. -/
def receiveNodeinfoDatabaseBound (answers : BoundAnswers) (granted : Bool) :
    Program (Option (Item × NodeinfoDatabase)) :=
  if answers.socket then do
    let sock ← acquire .descriptor
    access sock
    if answers.bind then
      let db ← receiveDbOnSocketImpl sock granted answers.reception.received
      release sock
      return db
    else
      release sock
      return none
  else return none

theorem meets_receiveDbOnSocketImpl {sock : Item} {mine : Finset Item} (owned : sock ∈ mine)
    (granted : Bool) (received : Option Datagram) :
    Meets mine (receiveDbOnSocketImpl sock granted received)
      (returnsNew .block (Wire.receiveDbOnSocketImpl granted received) mine) := by
  unfold receiveDbOnSocketImpl Wire.receiveDbOnSocketImpl
  split
  · apply meets_acquire
    intro buf isBlock fresh
    apply meets_access (Finset.mem_insert_of_mem owned)
    cases received with
    | none =>
        apply meets_release_insert fresh
        exact meets_returnNone _ mine
    | some datagram =>
        simp only []
        split
        · apply meets_release_insert fresh
          exact meets_returnNone _ mine
        · split
          · apply meets_release_insert fresh
            exact meets_returnNone _ mine
          · apply meets_access (Finset.mem_insert_self buf mine)
            split
            · apply meets_release_insert fresh
              exact meets_returnNone _ mine
            · exact meets_pure ⟨rfl, isBlock, fresh, rfl⟩
  · exact meets_returnNone _ mine

theorem meets_receiveNodeinfoDatabaseBound (answers : BoundAnswers) (granted : Bool) :
    Meets ∅ (receiveNodeinfoDatabaseBound answers granted)
      (returnsNew .block (Wire.receiveDbOnSocketImpl granted answers.received) ∅) := by
  have refused : Wire.receiveDbOnSocketImpl granted none = none := by
    unfold Wire.receiveDbOnSocketImpl
    split <;> rfl
  unfold receiveNodeinfoDatabaseBound BoundAnswers.received
  cases answers.socket with
  | false =>
      rw [if_neg (by decide), Bool.false_and, if_neg (by decide), refused]
      exact meets_returnNone _ ∅
  | true =>
      rw [if_pos rfl, Bool.true_and]
      apply meets_acquire
      intro sock isDescriptor fresh
      apply meets_access (Finset.mem_insert_self sock ∅)
      split
      · apply (meets_receiveDbOnSocketImpl (Finset.mem_insert_self sock ∅) granted _).bind
        rintro (_ | ⟨buf, contents⟩) left received
        · rcases received with ⟨nothing, rfl⟩
          apply meets_release_insert fresh
          rw [nothing]
          exact meets_returnNone _ ∅
        · rcases received with ⟨returned, isBlock, bufFresh, rfl⟩
          apply meets_release_older fresh bufFresh
          exact meets_pure ⟨returned, isBlock, Finset.notMem_empty buf, rfl⟩
      · rw [refused]
        apply meets_release_insert fresh
        exact meets_returnNone _ ∅

end NodeinfoSystem.Resources
