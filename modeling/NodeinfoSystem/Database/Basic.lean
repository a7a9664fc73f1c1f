import NodeinfoSystem.Foundation.SwapRemove
import NodeinfoSystem.Foundation.Transition
import NodeinfoSystem.Types

/-!
# The relay's database manager

The functions of `db_manager.c` over its three static variables. The answers of
the operating system are a parameter of each call: whether a port can be bound,
which may change from one probe to the next, and whether each `malloc` succeeds.
The state counts probes and allocations so that every one of them has an answer
of its own; it also counts the port searches that found nothing, which the
program only reports on `stderr`.

A function returns `none` where the C program has undefined behaviour: an `int`
that overflows, a null database, or an access outside the allocated block. The
block keeps the elements in use, and `fits` is the invariant that they are
inside it.
-/

namespace NodeinfoSystem.Database

/-- The block `g_db` points to: its capacity and the elements in use. -/
structure Block where
  maxSize : ℕ
  elements : List NodeinfoDatabaseElement
  /-- `current_size <= max_size`. -/
  fits : elements.length ≤ maxSize

/-- The static variables of `db_manager.c`, and the counters of the model. -/
structure State where
  gDb : Option Block
  gDbCapacity : ℤ
  nextPort : ℤ
  /-- Calls of `is_port_available_os` so far. -/
  probes : ℕ
  /-- Calls of `malloc` so far. -/
  allocations : ℕ
  /-- Calls of `find_next_free_port` that returned `-1` so far. -/
  failedSearches : ℕ

/-- What the operating system answers during one call. -/
structure Os where
  /-- The answer of the given probe for the given port. -/
  isPortAvailable : ℕ → ℤ → Bool
  malloc : ℕ → Bool

def portBase : ℤ := 10000

/-- The last port number a search looks at. -/
def portLast : ℤ := 65535

namespace State

def initial : State where
  gDb := none
  gDbCapacity := 0
  nextPort := 10000
  probes := 0
  allocations := 0
  failedSearches := 0

def entries (state : State) : List NodeinfoDatabaseElement :=
  match state.gDb with
  | none => []
  | some block => block.elements

@[simp]
theorem entries_initial : State.initial.entries = [] := rfl

end State

def allocate (os : Os) (state : State) : Bool × State :=
  (os.malloc state.allocations, { state with allocations := state.allocations + 1 })

/--
`while (new_cap < need) new_cap *= 2;`. A positive `int` can be doubled at most
30 times, so 32 rounds are more than the loop can make before it stops or
overflows.
-/
def growCapacity (need : ℤ) : ℕ → ℤ → Option ℤ
  | 0, _ => none
  | rounds + 1, capacity =>
      if capacity < need then
        match checkedInt (capacity * 2) with
        | none => none
        | some doubled => growCapacity need rounds doubled
      else some capacity

def ensureDbCapacity (os : Os) (need : ℤ) (state : State) : Option (ℤ × State) :=
  if state.gDb.isSome ∧ need ≤ state.gDbCapacity then some (0, state)
  else
    match growCapacity need 32 (if 0 < state.gDbCapacity then state.gDbCapacity else 16) with
    | none => none
    | some newCap =>
        match allocate os state with
        | (false, state) => some (-1, state)
        | (true, state) =>
            -- `memcpy` copies the elements in use into a block of `new_cap` slots
            if fits : state.entries.length ≤ newCap.toNat then
              some (0, { state with
                gDb := some ⟨newCap.toNat, state.entries, fits⟩
                gDbCapacity := newCap })
            else none

def usesPort (port : ℤ) (element : NodeinfoDatabaseElement) : Bool :=
  element.controlPortNum.toInt == port || element.messagePortNum.toInt == port

def isPortInDb (state : State) (port : ℤ) : Bool :=
  state.entries.any (usesPort port)

/--
One `for` loop of `find_next_free_port`: ports from `port` upwards, as many as
`count`. Returns the port found and the number of probes made so far.
-/
def scanPorts (os : Os) (state : State) : ℕ → ℤ → ℕ → Option ℤ × ℕ
  | 0, _, probes => (none, probes)
  | count + 1, port, probes =>
      if isPortInDb state port then scanPorts os state count (port + 1) probes
      else if os.isPortAvailable probes port then (some port, probes + 1)
      else scanPorts os state count (port + 1) (probes + 1)

/-- The first port of the search, after `if (next_port < PORT_BASE) next_port = PORT_BASE`. -/
def searchStart (state : State) : ℤ :=
  if state.nextPort < portBase then portBase else state.nextPort

def findNextFreePort (os : Os) (state : State) : ℤ × State :=
  let start := searchStart state
  match scanPorts os state (portLast + 1 - start).toNat start state.probes with
  | (some port, probes) => (port, { state with nextPort := port + 1, probes := probes })
  | (none, probes) =>
      match scanPorts os state (min start (portLast + 1) - portBase).toNat portBase probes with
      | (some port, probes) => (port, { state with nextPort := port + 1, probes := probes })
      | (none, probes) =>
          (-1, { state with
            nextPort := start
            probes := probes
            failedSearches := state.failedSearches + 1 })

def existsInDb (state : State) (networkId : Int32) (ipaddr : UInt32) : Bool :=
  state.entries.any fun element =>
    element.networkId == networkId && element.ipaddress == ipaddr

/-- The address of a list entry as the database stores it, `(uint32_t)nd->ipaddress`. -/
def storedAddress (node : Nodedata Int32) : UInt32 :=
  node.ipaddress.toUInt32

def ipPresentInList (list : NodedataList Int32) (ipaddr : UInt32) : Bool :=
  list.entries.any fun node => storedAddress node == ipaddr

/-- The test of the removal loop: an entry of the target network that the list lacks. -/
def isObsolete (list : NodedataList Int32) (element : NodeinfoDatabaseElement) : Bool :=
  element.networkId == list.networkId && !ipPresentInList list element.ipaddress

/-- The removal loop of `update_nodeinfo_database`. -/
def removeObsolete (list : NodedataList Int32) (state : State) : State :=
  match state.gDb with
  | none => state
  | some block =>
      { state with
        gDb := some {
          maxSize := block.maxSize
          elements := Foundation.removeWhere (isObsolete list) block.elements
          fits := Nat.le_trans (Foundation.length_removeWhere_le _ _) block.fits } }

/-- The growth branch of the add loop; the code is zero when there is room. -/
def growIfFull (os : Os) (state : State) : Option (ℤ × State) :=
  match state.gDb with
  | none => none
  | some block =>
      if block.maxSize ≤ block.elements.length then
        match checkedInt (block.elements.length + 1) with
        | none => none
        | some need => ensureDbCapacity os need state
      else some (0, state)

/-- `g_db->elements[g_db->current_size++] = element`. -/
def appendElement (element : NodeinfoDatabaseElement) (state : State) : Option State :=
  match state.gDb with
  | none => none
  | some block =>
      if room : block.elements.length < block.maxSize then
        some { state with
          gDb := some {
            maxSize := block.maxSize
            elements := block.elements ++ [element]
            fits := by simpa using Nat.succ_le_of_lt room } }
      else none

/-- The element the add loop writes for a list entry. -/
def newElement (networkId : Int32) (node : Nodedata Int32) (ctrlPort msgPort : ℤ) :
    NodeinfoDatabaseElement where
  networkId := networkId
  ipaddress := storedAddress node
  userid := node.userid
  cpuCoreNum := node.cpuCoreNum
  controlPortNum := Int32.ofInt ctrlPort
  messagePortNum := Int32.ofInt msgPort

/-- How one iteration of the add loop ends. -/
inductive Iteration where
  /-- The iteration ended, by `continue` or at the end of the body. -/
  | next (state : State)
  /-- The loop was left by `break`. -/
  | leave (state : State)

/-- The body of the add loop. -/
def addNode (os : Os) (networkId : Int32) (node : Nodedata Int32) (state : State) :
    Option Iteration :=
  if existsInDb state networkId (storedAddress node) then some (.next state)
  else
    match findNextFreePort os state with
    | (ctrlPort, state) =>
        if ctrlPort < 0 then some (.next state)
        else
          match findNextFreePort os state with
          | (msgPort, state) =>
              if msgPort < 0 then some (.next state)
              else
                match growIfFull os state with
                | none => none
                | some (grown, state) =>
                    if grown < 0 then some (.leave state)
                    else
                      (appendElement (newElement networkId node ctrlPort msgPort) state).map .next

def addNodes (os : Os) (networkId : Int32) : List (Nodedata Int32) → State → Option State
  | [], state => some state
  | node :: nodes, state =>
      match addNode os networkId node state with
      | none => none
      | some (.next state) => addNodes os networkId nodes state
      | some (.leave state) => some state

/-- The copy of the database that a successful update returns. -/
def Block.snapshot (block : Block) : NodeinfoDatabase where
  maxSize := Int32.ofInt block.elements.length
  currentSize := Int32.ofInt block.elements.length
  elements := block.elements
  inBounds := toInt_ofInt_natCast_le _

/--
`update_nodeinfo_database` for a list that is not null: the returned snapshot,
or `none` inside the result where the program returns `NULL`.
-/
def updateNodeinfoDatabase (os : Os) (list : NodedataList Int32) (state : State) :
    Option (Option NodeinfoDatabase × State) :=
  let state := removeObsolete list state
  match checkedInt (state.entries.length + list.currentSize.toInt) with
  | none => none
  | some needCapacity =>
      match ensureDbCapacity os (if needCapacity < 16 then 16 else needCapacity) state with
      | none => none
      | some (ensured, state) =>
          if ensured < 0 then some (none, state)
          else
            match addNodes os list.networkId list.entries state with
            | none => none
            | some state =>
                match state.gDb, allocate os state with
                | none, _ => none
                | some _, (false, state) => some (none, state)
                | some block, (true, state) => some (some block.snapshot, state)

/-- One call of `update_nodeinfo_database` with the answers it gets. -/
structure Call where
  os : Os
  list : NodedataList Int32

/-- The database manager: one step is one call of `update_nodeinfo_database`. -/
def manager : Foundation.TransitionSystem State Call where
  initial := State.initial
  step state call := (updateNodeinfoDatabase call.os call.list state).map Prod.snd

/-! ## A short history -/

def grantingOs : Os where
  isPortAvailable _ _ := true
  malloc _ := true

def singletonList (networkId ipaddress : Int32) : NodedataList Int32 where
  maxSize := 1
  currentSize := 1
  networkId := networkId
  nodedatas := [⟨ipaddress, 7, 4⟩]
  inBounds := by simp

/-- Two networks report one node each, then the first one reports another node. -/
def sampleCalls : List Call :=
  [⟨grantingOs, singletonList 1 21⟩, ⟨grantingOs, singletonList 2 22⟩,
    ⟨grantingOs, singletonList 1 23⟩]

/-- A list of network 1 that has each of its two nodes twice. -/
def repeatedList : NodedataList Int32 where
  maxSize := 4
  currentSize := 4
  networkId := 1
  nodedatas := [⟨21, 7, 4⟩, ⟨23, 8, 4⟩, ⟨21, 7, 4⟩, ⟨23, 9, 4⟩]
  inBounds := by decide

theorem exists_run_sampleCalls : ∃ state, manager.run sampleCalls = some state :=
  Option.isSome_iff_exists.mp (by decide)

end NodeinfoSystem.Database
