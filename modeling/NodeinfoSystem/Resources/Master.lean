import NodeinfoSystem.Collector.RelayTimeouts
import NodeinfoSystem.Resources.Deliveries

/-!
# What a master holds

Between two rounds a master holds the block of its list and, once it has fetched a
database, the block of the latest one: the older ones are freed, and every socket and
every file is closed.

This ends with the join that moves the list. `resize_nodedata_list` frees the block
that `nd_list` names, and the next access through `nd_list` is an access to a freed
block, in the same call of `add_nodedata_to_list`. Here the procedure is stuck.
-/

namespace NodeinfoSystem.Resources

open Foundation Wire
open Collector (Environment Exchange Garbage HostAnswers ListBlock Master MasterExit MasterStart
  MasterState Round ValidNode emptyList joinRequestCode masterProcedure masterStart resizedBlock
  timeoutCode)

/-- The item of a pointer that may be null. -/
def itemOf {Contents : Type} : Option (Item × Contents) → Finset Item
  | none => ∅
  | some (item, _) => {item}

/-- The variables of `run_master_node_procedure`, with the blocks the pointers name. -/
structure MasterOwner where
  ndList : Item
  master : Master
  gNodeinfoDb : Option (Item × NodeinfoDatabase)
  nodeinfo : Files.File
  hostfile : Files.File

namespace MasterOwner

variable (owner : MasterOwner)

def state : MasterState where
  master := owner.master
  gNodeinfoDb := owner.gNodeinfoDb.map Prod.snd
  nodeinfo := owner.nodeinfo
  hostfile := owner.hostfile

def owned : Finset Item :=
  insert owner.ndList (itemOf owner.gNodeinfoDb)

end MasterOwner

/-- The block that `nd_list` names has not been freed. -/
def Live (state : MasterState) : Prop :=
  (state.master.heap.load state.master.ndList).isSome

theorem not_live {state : MasterState}
    (dead : state.master.heap.load state.master.ndList = none) : ¬Live state := by
  rw [Live, dead]
  decide

/-- The pointers of a master name blocks, and not the same one. -/
structure MasterOwner.Sound (owner : MasterOwner) : Prop where
  live : Live owner.state
  list_isBlock : owner.ndList.kind = .block
  db_isBlock : ∀ item ∈ itemOf owner.gNodeinfoDb, item.kind = .block
  apart : owner.ndList ∉ itemOf owner.gNodeinfoDb

/-- What one round meets, down to the calls of `get_my_nodedata`. -/
structure HostedRound where
  round : Round
  memberHosts : Hosts round.members.myIp
  databaseHosts : Hosts round.databaseMembers.myIp

/-! ## The list -/

/-- `resize_nodedata_list`; the new block is forgotten when it returns. -/
def resizeNodedataList (list : Item) (env : Environment) (address : Address)
    (heap : Heap ListBlock) : Program (ℤ × Heap ListBlock) := do
  access list
  match env.malloc with
  | none => return (-1, heap)
  | some garbage =>
      let newList ← acquire .block
      access newList
      access list
      match heap.malloc (resizedBlock garbage (env.read address heap)) with
      | (_, heap) =>
          release list
          return (0, heap.free address)

def makeRoom (list : Item) (env : Environment) (address : Address) (heap : Heap ListBlock) :
    Program (ℤ × Heap ListBlock) := do
  access list
  if (env.read address heap).maxSize.toInt ≤ (env.read address heap).currentSize.toInt then
    resizeNodedataList list env address heap
  else return (0, heap)

def addNodedataToList (list : Item) (env : Environment) (node : Nodedata UInt32)
    (address : Address) (heap : Heap ListBlock) : Program (ℤ × Heap ListBlock) := do
  let (code, heap) ← makeRoom list env address heap
  if code < 0 then return (-1, heap)
  else
    access list
    return (0, heap.store address ((env.read address heap).push node))

section List

variable {list : Item} {mine : Finset Item} {env : Environment} {address : Address}
  {heap : Heap ListBlock}

/-- Either the list stays where it is, or it is moved and its item is given back. -/
theorem meets_makeRoom (owned : list ∈ mine) (env : Environment) (address : Address)
    (heap : Heap ListBlock) :
    (Meets mine (makeRoom list env address heap)
        (returns (Collector.makeRoom env address heap) mine) ∧
      (Collector.makeRoom env address heap).2 = heap) ∨
    (Meets mine (makeRoom list env address heap) fun result left =>
        result = Collector.makeRoom env address heap ∧ list ∉ left) ∧
      (Collector.makeRoom env address heap).1 = 0 ∧
      (Collector.makeRoom env address heap).2.load address = none := by
  unfold makeRoom Collector.makeRoom
  split
  · unfold resizeNodedataList Collector.resizeNodedataList
    cases env.malloc with
    | none =>
        left
        refine ⟨?_, rfl⟩
        apply meets_access owned
        apply meets_access owned
        exact meets_return _ mine
    | some garbage =>
        right
        refine ⟨?_, rfl, Heap.load_free _ address⟩
        apply meets_access owned
        apply meets_access owned
        apply meets_acquire
        intro newList _ fresh
        apply meets_access (Finset.mem_insert_self newList mine)
        apply meets_access (Finset.mem_insert_of_mem owned)
        apply meets_release (Finset.mem_insert_of_mem owned)
        apply meets_pure
        exact ⟨rfl, Finset.notMem_erase list _⟩
  · left
    refine ⟨?_, rfl⟩
    apply meets_access owned
    exact meets_return _ mine

/-- A join keeps the list, or it is stuck at the access that follows the move. -/
theorem addNodedataToList_cases {block : ListBlock} (owned : list ∈ mine) (node : Nodedata UInt32)
    (live : heap.load address = some block) :
    (Meets mine (addNodedataToList list env node address heap)
        (returns (Collector.addNodedataToList env node address heap) mine) ∧
      ((Collector.addNodedataToList env node address heap).2.load address).isSome) ∨
    Sticks mine (addNodedataToList list env node address heap) ∧
      (Collector.addNodedataToList env node address heap).2.load address = none := by
  have fate := meets_makeRoom owned env address heap
  unfold addNodedataToList Collector.addNodedataToList
  cases made : Collector.makeRoom env address heap with
  | mk code after =>
      rw [made] at fate
      rcases fate with ⟨meets, rfl⟩ | ⟨meets, rfl, dead⟩
      · left
        simp only []
        constructor
        · apply meets.borrow (Finset.Subset.refl mine)
          apply Meets.ite
          · exact meets_return _ mine
          · apply meets_access owned
            exact meets_return _ mine
        · split
          · rw [live]
            rfl
          · rw [Heap.load_store live]
            rfl
      · right
        simp only []
        rw [if_neg (by decide), Heap.store_of_dead dead]
        refine ⟨?_, dead⟩
        apply meets.sticks
        rintro _ left ⟨rfl, gone⟩
        simp only [lt_self_iff_false, if_false]
        exact sticks_access gone

end List

/-! ## Starting -/

/-- `create_nodedata_list`, which gives its block back when the own data are not valid. -/
def createNodedataList (host : HostAnswers) (malloc : Option Garbage) (me : Nodedata UInt32)
    (heap : Heap ListBlock) : Program (Option (Item × Address) × Heap ListBlock) :=
  match malloc with
  | none => return (none, heap)
  | some garbage => do
      let list ← acquire .block
      access list
      match heap.malloc (emptyList garbage) with
      | (address, heap) =>
          let _ ← ownAddress host
          if ValidNode me then
            access list
            return (some (list, address), heap.store address ((emptyList garbage).push me))
          else
            release list
            return (none, heap.free address)

/-- What the procedure meets before its loop, with the call of `get_my_nodedata`. -/
structure HostedStart where
  start : MasterStart
  host : HostAnswers
  address_eq : address host = start.me.ipaddress

/-- `run_master_node_procedure` up to its loop. -/
def startMaster (hosted : HostedStart) (nodeinfo hostfile : Files.File) :
    Program (Option MasterOwner) := do
  match ← createNodedataList hosted.host hosted.start.malloc hosted.start.me Heap.empty with
  | (none, _) => return none
  | (some (ndList, address), heap) =>
      let networkId ← requestJoinHugeCluster hosted.start.join
      if networkId ≠ isTimeout ∧ networkId.toInt < 0 then return none
      else
        access ndList
        match heap.load address with
        | none => return none
        | some block =>
            let heap := heap.store address { block with networkId := networkId }
            return some ⟨ndList, ⟨address, heap⟩, none, nodeinfo, hostfile⟩

theorem meets_createNodedataList (host : HostAnswers) (malloc : Option Garbage)
    (me : Nodedata UInt32) (heap : Heap ListBlock) :
    Meets ∅ (createNodedataList host malloc me heap) fun result left =>
      (result.1.map Prod.snd, result.2) = Collector.createNodedataList malloc me heap ∧
        left = itemOf result.1 ∧ ∀ item ∈ left, item.kind = .block := by
  unfold createNodedataList Collector.createNodedataList
  cases malloc with
  | none => exact meets_pure ⟨rfl, rfl, by simp⟩
  | some garbage =>
      apply meets_acquire
      intro list isBlock fresh
      have owned := Finset.mem_insert_self list ∅
      apply meets_access owned
      apply (meets_ownAddress host).call
      split
      · apply meets_access owned
        apply meets_pure
        exact ⟨rfl, rfl, by simpa using isBlock⟩
      · apply meets_release_insert fresh
        apply meets_pure
        exact ⟨rfl, rfl, by simp⟩

/-- A master that has started owns the block of its list. -/
theorem meets_startMaster {hosted : HostedStart} {nodeinfo hostfile : Files.File}
    {state : MasterState} (started : masterStart hosted.start nodeinfo hostfile = some state) :
    Meets ∅ (startMaster hosted nodeinfo hostfile) fun result left =>
      ∃ owner, result = some owner ∧ owner.state = state ∧ owner.Sound ∧ left = owner.owned := by
  rw [masterStart, Option.map_eq_some_iff] at started
  rcases started with ⟨master, started, rfl⟩
  unfold Collector.startMaster at started
  unfold startMaster
  apply (meets_createNodedataList _ _ _ _).bind
  rintro ⟨_ | ⟨ndList, address⟩, heap⟩ left ⟨created, rfl, isBlock⟩
  · rw [← created] at started
    contradiction
  · rw [← created] at started
    apply (meets_requestJoinHugeCluster _).call
    simp only [Option.map_some] at started
    split at started
    · contradiction
    · next joined =>
        rw [if_neg joined]
        apply meets_access (Finset.mem_singleton_self ndList)
        cases live : heap.load address with
        | none =>
            rw [live] at started
            contradiction
        | some block =>
            rw [live] at started
            obtain rfl := Option.some.inj started
            have stillLive := Heap.load_store live
              { block with networkId := Collector.requestJoinHugeCluster hosted.start.join }
            apply meets_pure
            refine ⟨_, rfl, rfl, ⟨?_, ?_, ?_, ?_⟩, rfl⟩
            · exact Option.isSome_of_eq_some stillLive
            · exact isBlock ndList (Finset.mem_singleton_self ndList)
            · simp [itemOf]
            · simp [itemOf]

/-! ## The stored database -/

/-- `free`, which does nothing for a null pointer. -/
def free {Contents : Type} : Option (Item × Contents) → Program PUnit
  | none => return ⟨⟩
  | some (item, _) => release item

/-- `fetch_nodeinfo_database`, with the block that `g_nodeinfo_db` names. -/
def fetchNodeinfoDatabase (granted : Bool) (exchange : Exchange)
    (gNodeinfoDb : Option (Item × NodeinfoDatabase)) :
    Program (ℤ × Option (Item × NodeinfoDatabase)) :=
  if exchange.socket then do
    let sock ← acquire .descriptor
    access sock
    if exchange.sendto then
      match ← receiveDbOnSocketImpl sock granted exchange.reply.received with
      | none =>
          release sock
          return (-1, gNodeinfoDb)
      | some (db, contents) =>
          free gNodeinfoDb
          access db
          release sock
          return (0, some (db, contents))
    else
      release sock
      return (-1, gNodeinfoDb)
  else return (-1, gNodeinfoDb)

theorem meets_free {Contents : Type} {stored : Option (Item × Contents)} {kept : Finset Item}
    (disjoint : Disjoint kept (itemOf stored)) :
    Meets (kept ∪ itemOf stored) (free stored) (returns ⟨⟩ kept) := by
  rcases stored with _ | ⟨item, contents⟩
  · rw [itemOf, Finset.union_empty]
    exact meets_return _ kept
  · rw [itemOf, Finset.union_comm]
    exact meets_released (Finset.disjoint_singleton_right.mp disjoint)

/-- The old database is freed exactly when a new one takes its place. -/
theorem meets_fetchNodeinfoDatabase (granted : Bool) (exchange : Exchange)
    (gNodeinfoDb : Option (Item × NodeinfoDatabase)) :
    Meets (itemOf gNodeinfoDb) (fetchNodeinfoDatabase granted exchange gNodeinfoDb)
      fun result left =>
        (result.1, result.2.map Prod.snd) =
          Collector.fetchNodeinfoDatabase granted exchange (gNodeinfoDb.map Prod.snd) ∧
        left = itemOf result.2 ∧
        ((∀ item ∈ itemOf gNodeinfoDb, item.kind = .block) →
          ∀ item ∈ itemOf result.2, item.kind = .block) := by
  unfold fetchNodeinfoDatabase Collector.fetchNodeinfoDatabase
  cases exchange.socket with
  | false => exact meets_pure ⟨rfl, rfl, id⟩
  | true =>
      rw [if_pos rfl, Bool.true_and]
      apply meets_acquire
      intro sock _ fresh
      have owned := Finset.mem_insert_self sock (itemOf gNodeinfoDb)
      apply meets_access owned
      cases exchange.sendto with
      | false =>
          apply meets_release_insert fresh
          exact meets_pure ⟨rfl, rfl, id⟩
      | true =>
          rw [if_pos rfl, if_pos rfl]
          apply (meets_receiveDbOnSocketImpl owned granted exchange.reply.received).bind
          rintro (_ | ⟨db, contents⟩) left received
          · rcases received with ⟨nothing, rfl⟩
            rw [nothing]
            apply meets_release_insert fresh
            exact meets_pure ⟨rfl, rfl, id⟩
          · rcases received with ⟨returned, isBlock, dbFresh, rfl⟩
            rw [returned]
            have split_eq : insert db (insert sock (itemOf gNodeinfoDb)) =
                insert db (insert sock ∅) ∪ itemOf gNodeinfoDb := by
              rw [Finset.insert_union, Finset.insert_union, Finset.empty_union]
            rw [Finset.mem_insert, not_or] at dbFresh
            have disjoint : Disjoint (insert db (insert sock ∅)) (itemOf gNodeinfoDb) := by
              rw [Finset.disjoint_insert_left, Finset.disjoint_insert_left]
              exact ⟨dbFresh.2, fresh, Finset.disjoint_empty_left _⟩
            rw [split_eq]
            apply (meets_free disjoint).bind
            rintro _ _ ⟨rfl, rfl⟩
            apply meets_access (Finset.mem_insert_self db _)
            apply meets_release_older (Finset.notMem_empty sock) (by simpa using dbFresh.1)
            apply meets_pure
            exact ⟨rfl, rfl, by simpa [itemOf] using fun _ => isBlock⟩

/-! ## The steps of a round -/

def addStep (round : Round) (code : ℤ) (node : Nodedata UInt32) (owner : MasterOwner) :
    Program (Status MasterExit MasterOwner) :=
  if code = joinRequestCode then do
    let (added, heap) ←
      addNodedataToList owner.ndList round.add node owner.master.ndList owner.master.heap
    return .check .addNodedata added { owner with master := { owner.master with heap := heap } }
  else return .waiting owner

section Steps

variable (hosted : HostedRound) (owner : MasterOwner)

def distributeListStep : Program (Status MasterExit MasterOwner) := do
  let code ← distributeNodedataList owner.ndList hosted.round.members hosted.memberHosts
    hosted.round.relay (owner.state.list hosted.round .distributeNodedataList)
  return .check .nodedataList code owner

def nodeinfoStep : Program (Status MasterExit MasterOwner) := do
  access owner.ndList
  let (code, nodeinfo) ← updateFile Files.nodeinfoLine hosted.round.nodeinfoIo
    (owner.state.list hosted.round .updateNodeinfo).entries owner.nodeinfo
  return .check .nodeinfo code { owner with nodeinfo := nodeinfo }

def hostfileStep : Program (Status MasterExit MasterOwner) := do
  access owner.ndList
  let (code, hostfile) ← updateFile Files.hostfileLine hosted.round.hostfileIo
    (owner.state.list hosted.round .updateHostfile).entries owner.hostfile
  return .check .hostfile code { owner with hostfile := hostfile }

def fetchStep : Program (Status MasterExit MasterOwner) := do
  let (code, db) ←
    fetchNodeinfoDatabase hosted.round.fetchGranted hosted.round.fetch owner.gNodeinfoDb
  return .check .fetch code { owner with gNodeinfoDb := db }

def distributeDatabaseStep : Program (Status MasterExit MasterOwner) := do
  let (code, _) ← distributeNodeinfoDatabase owner.ndList hosted.round.databaseMembers
    hosted.databaseHosts (owner.state.list hosted.round .distributeNodeinfoDatabase)
    owner.gNodeinfoDb
  return .check .nodeinfoDatabase code owner

def timeoutRound : Program (Status MasterExit MasterOwner) := do
  access owner.ndList
  if 0 < (owner.state.list hosted.round .timeoutBranch).networkId.toInt then
    fetchStep hosted owner >>= Status.proceed (distributeDatabaseStep hosted)
  else return .waiting owner

def fetchIfJoinedStep : Program (Status MasterExit MasterOwner) := do
  access owner.ndList
  if 0 < (owner.state.list hosted.round .fetch).networkId.toInt then fetchStep hosted owner
  else return .waiting owner

def requestRound (code : ℤ) (node : Nodedata UInt32) : Program (Status MasterExit MasterOwner) :=
  addStep hosted.round code node owner
    >>= Status.proceed (distributeListStep hosted)
    >>= Status.proceed (nodeinfoStep hosted)
    >>= Status.proceed (hostfileStep hosted)
    >>= Status.proceed (fetchIfJoinedStep hosted)
    >>= Status.proceed (distributeDatabaseStep hosted)

/-- One round of the loop of `run_master_node_procedure`. -/
def masterRound : Program (Status MasterExit MasterOwner) := do
  let code ← acceptMemberRequest hosted.round.control
  if code < 0 then return .returned .request owner
  else if code = timeoutCode then timeoutRound hosted owner
  else
    let nd ← receiveNodedata hosted.round.connection
    if ValidNode nd then requestRound hosted owner code nd
    else return .returned .nodedata owner

end Steps

/-- The program does what a step of the first model does, and what it owns stays sound. -/
def Performs (owner : MasterOwner) (program : Program (Status MasterExit MasterOwner))
    (status : Status MasterExit MasterState) : Prop :=
  Meets owner.owned program fun result left =>
    result.map MasterOwner.state = status ∧ result.state.Sound ∧ left = result.state.owned

section Performs

variable {owner : MasterOwner}

theorem performs_return {result : Status MasterExit MasterOwner} (sound : result.state.Sound)
    (owned_eq : owner.owned = result.state.owned) :
    Performs owner (return result) (result.map MasterOwner.state) :=
  meets_pure ⟨rfl, sound, owned_eq⟩

theorem performs_check {exit : MasterExit} {code : ℤ} {next : MasterOwner} (sound : next.Sound)
    (owned_eq : owner.owned = next.owned) :
    Performs owner (return .check exit code next) (.check exit code next.state) := by
  unfold Status.check
  split
  · exact performs_return sound owned_eq
  · exact performs_return sound owned_eq

theorem Performs.andThen {first : Program (Status MasterExit MasterOwner)}
    {rest : MasterOwner → Program (Status MasterExit MasterOwner)}
    {status : Status MasterExit MasterState} {model : MasterState → Status MasterExit MasterState}
    (performs : Performs owner first status)
    (goesOn : ∀ next : MasterOwner, next.Sound → Performs next (rest next) (model next.state)) :
    Performs owner (first >>= Status.proceed rest) (status.andThen model) := by
  apply performs.bind
  rintro (next | ⟨exit, next⟩) _ ⟨rfl, sound, rfl⟩
  · exact goesOn next sound
  · exact performs_return sound rfl

end Performs

section Sound

variable (hosted : HostedRound) {owner : MasterOwner} (sound : owner.Sound)
include sound

theorem performs_distributeListStep : Performs owner (distributeListStep hosted owner)
    (Collector.distributeListStep hosted.round owner.state) := by
  apply (meets_distributeNodedataList _ _ _ (Finset.mem_insert_self _ _) _).borrow
    (Finset.Subset.refl _)
  exact performs_check sound rfl

theorem performs_nodeinfoStep : Performs owner (nodeinfoStep hosted owner)
    (Collector.nodeinfoStep hosted.round owner.state) := by
  apply meets_access (Finset.mem_insert_self _ _)
  apply (meets_updateFile _ _ _ _).call
  exact performs_check ⟨sound.live, sound.list_isBlock, sound.db_isBlock, sound.apart⟩ rfl

theorem performs_hostfileStep : Performs owner (hostfileStep hosted owner)
    (Collector.hostfileStep hosted.round owner.state) := by
  apply meets_access (Finset.mem_insert_self _ _)
  apply (meets_updateFile _ _ _ _).call
  exact performs_check ⟨sound.live, sound.list_isBlock, sound.db_isBlock, sound.apart⟩ rfl

theorem performs_distributeDatabaseStep : Performs owner (distributeDatabaseStep hosted owner)
    (Collector.distributeDatabaseStep hosted.round owner.state) := by
  have stored (item : Item) (db : NodeinfoDatabase)
      (present : owner.gNodeinfoDb = some (item, db)) :
      item ∈ owner.owned := by
    rw [MasterOwner.owned, present]
    exact Finset.mem_insert_of_mem (Finset.mem_singleton_self item)
  apply (meets_distributeNodeinfoDatabase _ _ _ (Finset.mem_insert_self _ _) stored).borrow
    (Finset.Subset.refl _)
  exact performs_check sound rfl

theorem performs_fetchStep : Performs owner (fetchStep hosted owner)
    (Collector.fetchStep hosted.round owner.state) := by
  have owned_eq (other : MasterOwner) :
      other.owned = itemOf other.gNodeinfoDb ∪ {other.ndList} := by
    rw [Finset.union_comm]
    rfl
  have disjoint : Disjoint (itemOf owner.gNodeinfoDb) {owner.ndList} :=
    Finset.disjoint_singleton_right.mpr sound.apart
  unfold Performs Collector.fetchStep
  rw [owned_eq]
  apply ((meets_fetchNodeinfoDatabase _ _ _).frame disjoint).bind
  rintro ⟨code, db⟩ _ ⟨_, rfl, apart, fetched, rfl, isBlock⟩
  let next : MasterOwner := { owner with gNodeinfoDb := db }
  have nextSound : next.Sound :=
    ⟨sound.live, sound.list_isBlock, isBlock sound.db_isBlock,
      Finset.disjoint_singleton_right.mp apart⟩
  have performed : Performs next (return .check .fetch code next) (.check .fetch code next.state) :=
    performs_check nextSound rfl
  rw [Performs, owned_eq] at performed
  simp only [MasterOwner.state, ← fetched]
  exact performed

theorem performs_timeoutRound : Performs owner (timeoutRound hosted owner)
    (Collector.timeoutRound hosted.round owner.state) := by
  unfold timeoutRound Collector.timeoutRound
  apply meets_access (Finset.mem_insert_self _ _)
  split
  · apply (performs_fetchStep hosted sound).andThen
    intro next nextSound
    exact performs_distributeDatabaseStep hosted nextSound
  · exact performs_return sound rfl

theorem performs_fetchIfJoinedStep : Performs owner (fetchIfJoinedStep hosted owner)
    (Collector.fetchIfJoinedStep hosted.round owner.state) := by
  unfold fetchIfJoinedStep Collector.fetchIfJoinedStep
  apply meets_access (Finset.mem_insert_self _ _)
  split
  · exact performs_fetchStep hosted sound
  · exact performs_return sound rfl

/-- A join moves the list, and is stuck, exactly if it leaves a dead list behind. -/
theorem addStep_cases (code : ℤ) :
    Performs owner (addStep hosted.round code (Collector.receiveNodedata hosted.round.connection)
        owner) (Collector.addStep hosted.round code owner.state) ∨
      Sticks owner.owned (addStep hosted.round code
        (Collector.receiveNodedata hosted.round.connection) owner) ∧
      ¬Live (Collector.addStep hosted.round code owner.state).state := by
  rcases Option.isSome_iff_exists.mp sound.live with ⟨block, live⟩
  unfold addStep Collector.addStep
  split
  · rcases addNodedataToList_cases (Finset.mem_insert_self owner.ndList _)
      (Collector.receiveNodedata hosted.round.connection) live with
        ⟨meets, stillLive⟩ | ⟨sticks, dead⟩
    · left
      apply meets.borrow (Finset.Subset.refl _)
      exact performs_check ⟨stillLive, sound.list_isBlock, sound.db_isBlock, sound.apart⟩ rfl
    · right
      refine ⟨sticks.bind, ?_⟩
      rw [Status.state_check]
      exact not_live dead
  · left
    exact performs_return sound rfl

end Sound

/-! ## A list that has been freed -/

/-- A step after which a dead list is still dead. -/
def KeepsDead (step : MasterState → Status MasterExit MasterState) : Prop :=
  ∀ state, ¬Live state → ¬Live (step state).state

theorem KeepsDead.of_master_eq {step : MasterState → Status MasterExit MasterState}
    (master_eq : ∀ state, (step state).state.master = state.master) : KeepsDead step := by
  intro state dead
  rw [Live, master_eq]
  exact dead

theorem KeepsDead.after {rest : MasterState → Status MasterExit MasterState}
    (keeps : KeepsDead rest)
    {status : Status MasterExit MasterState} (dead : ¬Live status.state) :
    ¬Live (status.andThen rest).state := by
  cases status with
  | waiting state => exact keeps state dead
  | returned exit state => exact dead

theorem load_makeRoom_of_dead {env : Environment} {address : Address} {heap : Heap ListBlock}
    (dead : heap.load address = none) :
    (Collector.makeRoom env address heap).2.load address = none := by
  unfold Collector.makeRoom Collector.resizeNodedataList
  split
  · cases env.malloc with
    | none => exact dead
    | some garbage => exact Heap.load_free _ address
  · exact dead

section Dead

variable (round : Round)

theorem keepsDead_addStep (code : ℤ) : KeepsDead (Collector.addStep round code) := by
  intro state dead
  have gone : state.master.heap.load state.master.ndList = none := by simpa [Live] using dead
  have stillGone := @load_makeRoom_of_dead round.add _ _ gone
  unfold Collector.addStep
  split
  · rw [Status.state_check]
    apply not_live
    unfold Collector.addNodedataToList
    cases made : Collector.makeRoom round.add state.master.ndList state.master.heap with
    | mk code after =>
        rw [made] at stillGone
        simp only []
        rw [Heap.store_of_dead stillGone]
        split
        · exact stillGone
        · exact stillGone
  · exact dead

theorem keepsDead_distributeListStep : KeepsDead (Collector.distributeListStep round) := by
  apply KeepsDead.of_master_eq
  intro state
  rw [Collector.distributeListStep, Status.state_check]

theorem keepsDead_distributeDatabaseStep : KeepsDead (Collector.distributeDatabaseStep round) := by
  apply KeepsDead.of_master_eq
  intro state
  rw [Collector.distributeDatabaseStep, Status.state_check]

theorem keepsDead_nodeinfoStep : KeepsDead (Collector.nodeinfoStep round) := by
  apply KeepsDead.of_master_eq
  intro state
  rw [Collector.nodeinfoStep, Status.state_check]

theorem keepsDead_hostfileStep : KeepsDead (Collector.hostfileStep round) := by
  apply KeepsDead.of_master_eq
  intro state
  rw [Collector.hostfileStep, Status.state_check]

theorem keepsDead_fetchStep : KeepsDead (Collector.fetchStep round) := by
  apply KeepsDead.of_master_eq
  intro state
  rw [Collector.fetchStep, Status.state_check]

theorem keepsDead_fetchIfJoinedStep : KeepsDead (Collector.fetchIfJoinedStep round) := by
  intro state dead
  unfold Collector.fetchIfJoinedStep
  split
  · exact keepsDead_fetchStep round state dead
  · exact dead

/-- What follows the join in a round does not bring the list back. -/
theorem dead_requestRound {code : ℤ} {state : MasterState}
    (dead : ¬Live (Collector.addStep round code state).state) :
    ¬Live (Collector.requestRound round code state).state := by
  apply (keepsDead_distributeDatabaseStep round).after
  apply (keepsDead_fetchIfJoinedStep round).after
  apply (keepsDead_hostfileStep round).after
  apply (keepsDead_nodeinfoStep round).after
  apply (keepsDead_distributeListStep round).after
  exact dead

theorem keepsDead_masterRound : KeepsDead (Collector.masterRound round) := by
  intro state dead
  unfold Collector.masterRound
  dsimp only
  split
  · exact dead
  · split
    · unfold Collector.timeoutRound
      split
      · apply (keepsDead_distributeDatabaseStep round).after
        exact keepsDead_fetchStep round state dead
      · exact dead
    · split
      · exact dead_requestRound round (keepsDead_addStep round _ state dead)
      · exact dead

end Dead

/-! ## The procedure -/

theorem requestRound_cases (hosted : HostedRound) {owner : MasterOwner} (sound : owner.Sound)
    (code : ℤ) :
    Performs owner
        (requestRound hosted owner code (Collector.receiveNodedata hosted.round.connection))
        (Collector.requestRound hosted.round code owner.state) ∨
      Sticks owner.owned
        (requestRound hosted owner code (Collector.receiveNodedata hosted.round.connection)) ∧
      ¬Live (Collector.requestRound hosted.round code owner.state).state := by
  rcases addStep_cases hosted sound code with performs | ⟨sticks, dead⟩
  · left
    apply Performs.andThen
    · apply Performs.andThen
      · apply Performs.andThen
        · apply Performs.andThen
          · apply performs.andThen
            exact fun _ nextSound => performs_distributeListStep hosted nextSound
          · exact fun _ nextSound => performs_nodeinfoStep hosted nextSound
        · exact fun _ nextSound => performs_hostfileStep hosted nextSound
      · exact fun _ nextSound => performs_fetchIfJoinedStep hosted nextSound
    · exact fun _ nextSound => performs_distributeDatabaseStep hosted nextSound
  · right
    exact ⟨sticks.bind.bind.bind.bind.bind, dead_requestRound hosted.round dead⟩

/-- A round is performed as long as the list stays where it is, and is stuck otherwise. -/
theorem masterRound_cases (hosted : HostedRound) {owner : MasterOwner} (sound : owner.Sound) :
    Performs owner (masterRound hosted owner) (Collector.masterRound hosted.round owner.state) ∨
      Sticks owner.owned (masterRound hosted owner) ∧
        ¬Live (Collector.masterRound hosted.round owner.state).state := by
  have accepted := meets_acceptMemberRequest hosted.round.control
  have received := meets_receiveNodedata hosted.round.connection
  unfold masterRound Collector.masterRound
  dsimp only
  split
  · next refused =>
      left
      apply accepted.call
      rw [if_pos refused]
      exact performs_return sound rfl
  · next accepted_ =>
      split
      · next timeout =>
          left
          apply accepted.call
          rw [if_neg accepted_, if_pos timeout]
          exact performs_timeoutRound hosted sound
      · next request =>
          split
          · next valid =>
              rcases requestRound_cases hosted sound _ with performs | ⟨sticks, dead⟩
              · left
                apply accepted.call
                rw [if_neg accepted_, if_neg request]
                apply received.call
                rw [if_pos valid]
                exact performs
              · right
                refine ⟨?_, dead⟩
                apply accepted.call_sticks
                rw [if_neg accepted_, if_neg request]
                apply received.call_sticks
                rw [if_pos valid]
                exact sticks
          · next invalid =>
              left
              apply accepted.call
              rw [if_neg accepted_, if_neg request]
              apply received.call
              rw [if_neg invalid]
              exact performs_return sound rfl

theorem dead_of_runFrom {start : MasterState} {rounds : List Round}
    {before after : Status MasterExit MasterState}
    (ran : (masterProcedure start).runFrom before rounds = some after) (dead : ¬Live before.state) :
    ¬Live after.state := by
  have kept := @TransitionSystem.runFrom_preserves _ _ (masterProcedure start)
    (fun status => ¬Live status.state)
  apply kept _ ran dead
  intro status round next stepped dead
  cases status with
  | waiting state =>
      obtain rfl : Collector.masterRound round state = next := Option.some.inj stepped
      exact keepsDead_masterRound round state dead
  | returned exit state => contradiction

/-- By induction on the rounds: what decides is whether the list is live at the end. -/
theorem masterLoop_cases {start : MasterState} {rounds : List HostedRound} {owner : MasterOwner}
    {status : Status MasterExit MasterState} (sound : owner.Sound)
    (ran : (masterProcedure start).runFrom (.waiting owner.state) (rounds.map HostedRound.round) =
      some status) :
    (Live status.state →
      Performs owner (rounds.foldlM (Status.advance masterRound) (.waiting owner)) status) ∧
    (¬Live status.state →
      Sticks owner.owned (rounds.foldlM (Status.advance masterRound) (.waiting owner))) := by
  induction rounds generalizing owner with
  | nil =>
      obtain rfl : Status.waiting owner.state = status := Option.some.inj ran
      constructor
      · intro _
        exact performs_return sound rfl
      · intro dead
        exact absurd sound.live dead
  | cons hosted rounds ih =>
      rw [List.map_cons, TransitionSystem.runFrom_cons_eq_some] at ran
      rcases ran with ⟨next, stepped, rest⟩
      obtain rfl : Collector.masterRound hosted.round owner.state = next := Option.some.inj stepped
      rw [List.foldlM_cons]
      rcases masterRound_cases hosted sound with performs | ⟨sticks, dead⟩
      · have goesOn (result : Status MasterExit MasterOwner) (nextSound : result.state.Sound)
            (next_eq : result.map MasterOwner.state =
              Collector.masterRound hosted.round owner.state) :
            (Live status.state →
              Performs result.state (rounds.foldlM (Status.advance masterRound) result) status) ∧
            (¬Live status.state →
              Sticks result.state.owned (rounds.foldlM (Status.advance masterRound) result)) := by
          rw [← next_eq] at rest
          rcases result with next | ⟨exit, next⟩
          · exact ih nextSound rest
          · cases rounds with
            | nil =>
                obtain rfl : Status.returned exit next.state = status := Option.some.inj rest
                exact ⟨fun _ => performs_return nextSound rfl,
                  fun dead => absurd nextSound.live dead⟩
            | cons other rounds =>
                rw [List.map_cons, TransitionSystem.runFrom_cons_eq_some] at rest
                rcases rest with ⟨_, impossible, -⟩
                contradiction
        constructor
        · intro live
          apply performs.bind
          rintro result _ ⟨next_eq, nextSound, rfl⟩
          exact (goesOn result nextSound next_eq).1 live
        · intro dead
          apply performs.sticks
          rintro result _ ⟨next_eq, nextSound, rfl⟩
          exact (goesOn result nextSound next_eq).2 dead
      · have finallyDead := dead_of_runFrom rest dead
        constructor
        · intro live
          exact absurd live finallyDead
        · intro _
          exact sticks.bind

/-- `run_master_node_procedure`; none if it returns before its loop. -/
def runMasterNodeProcedure (hosted : HostedStart) (rounds : List HostedRound)
    (nodeinfo hostfile : Files.File) : Program (Option (Status MasterExit MasterOwner)) := do
  match ← startMaster hosted nodeinfo hostfile with
  | none => return none
  | some owner =>
      let status ← rounds.foldlM (Status.advance masterRound) (.waiting owner)
      return some status

/-- The blocks of a master: its list, and the database it has stored. -/
def blockCount (state : MasterState) : ℕ :=
  if state.gNodeinfoDb.isSome then 2 else 1

theorem MasterOwner.Sound.blocks {owner : MasterOwner} (sound : owner.Sound) :
    Blocks (blockCount owner.state) owner.owned := by
  have apart := sound.apart
  have isBlock := sound.db_isBlock
  constructor
  · rw [owned, Finset.card_insert_of_notMem apart]
    unfold blockCount state
    rcases owner.gNodeinfoDb with _ | ⟨item, db⟩
    · rfl
    · simp [itemOf]
  · intro item item_mem
    rcases Finset.mem_insert.mp item_mem with rfl | stored
    · exact sound.list_isBlock
    · exact isBlock item stored

/--
A run of the master ends without the use of anything freed or closed exactly if its list
block is still live. It then holds the block that `nd_list` names and the one that
`g_nodeinfo_db` names, if there is one, and nothing else, however many rounds it has made.
-/
theorem master_holds (hosted : HostedStart) (nodeinfo hostfile : Files.File) (state : MasterState)
    (rounds : List HostedRound) (status : Status MasterExit MasterState)
    (started : masterStart hosted.start nodeinfo hostfile = some state)
    (ran : (masterProcedure state).run (rounds.map HostedRound.round) = some status) :
    (Live status.state → ∃ outcome holdings,
      runMasterNodeProcedure hosted rounds nodeinfo hostfile (Holdings.none Kind) =
        some (some outcome, holdings) ∧
      outcome.map MasterOwner.state = status ∧ outcome.state.Sound ∧
      holdings.held = outcome.state.owned ∧ Blocks (blockCount status.state) holdings.held) ∧
    (¬Live status.state →
      runMasterNodeProcedure hosted rounds nodeinfo hostfile (Holdings.none Kind) = none) := by
  constructor
  · intro live
    have performed : Meets ∅ (runMasterNodeProcedure hosted rounds nodeinfo hostfile)
        fun result left => ∃ outcome, result = some outcome ∧
          outcome.map MasterOwner.state = status ∧ outcome.state.Sound ∧
            left = outcome.state.owned := by
      apply (meets_startMaster started).bind
      rintro _ _ ⟨owner, rfl, rfl, sound, rfl⟩
      apply ((masterLoop_cases sound ran).1 live).bind
      rintro outcome _ ⟨rfl, lastSound, rfl⟩
      apply meets_pure
      exact ⟨outcome, rfl, rfl, lastSound, rfl⟩
    rcases performed.run with ⟨_, holdings, ran_eq, outcome, rfl, outcome_eq, lastSound, held_eq⟩
    refine ⟨outcome, holdings, ran_eq, outcome_eq, lastSound, held_eq, ?_⟩
    rw [held_eq, ← outcome_eq, Status.state_map]
    exact lastSound.blocks
  · intro dead
    apply (meets_startMaster started).sticks
    · rintro _ _ ⟨owner, rfl, rfl, sound, rfl⟩
      exact ((masterLoop_cases sound ran).2 dead).bind
    · rfl

/-- A host with the single interface address 1. -/
def oneInterface : HostAnswers where
  getifaddrs := some [⟨some ⟨true, 1⟩, false⟩]
  socket := false
  connect := false
  getsockname := none
  pwName := none
  cores := 4

def joinedHost : HostedStart where
  start := Collector.joinedStart
  host := oneInterface
  address_eq := by decide

/-- A round in which the relay sends its database. -/
def fetchingRound (reception : Reception) : HostedRound where
  round := Collector.sampleRound reception (.datagram Collector.databaseReply)
  memberHosts := ⟨fun _ => oneInterface, fun _ => joinedHost.address_eq⟩
  databaseHosts := ⟨fun _ => oneInterface, fun _ => joinedHost.address_eq⟩

/-- A node joins, and both this round and the next one fetch a database. -/
def fetchingRun : List HostedRound :=
  [fetchingRound (.datagram Collector.helloMessage), fetchingRound .timeout]

theorem master_holds_fetchingRun : ∃ state status outcome holdings,
    masterStart joinedHost.start ⟨none, none⟩ ⟨none, none⟩ = some state ∧
    (masterProcedure state).run (fetchingRun.map HostedRound.round) = some status ∧
    runMasterNodeProcedure joinedHost fetchingRun ⟨none, none⟩ ⟨none, none⟩
      (Holdings.none Kind) = some (some outcome, holdings) ∧
    outcome.map MasterOwner.state = status ∧ outcome.state.Sound ∧
    holdings.held = outcome.state.owned ∧ Blocks 2 holdings.held := by
  obtain ⟨outcome, holdings, ran, result⟩ := (master_holds joinedHost ⟨none, none⟩
    ⟨none, none⟩ _ fetchingRun _ rfl rfl).1 rfl
  exact ⟨_, _, outcome, holdings, rfl, rfl, ran, result⟩

end NodeinfoSystem.Resources
