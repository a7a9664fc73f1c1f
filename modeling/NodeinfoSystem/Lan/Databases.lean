import NodeinfoSystem.Lan.Lists

/-!
# The databases of a LAN

A master keeps the database it fetched last and forwards it to the members in its
list. A second history says which databases were fetched and which were accepted:
whatever the datagrams do on their way, a member accepts no other database than
those that its master has fetched.
-/

namespace NodeinfoSystem.Lan

open Foundation Wire

/-- A database that a member has accepted. -/
structure Forwarded where
  member : Host
  master : Host
  db : NodeinfoDatabase

structure Ledger where
  /-- What the masters have received from the relay. -/
  fetched : List (Host × NodeinfoDatabase)
  accepted : List Forwarded

/-- The database that a member reads next, when it waits for one. -/
def State.databaseRead (state : State) (member : Host) : Option (Endpoint × NodeinfoDatabase) :=
  match state.dataRead .nodeinfoDatabase member with
  | none => none
  | some (source, datagram) =>
      (receiveDbOnSocketImpl true (some datagram)).map fun db => (source, db)

namespace Ledger

def initial : Ledger := ⟨[], []⟩

def record (state : State) (action : Action) (_next : State) (ledger : Ledger) : Ledger :=
  match action with
  | .masterFetch name received =>
      match receiveDbOnSocketImpl true (some received) with
      | none => ledger
      | some db => { ledger with fetched := (name, db) :: ledger.fetched }
  | .receiveData name =>
      match state.databaseRead name with
      | none => ledger
      | some (source, db) =>
          { ledger with accepted := ⟨name, source.host, db⟩ :: ledger.accepted }
  | _ => ledger

end Ledger

/-- The hosts of a LAN, and the databases of their run. -/
def ledgered : TransitionSystem (State × Ledger) Action :=
  lan.observe Ledger.initial Ledger.record

/-! ## What is sent -/

/-- Every datagram under way was there before, or is sent in this step. -/
theorem sends_of_step {state next : State} {action : Action} (step : Step state action next)
    {packet : Packet Endpoint Message} (packet_mem : packet ∈ next.net.packets) :
    packet ∈ state.net.packets ∨ packet.payload = .hello ∨
      ∃ name, Sends name (state.hosts name) packet := by
  have silent {name : Host} {net : LanNetwork} (owned : Owned name 0 state.net net)
      (there : packet ∈ net.packets) : packet ∈ state.net.packets := by
    rcases owned.mem_or_sent there with new | old
    · simp at new
    · exact old
  cases step with
  | deliver delivered =>
      exact Or.inl (Multiset.mem_of_le (Network.packets_deliver_le delivered) packet_mem)
  | start =>
      rcases Network.mem_packets_broadcast packet_mem with old | ⟨endpoint, -, rfl⟩
      · exact Or.inl (silent (Owned.openSocket _ _ _) old)
      · exact Or.inr (Or.inl rfl)
  | receiveReply _ received | receiveData _ received =>
      exact Or.inl (silent ((Owned.receive received).trans (Owned.close _ _ _)) packet_mem)
  | joinTimeout | masterTimeout | masterClose =>
      exact Or.inl (silent (Owned.close _ _ _) packet_mem)
  | connect | send | masterStart | masterListen | masterAccept => exact Or.inl packet_mem
  | refused | unknown | badData | refuseNodedata | stop =>
      exact Or.inl (silent (Owned.closeWhere _ _) packet_mem)
  | openControl | openData | masterOpen | masterRecv =>
      exact Or.inl (silent (Owned.openSocket _ _ _) packet_mem)
  | identify _ received | masterReceive _ received =>
      exact Or.inl (silent (Owned.receive received) packet_mem)
  | @acknowledge name peer kind phase_eq =>
      have owned := (Owned.send name ⟨⟨name, .ctrl⟩, peer, .readyRecv kind⟩ state.net).trans
        (Owned.close name .ctrl _)
      rcases owned.mem_or_sent packet_mem with new | old
      · rw [Multiset.zero_add, Multiset.mem_singleton] at new
        exact Or.inr (Or.inr ⟨name, new ▸ .acknowledgement phase_eq⟩)
      · exact Or.inl old
  | @masterReply name client code phase_eq =>
      rcases (Owned.send name ⟨⟨name, .ctrl⟩, client, code.reply⟩ _).mem_or_sent packet_mem with
        new | old
      · exact Or.inr (Or.inr ⟨name, Multiset.mem_singleton.mp new ▸ .reply phase_eq⟩)
      · exact Or.inl old
  | @busy action name before after sockets database sent net phase_eq before_busy after_busy owned
      sent_ok =>
      rcases owned.mem_or_sent packet_mem with new | old
      · exact Or.inr (Or.inr ⟨name, sent_ok packet new⟩)
      · exact Or.inl old

/-! ## Runs -/

/-- The datagram is a database that its sender has fetched. -/
def Forwards (ledger : Ledger) (packet : Packet Endpoint Message) : Prop :=
  ∀ datagram, packet.payload = .payload datagram →
    ∃ db, (packet.source.host, db) ∈ ledger.fetched ∧ Collector.databasePayload db = some datagram

structure Fetched (state : State) (ledger : Ledger) : Prop where
  database : ∀ name, ∀ db ∈ (state.hosts name).database, (name, db) ∈ ledger.fetched
  payloads : ∀ packet ∈ state.net.packets, packet.destination.port = .data .nodeinfoDatabase →
    Forwards ledger packet
  accepted : ∀ forwarded ∈ ledger.accepted, ∃ db, (forwarded.master, db) ∈ ledger.fetched ∧
    forwarded.db.maxSize = db.maxSize ∧ forwarded.db.currentSize = db.currentSize ∧
    forwarded.db.entries = db.entries

section Record

variable {state next : State} {action : Action} {ledger : Ledger}

theorem fetched_record : ledger.fetched ⊆ (ledger.record state action next).fetched := by
  cases action with
  | masterFetch =>
      simp only [Ledger.record]
      split
      · exact fun _ entry_mem => entry_mem
      · exact List.subset_cons_self _ _
  | receiveData =>
      simp only [Ledger.record]
      split <;> exact fun _ entry_mem => entry_mem
  | _ => exact fun _ entry_mem => entry_mem

theorem accepted_ledger {forwarded : Forwarded}
    (forwarded_mem : forwarded ∈ (ledger.record state action next).accepted) :
    forwarded ∈ ledger.accepted ∨ ∃ source,
      state.databaseRead forwarded.member = some (source, forwarded.db) ∧
      forwarded.master = source.host := by
  cases action with
  | masterFetch =>
      simp only [Ledger.record] at forwarded_mem
      split at forwarded_mem <;> exact Or.inl forwarded_mem
  | receiveData name =>
      simp only [Ledger.record] at forwarded_mem
      split at forwarded_mem
      · exact Or.inl forwarded_mem
      · next source db read =>
          rcases List.mem_cons.mp forwarded_mem with rfl | old
          · exact Or.inr ⟨source, read, rfl⟩
          · exact Or.inl old
  | _ => exact Or.inl forwarded_mem

/-- A host's database is the one it had, or the one it has just fetched. -/
theorem database_record (stepped : lan.step state action = some next) {name : Host}
    {db : NodeinfoDatabase} (has : db ∈ (next.hosts name).database) :
    db ∈ (state.hosts name).database ∨ (name, db) ∈ (ledger.record state action next).fetched := by
  cases ListStep.of_step stepped with
  | quiet unserved => exact Or.inl (unserved.database name ▸ has)
  | @begin master =>
      by_cases same : name = master
      · subst name
        simp [State.put] at has
      · exact Or.inl (by simpa [State.put, same] using has)
  | @join master _ _ _ _ _ _ _ _ _ _ _ hosts_eq =>
      rw [hosts_eq] at has
      by_cases same : name = master
      · subst name
        exact Or.inl (by simpa using has)
      · exact Or.inl (by simpa [same] using has)
  | @serve master =>
      by_cases same : name = master
      · subst name
        exact Or.inl (by simpa [State.move, State.put] using has)
      · exact Or.inl (by simpa [State.move, State.put, same] using has)
  | @fetch master received fetched next read unserved =>
      rw [unserved.database] at has
      by_cases same : name = master
      · subst name
        obtain rfl : fetched = db := by simpa [State.put] using has
        exact Or.inr (by simp [Ledger.record, read])
      · exact Or.inl (by simpa [State.put, same] using has)

end Record

theorem Forwards.of_subset {ledger later : Ledger} {packet : Packet Endpoint Message}
    (forwards : Forwards ledger packet) (more : ledger.fetched ⊆ later.fetched) :
    Forwards later packet := by
  intro datagram payload_eq
  rcases forwards datagram payload_eq with ⟨db, db_mem, sent⟩
  exact ⟨db, more db_mem, sent⟩

namespace Fetched

variable {state next : State} {action : Action} {ledger : Ledger}

theorem of_sends (fetched : Fetched state ledger) {name : Host}
    {packet : Packet Endpoint Message} (sends : Sends name (state.hosts name) packet)
    (here : packet.destination.port = .data .nodeinfoDatabase) : Forwards ledger packet := by
  intro datagram payload_eq
  cases sends with
  | payload number target sent =>
      obtain rfl := Port.data.inj here
      obtain rfl := Message.payload.inj payload_eq
      rcases Option.bind_eq_some_iff.mp sent with ⟨db, has, sent⟩
      exact ⟨db, fetched.database name db has, sent⟩
  | @reply client code => cases code <;> contradiction
  | acknowledgement | invitation => contradiction

theorem of_databaseRead (fetched : Fetched state ledger) {member : Host} {source : Endpoint}
    {received : NodeinfoDatabase} (read : state.databaseRead member = some (source, received)) :
    ∃ db, (source.host, db) ∈ ledger.fetched ∧ received.maxSize = db.maxSize ∧
      received.currentSize = db.currentSize ∧ received.entries = db.entries := by
  simp only [State.databaseRead] at read
  split at read
  · contradiction
  · next origin datagram reads =>
      rcases Option.map_eq_some_iff.mp read with ⟨accepted, accepted_eq, same⟩
      obtain ⟨rfl, rfl⟩ := Prod.mk.inj same
      rcases fetched.payloads _ (mem_packets_of_dataRead reads) rfl datagram rfl with
        ⟨db, db_mem, sent⟩
      rcases Collector.receiveDb_of_databasePayload sent with ⟨received, received_eq, equal⟩
      obtain rfl : received = accepted := Option.some.inj (received_eq.symm.trans accepted_eq)
      exact ⟨db, db_mem, equal⟩

theorem step (fetched : Fetched state ledger) (stepped : lan.step state action = some next) :
    Fetched next (ledger.record state action next) where
  database name db has := by
    rcases database_record stepped has with old | new
    · exact fetched_record (fetched.database name db old)
    · exact new
  payloads packet packet_mem here := by
    rcases sends_of_step (Step.of_step stepped) packet_mem with old | hello | ⟨name, sends⟩
    · exact (fetched.payloads packet old here).of_subset fetched_record
    · intro datagram payload_eq
      rw [hello] at payload_eq
      contradiction
    · exact (fetched.of_sends sends here).of_subset fetched_record
  accepted forwarded forwarded_mem := by
    rcases accepted_ledger forwarded_mem with old | ⟨source, read, master_eq⟩
    · rcases fetched.accepted forwarded old with ⟨db, db_mem, equal⟩
      exact ⟨db, fetched_record db_mem, equal⟩
    · rcases fetched.of_databaseRead read with ⟨db, db_mem, equal⟩
      exact ⟨db, fetched_record (master_eq ▸ db_mem), equal⟩

end Fetched

theorem fetched_inductive :
    ledgered.Inductive (fun _ _ => True) fun state => Fetched state.1 state.2 where
  initial := {
    database := by simp [ledgered, TransitionSystem.observe, lan, State.initial]
    payloads := by simp [ledgered, TransitionSystem.observe, lan, State.initial]
    accepted := by simp [ledgered, TransitionSystem.observe, Ledger.initial] }
  preserved stepped _ fetched := by
    rcases TransitionSystem.observe_step_eq_some.mp stepped with ⟨base, recorded⟩
    exact recorded ▸ fetched.step base

/--
In every run, a database that a member accepts from a master is one that this master
has fetched, with the same sizes and the same elements.
-/
theorem databases_forwarded (state : State) (ledger : Ledger)
    (reached : ledgered.Reachable (state, ledger)) (forwarded : Forwarded)
    (accepted : forwarded ∈ ledger.accepted) :
    ∃ db, (forwarded.master, db) ∈ ledger.fetched ∧ forwarded.db.maxSize = db.maxSize ∧
      forwarded.db.currentSize = db.currentSize ∧ forwarded.db.entries = db.entries :=
  (fetched_inductive.holds reached).accepted forwarded accepted

/-- A database of one node. -/
def oneNodeDatabase : NodeinfoDatabase where
  maxSize := 1
  currentSize := 1
  elements := [⟨1, 2, 0, 4, 10000, 10001⟩]
  inBounds := by decide

def oneNodeReply : Datagram where
  bytes := encodeNodeinfoDatabase oneNodeDatabase
  fits := by decide

/-- Host 2 joins a master of the huge cluster and gets the list, and then the database. -/
def forwardedRun : List Action :=
  [.start 1, .joinTimeout 1, .masterStart 1 Collector.zeros 0 4 1, .masterOpen 1] ++ joinRun 2 ++
    acceptRun 2 ++ [.distribute 1, .masterRelay 1, .masterFetch 1 oneNodeReply, .distribute 1] ++
    acceptRun 2

theorem databases_forwarded_forwardedRun : ∃ state ledger forwarded,
    ledgered.run forwardedRun = some (state, ledger) ∧ forwarded ∈ ledger.accepted ∧
      ∃ db, (forwarded.master, db) ∈ ledger.fetched ∧ forwarded.db.maxSize = db.maxSize ∧
        forwarded.db.currentSize = db.currentSize ∧ forwarded.db.entries = db.entries := by
  have ended : (ledgered.run forwardedRun).map (fun state => state.2.accepted.length) = some 1 := by
    decide +kernel
  rcases Option.map_eq_some_iff.mp ended with ⟨⟨state, ledger⟩, ran, length_eq⟩
  have some_accepted : 0 < ledger.accepted.length := by
    simp only at length_eq
    omega
  rcases List.exists_mem_of_length_pos some_accepted with ⟨forwarded, accepted⟩
  exact ⟨state, ledger, forwarded, ran, accepted, databases_forwarded state ledger
    (TransitionSystem.reachable_of_run ran) forwarded accepted⟩

end NodeinfoSystem.Lan
