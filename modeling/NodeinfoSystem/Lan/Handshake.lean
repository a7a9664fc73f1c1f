import NodeinfoSystem.Lan.Traffic

/-!
# A master and its client

Between the reply to a request and the nodedata, a master deals with one client.
What the two have between them is a reply, or the client about to connect, or a
connection, and never two of these.
-/

namespace NodeinfoSystem.Lan

open Foundation

/-- The client a master has replied to. -/
def Phase.client? : Phase → Option Endpoint
  | .master (.closing client _) => some client
  | .master (.preparing client _) => some client
  | .master (.accepting client _) => some client
  | .master (.receiving client _) => some client
  | _ => none

/-- Whether a master has replied and does not listen yet. -/
def Phase.opens : Phase → Bool
  | .master (.closing _ _) => true
  | .master (.preparing _ _) => true
  | _ => false

/-- The client and the server of a connection that carries nodedata. -/
def Connection.carried (connection : Connection) : Option (Host × Host) :=
  match connection.stream with
  | .sent _ => some (connection.client, connection.server)
  | _ => none

/-- Whether a packet is a master's reply to a request. -/
def isReply (master : Host) (packet : Packet Endpoint Message) : Bool :=
  packet.source == ⟨master, .ctrl⟩ &&
    match packet.payload with
    | .welcome => true
    | .byeNode => true
    | _ => false

def replies (net : LanNetwork) (master : Host) : Multiset (Packet Endpoint Message) :=
  net.packets.filter (isReply master · = true)

def backlog (connections : List Connection) (server : Host) : ℕ :=
  connections.countP (·.server = server)

/-! ## The stages of a handshake -/

/-- What a master that has replied and its client have between them. -/
structure Serving (net : LanNetwork) (hosts : Host → HostState) (connections : List Connection)
    (master : Host) (client : Endpoint) : Prop where
  once : (replies net master).card +
    (if (hosts client.host).phase = .member (.connecting master) then 1 else 0) +
      backlog connections master ≤ 1
  addressee : ∀ packet ∈ replies net master, packet.destination = client
  connecting : ∀ name, (hosts name).phase = .member (.connecting master) → client.host = name

/-- A host as a master: nothing is left over between two requests. -/
structure Stage (net : LanNetwork) (hosts : Host → HostState) (connections : List Connection)
    (master : Host) : Prop where
  idle : (hosts master).phase.client? = none →
    replies net master = 0 ∧ ∀ name, (hosts name).phase ≠ .member (.connecting master)
  serving : ∀ client, (hosts master).phase.client? = some client →
    Serving net hosts connections master client
  deaf : (hosts master).phase.listens = false → backlog connections master = 0
  receiving : ∀ client code, (hosts master).phase = .master (.receiving client code) →
    0 < backlog connections master

/-- Nothing is added to what a master and its client have between them. -/
structure Fewer (net next : LanNetwork) (hosts new : Host → HostState) (master : Host) : Prop where
  replies : replies next master ≤ replies net master
  connecting : ∀ name, (new name).phase = .member (.connecting master) →
    (hosts name).phase = .member (.connecting master)

/-- A host goes on with the same client, or with none. -/
structure SameClient (connections : List Connection) (name : Host) (old new : Phase) : Prop where
  client_eq : new.client? = old.client?
  deaf : new.listens = false → old.listens = false
  receiving : ∀ client code, new = .master (.receiving client code) → 0 < backlog connections name

theorem Phase.listens_of_client?_eq_none {phase : Phase} (idle : phase.client? = none) :
    phase.listens = false := by
  cases phase with
  | master masterPhase =>
      cases masterPhase with
      | accepting | receiving => contradiction
      | _ => rfl
  | _ => rfl

theorem Phase.client?_of_idle {phase : Phase} (idle : phase.runs = false) :
    phase.client? = none := by
  cases phase with
  | master => contradiction
  | _ => rfl

theorem SameClient.idle {connections : List Connection} {name : Host} {old new : Phase}
    (before : old.client? = none) (after : new.client? = none) :
    SameClient connections name old new where
  client_eq := by rw [before, after]
  deaf _ := Phase.listens_of_client?_eq_none before
  receiving client code phase_eq := by
    rw [phase_eq] at after
    contradiction

theorem Phase.opens_of_deaf {phase : Phase} {client : Endpoint}
    (serving : phase.client? = some client)
    (deaf : phase.listens = false) : phase.opens = true := by
  cases phase with
  | master masterPhase =>
      cases masterPhase with
      | closing | preparing => rfl
      | _ => contradiction
  | _ => contradiction

section

variable {net next : LanNetwork} {hosts new : Host → HostState}
  {connections updated : List Connection} {name master : Host} {host : HostState}

theorem replies_of_owned {sent : Multiset (Packet Endpoint Message)}
    (owned : Owned name sent net next) (noReply : ∀ packet ∈ sent, isReply master packet = false) :
    replies next master ≤ replies net master := by
  rcases owned.packets with ⟨dropped, -, packets_eq⟩
  have none : sent.filter (isReply master · = true) = 0 :=
    Multiset.filter_eq_nil.mpr (by simpa using noReply)
  have filtered := congrArg (Multiset.filter (isReply master · = true)) packets_eq
  rw [Multiset.filter_add, Multiset.filter_add, none, Multiset.zero_add] at filtered
  rw [replies, replies, ← filtered]
  exact Multiset.le_add_right _ _

theorem isReply_of_sends {packet : Packet Endpoint Message} (sends : Sends name host packet)
    (silent : ∀ client code, host.phase ≠ .master (.replying client code)) :
    isReply master packet = false := by
  cases sends with
  | reply phase_eq => exact absurd phase_eq (silent _ _)
  | acknowledgement | invitation | payload => simp [isReply]

theorem Fewer.of_owned {sent : Multiset (Packet Endpoint Message)}
    (owned : Owned name sent net next)
    (noReply : ∀ packet ∈ sent, isReply master packet = false)
    (elsewhere : host.phase ≠ .member (.connecting master)) :
    Fewer net next hosts (Function.update hosts name host) master where
  replies := replies_of_owned owned noReply
  connecting other phase_eq := by
    by_cases same : other = name
    · subst other
      exact absurd (by simpa using phase_eq) elsewhere
    · simpa [same] using phase_eq

theorem Stage.advance (stage : Stage net hosts connections master)
    (fewer : Fewer net next hosts new master)
    (client_eq : (new master).phase.client? = (hosts master).phase.client?)
    (backlog_eq : backlog updated master = backlog connections master)
    (deaf : (new master).phase.listens = false → (hosts master).phase.listens = false)
    (receiving : ∀ client code, (new master).phase = .master (.receiving client code) →
      0 < backlog connections master) :
    Stage next new updated master := by
  refine ⟨?_, ?_, ?_, ?_⟩
  · intro idle
    rw [client_eq] at idle
    rcases stage.idle idle with ⟨none, nobody⟩
    refine ⟨Multiset.le_zero.mp (none ▸ fewer.replies), ?_⟩
    intro name phase_eq
    exact nobody name (fewer.connecting name phase_eq)
  · intro client serving
    rw [client_eq] at serving
    rcases stage.serving client serving with ⟨once, addressee, connecting⟩
    refine ⟨?_, ?_, ?_⟩
    · have cards := Multiset.card_le_card fewer.replies
      have flags : (if (new client.host).phase = .member (.connecting master) then 1 else 0) ≤
          if (hosts client.host).phase = .member (.connecting master) then 1 else 0 := by
        split
        · next phase_eq => rw [if_pos (fewer.connecting _ phase_eq)]
        · exact Nat.zero_le _
      omega
    · intro packet packet_mem
      exact addressee packet (Multiset.mem_of_le fewer.replies packet_mem)
    · intro name phase_eq
      exact connecting name (fewer.connecting name phase_eq)
  · intro silent
    rw [backlog_eq]
    exact stage.deaf (deaf silent)
  · intro client code phase_eq
    rw [backlog_eq]
    exact receiving client code phase_eq

theorem Stage.update (stage : Stage net hosts connections master)
    {sent : Multiset (Packet Endpoint Message)} (owned : Owned name sent net next)
    (noReply : ∀ packet ∈ sent, isReply master packet = false)
    (elsewhere : host.phase ≠ .member (.connecting master))
    (backlog_eq : backlog updated master = backlog connections master)
    (same : master = name → SameClient connections name (hosts name).phase host.phase) :
    Stage next (Function.update hosts name host) updated master := by
  have fewer : Fewer net next hosts (Function.update hosts name host) master :=
    Fewer.of_owned owned noReply elsewhere
  by_cases self : master = name
  · subst master
    rcases same rfl with ⟨client_eq, deaf, receiving⟩
    refine stage.advance fewer ?_ backlog_eq ?_ ?_
    all_goals simp only [Function.update_self]
    · exact client_eq
    · exact deaf
    · exact receiving
  · refine stage.advance fewer ?_ backlog_eq ?_ ?_
    all_goals simp only [Function.update_of_ne self]
    · exact id
    · exact stage.receiving

theorem Stage.done (stage : Stage net hosts connections master)
    (done : (hosts master).phase.client? = none ∨
      ∃ client code, (hosts master).phase = .master (.receiving client code)) :
    replies net master = 0 ∧ ∀ name, (hosts name).phase ≠ .member (.connecting master) := by
  rcases done with idle | ⟨client, code, phase_eq⟩
  · exact stage.idle idle
  · have serving := stage.serving client (by rw [phase_eq]; rfl)
    have once := serving.once
    have waiting := stage.receiving client code phase_eq
    refine ⟨?_, ?_⟩
    · apply Multiset.card_eq_zero.mp
      omega
    · intro name connecting
      rw [serving.connecting name connecting, if_pos connecting] at once
      omega

theorem Stage.backlog_le (stage : Stage net hosts connections master) :
    backlog connections master ≤ 1 := by
  cases client_eq : (hosts master).phase.client? with
  | none =>
      rw [stage.deaf (Phase.listens_of_client?_eq_none client_eq)]
      exact Nat.zero_le 1
  | some client =>
      have once := (stage.serving client client_eq).once
      omega

end

/-! ## Connections -/

section

variable {connections : List Connection} {name server : Host}

theorem backlog_pos {connection : Connection} (connection_mem : connection ∈ connections) :
    0 < backlog connections connection.server :=
  List.countP_pos_iff.mpr ⟨connection, connection_mem, by simp⟩

theorem backlog_append (connection : Connection) :
    backlog (connections ++ [connection]) server =
      backlog connections server + if connection.server = server then 1 else 0 := by
  simp only [backlog, List.countP_append, List.countP_singleton, decide_eq_true_eq]

theorem backlog_map {change : Connection → Connection}
    (kept : ∀ connection, (change connection).server = connection.server) :
    backlog (connections.map change) server = backlog connections server := by
  simp only [backlog, List.countP_map]
  apply List.countP_congr
  intro connection _
  simp [kept]

theorem backlog_filter_self : backlog (connections.filter (·.server ≠ name)) name = 0 := by
  simp [backlog, List.countP_filter]

theorem backlog_filter_of_ne (different : server ≠ name) :
    backlog (connections.filter (·.server ≠ name)) server = backlog connections server := by
  simp only [backlog, List.countP_filter]
  apply List.countP_congr
  intro connection _
  by_cases same : connection.server = server <;> simp [same, different]

theorem filter_eq_self_of_backlog (empty : backlog connections name = 0) :
    connections.filter (·.server ≠ name) = connections := by
  rw [List.filter_eq_self]
  intro connection connection_mem
  simpa using List.countP_eq_zero.mp empty connection connection_mem

theorem filter_eq_singleton {connection : Connection} (connection_mem : connection ∈ connections)
    (single : backlog connections connection.server ≤ 1) :
    connections.filter (·.server = connection.server) = [connection] := by
  have filtered_mem : connection ∈ connections.filter (·.server = connection.server) :=
    List.mem_filter.mpr ⟨connection_mem, by simp⟩
  rw [backlog, List.countP_eq_length_filter] at single
  rcases List.exists_cons_of_ne_nil (List.ne_nil_of_mem filtered_mem) with ⟨head, rest, filtered⟩
  rw [filtered, List.length_cons] at single
  obtain rfl : rest = [] := List.length_eq_zero_iff.mp (by omega)
  rw [filtered, List.mem_singleton] at filtered_mem
  rw [filtered, filtered_mem]

theorem firstConnection_of_mem {connection : Connection} (connection_mem : connection ∈ connections)
    (single : backlog connections connection.server ≤ 1) :
    firstConnection connection.server connections = some connection := by
  rw [firstConnection, ← List.head?_filter, filter_eq_singleton connection_mem single]
  rfl

theorem server_of_first {connection : Connection}
    (first : firstConnection name connections = some connection) : connection.server = name := by
  have here := List.find?_some first
  simpa only [decide_eq_true_eq] using here

theorem perm_cons_filter {connection : Connection}
    (first : firstConnection name connections = some connection)
    (single : backlog connections name ≤ 1) :
    connections.Perm (connection :: connections.filter (·.server ≠ name)) := by
  obtain rfl := server_of_first first
  have parted := List.filter_append_perm (·.server = connection.server) connections
  rw [filter_eq_singleton (List.mem_of_find?_eq_some first) single] at parted
  simpa using parted.symm

theorem perm_carried {connection : Connection}
    (first : firstConnection name connections = some connection)
    (single : backlog connections name ≤ 1) :
    (connections.filterMap Connection.carried).Perm (connection.carried.toList ++
      (connections.filter (·.server ≠ name)).filterMap Connection.carried) := by
  have parted := (perm_cons_filter first single).filterMap Connection.carried
  rw [List.filterMap_cons] at parted
  cases carried_eq : connection.carried with
  | none => simpa [carried_eq] using parted
  | some pair => simpa [carried_eq] using parted

theorem taken_of_first {connection : Connection} {node : Nodedata UInt32}
    (first : firstConnection name connections = some connection)
    (stream_eq : connection.stream = .sent node) (received : List (Host × Host)) :
    (connection.client, name) :: received = connection.carried.toList ++ received := by
  simp [Connection.carried, stream_eq, server_of_first first]

theorem not_open_of_first {connection : Connection}
    (first : firstConnection name connections = some connection)
    (single : backlog connections name ≤ 1) (stream_ne : connection.stream ≠ .open)
    (client : Host) :
    ⟨client, name, .open⟩ ∉ connections := by
  intro open_
  rcases List.mem_cons.mp ((perm_cons_filter first single).mem_iff.mp open_) with same | other
  · exact stream_ne (same ▸ rfl)
  · simp at other

@[simp]
theorem server_carry (client : Host) (nodedata : Nodedata UInt32) (connection : Connection) :
    (connection.carry client server nodedata).server = connection.server := by
  simp only [Connection.carry]
  split <;> rfl

@[simp]
theorem server_abandon (client : Host) (connection : Connection) :
    (connection.abandon client).server = connection.server := by
  simp only [Connection.abandon]
  split <;> rfl

theorem carried_abandon (client : Host) (connection : Connection) :
    (connection.abandon client).carried = connection.carried := by
  simp only [Connection.abandon]
  split
  · next guard => simp [Connection.carried, guard.2]
  · rfl

/-- What the connections carry after a client has sent its nodedata on one of them. -/
theorem filterMap_carry {client : Host} (nodedata : Nodedata UInt32)
    (open_ : ⟨client, server, .open⟩ ∈ connections) (single : backlog connections server ≤ 1) :
    ((connections.map (·.carry client server nodedata)).filterMap Connection.carried).Perm
      ((client, server) :: connections.filterMap Connection.carried) := by
  induction connections with
  | nil => simp at open_
  | cons connection rest ih =>
      rw [List.map_cons, List.filterMap_cons, List.filterMap_cons]
      rw [backlog, List.countP_cons] at single
      rcases List.mem_cons.mp open_ with rfl | later
      · have unchanged : rest.map (·.carry client server nodedata) = rest := by
          refine (List.map_congr_left ?_).trans (List.map_id rest)
          intro other other_mem
          have elsewhere : other.server ≠ server := by
            intro here
            have waiting := backlog_pos other_mem
            simp only [here, backlog, decide_true, if_true] at waiting single
            omega
          simp [Connection.carry, elsewhere]
        rw [unchanged]
        simp [Connection.carry, Connection.carried]
      · have waiting := backlog_pos later
        simp only [backlog] at waiting
        have elsewhere : connection.server ≠ server := by
          intro here
          simp only [here, decide_true, if_true] at single
          omega
        have unchanged : connection.carry client server nodedata = connection := by
          simp [Connection.carry, elsewhere]
        have sent := ih later (by simp only [backlog]; omega)
        rw [unchanged]
        cases connection.carried with
        | none => exact sent
        | some pair => exact (sent.cons pair).trans (List.Perm.swap _ _ _)

end

end NodeinfoSystem.Lan
