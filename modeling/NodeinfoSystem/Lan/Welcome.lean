import NodeinfoSystem.Lan.Handshake

/-!
# From the welcome to the nodedata

A master sends `Welcome_node!`, closes the control socket, and only then opens
the socket that the welcomed node connects to. The node connects as soon as it
has the welcome. The invariant says at which stage of the handshake every master
is, and that nodedata which has been sent is still on its connection.
-/

namespace NodeinfoSystem.Lan

open Foundation

/-- Every welcomed node's nodedata is on its way to a master that takes it. -/
structure Served (state : State) : Prop where
  /-- No `connect` finds nobody listening. -/
  notRefused : ∀ name, (state.hosts name).phase ≠ .exited .connectRefused
  /-- The master of a node about to connect is dealing with that node. -/
  expected : ∀ name master, (state.hosts name).phase = .member (.connecting master) →
    ∃ client, (state.hosts master).phase.client? = some client ∧ client.host = name
  connected : ∀ name master, (state.hosts name).phase = .member (.connected master) →
    ⟨name, master, .open⟩ ∈ state.connections
  listening : ∀ connection ∈ state.connections,
    (state.hosts connection.server).phase.listens = true
  /-- Nodedata is neither lost nor duplicated. -/
  nodedata : state.sent.Perm (state.received ++ state.connections.filterMap Connection.carried)
  /-- What has been sent is received in the next steps of the master. -/
  arrives : ∀ connection ∈ state.connections, ∀ node, connection.stream = .sent node → ∀ stale,
    ∃ actions final, List.Sublist actions
        [.masterAccept connection.server, .masterRecv connection.server stale] ∧
      lan.runFrom state actions = some final ∧
        final.received = (connection.client, connection.server) :: state.received
  /-- No master waits for a node that was refused. -/
  accepting : ∀ master client code, (state.hosts master).phase = .master (.accepting client code) →
    (state.hosts client.host).phase ≠ .exited .connectRefused

/-- Whether a host stops for a reason of its own. -/
def Action.fails : Action → Bool
  | .fail _ => true
  | _ => false

/-- Whether a node connects between the reply and the `listen` of its master. -/
def State.connectsEarly (state : State) : Action → Bool
  | .connect name =>
      match (state.hosts name).phase with
      | .member (.connecting master) => (state.hosts master).phase.opens
      | _ => false
  | _ => false

/-- All system calls succeed, and no `connect` comes too early. -/
def Timely (state : State) (action : Action) : Prop :=
  action.fails = false ∧ state.connectsEarly action = false

instance (state : State) (action : Action) : Decidable (Timely state action) :=
  inferInstanceAs (Decidable (_ ∧ _))

/-! ## Steps -/

/-- Whether a phase has nothing to do with connecting to a master. -/
def Phase.plain : Phase → Bool
  | .member (.connecting _) => false
  | .member (.connected _) => false
  | .exited .connectRefused => false
  | _ => true

theorem Phase.ne_of_plain {phase : Phase} (plain : phase.plain = true) :
    (∀ master, phase ≠ .member (.connecting master)) ∧
      (∀ master, phase ≠ .member (.connected master)) ∧ phase ≠ .exited .connectRefused := by
  refine ⟨?_, ?_, ?_⟩
  · rintro master rfl
    contradiction
  · rintro master rfl
    contradiction
  · rintro rfl
    contradiction

structure Welcomed (net : LanNetwork) (hosts : Host → HostState) (connections : List Connection)
    (sent received : List (Host × Host)) : Prop where
  stage : ∀ master, Stage net hosts connections master
  connected : ∀ name master, (hosts name).phase = .member (.connected master) →
    ⟨name, master, .open⟩ ∈ connections
  nodedata : sent.Perm (received ++ connections.filterMap Connection.carried)
  notRefused : ∀ name, (hosts name).phase ≠ .exited .connectRefused

namespace Welcomed

variable {net next : LanNetwork} {hosts : Host → HostState} {connections : List Connection}
  {sent received : List (Host × Host)} {name : Host} {host : HostState}

theorem connected_update (welcomed : Welcomed net hosts connections sent received)
    (plain : host.phase.plain = true) (other master : Host)
    (phase_eq : (Function.update hosts name host other).phase = .member (.connected master)) :
    other ≠ name ∧ ⟨other, master, .open⟩ ∈ connections := by
  by_cases same : other = name
  · subst other
    rw [Function.update_self] at phase_eq
    exact absurd phase_eq ((Phase.ne_of_plain plain).2.1 master)
  · exact ⟨same, welcomed.connected other master (by simpa [same] using phase_eq)⟩

theorem notRefused_update (welcomed : Welcomed net hosts connections sent received)
    (notRefused : host.phase ≠ .exited .connectRefused) (other : Host) :
    (Function.update hosts name host other).phase ≠ .exited .connectRefused := by
  by_cases same : other = name
  · subst other
    simpa using notRefused
  · simpa [same] using welcomed.notRefused other

theorem update (welcomed : Welcomed net hosts connections sent received)
    {packets : Multiset (Packet Endpoint Message)} (owned : Owned name packets net next)
    (noReply : ∀ packet ∈ packets, ∀ master, isReply master packet = false)
    (plain : host.phase.plain = true)
    (same : SameClient connections name (hosts name).phase host.phase) :
    Welcomed next (Function.update hosts name host) connections sent received := by
  refine ⟨?_, ?_, welcomed.nodedata, ?_⟩
  · intro master
    exact (welcomed.stage master).update owned
      (fun packet packet_mem => noReply packet packet_mem master)
      ((Phase.ne_of_plain plain).1 master) rfl (fun _ => same)
  · intro other master phase_eq
    exact (welcomed.connected_update plain other master phase_eq).2
  · exact welcomed.notRefused_update (Phase.ne_of_plain plain).2.2

theorem fewer_packets (welcomed : Welcomed net hosts connections sent received)
    (fewer : ∀ master, replies next master ≤ replies net master) :
    Welcomed next hosts connections sent received where
  stage master := (welcomed.stage master).advance ⟨fewer master, fun _ => id⟩ rfl rfl id
    (welcomed.stage master).receiving
  connected := welcomed.connected
  nodedata := welcomed.nodedata
  notRefused := welcomed.notRefused

theorem deliver (welcomed : Welcomed net hosts connections sent received) {index : ℕ}
    (delivered : net.deliver index = some next) :
    Welcomed next hosts connections sent received := by
  apply welcomed.fewer_packets
  intro master
  apply Multiset.filter_le_filter
  exact Network.packets_deliver_le delivered

theorem broadcast (welcomed : Welcomed net hosts connections sent received) (number : ℕ) :
    Welcomed (net.broadcast ⟨name, .join number⟩ (·.port == .ctrl) .hello) hosts connections sent
      received := by
  apply welcomed.fewer_packets
  intro master
  apply le_of_eq
  have none : Multiset.filter (isReply master · = true)
      ((net.bound.filter (·.port == .ctrl)).map fun destination =>
        (⟨⟨name, .join number⟩, destination, .hello⟩ : Packet Endpoint Message) : List _) = 0 := by
    rw [Multiset.filter_eq_nil]
    intro packet packet_mem
    rcases List.mem_map.mp (Multiset.mem_coe.mp packet_mem) with ⟨endpoint, -, rfl⟩
    simp [isReply]
  rw [replies, Network.packets_broadcast, Multiset.filter_add, none, Multiset.add_zero, replies]

theorem stage_receiveReply {master : Host} (stage : Stage net hosts connections master)
    {packet : Packet Endpoint Message} (idle : (hosts name).phase.client? = none)
    (here : packet.destination.host = name)
    (before : replies net master = packet ::ₘ replies next master) :
    Stage next (Function.update hosts name host) connections master := by
  cases client_eq : (hosts master).phase.client? with
  | none =>
      have empty := (stage.idle client_eq).1
      rw [before] at empty
      exact absurd empty Multiset.cons_ne_zero
  | some client =>
      rcases stage.serving client client_eq with ⟨once, addressee, connecting⟩
      rw [before, Multiset.card_cons] at once
      have none : replies next master = 0 := Multiset.card_eq_zero.mp (by omega)
      have unconnected : backlog connections master = 0 := by omega
      have host_eq : client.host = name := by
        rw [← addressee packet (before ▸ Multiset.mem_cons_self _ _), here]
      have different : master ≠ name := by
        rintro rfl
        rw [idle] at client_eq
        contradiction
      refine ⟨?_, ?_, fun _ => unconnected, ?_⟩
      · intro idle
        rw [Function.update_of_ne different, client_eq] at idle
        contradiction
      · intro other serves
        rw [Function.update_of_ne different, client_eq, Option.some.injEq] at serves
        subst other
        refine ⟨?_, by simp [none], ?_⟩
        · rw [none, unconnected, Multiset.card_zero]
          split <;> omega
        · intro other phase_eq
          by_cases same : other = name
          · rw [host_eq, same]
          · exact connecting other (by simpa [same] using phase_eq)
      · intro other code receiving
        rw [Function.update_of_ne different] at receiving
        have waiting := stage.receiving other code receiving
        omega

theorem receiveReply (welcomed : Welcomed net hosts connections sent received)
    (shaped : Shaped net hosts) {number : ℕ} {packet : Packet Endpoint Message}
    (phase_eq : (hosts name).phase = .member (.awaiting number))
    (taken : net.receive ⟨name, .join number⟩ = some (packet, next)) :
    Welcomed (next.close ⟨name, .join number⟩)
      (Function.update hosts name
        { hosts name with phase := .member (.connecting packet.source.host) })
      connections sent received := by
  rcases Network.receive_effect taken with ⟨-, here, packet_mem, packets_eq⟩
  rcases shaped.of_join (Network.mem_packets.mpr (Or.inr packet_mem)) here with
    ⟨master, code, source_eq, payload_eq⟩
  have idle : (hosts name).phase.client? = none := by
    rw [phase_eq]
    rfl
  have reply : isReply master packet = true := by
    cases code <;> simp [isReply, source_eq, payload_eq, RequestCode.reply]
  have before : replies net master = packet ::ₘ replies next master := by
    rw [replies, packets_eq]
    exact Multiset.filter_cons_of_pos next.packets reply
  rw [source_eq]
  apply fewer_packets _ (fun _ => replies_of_owned (Owned.close name (.join number) next) (by simp))
  refine ⟨?_, ?_, welcomed.nodedata, ?_⟩
  · intro other
    by_cases same : other = master
    · subst other
      exact stage_receiveReply (welcomed.stage master) idle (by rw [here]) before
    · apply (welcomed.stage other).update (Owned.receive taken) (by simp) _ rfl
        (fun _ => SameClient.idle idle rfl)
      simp only [ne_eq, Phase.member.injEq, MemberPhase.connecting.injEq]
      exact fun master_eq => same master_eq.symm
  · intro other server connected
    by_cases self : other = name
    · subst other
      simp at connected
    · exact welcomed.connected other server (by simpa [self] using connected)
  · exact welcomed.notRefused_update (by simp)

theorem stage_connect {master : Host} (stage : Stage net hosts connections master)
    (phase_eq : (hosts name).phase = .member (.connecting master))
    (listening : (hosts master).phase.listens = true)
    (elsewhere : host.phase ≠ .member (.connecting master)) :
    Stage net (Function.update hosts name host)
      (connections ++ [⟨name, master, .open⟩]) master := by
  have different : master ≠ name := by
    rintro rfl
    rw [phase_eq] at listening
    contradiction
  have more : backlog (connections ++ [⟨name, master, .open⟩]) master =
      backlog connections master + 1 := by
    rw [backlog_append, if_pos rfl]
  cases client_eq : (hosts master).phase.client? with
  | none => exact absurd phase_eq ((stage.idle client_eq).2 name)
  | some client =>
      rcases stage.serving client client_eq with ⟨once, addressee, connecting⟩
      have host_eq := connecting name phase_eq
      rw [host_eq, if_pos phase_eq] at once
      refine ⟨?_, ?_, ?_, ?_⟩
      · intro idle
        rw [Function.update_of_ne different, client_eq] at idle
        contradiction
      · intro other serves
        rw [Function.update_of_ne different, client_eq, Option.some.injEq] at serves
        subst other
        refine ⟨?_, addressee, ?_⟩
        · rw [host_eq, Function.update_self, if_neg elsewhere, more]
          omega
        · intro other other_eq
          by_cases same : other = name
          · rw [host_eq, same]
          · exact connecting other (by simpa [same] using other_eq)
      · intro deaf
        rw [Function.update_of_ne different, listening] at deaf
        contradiction
      · intro _ _ _
        rw [more]
        exact Nat.succ_pos _

theorem connect (welcomed : Welcomed net hosts connections sent received) {master : Host}
    (phase_eq : (hosts name).phase = .member (.connecting master))
    (listening : (hosts master).phase.listens = true) :
    Welcomed net
      (Function.update hosts name { hosts name with phase := .member (.connected master) })
      (connections ++ [⟨name, master, .open⟩]) sent received := by
  refine ⟨?_, ?_, ?_, ?_⟩
  · intro other
    by_cases same : other = master
    · subst other
      exact stage_connect (welcomed.stage master) phase_eq listening (by simp)
    · apply (welcomed.stage other).update (Owned.refl name net) (by simp) (by simp)
      · rw [backlog_append, if_neg (Ne.symm same), Nat.add_zero]
      · intro _
        exact SameClient.idle (by rw [phase_eq]; rfl) rfl
  · intro other server connected
    by_cases same : other = name
    · subst other
      simp only [Function.update_self, Phase.member.injEq, MemberPhase.connected.injEq] at connected
      simp [connected]
    · apply List.mem_append_left
      exact welcomed.connected other server (by simpa [same] using connected)
  · have nothing :
        [(⟨name, master, .open⟩ : Connection)].filterMap Connection.carried = [] := rfl
    rw [List.filterMap_append, nothing, List.append_nil]
    exact welcomed.nodedata
  · exact welcomed.notRefused_update (by simp)

theorem send (welcomed : Welcomed net hosts connections sent received) {master : Host}
    (phase_eq : (hosts name).phase = .member (.connected master)) (nodedata : Nodedata UInt32) :
    Welcomed net (Function.update hosts name { hosts name with phase := .member .looping })
      (connections.map (·.carry name master nodedata)) ((name, master) :: sent) received := by
  refine ⟨?_, ?_, ?_, ?_⟩
  · intro other
    apply (welcomed.stage other).update (Owned.refl name net) (by simp) (by simp)
    · exact backlog_map (fun connection => by simp)
    · intro _
      exact SameClient.idle (by rw [phase_eq]; rfl) rfl
  · intro other server connected
    rcases welcomed.connected_update rfl other server connected with ⟨different, open_⟩
    refine List.mem_map.mpr ⟨_, open_, ?_⟩
    simp [Connection.carry, different]
  · have carried := filterMap_carry nodedata (welcomed.connected name master phase_eq)
      (welcomed.stage master).backlog_le
    exact ((welcomed.nodedata.cons (name, master)).trans List.perm_middle.symm).trans
      (carried.symm.append_left received)
  · exact welcomed.notRefused_update (by simp)

theorem masterReply (welcomed : Welcomed net hosts connections sent received) {client : Endpoint}
    {code : RequestCode} (phase_eq : (hosts name).phase = .master (.replying client code)) :
    Welcomed (net.send ⟨⟨name, .ctrl⟩, client, code.reply⟩)
      (Function.update hosts name { hosts name with phase := .master (.closing client code) })
      connections sent received := by
  have owned := Owned.send name ⟨⟨name, .ctrl⟩, client, code.reply⟩ net
  refine ⟨?_, ?_, welcomed.nodedata, ?_⟩
  · intro other
    by_cases same : other = name
    · subst other
      have stage := welcomed.stage name
      rcases stage.idle (by rw [phase_eq]; rfl) with ⟨none, nobody⟩
      have unconnected := stage.deaf (by rw [phase_eq]; rfl)
      have one : replies (net.send ⟨⟨name, .ctrl⟩, client, code.reply⟩) name =
          {⟨⟨name, .ctrl⟩, client, code.reply⟩} := by
        rw [replies, Network.packets_send, Multiset.filter_cons_of_pos, ← replies, none]
        · rfl
        · cases code <;> simp [isReply, RequestCode.reply]
      have nobody_after (other : Host) : (Function.update hosts name
          { hosts name with phase := .master (.closing client code) } other).phase ≠
            .member (.connecting name) := by
        by_cases same : other = name
        · subst other
          simp
        · simpa [same] using nobody other
      refine ⟨?_, ?_, fun _ => unconnected, ?_⟩
      · intro idle
        simp [Phase.client?] at idle
      · intro other serves
        obtain rfl : client = other := by simpa [Phase.client?] using serves
        refine ⟨?_, ?_, ?_⟩
        · rw [one, unconnected, if_neg (nobody_after _), Multiset.card_singleton]
        · intro packet packet_mem
          rw [one, Multiset.mem_singleton] at packet_mem
          rw [packet_mem]
        · intro other connecting
          exact absurd connecting (nobody_after other)
      · intro _ _ receiving
        simp at receiving
    · apply (welcomed.stage other).update owned _ (by simp) rfl
      · intro self
        exact absurd self same
      · intro packet packet_mem
        rw [Multiset.mem_singleton.mp packet_mem]
        simp [isReply, Ne.symm same]
  · intro other server connected
    exact (welcomed.connected_update rfl other server connected).2
  · exact welcomed.notRefused_update (by simp)

theorem leave (welcomed : Welcomed net hosts connections sent received)
    {taken : List (Host × Host)} (owned : Owned name 0 net next)
    (done : (hosts name).phase.client? = none ∨
      ∃ client code, (hosts name).phase = .master (.receiving client code))
    (idle : host.phase.client? = none) (plain : host.phase.plain = true)
    (nodedata : sent.Perm
      (taken ++ (connections.filter (·.server ≠ name)).filterMap Connection.carried))
    (closed : ∀ client, ⟨client, name, .open⟩ ∉ connections) :
    Welcomed next (Function.update hosts name host) (connections.filter (·.server ≠ name)) sent
      taken := by
  rcases Phase.ne_of_plain plain with ⟨elsewhere, -, notRefused⟩
  refine ⟨?_, ?_, nodedata, ?_⟩
  · intro master
    by_cases same : master = name
    · subst master
      rcases (welcomed.stage name).done done with ⟨none, nobody⟩
      have fewer : Fewer net next hosts (Function.update hosts name host) name :=
        Fewer.of_owned owned (by simp) (elsewhere name)
      refine ⟨?_, ?_, fun _ => backlog_filter_self, ?_⟩
      · intro _
        exact ⟨Multiset.le_zero.mp (none ▸ fewer.replies),
          fun other connecting => nobody other (fewer.connecting other connecting)⟩
      · intro client serves
        rw [Function.update_self, idle] at serves
        contradiction
      · intro client code receiving
        rw [Function.update_self] at receiving
        simp [receiving, Phase.client?] at idle
    · apply (welcomed.stage master).update owned (by simp) (elsewhere master)
        (backlog_filter_of_ne same)
      intro self
      exact absurd self same
  · intro other server connected
    rcases welcomed.connected_update plain other server connected with ⟨-, open_⟩
    refine List.mem_filter.mpr ⟨open_, ?_⟩
    simp only [ne_eq, decide_not, Bool.not_eq_eq_eq_not, Bool.not_true, decide_eq_false_iff_not]
    rintro rfl
    exact closed other open_
  · exact welcomed.notRefused_update notRefused

theorem abandon (welcomed : Welcomed net hosts connections sent received)
    (stopped : ∀ master, (hosts name).phase ≠ .member (.connected master)) :
    Welcomed net hosts (connections.map (·.abandon name)) sent received := by
  have backlog_eq (master : Host) :
      backlog (connections.map (·.abandon name)) master = backlog connections master :=
    backlog_map (fun connection => by simp)
  refine ⟨?_, ?_, ?_, welcomed.notRefused⟩
  · intro master
    exact (welcomed.stage master).advance ⟨le_rfl, fun _ => id⟩ rfl (backlog_eq master) id
      (welcomed.stage master).receiving
  · intro other master connected
    refine List.mem_map.mpr ⟨_, welcomed.connected other master connected, ?_⟩
    have different : other ≠ name := by
      rintro rfl
      exact stopped master connected
    simp [Connection.abandon, different]
  · rw [List.filterMap_map]
    have same : Connection.carried ∘ (·.abandon name) = Connection.carried :=
      funext (carried_abandon name)
    rw [same]
    exact welcomed.nodedata

theorem exit (welcomed : Welcomed net hosts connections sent received) {reason : Exit}
    (idle : (hosts name).phase.client? = none) (reason_ne : reason ≠ .connectRefused) :
    Welcomed (net.closeWhere (·.host == name))
      (Function.update hosts name { hosts name with phase := .exited reason })
      ((connections.filter (·.server ≠ name)).map (·.abandon name)) sent received := by
  have unconnected := (welcomed.stage name).deaf (Phase.listens_of_client?_eq_none idle)
  apply abandon
  · apply welcomed.leave (Owned.closeWhere name net) (Or.inl idle) rfl
    · cases reason with
      | connectRefused => exact absurd rfl reason_ne
      | _ => rfl
    · rw [filter_eq_self_of_backlog unconnected]
      exact welcomed.nodedata
    · intro client open_
      have waiting := backlog_pos open_
      simp only [unconnected] at waiting
      contradiction
  · simp

theorem finish (welcomed : Welcomed net hosts connections sent received)
    {taken : List (Host × Host)} (owned : Owned name 0 net next) {client : Endpoint}
    {code : RequestCode} (phase_eq : (hosts name).phase = .master (.receiving client code))
    (idle : host.phase.client? = none) (plain : host.phase.plain = true) {connection : Connection}
    (first : firstConnection name connections = some connection)
    (stream_ne : connection.stream ≠ .open)
    (taken_eq : taken = connection.carried.toList ++ received) :
    Welcomed next (Function.update hosts name host) (connections.filter (·.server ≠ name)) sent
      taken := by
  have single := (welcomed.stage name).backlog_le
  apply welcomed.leave owned (Or.inr ⟨client, code, phase_eq⟩) idle plain
  · have moved := welcomed.nodedata.trans ((perm_carried first single).append_left received)
    refine moved.trans ?_
    rw [taken_eq, ← List.append_assoc]
    exact List.perm_append_comm.append_right _
  · exact not_open_of_first first single stream_ne

theorem stopServing (welcomed : Welcomed net hosts connections sent received)
    {taken : List (Host × Host)} {client : Endpoint} {code : RequestCode}
    (phase_eq : (hosts name).phase = .master (.receiving client code)) {connection : Connection}
    (first : firstConnection name connections = some connection)
    (stream_ne : connection.stream ≠ .open)
    (taken_eq : taken = connection.carried.toList ++ received) :
    Welcomed (net.closeWhere (·.host == name))
      (Function.update hosts name { hosts name with phase := .exited .error })
      ((connections.filter (·.server ≠ name)).map (·.abandon name)) sent taken := by
  apply abandon
  · exact welcomed.finish (Owned.closeWhere name net) phase_eq rfl rfl first stream_ne taken_eq
  · simp

end Welcomed

theorem welcomed_initial : Welcomed State.initial.net State.initial.hosts
    State.initial.connections State.initial.sent State.initial.received where
  stage master := by
    refine ⟨?_, ?_, fun _ => rfl, ?_⟩
    · intro _
      exact ⟨rfl, by simp [State.initial]⟩
    · intro client serves
      simp [State.initial, Phase.client?] at serves
    · intro client code receiving
      simp [State.initial] at receiving
  connected _ _ connected := by simp [State.initial] at connected
  nodedata := by simp [State.initial]
  notRefused _ := by simp [State.initial]

theorem welcomed_step {state next : State} {action : Action} (timely : Timely state action)
    (shaped : Shaped state.net state.hosts)
    (welcomed : Welcomed state.net state.hosts state.connections state.sent state.received)
    (step : Step state action next) :
    Welcomed next.net next.hosts next.connections next.sent next.received := by
  cases step with
  | deliver delivered => exact welcomed.deliver delivered
  | start host_eq idle =>
      subst host_eq
      apply Welcomed.broadcast
      exact welcomed.update (Owned.openSocket _ _ _) (by simp) rfl
        (.idle (Phase.client?_of_idle idle) rfl)
  | receiveReply phase_eq received => exact welcomed.receiveReply shaped phase_eq received
  | joinTimeout phase_eq quiet =>
      exact welcomed.update (Owned.close _ _ _) (by simp) rfl (.idle (by rw [phase_eq]; rfl) rfl)
  | connect phase_eq listening => exact welcomed.connect phase_eq listening
  | @refused name master phase_eq deaf =>
      have early := timely.2
      simp only [State.connectsEarly, phase_eq] at early
      have stage := welcomed.stage master
      cases client_eq : (state.hosts master).phase.client? with
      | none => exact absurd phase_eq ((stage.idle client_eq).2 name)
      | some client =>
          rw [Phase.opens_of_deaf client_eq deaf] at early
          contradiction
  | send phase_eq => exact welcomed.send phase_eq _
  | openControl phase_eq =>
      exact welcomed.update (Owned.openSocket _ _ _) (by simp) rfl
        (.idle (by rw [phase_eq]; rfl) rfl)
  | identify phase_eq received payload_eq =>
      exact welcomed.update (Owned.receive received) (by simp) rfl
        (.idle (by rw [phase_eq]; rfl) rfl)
  | unknown phase_eq received payload_ne =>
      exact welcomed.exit (by rw [phase_eq]; rfl) (by simp)
  | @acknowledge name peer kind phase_eq =>
      refine welcomed.update ((Owned.send _ ⟨⟨name, .ctrl⟩, peer, .readyRecv kind⟩ _).trans
        (Owned.close _ _ _)) ?_ rfl (.idle (by rw [phase_eq]; rfl) rfl)
      intro packet packet_mem master
      rw [Multiset.zero_add, Multiset.mem_singleton] at packet_mem
      simp [packet_mem, isReply]
  | openData phase_eq =>
      exact welcomed.update (Owned.openSocket _ _ _) (by simp) rfl
        (.idle (by rw [phase_eq]; rfl) rfl)
  | receiveData phase_eq received =>
      exact welcomed.update ((Owned.receive received).trans (Owned.close _ _ _)) (by simp) rfl
        (.idle (by rw [phase_eq]; rfl) rfl)
  | badData phase_eq received rejected =>
      exact welcomed.exit (by rw [phase_eq]; rfl) (by simp)
  | masterStart phase_eq =>
      exact welcomed.update (Owned.refl _ _) (by simp) rfl (.idle (by rw [phase_eq]; rfl) rfl)
  | masterOpen phase_eq =>
      exact welcomed.update (Owned.openSocket _ _ _) (by simp) rfl
        (.idle (by rw [phase_eq]; rfl) rfl)
  | masterTimeout phase_eq quiet after_eq =>
      refine welcomed.update (Owned.close _ _ _) (by simp) rfl (.idle (by rw [phase_eq]; rfl) ?_)
      rcases after_eq with rfl | rfl <;> rfl
  | masterReceive phase_eq received code_eq =>
      exact welcomed.update (Owned.receive received) (by simp) rfl
        (.idle (by rw [phase_eq]; rfl) rfl)
  | masterReply phase_eq => exact welcomed.masterReply phase_eq
  | masterClose phase_eq =>
      refine welcomed.update (Owned.close _ _ _) (by simp) rfl ?_
      rw [phase_eq]
      exact ⟨rfl, fun _ => rfl, by simp⟩
  | masterListen phase_eq =>
      refine welcomed.update (Owned.refl _ _) (by simp) rfl ?_
      rw [phase_eq]
      exact ⟨rfl, fun _ => rfl, by simp⟩
  | masterAccept phase_eq first =>
      refine welcomed.update (Owned.refl _ _) (by simp) rfl ?_
      rw [phase_eq]
      refine ⟨rfl, ?_, ?_⟩
      · intro deaf
        contradiction
      · intro _ _ _
        have waiting := backlog_pos (List.mem_of_find?_eq_some first)
        rwa [server_of_first first] at waiting
  | @masterRecv name stale list client code connection node phase_eq first stream_eq list_eq =>
      apply welcomed.finish (Owned.openSocket _ _ _) phase_eq rfl rfl first
      · simp [stream_eq]
      · exact taken_of_first first stream_eq _
  | @refuseNodedata name stale client code connection node phase_eq first stream_eq =>
      have stopped := welcomed.stopServing phase_eq first (by simp [stream_eq])
        (taken_of_first first stream_eq state.received)
      simpa only [State.exit, State.move, State.put, List.filter_filter,
        Bool.and_self] using stopped
  | @busy action name before after sockets database sent net phase_eq before_busy after_busy owned
      sent_ok =>
      refine welcomed.update owned ?_ ?_ (.idle ?_ ?_)
      · intro packet packet_mem master
        apply isReply_of_sends (sent_ok packet packet_mem)
        rintro client code replying
        obtain rfl := Phase.master.inj (phase_eq.symm.trans replying)
        exact before_busy
      · rcases after_busy with busy | rfl
        · cases after <;> rfl
        · rfl
      · rw [phase_eq]
        cases before <;> first | rfl | contradiction
      · rcases after_busy with busy | rfl
        · cases after <;> first | rfl | contradiction
        · rfl
  | @stop action name running cause =>
      cases phase_eq : (state.hosts name).phase with
      | master masterPhase =>
          rw [phase_eq] at cause
          cases masterPhase with
          | closing | preparing | accepting =>
              obtain rfl : action = .fail name := cause
              exact absurd timely.1 (by simp [Action.fails])
          | receiving client code =>
              rcases cause with rfl | ⟨connection, first, stream_eq⟩
              · exact absurd timely.1 (by simp [Action.fails])
              · have nothing : state.received = connection.carried.toList ++ state.received := by
                  simp [Connection.carried, stream_eq]
                exact welcomed.stopServing phase_eq first (by simp [stream_eq]) nothing
          | _ => exact welcomed.exit (by rw [phase_eq]; rfl) (by simp)
      | _ => exact welcomed.exit (by rw [phase_eq]; rfl) (by simp)

theorem welcomed_inductive : lan.Inductive Timely fun state => Shaped state.net state.hosts ∧
    Welcomed state.net state.hosts state.connections state.sent state.received :=
  (shaped_inductive Timely).and welcomed_initial fun stepped timely shaped welcomed =>
    welcomed_step timely shaped welcomed (Step.of_step stepped)

theorem received_takeNodedata (state : State) (name : Host) (code : RequestCode)
    (stale : Collector.ListBlock) (connection : Connection) (node : Nodedata UInt32) :
    (state.takeNodedata name code stale connection node).received =
      (connection.client, name) :: state.received := by
  cases code <;>
  · simp only [State.takeNodedata]
    split <;> rfl

theorem Welcomed.listening {state : State}
    (welcomed : Welcomed state.net state.hosts state.connections state.sent state.received)
    {connection : Connection} (connection_mem : connection ∈ state.connections) :
    (state.hosts connection.server).phase.listens = true := by
  by_contra deaf
  have none := (welcomed.stage connection.server).deaf (by simpa using deaf)
  have waiting := backlog_pos connection_mem
  omega

theorem exists_masterRecv {state : State} {name : Host} {client : Endpoint} {code : RequestCode}
    (phase_eq : (state.hosts name).phase = .master (.receiving client code))
    {connection : Connection} (first : firstConnection name state.connections = some connection)
    {node : Nodedata UInt32} (stream_eq : connection.stream = .sent node)
    (stale : Collector.ListBlock) :
    ∃ final, lan.step state (.masterRecv name stale) = some final ∧
      final.received = (connection.client, name) :: state.received := by
  refine ⟨state.takeNodedata name code stale connection node, ?_, received_takeNodedata ..⟩
  change state.masterRecv name stale = _
  simp only [State.masterRecv, phase_eq, first, stream_eq]

/-- A master that listens takes the nodedata that its only connection carries. -/
theorem Welcomed.arrives {state : State}
    (welcomed : Welcomed state.net state.hosts state.connections state.sent state.received)
    {connection : Connection} (connection_mem : connection ∈ state.connections)
    {node : Nodedata UInt32} (stream_eq : connection.stream = .sent node)
    (stale : Collector.ListBlock) :
    ∃ actions final, List.Sublist actions
        [.masterAccept connection.server, .masterRecv connection.server stale] ∧
      lan.runFrom state actions = some final ∧
        final.received = (connection.client, connection.server) :: state.received := by
  have first := firstConnection_of_mem connection_mem (welcomed.stage connection.server).backlog_le
  have listening := welcomed.listening connection_mem
  cases phase_eq : (state.hosts connection.server).phase with
  | master masterPhase =>
      rw [phase_eq] at listening
      cases masterPhase with
      | accepting client code =>
          have accepted : lan.step state (.masterAccept connection.server) =
              some (state.move connection.server (.master (.receiving client code)) state.net) := by
            change state.masterAccept connection.server = _
            simp only [State.masterAccept, phase_eq, first]
          have receiving : ((state.move connection.server (.master (.receiving client code))
              state.net).hosts connection.server).phase = .master (.receiving client code) := by
            simp [State.move, State.put]
          rcases exists_masterRecv receiving first stream_eq stale with ⟨final, taken, received_eq⟩
          refine ⟨_, final, List.Sublist.refl _, ?_, received_eq⟩
          exact lan.runFrom_cons_eq_some.mpr ⟨_, accepted,
            lan.runFrom_cons_eq_some.mpr ⟨final, taken, rfl⟩⟩
      | receiving client code =>
          rcases exists_masterRecv phase_eq first stream_eq stale with ⟨final, taken, received_eq⟩
          refine ⟨[.masterRecv connection.server stale], final, by simp, ?_, received_eq⟩
          exact lan.runFrom_cons_eq_some.mpr ⟨final, taken, rfl⟩
      | _ => contradiction
  | _ =>
      rw [phase_eq] at listening
      contradiction

theorem Welcomed.served {state : State}
    (welcomed : Welcomed state.net state.hosts state.connections state.sent state.received) :
    Served state where
  notRefused := welcomed.notRefused
  expected name master phase_eq := by
    have stage := welcomed.stage master
    cases client_eq : (state.hosts master).phase.client? with
    | none => exact absurd phase_eq ((stage.idle client_eq).2 name)
    | some client => exact ⟨client, rfl, (stage.serving client client_eq).connecting name phase_eq⟩
  connected := welcomed.connected
  listening _ connection_mem := welcomed.listening connection_mem
  nodedata := welcomed.nodedata
  arrives _ connection_mem _ stream_eq stale := welcomed.arrives connection_mem stream_eq stale
  accepting _ client _ _ := welcomed.notRefused client.host

/--
In every run in which no system call fails and no welcomed node connects before
its master listens, every connection is accepted and all nodedata arrives.
-/
theorem served_of_timely (state : State) (reached : lan.ReachableWith Timely state) :
    Served state :=
  (welcomed_inductive.holds reached).2.served

theorem served_joinedRun : ∃ state : State,
    lan.runWithin Timely State.initial joinedRun = some state ∧ state.received = [(2, 1)] ∧
      Served state := by
  have ended : (lan.runWithin Timely State.initial joinedRun).map State.received =
      some [(2, 1)] := by
    decide +kernel
  rcases Option.map_eq_some_iff.mp ended with ⟨state, ran, received_eq⟩
  exact ⟨state, ran, received_eq, served_of_timely state (.runWithin .initial ran)⟩

/-- The welcomed node connects before the master has closed the control socket. -/
theorem not_served_refusedRun :
    ¬∀ state : State, lan.ReachableWith (fun _ action => action.fails = false) state →
      Served state := by
  intro served
  have ended : (lan.run refusedRun).map (fun state => (state.hosts 2).phase) =
      some (.exited .connectRefused) := by
    decide +kernel
  rcases Option.map_eq_some_iff.mp ended with ⟨state, ran, phase_eq⟩
  have faultless : ∀ before : State, ∀ action ∈ refusedRun, action.fails = false := by
    intro _
    decide
  exact (served state (.runFrom .initial faultless ran)).notRefused 2 phase_eq

end NodeinfoSystem.Lan
