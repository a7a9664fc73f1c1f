import NodeinfoSystem.Lan.Traffic

/-!
# Members and new joins

A member listens at the control port that a join request is broadcast to, and
stops when the first datagram it finds there is not the announcement of a list or
a database. No other datagram of the programs can be that first one: replies and
acknowledgements go to ephemeral sockets, and payloads to the data ports, where
every list and database that a master sends is accepted.
-/

namespace NodeinfoSystem.Lan

open Foundation

/-- What a host relies on where it is, given what is queued at its control socket. -/
def PhaseOk (queue : List (Packet Endpoint Message)) : Phase → Prop
  | .member .identifying => ∀ packet ∈ queue.head?, ∃ kind, packet.payload = .readySend kind
  | .exited reason => reason ≠ .unknownDataType ∧ ∀ kind, reason ≠ .badData kind
  | _ => True

theorem PhaseOk.of_queue {queue next : List (Packet Endpoint Message)} {phase : Phase}
    (phase_ok : PhaseOk queue phase)
    (head : phase = .member .identifying → ∀ packet ∈ next.head?, ∃ kind,
      packet.payload = .readySend kind) : PhaseOk next phase := by
  cases phase with
  | member memberPhase =>
      cases memberPhase with
      | identifying => exact head rfl
      | _ => trivial
  | exited => exact phase_ok
  | master | off => trivial

/-- No member is disturbed, and nothing is under way that could disturb one. -/
structure Settled (net : LanNetwork) (hosts : Host → HostState) : Prop where
  accepted : ∀ packet ∈ net.packets, ∀ kind, packet.destination.port = .data kind →
    accepts kind packet.payload = true
  list : ∀ name, (hosts name).list.WellFormed
  phase : ∀ name, PhaseOk (net.queueAt ⟨name, .ctrl⟩) (hosts name).phase

/-- No member has left its receive loop because of what it was sent there. -/
def MembersKept (state : State) : Prop :=
  ∀ name, (state.hosts name).phase ≠ .exited .unknownDataType ∧
    ∀ kind, (state.hosts name).phase ≠ .exited (.badData kind)

/-- The nodedata that a master receives next is added to its list. -/
def State.adds (state : State) (name : Host) : Bool :=
  match (state.hosts name).phase, firstConnection name state.connections with
  | .master (.receiving _ .join), some connection =>
      match connection.stream with
      | .sent node => decide (Collector.ValidNode node)
      | _ => false
  | _, _ => false

/-- What is added to the list of a master finds room there. -/
def State.HasRoom (state : State) (name : Host) : Prop :=
  state.adds name = true →
    (state.hosts name).list.currentSize.toInt < (state.hosts name).list.maxSize.toInt

instance (state : State) (name : Host) : Decidable (state.HasRoom name) :=
  inferInstanceAs (Decidable (_ → _))

theorem adds_of_join {state : State} {name : Host} {client : Endpoint} {connection : Connection}
    {node : Nodedata UInt32}
    (phase_eq : (state.hosts name).phase = .master (.receiving client .join))
    (first : firstConnection name state.connections = some connection)
    (stream_eq : connection.stream = .sent node) (valid : Collector.ValidNode node) :
    state.adds name = true := by
  simp [State.adds, phase_eq, first, stream_eq, valid]

/--
A request to join is broadcast only while every member that listens at the
control port has been sent an announcement already, and a node joins only while
the master's list has room.
-/
def Considerate (state : State) : Action → Prop
  | .start _ => ∀ endpoint ∈ state.net.bound, endpoint.port = .ctrl →
      (state.hosts endpoint.host).phase = .member .identifying → state.net.queueAt endpoint ≠ []
  | .masterRecv name _ => state.HasRoom name
  | _ => True

instance (state : State) (action : Action) : Decidable (Considerate state action) := by
  cases action <;> dsimp only [Considerate] <;> infer_instance

/-! ## Data -/

theorem accepts_payload {host : HostState} (wellFormed : host.list.WellFormed) {kind : Kind}
    {datagram : Wire.Datagram} (sent : host.payload kind = some datagram) :
    accepts kind (.payload datagram) = true := by
  cases kind with
  | nodedataList => exact Collector.receiveNodedataList_listPayload wellFormed sent
  | nodeinfoDatabase =>
      rcases Option.bind_eq_some_iff.mp sent with ⟨db, -, sent⟩
      exact Collector.receiveDb_databasePayload sent

theorem wellFormed_addToList {stale list : Collector.ListBlock} (wellFormed : list.WellFormed)
    (room : list.currentSize.toInt < list.maxSize.toInt) (node : Nodedata UInt32) :
    (addToList stale list node).WellFormed := by
  simp only [addToList, if_neg (not_le.mpr room)]
  exact Collector.ListBlock.wellFormed_push wellFormed room node

theorem wellFormed_firstList (garbage : Collector.Garbage) (me : Nodedata UInt32)
    (networkId : Int32) :
    ({ (Collector.emptyList garbage).push me with networkId := networkId } :
      Collector.ListBlock).WellFormed := by
  have empty := Collector.wellFormed_emptyList garbage
  have pushed := Collector.ListBlock.wellFormed_push empty (by simp [Collector.emptyList,
    initialSizeOfNodedataList]) me
  exact ⟨pushed.nonneg, pushed.bounded, pushed.slots_length⟩

/-! ## Steps -/

namespace Settled

variable {net : LanNetwork} {hosts : Host → HostState}

theorem of_sends (settled : Settled net hosts) (shaped : Shaped net hosts) {name : Host}
    {packet : Packet Endpoint Message} (sends : Sends name (hosts name) packet) {kind : Kind}
    (here : packet.destination.port = .data kind) : accepts kind packet.payload = true := by
  rcases (shaped.of_sends sends).1.of_data here with ⟨datagram, payload_eq⟩
  cases sends with
  | payload number target sent =>
      obtain rfl := Port.data.inj here
      exact accepts_payload (settled.list name) sent
  | @reply client code phase_eq => cases code <;> contradiction
  | acknowledgement | invitation => contradiction

theorem update (settled : Settled net hosts) {name : Host} {host : HostState} {next : LanNetwork}
    {sent : Multiset (Packet Endpoint Message)} (owned : Owned name sent net next)
    (accepted : ∀ packet ∈ sent, ∀ kind, packet.destination.port = .data kind →
      accepts kind packet.payload = true) (list : host.list.WellFormed)
    (phase : PhaseOk (next.queueAt ⟨name, .ctrl⟩) host.phase) :
    Settled next (Function.update hosts name host) where
  accepted packet packet_mem kind here := by
    rcases owned.mem_or_sent packet_mem with new | old
    · exact accepted packet new kind here
    · exact settled.accepted packet old kind here
  list other := by
    by_cases same : other = name
    · subst other
      simpa using list
    · simpa [same] using settled.list other
  phase other := by
    by_cases same : other = name
    · subst other
      simpa using phase
    · rw [owned.queue ⟨other, .ctrl⟩ same]
      simpa [same] using settled.phase other

theorem move (settled : Settled net hosts) {name : Host} {next : LanNetwork}
    (owned : Owned name 0 net next) {phase : Phase}
    (phase_ok : PhaseOk (next.queueAt ⟨name, .ctrl⟩) phase) :
    Settled next (Function.update hosts name { hosts name with phase := phase }) :=
  settled.update owned (by simp) (settled.list name) phase_ok

theorem exit (settled : Settled net hosts) {name : Host} {reason : Exit}
    (harmless : reason ≠ .unknownDataType ∧ ∀ kind, reason ≠ .badData kind) :
    Settled (net.closeWhere (·.host == name))
      (Function.update hosts name { hosts name with phase := .exited reason }) :=
  settled.move (Owned.closeWhere name net) harmless

theorem deliver (settled : Settled net hosts) (shaped : Shaped net hosts)
    {index : ℕ} {next : LanNetwork}
    (delivered : net.deliver index = some next) : Settled next hosts where
  accepted packet packet_mem :=
    settled.accepted packet (Multiset.mem_of_le (Network.packets_deliver_le delivered) packet_mem)
  list := settled.list
  phase name := by
    apply (settled.phase name).of_queue
    intro phase_eq packet first
    have phase_ok := settled.phase name
    rw [phase_eq] at phase_ok
    rcases Network.queueAt_deliver delivered ⟨name, .ctrl⟩ with ⟨arrived, queue_eq, arrived_ok⟩
    rw [queue_eq, List.head?_append] at first
    cases before : (net.queueAt ⟨name, .ctrl⟩).head? with
    | some waiting =>
        rw [before, Option.some_or] at first
        exact phase_ok packet (before ▸ first)
    | none =>
        rw [before, Option.none_or] at first
        rcases arrived_ok packet (List.mem_of_mem_head? first) with ⟨flying, here⟩
        have packet_mem := Network.mem_packets.mpr (Or.inl flying)
        rcases shaped.of_ctrl packet_mem here with ⟨-, -, -, hello⟩ | ⟨-, -, kind, -, ready⟩
        · exact absurd hello (shaped.unicast packet flying)
        · exact ⟨kind, ready⟩

/-- A broadcast reaches no member that has nothing queued. -/
theorem start (settled : Settled net hosts) {name : Host}
    (considerate : ∀ endpoint ∈ net.bound, endpoint.port = .ctrl →
      (hosts endpoint.host).phase = .member .identifying → net.queueAt endpoint ≠ []) :
    Settled
      ((net.openSocket ⟨name, .join (hosts name).sockets⟩).broadcast
        ⟨name, .join (hosts name).sockets⟩ (·.port == .ctrl) .hello)
      (Function.update hosts name { hosts name with
        phase := .member (.awaiting (hosts name).sockets)
        sockets := (hosts name).sockets + 1 }) where
  accepted packet packet_mem kind here := by
    rcases Network.mem_packets_broadcast packet_mem with old | ⟨endpoint, hears, rfl⟩
    · rcases (Owned.openSocket name _ net).mem_or_sent old with new | old
      · simp at new
      · exact settled.accepted packet old kind here
    · simp only [beq_iff_eq] at hears
      rw [hears] at here
      contradiction
  list other := by
    by_cases same : other = name
    · subst other
      simpa using settled.list name
    · simpa [same] using settled.list other
  phase other := by
    by_cases same : other = name
    · subst other
      simp only [Function.update_self]
      trivial
    · simp only [Function.update_of_ne same]
      apply (settled.phase other).of_queue
      intro phase_eq
      have phase_ok := settled.phase other
      rw [phase_eq] at phase_ok
      rcases Network.queueAt_broadcast ⟨name, .join (hosts name).sockets⟩ (·.port == .ctrl) .hello
        (net.openSocket ⟨name, .join (hosts name).sockets⟩) ⟨other, .ctrl⟩ with
        ⟨copies, queue_eq, -, heard⟩
      have foreign : (⟨other, .ctrl⟩ : Endpoint).host ≠ name := same
      rw [(Owned.openSocket name _ net).queue ⟨other, .ctrl⟩ foreign] at queue_eq
      rw [queue_eq]
      by_cases unheard : copies = []
      · rwa [unheard, List.append_nil]
      · have isBound := ((Owned.openSocket name _ net).bound _ foreign).mp (heard.mp unheard).1
        have waiting := considerate _ isBound rfl phase_eq
        rwa [List.head?_append_of_ne_nil _ waiting]

end Settled

theorem settled_initial : Settled State.initial.net State.initial.hosts where
  accepted := by simp [State.initial]
  list _ := ⟨by simp [State.initial], by simp [State.initial], rfl⟩
  phase _ := trivial

theorem settled_step {state next : State} {action : Action} (considerate : Considerate state action)
    (shaped : Shaped state.net state.hosts) (settled : Settled state.net state.hosts)
    (step : Step state action next) :
    Settled next.net next.hosts := by
  cases step with
  | deliver delivered => exact settled.deliver shaped delivered
  | start host_eq idle =>
      subst host_eq
      exact settled.start considerate
  | receiveReply phase_eq received =>
      exact settled.move ((Owned.receive received).trans (Owned.close _ _ _)) trivial
  | joinTimeout phase_eq quiet => exact settled.move (Owned.close _ _ _) trivial
  | connect phase_eq listening => exact settled.move (Owned.refl _ _) trivial
  | refused phase_eq deaf => exact settled.exit (by simp)
  | send phase_eq => exact settled.move (Owned.refl _ _) trivial
  | openControl phase_eq =>
      apply settled.move (Owned.openSocket _ _ _)
      intro packet first
      rw [Network.queueAt_openSocket_self] at first
      contradiction
  | identify phase_eq received payload_eq => exact settled.move (Owned.receive received) trivial
  | @unknown name packet net phase_eq received payload_ne =>
      have phase_ok := settled.phase name
      rw [phase_eq] at phase_ok
      have first : packet ∈ (state.net.queueAt ⟨name, .ctrl⟩).head? := by
        rw [(Network.queueAt_receive received).1]
        rfl
      rcases phase_ok packet first with ⟨kind, payload_eq⟩
      exact absurd payload_eq (payload_ne kind)
  | @acknowledge name peer kind phase_eq =>
      refine settled.update ((Owned.send name ⟨⟨name, .ctrl⟩, peer, .readyRecv kind⟩ _).trans
        (Owned.close name .ctrl _)) ?_ (settled.list name) trivial
      intro packet packet_mem data
      rw [Multiset.zero_add, Multiset.mem_singleton] at packet_mem
      exact packet_mem ▸ settled.of_sends shaped (.acknowledgement phase_eq)
  | openData phase_eq => exact settled.move (Owned.openSocket _ _ _) trivial
  | receiveData phase_eq received =>
      exact settled.move ((Owned.receive received).trans (Owned.close _ _ _)) trivial
  | @badData name kind packet net phase_eq received rejected =>
      rcases Network.receive_effect received with ⟨-, here, -, -⟩
      have accepted := settled.accepted packet (Network.mem_packets_of_receive received)
        kind (by rw [here])
      rw [rejected] at accepted
      contradiction
  | @masterStart name garbage userid cpuCoreNum networkId phase_eq =>
      exact settled.update (Owned.refl name _) (by simp) (wellFormed_firstList garbage _ _) trivial
  | masterOpen phase_eq => exact settled.move (Owned.openSocket _ _ _) trivial
  | masterTimeout phase_eq quiet after_eq =>
      apply settled.move (Owned.close _ _ _)
      rcases after_eq with rfl | rfl <;> trivial
  | masterReceive phase_eq received code_eq =>
      exact settled.move (Owned.receive received) trivial
  | @masterReply name client code phase_eq =>
      refine settled.update (Owned.send name ⟨⟨name, .ctrl⟩, client, code.reply⟩ _) ?_
        (settled.list name) trivial
      intro packet packet_mem data
      rw [Multiset.mem_singleton.mp packet_mem]
      exact settled.of_sends shaped (.reply phase_eq)
  | masterClose phase_eq => exact settled.move (Owned.close _ _ _) trivial
  | masterListen phase_eq => exact settled.move (Owned.refl _ _) trivial
  | masterAccept phase_eq first => exact settled.move (Owned.refl _ _) trivial
  | @masterRecv name stale list client code connection node phase_eq first stream_eq list_eq =>
      refine settled.update (Owned.openSocket name _ _) (by simp) ?_ trivial
      rcases list_eq with rfl | ⟨rfl, valid, rfl⟩
      · exact settled.list name
      · have room := considerate (adds_of_join phase_eq first stream_eq valid)
        exact wellFormed_addToList (settled.list name) room node
  | refuseNodedata phase_eq first stream_eq => exact settled.exit (by simp)
  | @busy action name before after sockets database sent net phase_eq before_busy after_busy owned
      sent_ok =>
      refine settled.update owned (fun packet packet_mem data => settled.of_sends shaped
        (sent_ok packet packet_mem)) (settled.list name) ?_
      rcases after_busy with busy | rfl
      · cases after <;> trivial
      · trivial
  | stop running cause => exact settled.exit (by simp)

theorem settled_inductive : lan.Inductive Considerate fun state =>
    Shaped state.net state.hosts ∧ Settled state.net state.hosts :=
  (shaped_inductive Considerate).and settled_initial fun stepped considerate shaped settled =>
    settled_step considerate shaped settled (Step.of_step stepped)

/--
In every run in which no request to join is broadcast at a member that waits for
an announcement not sent yet, and no join finds the list full, no datagram makes
a member leave its receive loop.
-/
theorem membersKept_of_considerate (state : State) (reached : lan.ReachableWith Considerate state) :
    MembersKept state := by
  intro name
  have phase_ok := (settled_inductive.holds reached).2.phase name
  refine ⟨?_, ?_⟩
  · intro phase_eq
    rw [phase_eq] at phase_ok
    exact phase_ok.1 rfl
  · intro kind phase_eq
    rw [phase_eq] at phase_ok
    exact phase_ok.2 kind rfl

theorem membersKept_servedRun : ∃ state : State,
    lan.runWithin Considerate State.initial servedRun = some state ∧
      (state.hosts 2).phase = .member .looping ∧ MembersKept state := by
  have ended : (lan.runWithin Considerate State.initial servedRun).map
      (fun state => (state.hosts 2).phase) = some (.member .looping) := by
    decide +kernel
  rcases Option.map_eq_some_iff.mp ended with ⟨state, ran, phase_eq⟩
  exact ⟨state, ran, phase_eq, membersKept_of_considerate state (.runWithin .initial ran)⟩

/-- Another node starts while a member waits for the announcement. -/
theorem not_membersKept_disturbedRun :
    ¬∀ state : State, lan.Reachable state → MembersKept state := by
  intro kept
  have ended : (lan.run disturbedRun).map (fun state => (state.hosts 2).phase) =
      some (.exited .unknownDataType) := by
    decide +kernel
  rcases Option.map_eq_some_iff.mp ended with ⟨state, ran, phase_eq⟩
  exact (kept state (TransitionSystem.reachable_of_run ran) 2).1 phase_eq

end NodeinfoSystem.Lan
