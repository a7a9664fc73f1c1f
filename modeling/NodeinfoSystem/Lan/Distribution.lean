import NodeinfoSystem.Lan.Effect

/-!
# What a step does to the lists and databases

A master changes its list when it starts and when a node joins, and sends it in
the loop over its members. Its database is the one it fetched last. Every other
step leaves lists and databases as they are, sends no list, and starts no loop over
the members for one.
-/

namespace NodeinfoSystem.Lan

open Foundation

/-- A payload on its way to the socket that a member opens for a list. -/
def IsList (packet : Packet Endpoint Message) : Prop :=
  packet.destination.port = .data .nodedataList ∧ ∃ datagram, packet.payload = .payload datagram

/-- The phases outside the loop over the members. -/
def Phase.Plain (phase : Phase) : Prop :=
  ∀ number loop, phase ≠ .master (.distributing .nodedataList number loop)

/-- A step that changes no list and no database, and sends no list. -/
structure Unserved (state next : State) : Prop where
  sockets : ∀ name, (state.hosts name).sockets ≤ (next.hosts name).sockets
  list : ∀ name, (next.hosts name).list = (state.hosts name).list
  database : ∀ name, (next.hosts name).database = (state.hosts name).database
  packets : ∀ packet ∈ next.net.packets, IsList packet → packet ∈ state.net.packets
  /-- A loop goes on with some of its targets. -/
  loops : ∀ name number loop,
    (next.hosts name).phase = .master (.distributing .nodedataList number loop) →
    ∃ before, (state.hosts name).phase = .master (.distributing .nodedataList number before) ∧
      loop.targets ⊆ before.targets

/-- The master whose list an action may change. -/
def Action.master? : Action → Option Host
  | .masterStart name _ _ _ _ => some name
  | .masterRecv name _ => some name
  | _ => none

/-- What a step does to what the masters have, and to the lists under way. -/
inductive ListStep (state : State) : Action → State → Prop
  | quiet {action : Action} {next : State} (unserved : Unserved state next)
      (stopped : ∀ name, action.master? = some name → (next.hosts name).phase.runs = false) :
      ListStep state action next
  | begin {name : Host} {garbage : Collector.Garbage} {userid cpuCoreNum networkId : Int32} :
      ListStep state (.masterStart name garbage userid cpuCoreNum networkId)
        (state.put name { state.hosts name with
          phase := .master .opening
          list := { (Collector.emptyList garbage).push ⟨name, userid, cpuCoreNum⟩ with
            networkId := networkId }
          database := none } state.net)
  | join {name : Host} {stale list : Collector.ListBlock} {client : Endpoint} {code : RequestCode}
      {connection : Connection} {node : Nodedata UInt32} {next : State}
      (phase_eq : (state.hosts name).phase = .master (.receiving client code))
      (first : firstConnection name state.connections = some connection)
      (stream_eq : connection.stream = .sent node)
      (list_eq : list = (state.hosts name).list ∨ code = .join ∧ Collector.ValidNode node ∧
        list = addToList stale (state.hosts name).list node)
      (hosts_eq : next.hosts = Function.update state.hosts name { state.hosts name with
        phase := .master (.distributing .nodedataList (state.hosts name).sockets (startLoop list))
        sockets := (state.hosts name).sockets + 1
        list := list })
      (net_eq : next.net = state.net.openSocket ⟨name, .distribution (state.hosts name).sockets⟩) :
      ListStep state (.masterRecv name stale) next
  | serve {name target : Host} {number : ℕ} {loop : Loop} {rest : List Host}
      {datagram : Wire.Datagram}
      (phase_eq : (state.hosts name).phase = .master (.distributing .nodedataList number loop))
      (targets_eq : loop.targets = target :: rest)
      (payload_eq : Collector.listPayload (state.hosts name).list = some datagram) :
      ListStep state (.distribute name) (state.move name
        (.master (.distributing .nodedataList number (loop.next rest false)))
        (state.net.send ⟨⟨name, .distribution number⟩, ⟨target, .data .nodedataList⟩,
          .payload datagram⟩))
  | fetch {name : Host} {received : Wire.Datagram} {db : NodeinfoDatabase} {next : State}
      (read : Wire.receiveDbOnSocketImpl true (some received) = some db)
      (unserved : Unserved
        (state.put name { state.hosts name with database := some db } state.net) next) :
      ListStep state (.masterFetch name received) next

/-! ## Steps without a list -/

namespace Unserved

variable {state next : State} {name : Host}

theorem update {host : HostState} {sent : Multiset (Packet Endpoint Message)}
    (hosts_eq : next.hosts = Function.update state.hosts name host)
    (owned : Owned name sent state.net next.net) (sent_ok : ∀ packet ∈ sent, ¬IsList packet)
    (sockets : (state.hosts name).sockets ≤ host.sockets)
    (list_eq : host.list = (state.hosts name).list)
    (database_eq : host.database = (state.hosts name).database)
    (loops : ∀ number loop, host.phase = .master (.distributing .nodedataList number loop) →
      ∃ before, (state.hosts name).phase = .master (.distributing .nodedataList number before) ∧
        loop.targets ⊆ before.targets) : Unserved state next where
  sockets other := by
    by_cases same : other = name
    · subst other
      simpa [hosts_eq] using sockets
    · simp [hosts_eq, same]
  list other := by
    by_cases same : other = name
    · subst other
      simpa [hosts_eq] using list_eq
    · simp [hosts_eq, same]
  database other := by
    by_cases same : other = name
    · subst other
      simpa [hosts_eq] using database_eq
    · simp [hosts_eq, same]
  packets packet packet_mem isList := by
    rcases owned.mem_or_sent packet_mem with new | old
    · exact absurd isList (sent_ok packet new)
    · exact old
  loops other number loop phase_eq := by
    by_cases same : other = name
    · subst other
      simp only [hosts_eq, Function.update_self] at phase_eq
      exact loops number loop phase_eq
    · simp only [hosts_eq, Function.update_of_ne same] at phase_eq
      exact ⟨loop, phase_eq, fun _ target_mem => target_mem⟩

theorem leave {phase : Phase} {sent : Multiset (Packet Endpoint Message)} (plain : phase.Plain)
    (hosts_eq : next.hosts =
      Function.update state.hosts name { state.hosts name with phase := phase })
    (owned : Owned name sent state.net next.net) (sent_ok : ∀ packet ∈ sent, ¬IsList packet) :
    Unserved state next :=
  update hosts_eq owned sent_ok (Nat.le_refl _) rfl rfl
    fun number loop phase_eq => absurd phase_eq (plain number loop)

theorem move {phase : Phase} {net : LanNetwork} (plain : phase.Plain)
    (owned : Owned name 0 state.net net) : Unserved state (state.move name phase net) :=
  leave plain rfl owned (by simp)

theorem exit (reason : Exit) : Unserved state (state.exit name reason) :=
  leave (by simp [Phase.Plain]) rfl (Owned.closeWhere name state.net) (by simp)

/-- A step of a loop over the members that sends no payload. -/
theorem turn {number : ℕ} {before after : Loop} {net : LanNetwork}
    {sent : Multiset (Packet Endpoint Message)} {kind : Kind}
    (phase_eq : (state.hosts name).phase = .master (.distributing kind number before))
    (targets : after.targets ⊆ before.targets) (owned : Owned name sent state.net net)
    (sent_ok : ∀ packet ∈ sent, ¬IsList packet) :
    Unserved state (state.move name (.master (.distributing kind number after)) net) := by
  refine update rfl owned sent_ok (Nat.le_refl _) rfl rfl ?_
  intro other loop distributing
  simp only [Phase.master.injEq, MasterPhase.distributing.injEq] at distributing
  rcases distributing with ⟨rfl, rfl, rfl⟩
  exact ⟨before, phase_eq, targets⟩

end Unserved

/-! ## The step function -/

section

variable {state next : State} {name : Host}

theorem ListStep.of_unserved {action : Action} (other : action.master? = none)
    (unserved : Unserved state next) : ListStep state action next := by
  refine .quiet unserved ?_
  intro name master
  rw [other] at master
  contradiction

theorem unserved_deliver {index : ℕ} (stepped : state.step (.deliver index) = some next) :
    Unserved state next := by
  rcases Option.map_eq_some_iff.mp stepped with ⟨net, delivered, rfl⟩
  exact {
    sockets := fun _ => Nat.le_refl _
    list := fun _ => rfl
    database := fun _ => rfl
    packets := fun packet packet_mem _ =>
      Multiset.mem_of_le (Network.packets_deliver_le delivered) packet_mem
    loops := fun _ _ loop phase_eq => ⟨loop, phase_eq, fun _ target_mem => target_mem⟩ }

theorem unserved_start (stepped : state.start name = some next) : Unserved state next := by
  simp only [State.start] at stepped
  split at stepped
  · contradiction
  · simp only [Option.some.injEq] at stepped
    subst next
    have opened : Unserved state (state.put name
        { state.hosts name with
          phase := .member (.awaiting (state.hosts name).sockets)
          sockets := (state.hosts name).sockets + 1 }
        (state.net.openSocket ⟨name, .join (state.hosts name).sockets⟩)) :=
      .update rfl (Owned.openSocket name _ state.net) (by simp) (Nat.le_succ _) rfl rfl (by simp)
    refine ⟨opened.sockets, opened.list, opened.database, ?_, opened.loops⟩
    intro packet packet_mem isList
    rcases Network.mem_packets_broadcast packet_mem with old | ⟨endpoint, -, rfl⟩
    · exact opened.packets packet old isList
    · rcases isList with ⟨-, datagram, payload_eq⟩
      contradiction

theorem unserved_receiveReply (stepped : state.receiveReply name = some next) :
    Unserved state next := by
  simp only [State.receiveReply] at stepped
  split at stepped
  · split at stepped
    · contradiction
    · next packet net received =>
        simp only [Option.some.injEq] at stepped
        exact stepped ▸ .move (by simp [Phase.Plain])
          ((Owned.receive received).trans (Owned.close _ _ _))
  · contradiction

theorem unserved_joinTimeout (stepped : state.joinTimeout name = some next) :
    Unserved state next := by
  simp only [State.joinTimeout] at stepped
  split at stepped
  · split at stepped
    · simp only [Option.some.injEq] at stepped
      exact stepped ▸ .move (by simp [Phase.Plain]) (Owned.close _ _ _)
    · contradiction
  · contradiction

theorem unserved_connect (stepped : state.connect name = some next) : Unserved state next := by
  simp only [State.connect] at stepped
  split at stepped
  · next master phase_eq =>
      split at stepped
      · simp only [Option.some.injEq] at stepped
        subst next
        have plain : (Phase.member (.connected master)).Plain := by simp [Phase.Plain]
        exact .leave plain rfl (Owned.refl name state.net) (by simp)
      · simp only [Option.some.injEq] at stepped
        exact stepped ▸ .exit .connectRefused
  · contradiction

theorem unserved_sendNodedata {userid cpuCoreNum : Int32}
    (stepped : state.sendNodedata name userid cpuCoreNum = some next) : Unserved state next := by
  simp only [State.sendNodedata] at stepped
  split at stepped
  · split at stepped
    · simp only [Option.some.injEq] at stepped
      subst next
      have plain : (Phase.member .looping).Plain := by simp [Phase.Plain]
      exact .leave plain rfl (Owned.refl name state.net) (by simp)
    · simp only [Option.some.injEq] at stepped
      exact stepped ▸ .exit .error
  · contradiction

theorem unserved_openControl (stepped : state.openControl name = some next) :
    Unserved state next := by
  simp only [State.openControl] at stepped
  split at stepped
  · simp only [Option.some.injEq] at stepped
    exact stepped ▸ .move (by simp [Phase.Plain]) (Owned.openSocket _ _ _)
  · contradiction

theorem unserved_identify (stepped : state.identify name = some next) : Unserved state next := by
  simp only [State.identify] at stepped
  split at stepped
  · split at stepped
    · contradiction
    · next packet net received =>
        split at stepped
        · simp only [Option.some.injEq] at stepped
          exact stepped ▸ .move (by simp [Phase.Plain]) (Owned.receive received)
        · simp only [Option.some.injEq] at stepped
          exact stepped ▸ .exit .unknownDataType
  · contradiction

theorem unserved_acknowledge (stepped : state.acknowledge name = some next) :
    Unserved state next := by
  simp only [State.acknowledge] at stepped
  split at stepped
  · next peer kind phase_eq =>
      simp only [Option.some.injEq] at stepped
      subst next
      have plain : (Phase.member (.opening kind)).Plain := by simp [Phase.Plain]
      refine .leave plain rfl ((Owned.send name ⟨⟨name, .ctrl⟩, peer, .readyRecv kind⟩ _).trans
        (Owned.close name .ctrl _)) ?_
      simp [IsList]
  · contradiction

theorem unserved_openData (stepped : state.openData name = some next) : Unserved state next := by
  simp only [State.openData] at stepped
  split at stepped
  · simp only [Option.some.injEq] at stepped
    exact stepped ▸ .move (by simp [Phase.Plain]) (Owned.openSocket _ _ _)
  · contradiction

theorem unserved_receiveData (stepped : state.receiveData name = some next) :
    Unserved state next := by
  simp only [State.receiveData] at stepped
  split at stepped
  · split at stepped
    · contradiction
    · next packet net received =>
        split at stepped
        · simp only [Option.some.injEq] at stepped
          exact stepped ▸ .move (by simp [Phase.Plain])
            ((Owned.receive received).trans (Owned.close _ _ _))
        · simp only [Option.some.injEq] at stepped
          exact stepped ▸ .exit _
  · contradiction

/-- The master stops instead of changing its list. -/
theorem listStep_exit {action : Action} (master : action.master? = some name) :
    ListStep state action (state.exit name .error) := by
  refine .quiet (.exit .error) ?_
  intro other other_eq
  obtain rfl := Option.some.inj (master.symm.trans other_eq)
  simp [State.exit, State.move, State.put, Phase.runs]

theorem listStep_masterStart {garbage : Collector.Garbage} {userid cpuCoreNum networkId : Int32}
    (stepped : state.masterStart name garbage userid cpuCoreNum networkId = some next) :
    ListStep state (.masterStart name garbage userid cpuCoreNum networkId) next := by
  simp only [State.masterStart] at stepped
  split at stepped
  · split at stepped
    · simp only [Option.some.injEq] at stepped
      exact stepped ▸ .begin
    · simp only [Option.some.injEq] at stepped
      exact stepped ▸ listStep_exit rfl
  · contradiction

theorem unserved_masterOpen (stepped : state.masterOpen name = some next) :
    Unserved state next := by
  simp only [State.masterOpen] at stepped
  split at stepped
  · simp only [Option.some.injEq] at stepped
    exact stepped ▸ .move (by simp [Phase.Plain]) (Owned.openSocket _ _ _)
  · contradiction

theorem unserved_masterTimeout (stepped : state.masterTimeout name = some next) :
    Unserved state next := by
  simp only [State.masterTimeout] at stepped
  split at stepped
  · split at stepped
    · simp only [Option.some.injEq] at stepped
      subst next
      apply Unserved.move _ (Owned.close _ _ _)
      split <;> simp [Phase.Plain]
    · contradiction
  · contradiction

theorem unserved_masterReceive (stepped : state.masterReceive name = some next) :
    Unserved state next := by
  simp only [State.masterReceive] at stepped
  split at stepped
  · split at stepped
    · contradiction
    · next packet net received =>
        split at stepped
        all_goals
          simp only [Option.some.injEq] at stepped
          subst next
        · exact .move (by simp [Phase.Plain]) (Owned.receive received)
        · exact .move (by simp [Phase.Plain]) (Owned.receive received)
        · exact .exit .error
  · contradiction

theorem unserved_masterReply (stepped : state.masterReply name = some next) :
    Unserved state next := by
  simp only [State.masterReply] at stepped
  split at stepped
  · next client code phase_eq =>
      simp only [Option.some.injEq] at stepped
      subst next
      have plain : (Phase.master (.closing client code)).Plain := by simp [Phase.Plain]
      refine .leave plain rfl (Owned.send name ⟨⟨name, .ctrl⟩, client, code.reply⟩ _) ?_
      cases code <;> simp [IsList, RequestCode.reply]
  · contradiction

theorem unserved_masterClose (stepped : state.masterClose name = some next) :
    Unserved state next := by
  simp only [State.masterClose] at stepped
  split at stepped
  · simp only [Option.some.injEq] at stepped
    exact stepped ▸ .move (by simp [Phase.Plain]) (Owned.close _ _ _)
  · contradiction

theorem unserved_masterListen (stepped : state.masterListen name = some next) :
    Unserved state next := by
  simp only [State.masterListen] at stepped
  split at stepped
  · simp only [Option.some.injEq] at stepped
    exact stepped ▸ .move (by simp [Phase.Plain]) (Owned.refl _ _)
  · contradiction

theorem unserved_masterAccept (stepped : state.masterAccept name = some next) :
    Unserved state next := by
  simp only [State.masterAccept] at stepped
  split at stepped
  · simp only [Option.some.injEq] at stepped
    exact stepped ▸ .move (by simp [Phase.Plain]) (Owned.refl _ _)
  · contradiction

theorem listStep_takeNodedata {client : Endpoint} {code : RequestCode}
    {stale : Collector.ListBlock} {connection : Connection} {node : Nodedata UInt32}
    (phase_eq : (state.hosts name).phase = .master (.receiving client code))
    (first : firstConnection name state.connections = some connection)
    (stream_eq : connection.stream = .sent node) :
    ListStep state (.masterRecv name stale)
      (state.takeNodedata name code stale connection node) := by
  have refused : ListStep state (.masterRecv name stale) ({ state with
      connections := state.connections.filter (·.server ≠ name)
      received := (connection.client, name) :: state.received }.exit name .error) := by
    refine .quiet (.leave (by simp [Phase.Plain]) rfl (Owned.closeWhere name state.net)
      (by simp)) ?_
    rintro other ⟨⟩
    simp [State.exit, State.move, State.put, Phase.runs]
  cases code with
  | join =>
      simp only [State.takeNodedata]
      split
      · next accepted =>
          exact .join phase_eq first stream_eq (Or.inr ⟨rfl, accepted.1, rfl⟩) rfl rfl
      · exact refused
  | leave =>
      simp only [State.takeNodedata]
      split
      · exact .join phase_eq first stream_eq (Or.inl rfl) rfl rfl
      · exact refused

theorem listStep_masterRecv {stale : Collector.ListBlock}
    (stepped : state.masterRecv name stale = some next) :
    ListStep state (.masterRecv name stale) next := by
  simp only [State.masterRecv] at stepped
  split at stepped
  · next client code connection phase_eq first =>
      split at stepped
      · contradiction
      · simp only [Option.some.injEq] at stepped
        exact stepped ▸ listStep_exit rfl
      · next node stream_eq =>
          simp only [Option.some.injEq] at stepped
          exact stepped ▸ listStep_takeNodedata phase_eq first stream_eq
  · contradiction

theorem unserved_finishLoop (kind : Kind) (number : ℕ) (failed : Bool) :
    Unserved state (state.finishLoop name kind number failed) := by
  simp only [State.finishLoop]
  split
  · exact .exit .error
  · apply Unserved.move _ (Owned.close _ _ _)
    cases kind <;> simp [Phase.Plain]

theorem listStep_distribute (stepped : state.distribute name = some next) :
    ListStep state (.distribute name) next := by
  simp only [State.distribute] at stepped
  split at stepped
  · next kind number loop phase_eq =>
      split at stepped
      · simp only [Option.some.injEq] at stepped
        exact stepped ▸ .of_unserved rfl (unserved_finishLoop kind number loop.failed)
      · contradiction
      · next target rest targets_eq point_eq =>
          have rest_subset : rest ⊆ loop.targets := by simp [targets_eq]
          split at stepped
          · simp only [Option.some.injEq] at stepped
            exact stepped ▸ .of_unserved rfl (.turn phase_eq rest_subset (Owned.refl _ _) (by simp))
          · split at stepped
            · simp only [Option.some.injEq] at stepped
              exact stepped ▸
                .of_unserved rfl (.turn phase_eq rest_subset (Owned.refl _ _) (by simp))
            · simp only [Option.some.injEq] at stepped
              exact stepped ▸ .of_unserved rfl (.turn phase_eq (fun _ target_mem => target_mem)
                (Owned.send name _ state.net) (by simp [IsList]))
      · next target rest targets_eq point_eq =>
          have rest_subset : rest ⊆ loop.targets := by simp [targets_eq]
          split at stepped
          · simp only [Option.some.injEq] at stepped
            exact stepped ▸ .of_unserved rfl (.turn phase_eq rest_subset (Owned.refl _ _) (by simp))
          · next datagram payload_eq =>
              simp only [Option.some.injEq] at stepped
              subst next
              cases kind with
              | nodedataList => exact .serve phase_eq targets_eq payload_eq
              | nodeinfoDatabase =>
                  exact .of_unserved rfl (.turn phase_eq rest_subset (Owned.send name _ state.net)
                    (by simp [IsList]))
  · contradiction

theorem unserved_distributeReceive (stepped : state.distributeReceive name = some next) :
    Unserved state next := by
  simp only [State.distributeReceive] at stepped
  split at stepped
  · next kind number target rest attempt failed phase_eq =>
      split at stepped
      · contradiction
      · next packet net received =>
          simp only [Option.some.injEq] at stepped
          subst next
          apply Unserved.turn phase_eq _ (Owned.receive received) (by simp)
          split <;> exact fun _ target_mem => target_mem
  · contradiction

theorem unserved_distributeTimeout (stepped : state.distributeTimeout name = some next) :
    Unserved state next := by
  simp only [State.distributeTimeout] at stepped
  split at stepped
  · next kind number target rest attempt failed phase_eq =>
      split at stepped
      · simp only [Option.some.injEq] at stepped
        exact stepped ▸ .turn phase_eq (fun _ target_mem => target_mem) (Owned.refl _ _) (by simp)
      · contradiction
  · contradiction

theorem unserved_startDatabase (state : State) (name : Host) :
    Unserved state (state.startDatabase name) := by
  simp only [State.startDatabase]
  split
  · exact .move (by simp [Phase.Plain]) (Owned.refl _ _)
  · exact .update rfl (Owned.openSocket name _ state.net) (by simp) (Nat.le_succ _)
      rfl rfl (by simp)

theorem unserved_masterRelay (stepped : state.masterRelay name = some next) :
    Unserved state next := by
  simp only [State.masterRelay] at stepped
  split at stepped
  · split at stepped
    · simp only [Option.some.injEq] at stepped
      exact stepped ▸ .move (by simp [Phase.Plain]) (Owned.refl _ _)
    · simp only [Option.some.injEq] at stepped
      exact stepped ▸ unserved_startDatabase state name
  · contradiction

theorem listStep_masterFetch {received : Wire.Datagram}
    (stepped : state.masterFetch name received = some next) :
    ListStep state (.masterFetch name received) next := by
  simp only [State.masterFetch] at stepped
  split at stepped
  · next db phase_eq read =>
      simp only [Option.some.injEq] at stepped
      exact stepped ▸ .fetch read (unserved_startDatabase _ name)
  · simp only [Option.some.injEq] at stepped
    exact stepped ▸ .of_unserved rfl (.exit .error)
  · contradiction

theorem unserved_fail (stepped : state.fail name = some next) : Unserved state next := by
  simp only [State.fail] at stepped
  split at stepped
  · simp only [Option.some.injEq] at stepped
    exact stepped ▸ .exit .error
  · contradiction

end

theorem ListStep.of_step {state next : State} {action : Action}
    (stepped : lan.step state action = some next) : ListStep state action next := by
  change state.step action = some next at stepped
  cases action with
  | deliver index => exact .of_unserved rfl (unserved_deliver stepped)
  | start name => exact .of_unserved rfl (unserved_start stepped)
  | receiveReply name => exact .of_unserved rfl (unserved_receiveReply stepped)
  | joinTimeout name => exact .of_unserved rfl (unserved_joinTimeout stepped)
  | connect name => exact .of_unserved rfl (unserved_connect stepped)
  | sendNodedata name userid cpuCoreNum => exact .of_unserved rfl (unserved_sendNodedata stepped)
  | openControl name => exact .of_unserved rfl (unserved_openControl stepped)
  | identify name => exact .of_unserved rfl (unserved_identify stepped)
  | acknowledge name => exact .of_unserved rfl (unserved_acknowledge stepped)
  | openData name => exact .of_unserved rfl (unserved_openData stepped)
  | receiveData name => exact .of_unserved rfl (unserved_receiveData stepped)
  | masterStart name garbage userid cpuCoreNum networkId => exact listStep_masterStart stepped
  | masterOpen name => exact .of_unserved rfl (unserved_masterOpen stepped)
  | masterTimeout name => exact .of_unserved rfl (unserved_masterTimeout stepped)
  | masterReceive name => exact .of_unserved rfl (unserved_masterReceive stepped)
  | masterReply name => exact .of_unserved rfl (unserved_masterReply stepped)
  | masterClose name => exact .of_unserved rfl (unserved_masterClose stepped)
  | masterListen name => exact .of_unserved rfl (unserved_masterListen stepped)
  | masterAccept name => exact .of_unserved rfl (unserved_masterAccept stepped)
  | masterRecv name stale => exact listStep_masterRecv stepped
  | distribute name => exact listStep_distribute stepped
  | distributeReceive name => exact .of_unserved rfl (unserved_distributeReceive stepped)
  | distributeTimeout name => exact .of_unserved rfl (unserved_distributeTimeout stepped)
  | masterRelay name => exact .of_unserved rfl (unserved_masterRelay stepped)
  | masterFetch name received => exact listStep_masterFetch stepped
  | fail name => exact .of_unserved rfl (unserved_fail stepped)

/-! ## What a member reads -/

/-- The payload that a member reads next, when it waits for data of a kind. -/
def State.dataRead (state : State) (kind : Kind) (member : Host) :
    Option (Endpoint × Wire.Datagram) :=
  match (state.hosts member).phase, state.net.receive ⟨member, .data kind⟩ with
  | .member (.receiving waiting), some (⟨source, _, .payload datagram⟩, _) =>
      if waiting = kind then some (source, datagram) else none
  | _, _ => none

theorem mem_packets_of_dataRead {state : State} {kind : Kind} {member : Host} {source : Endpoint}
    {datagram : Wire.Datagram} (read : state.dataRead kind member = some (source, datagram)) :
    ⟨source, ⟨member, .data kind⟩, .payload datagram⟩ ∈ state.net.packets := by
  simp only [State.dataRead] at read
  split at read
  · next waiting origin destination payload net phase_eq received =>
      split at read
      · obtain ⟨rfl, rfl⟩ := Prod.mk.inj (Option.some.inj read)
        rcases Network.receive_effect received with ⟨-, here, -, -⟩
        change destination = _ at here
        subst destination
        exact Network.mem_packets_of_receive received
      · contradiction
  · contradiction

end NodeinfoSystem.Lan
