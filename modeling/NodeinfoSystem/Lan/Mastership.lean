import NodeinfoSystem.Lan.Effect

/-!
# How many masters there are

A node becomes a master when nobody answers its request to join in time. Nothing
else decides who is the master, so that there is one master only as long as every
request is either made while no other node can become one, or is the next one
that a master will read, and is not given up before it is answered.

The argument follows the requests that are not answered yet: there is at most
one, and while there is a master, it has it.
-/

namespace NodeinfoSystem.Lan

open Foundation

/-- Whether a host runs `run_master_node_procedure`. -/
def Phase.isMaster : Phase → Bool
  | .master _ => true
  | _ => false

def OneMaster (state : State) : Prop :=
  ∀ first second, (state.hosts first).phase.isMaster = true →
    (state.hosts second).phase.isMaster = true → first = second

/-- A host waits for a reply, and none is on its way to it. -/
def Unanswered (net : LanNetwork) (hosts : Host → HostState) (name : Host) (number : ℕ) : Prop :=
  (hosts name).phase = .member (.awaiting number) ∧
    ∀ packet ∈ net.packets, packet.destination ≠ ⟨name, .join number⟩

/-- A master has a request of a client, in the queue of its control socket or in its hands. -/
def Handles (net : LanNetwork) (hosts : Host → HostState) (master : Host) (client : Endpoint) :
    Prop :=
  ((hosts master).phase = .master .waiting ∧
      ∃ packet ∈ net.queueAt ⟨master, .ctrl⟩, packet.source = client) ∨
    ∃ code, (hosts master).phase = .master (.replying client code)

/--
A node asks to join while no host is a master or can become one, or while a
master waits for requests and has none queued. It gives up when it is not going
to be answered.
-/
def Orderly (state : State) : Action → Prop
  | .start _ =>
      (∀ other, (state.hosts other).phase.isMaster = false ∧
          ∀ number, ¬Unanswered state.net state.hosts other number) ∨
        ∃ master, (state.hosts master).phase = .master .waiting ∧
          state.net.queueAt ⟨master, .ctrl⟩ = []
  | .joinTimeout name => ∀ number, (state.hosts name).phase = .member (.awaiting number) →
      Unanswered state.net state.hosts name number ∧
        ∀ master, ¬Handles state.net state.hosts master ⟨name, .join number⟩
  | _ => True

/-- The request of a client is the next one that a master answers. -/
def Next (net : LanNetwork) (master : Host) (phase : Phase) (client : Endpoint) : Prop :=
  (phase = .master .waiting ∧ ∃ packet ∈ (net.queueAt ⟨master, .ctrl⟩).head?,
      packet.source = client ∧ packet.payload = .hello) ∨
    ∃ code, phase = .master (.replying client code)

/-- There is one master, and it has the request of every host that waits. -/
structure Led (net : LanNetwork) (hosts : Host → HostState) : Prop where
  oneMaster : ∀ first second, (hosts first).phase.isMaster = true →
    (hosts second).phase.isMaster = true → first = second
  ctrlOpen : ∀ master, (hosts master).phase = .master .waiting → ⟨master, .ctrl⟩ ∈ net.bound
  joinOpen : ∀ name number, (hosts name).phase = .member (.awaiting number) →
    ⟨name, .join number⟩ ∈ net.bound
  alone : ∀ first second number other, Unanswered net hosts first number →
    Unanswered net hosts second other → first = second
  next : ∀ name number master, Unanswered net hosts name number →
    (hosts master).phase.isMaster = true →
      Next net master (hosts master).phase ⟨name, .join number⟩

namespace Led

variable {net next : LanNetwork} {hosts : Host → HostState} {name : Host} {host : HostState}

/-- A host that waits for a reply is not answered by what another host does to its own sockets. -/
theorem unanswered_of_owned {sent : Multiset (Packet Endpoint Message)}
    (owned : Owned name sent net next) {other : Host} (foreign : other ≠ name) {number : ℕ}
    (unanswered : Unanswered next (Function.update hosts name host) other number) :
    Unanswered net hosts other number := by
  rcases unanswered with ⟨phase_eq, none⟩
  refine ⟨by simpa [foreign] using phase_eq, ?_⟩
  intro packet packet_mem here
  have foreign_packet : packet.destination.host ≠ name := by
    rw [here]
    exact foreign
  exact none packet (owned.mem_of_foreign packet_mem foreign_packet) here

theorem update (led : Led net hosts) {sent : Multiset (Packet Endpoint Message)}
    (owned : Owned name sent net next)
    (oldMaster : host.phase.isMaster = true → (hosts name).phase.isMaster = true)
    (ctrlOpen : host.phase = .master .waiting → ⟨name, .ctrl⟩ ∈ next.bound)
    (answered : ∀ number, host.phase ≠ .member (.awaiting number))
    (kept : ∀ other number, host.phase.isMaster = true →
      Unanswered next (Function.update hosts name host) other number →
        Next net name (hosts name).phase ⟨other, .join number⟩ →
          Next next name host.phase ⟨other, .join number⟩) :
    Led next (Function.update hosts name host) := by
  have waits {other : Host} {number : ℕ}
      (unanswered : Unanswered next (Function.update hosts name host) other number) :
      Unanswered net hosts other number := by
    apply unanswered_of_owned owned _ unanswered
    rintro rfl
    exact answered number (by simpa using unanswered.1)
  have master {other : Host}
      (isMaster : (Function.update hosts name host other).phase.isMaster = true) :
      (hosts other).phase.isMaster = true := by
    by_cases same : other = name
    · subst other
      exact oldMaster (by simpa using isMaster)
    · simpa [same] using isMaster
  refine ⟨?_, ?_, ?_, ?_, ?_⟩
  · intro first second first_master second_master
    exact led.oneMaster first second (master first_master) (master second_master)
  · intro other waiting
    by_cases same : other = name
    · subst other
      exact ctrlOpen (by simpa using waiting)
    · apply (owned.bound ⟨other, .ctrl⟩ same).mpr
      exact led.ctrlOpen other (by simpa [same] using waiting)
  · intro other number awaiting
    by_cases same : other = name
    · subst other
      exact absurd (by simpa using awaiting) (answered number)
    · apply (owned.bound ⟨other, .join number⟩ same).mpr
      exact led.joinOpen other number (by simpa [same] using awaiting)
  · intro first second number other first_waits second_waits
    exact led.alone first second number other (waits first_waits) (waits second_waits)
  · intro other number server unanswered isMaster
    have before := led.next other number server (waits unanswered) (master isMaster)
    by_cases same : server = name
    · subst server
      simp only [Function.update_self] at isMaster ⊢
      exact kept other number isMaster unanswered before
    · simp only [Function.update_of_ne same]
      simpa only [Next, owned.queue ⟨server, .ctrl⟩ same] using before

theorem retire (led : Led net hosts) {sent : Multiset (Packet Endpoint Message)}
    (owned : Owned name sent net next) (noMaster : host.phase.isMaster = false)
    (answered : ∀ number, host.phase ≠ .member (.awaiting number)) :
    Led next (Function.update hosts name host) := by
  apply led.update owned _ _ answered
  · intro other number isMaster
    rw [noMaster] at isMaster
    contradiction
  · intro isMaster
    rw [noMaster] at isMaster
    contradiction
  · intro waiting
    rw [waiting] at noMaster
    contradiction

theorem proceed (led : Led net hosts) {sent : Multiset (Packet Endpoint Message)}
    (owned : Owned name sent net next) {before after : MasterPhase}
    (phase_eq : (hosts name).phase = .master before) (after_eq : host.phase = .master after)
    (ctrlOpen : after = .waiting → ⟨name, .ctrl⟩ ∈ next.bound)
    (free : ∀ client, ¬Next net name (.master before) client) :
    Led next (Function.update hosts name host) := by
  apply led.update owned
  · intro _
    rw [phase_eq]
    rfl
  · intro waiting
    apply ctrlOpen
    rw [after_eq] at waiting
    exact Phase.master.inj waiting
  · intro number awaiting
    rw [after_eq] at awaiting
    contradiction
  · intro other number _ _ asked
    rw [phase_eq] at asked
    exact absurd asked (free _)

theorem deliver (led : Led net hosts) {index : ℕ} (delivered : net.deliver index = some next) :
    Led next hosts := by
  rcases Network.deliver_effect delivered with ⟨bound_eq, packet, -, effect⟩
  have waits {other : Host} {number : ℕ} (unanswered : Unanswered next hosts other number) :
      Unanswered net hosts other number := by
    refine ⟨unanswered.1, ?_⟩
    rcases effect with ⟨-, packets_eq⟩ | ⟨unbound, packets_eq⟩
    · rw [← packets_eq]
      exact unanswered.2
    · intro other_packet packet_mem here
      rw [packets_eq, Multiset.mem_cons] at packet_mem
      rcases packet_mem with rfl | kept
      · rw [here] at unbound
        exact unbound (led.joinOpen other number unanswered.1)
      · exact unanswered.2 other_packet kept here
  refine ⟨led.oneMaster, ?_, ?_, ?_, ?_⟩
  · intro master waiting
    rw [bound_eq]
    exact led.ctrlOpen master waiting
  · intro name number awaiting
    rw [bound_eq]
    exact led.joinOpen name number awaiting
  · intro first second number other first_waits second_waits
    exact led.alone first second number other (waits first_waits) (waits second_waits)
  · intro name number master unanswered isMaster
    rcases led.next name number master (waits unanswered) isMaster with
      ⟨waiting, request, first, request_ok⟩ | replying
    · refine Or.inl ⟨waiting, request, ?_, request_ok⟩
      rcases Network.queueAt_deliver delivered ⟨master, .ctrl⟩ with ⟨arrived, queue_eq, -⟩
      rw [queue_eq, List.head?_append, Option.mem_def.mp first, Option.some_or, Option.mem_some]
    · exact Or.inr replying

/-- A host that nobody is going to answer becomes the only master. -/
theorem joinTimeout (led : Led net hosts) {number : ℕ}
    (unanswered : Unanswered net hosts name number)
    (ignored : ∀ master, ¬Handles net hosts master ⟨name, .join number⟩) :
    Led (net.close ⟨name, .join number⟩)
      (Function.update hosts name { hosts name with phase := .master .starting }) := by
  have owned := Owned.close name (.join number) net
  have noMaster (master : Host) : (hosts master).phase.isMaster = false := by
    rw [Bool.eq_false_iff]
    intro isMaster
    apply ignored master
    rcases led.next name number master unanswered isMaster with
      ⟨waiting, request, first, source_eq, -⟩ | replying
    · exact Or.inl ⟨waiting, request, List.mem_of_mem_head? first, source_eq⟩
    · exact Or.inr replying
  have only {other : Host} (isMaster : (Function.update hosts name
      { hosts name with phase := .master .starting } other).phase.isMaster = true) :
      other = name := by
    by_contra different
    rw [Function.update_of_ne different, noMaster other] at isMaster
    contradiction
  have answered (other : Host) (otherNumber : ℕ) : ¬Unanswered (net.close ⟨name, .join number⟩)
      (Function.update hosts name { hosts name with phase := .master .starting }) other
        otherNumber := by
    intro waits
    by_cases same : other = name
    · subst other
      simpa using waits.1
    · exact same (led.alone other name otherNumber number
        (unanswered_of_owned owned same waits) unanswered)
  refine ⟨?_, ?_, ?_, ?_, ?_⟩
  · intro first second first_master second_master
    rw [only first_master, only second_master]
  · intro other waiting
    by_cases same : other = name
    · subst other
      simp at waiting
    · apply (owned.bound ⟨other, .ctrl⟩ same).mpr
      exact led.ctrlOpen other (by simpa [same] using waiting)
  · intro other otherNumber awaiting
    by_cases same : other = name
    · subst other
      simp at awaiting
    · apply (owned.bound ⟨other, .join otherNumber⟩ same).mpr
      exact led.joinOpen other otherNumber (by simpa [same] using awaiting)
  · intro first second firstNumber secondNumber waits
    exact absurd waits (answered first firstNumber)
  · intro other otherNumber master waits
    exact absurd waits (answered other otherNumber)

/-- The request of a host that starts is the only one that is not answered. -/
theorem start (led : Led net hosts) (idle : (hosts name).phase.runs = false)
    (orderly : (∀ other, (hosts other).phase.isMaster = false ∧
        ∀ number, ¬Unanswered net hosts other number) ∨
      ∃ master, (hosts master).phase = .master .waiting ∧ net.queueAt ⟨master, .ctrl⟩ = []) :
    Led
      ((net.openSocket ⟨name, .join (hosts name).sockets⟩).broadcast
        ⟨name, .join (hosts name).sockets⟩ (·.port == .ctrl) .hello)
      (Function.update hosts name { hosts name with
        phase := .member (.awaiting (hosts name).sockets)
        sockets := (hosts name).sockets + 1 }) := by
  have owned := Owned.openSocket name (.join (hosts name).sockets) net
  have none (other : Host) (number : ℕ) : ¬Unanswered net hosts other number := by
    intro waits
    rcases orderly with quiet | ⟨master, waiting, queue_eq⟩
    · exact (quiet other).2 number waits
    · rcases led.next other number master waits (by rw [waiting]; rfl) with
        ⟨-, request, first, -⟩ | ⟨code, replying⟩
      · simp [queue_eq] at first
      · simp [waiting] at replying
  have asker {other : Host} {number : ℕ} (waits : Unanswered
      ((net.openSocket ⟨name, .join (hosts name).sockets⟩).broadcast
        ⟨name, .join (hosts name).sockets⟩ (·.port == .ctrl) .hello)
      (Function.update hosts name { hosts name with
        phase := .member (.awaiting (hosts name).sockets)
        sockets := (hosts name).sockets + 1 }) other number) :
      other = name ∧ number = (hosts name).sockets := by
    by_cases same : other = name
    · subst other
      have phase_eq := waits.1
      simp only [Function.update_self, Phase.member.injEq, MemberPhase.awaiting.injEq] at phase_eq
      exact ⟨rfl, phase_eq.symm⟩
    · refine absurd ⟨by simpa [same] using waits.1, ?_⟩ (none other number)
      intro packet packet_mem here
      have foreign : packet.destination.host ≠ name := by
        rw [here]
        exact same
      refine waits.2 packet ?_ here
      rw [Network.packets_broadcast]
      exact Multiset.mem_add.mpr (Or.inl (owned.mem_of_foreign packet_mem foreign))
  have master {other : Host} (isMaster : (Function.update hosts name { hosts name with
        phase := .member (.awaiting (hosts name).sockets)
        sockets := (hosts name).sockets + 1 } other).phase.isMaster = true) :
      other ≠ name ∧ (hosts other).phase.isMaster = true := by
    by_cases same : other = name
    · subst other
      simp [Phase.isMaster] at isMaster
    · exact ⟨same, by simpa [same] using isMaster⟩
  refine ⟨?_, ?_, ?_, ?_, ?_⟩
  · intro first second first_master second_master
    exact led.oneMaster first second (master first_master).2 (master second_master).2
  · intro other waiting
    by_cases same : other = name
    · subst other
      simp at waiting
    · apply (owned.bound ⟨other, .ctrl⟩ same).mpr
      exact led.ctrlOpen other (by simpa [same] using waiting)
  · intro other number awaiting
    by_cases same : other = name
    · subst other
      simp only [Function.update_self, Phase.member.injEq, MemberPhase.awaiting.injEq] at awaiting
      rw [← awaiting]
      exact List.mem_cons_self
    · apply (owned.bound ⟨other, .join number⟩ same).mpr
      exact led.joinOpen other number (by simpa [same] using awaiting)
  · intro first second number other first_waits second_waits
    rw [(asker first_waits).1, (asker second_waits).1]
  · intro other number server waits isMaster
    rcases asker waits with ⟨rfl, rfl⟩
    rcases master isMaster with ⟨different, isMaster⟩
    rcases orderly with quiet | ⟨listener, waiting, queue_eq⟩
    · rw [(quiet server).1] at isMaster
      contradiction
    · obtain rfl := led.oneMaster server listener isMaster (by rw [waiting]; rfl)
      rw [Function.update_of_ne different]
      refine Or.inl ⟨waiting, ?_⟩
      rcases Network.queueAt_broadcast ⟨other, .join (hosts other).sockets⟩ (·.port == .ctrl) .hello
        (net.openSocket ⟨other, .join (hosts other).sockets⟩) ⟨server, .ctrl⟩ with
        ⟨copies, copies_eq, copies_ok, heard⟩
      rw [owned.queue ⟨server, .ctrl⟩ different, queue_eq, List.nil_append] at copies_eq
      have isBound := (owned.bound ⟨server, .ctrl⟩ different).mpr (led.ctrlOpen server waiting)
      rcases List.exists_cons_of_ne_nil (heard.mpr ⟨isBound, rfl⟩) with ⟨copy, rest, rfl⟩
      refine ⟨copy, by rw [copies_eq]; rfl, ?_⟩
      rw [copies_ok copy List.mem_cons_self]
      exact ⟨rfl, rfl⟩

end Led

theorem led_initial : Led State.initial.net State.initial.hosts where
  oneMaster _ _ isMaster := by simp [State.initial, Phase.isMaster] at isMaster
  ctrlOpen _ waiting := by simp [State.initial] at waiting
  joinOpen _ _ awaiting := by simp [State.initial] at awaiting
  alone _ _ _ _ waits := by simp [Unanswered, State.initial] at waits
  next _ _ _ waits := by simp [Unanswered, State.initial] at waits

theorem led_step {state next : State} {action : Action} (orderly : Orderly state action)
    (led : Led state.net state.hosts) (step : Step state action next) :
    Led next.net next.hosts := by
  cases step with
  | deliver delivered => exact led.deliver delivered
  | start host_eq idle =>
      subst host_eq
      exact led.start idle orderly
  | receiveReply phase_eq received =>
      exact led.retire ((Owned.receive received).trans (Owned.close _ _ _)) rfl (by simp)
  | joinTimeout phase_eq quiet =>
      rcases orderly _ phase_eq with ⟨unanswered, ignored⟩
      exact led.joinTimeout unanswered ignored
  | connect phase_eq listening => exact led.retire (Owned.refl _ _) rfl (by simp)
  | refused phase_eq deaf => exact led.retire (Owned.closeWhere _ _) rfl (by simp)
  | send phase_eq => exact led.retire (Owned.refl _ _) rfl (by simp)
  | openControl phase_eq => exact led.retire (Owned.openSocket _ _ _) rfl (by simp)
  | identify phase_eq received payload_eq => exact led.retire (Owned.receive received) rfl (by simp)
  | unknown phase_eq received payload_ne =>
      exact led.retire (Owned.closeWhere _ _) rfl (by simp)
  | acknowledge phase_eq =>
      exact led.retire ((Owned.send _ _ _).trans (Owned.close _ _ _)) rfl (by simp)
  | openData phase_eq => exact led.retire (Owned.openSocket _ _ _) rfl (by simp)
  | receiveData phase_eq received =>
      exact led.retire ((Owned.receive received).trans (Owned.close _ _ _)) rfl (by simp)
  | badData phase_eq received rejected => exact led.retire (Owned.closeWhere _ _) rfl (by simp)
  | masterStart phase_eq =>
      exact led.proceed (Owned.refl _ _) phase_eq rfl (by simp) (by simp [Next])
  | masterOpen phase_eq =>
      refine led.proceed (Owned.openSocket _ _ _) phase_eq rfl ?_ (by simp [Next])
      intro _
      exact List.mem_cons_self
  | masterTimeout phase_eq quiet after_eq =>
      refine led.proceed (Owned.close _ _ _) phase_eq rfl ?_ (by simp [Next, quiet])
      rintro rfl
      simp at after_eq
  | @masterReceive name packet net code phase_eq received code_eq =>
      apply led.update (Owned.receive received)
      · intro _
        rw [phase_eq]
        rfl
      · simp
      · simp
      · intro other number _ _ asked
        refine Or.inr ⟨code, ?_⟩
        rcases asked with ⟨-, request, first, source_eq, -⟩ | ⟨_, replying⟩
        · rw [(Network.queueAt_receive received).1, List.head?_cons, Option.mem_some] at first
          rw [first, source_eq]
        · simp [phase_eq] at replying
  | @masterReply name client code phase_eq =>
      apply led.update (Owned.send name _ _)
      · intro _
        rw [phase_eq]
        rfl
      · simp
      · simp
      · intro other number _ waits asked
        rw [phase_eq] at asked
        rcases asked with ⟨waiting, -⟩ | ⟨_, replying⟩
        · simp at waiting
        · simp only [Phase.master.injEq, MasterPhase.replying.injEq] at replying
          refine absurd replying.1 (waits.2 ⟨⟨name, .ctrl⟩, client, code.reply⟩ ?_)
          rw [Network.packets_send]
          exact Multiset.mem_cons_self _ _
  | masterClose phase_eq =>
      exact led.proceed (Owned.close _ _ _) phase_eq rfl (by simp) (by simp [Next])
  | masterListen phase_eq =>
      exact led.proceed (Owned.refl _ _) phase_eq rfl (by simp) (by simp [Next])
  | masterAccept phase_eq first =>
      exact led.proceed (Owned.refl _ _) phase_eq rfl (by simp) (by simp [Next])
  | masterRecv phase_eq first stream_eq list_eq =>
      exact led.proceed (Owned.openSocket _ _ _) phase_eq rfl (by simp) (by simp [Next])
  | refuseNodedata phase_eq first stream_eq =>
      exact led.retire (Owned.closeWhere _ _) rfl (by simp)
  | @busy action name before after sockets database sent net phase_eq before_busy after_busy owned
      sent_ok =>
      refine led.proceed owned phase_eq rfl ?_ ?_
      · rintro rfl
        simp [MasterPhase.Busy] at after_busy
      · rintro client (⟨waiting, -⟩ | ⟨code, replying⟩)
        · obtain rfl := Phase.master.inj waiting
          exact before_busy
        · obtain rfl := Phase.master.inj replying
          exact before_busy
  | stop running cause => exact led.retire (Owned.closeWhere _ _) rfl (by simp)

theorem led_inductive : lan.Inductive Orderly fun state => Led state.net state.hosts where
  initial := led_initial
  preserved stepped orderly led := led_step orderly led (Step.of_step stepped)

/--
In every run in which the requests to join are made and given up in order, no
two hosts are masters at once.
-/
theorem oneMaster_of_orderly (state : State) (reached : lan.ReachableWith Orderly state) :
    OneMaster state :=
  (led_inductive.holds reached).oneMaster

/-- Only the steps of a node that asks to join have a condition. -/
def Unconditional : Action → Bool
  | .start _ => false
  | .joinTimeout _ => false
  | _ => true

theorem orderly_of_unconditional {actions : List Action}
    (unconditional : actions.all Unconditional = true) (state : State) (action : Action)
    (action_mem : action ∈ actions) : Orderly state action := by
  have here := List.all_eq_true.mp unconditional action action_mem
  cases action with
  | start | joinTimeout => simp [Unconditional] at here
  | _ => trivial

def askingState : State :=
  (State.initial.start 1).get rfl

theorem orderly_askingState : Orderly askingState (.joinTimeout 1) := by
  intro number awaiting
  obtain rfl : 0 = number := by
    simpa [askingState, State.start, State.put, State.initial] using awaiting
  refine ⟨⟨rfl, by decide⟩, ?_⟩
  rintro master (⟨waiting, -⟩ | ⟨code, replying⟩)
  all_goals
    by_cases same : master = 1 <;>
      simp_all [askingState, State.start, State.put, State.initial]

theorem oneMaster_welcomed : ∃ state : State, lan.ReachableWith Orderly state ∧
    (state.hosts 1).phase.isMaster = true ∧ (state.hosts 2).phase = .member (.connecting 1) ∧
      OneMaster state := by
  have alone : Orderly State.initial (.start 1) :=
    Or.inl fun other => ⟨rfl, fun number waits => by simp [Unanswered, State.initial] at waits⟩
  have asked : lan.ReachableWith Orderly askingState := .step .initial alone rfl
  have served : lan.ReachableWith Orderly _ :=
    (TransitionSystem.ReachableWith.step asked orderly_askingState rfl).runFrom
      (orderly_of_unconditional
        (rfl : List.all [.masterStart 1 Collector.zeros 0 4 isTimeout, .masterOpen 1]
          Unconditional = true)) rfl
  have listening (state : State) (waiting : (state.hosts 1).phase = .master .waiting)
      (queue_eq : state.net.queueAt ⟨1, .ctrl⟩ = []) : Orderly state (.start 2) :=
    Or.inr ⟨1, waiting, queue_eq⟩
  have welcomed : lan.ReachableWith Orderly _ :=
    (TransitionSystem.ReachableWith.step served (listening _ rfl rfl) rfl).runFrom
      (orderly_of_unconditional (rfl : List.all
        [.masterReceive 1, .masterReply 1, .deliver 0, .receiveReply 2] Unconditional = true)) rfl
  exact ⟨_, welcomed, rfl, rfl, oneMaster_of_orderly _ welcomed⟩

theorem exists_not_oneMaster {actions : List Action} {first second : Host}
    (different : first ≠ second)
    (ended : (lan.run actions).map (fun state =>
      (state.hosts first).phase.isMaster && (state.hosts second).phase.isMaster) = some true) :
    ∃ state, lan.run actions = some state ∧ ¬OneMaster state := by
  rcases Option.map_eq_some_iff.mp ended with ⟨state, ran, masters⟩
  rw [Bool.and_eq_true] at masters
  exact ⟨state, ran, fun oneMaster => different (oneMaster first second masters.1 masters.2)⟩

/--
Two masters: of nodes that ask at the same time, while the master does not
listen, behind another request, and without patience.
-/
theorem exists_not_oneMaster_runs :
    (∃ state, lan.run togetherRun = some state ∧ ¬OneMaster state) ∧
      (∃ state, lan.run unheardRun = some state ∧ ¬OneMaster state) ∧
      (∃ state, lan.run droppedRun = some state ∧ ¬OneMaster state) ∧
      ∃ state, lan.run impatientRun = some state ∧ ¬OneMaster state := by
  refine ⟨?_, ?_, ?_, ?_⟩
  · exact exists_not_oneMaster (by decide : (1 : Host) ≠ 2) (by decide +kernel)
  · exact exists_not_oneMaster (by decide : (1 : Host) ≠ 2) (by decide +kernel)
  · exact exists_not_oneMaster (by decide : (1 : Host) ≠ 3) (by decide +kernel)
  · exact exists_not_oneMaster (by decide : (1 : Host) ≠ 2) (by decide +kernel)

end NodeinfoSystem.Lan
