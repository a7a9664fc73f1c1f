import NodeinfoSystem.HugeCluster.Order
import NodeinfoSystem.HugeCluster.Rounds

/-!
# Fetches are linearizable

A database that a master stores is what the relay served after some sequence of
rounds. That sequence contains every list that any master had sent when the request
was made, even one that was still under way, and no list that was sent after the
reply. So the stored databases are reads of one register of lists that is written by
`sendto`, and a read sees every write that precedes it. Like the order of the lists this
holds of a relay that does not fail before it has received what it acknowledged.
-/

namespace NodeinfoSystem.HugeCluster

open Foundation Exchange Wire
open Collector (databasePayload fetchNodeinfoDatabase)

variable {Master : Type}

/-- The database is what the relay serves after the rounds. -/
def ServedAfter (rounds : List (Relay.Round (Endpoint Master)))
    (entries : List NodeinfoDatabaseElement) : Prop :=
  ∃ relay, (Relay.relay (Endpoint Master)).run rounds = some relay ∧
    (databasePayload (Relay.served relay.db)).isSome ∧
    entries = (Relay.served relay.db).entries

/-- What a request has made of a prefix of the rounds stays so while rounds are added. -/
theorem take_eq_of_extended {α : Type} {before after : List α} {position : ℕ}
    (extended : before <+: after) (inside : position ≤ before.length) :
    after.take position = before.take position := by
  rcases extended with ⟨later, rfl⟩
  exact List.take_append_of_le_length inside

section Steps

variable [DecidableEq Master] {state next : State Master} {data after : Data Master}
  {action : Action Master} {input : Input}

theorem made_step {request : Request Master} (stepped : Exchange.Step state action next)
    (made : Made state request) : Made next request := by
  cases stepped with
  | deliver | lose | bindCtrl | bindData | accept | reject | replyJoin | replyReady | replyFetch
  | consume => exact made
  | @request master kind current client current_eq may client_eq =>
      subst current
      exact Made.setMaster made (Nat.le_succ _)
  | masterReceive | masterTimeout => exact Made.setMaster made (by simp)
  | masterSendList | masterNextRound | masterFail => exact Made.setMaster made (Nat.le_refl _)

/-- The relay replies to a request with the database it has, between two lists. -/
structure Replied (state : State Master) (data : Data Master) (request : Request Master)
    (answer : Answer) : Prop where
  made : Made state request
  idle : ∀ client, state.relay ≠ .receiving client
  payload_eq : databasePayload (Relay.served data.db) = some answer.datagram
  position_eq : answer.position = data.rounds.length

/-- A master stores what the reply to its request holds. -/
structure Stored (data : Data Master) (master : Master) (copy : Copy) (answer : Answer) :
    Prop where
  found : data.answers ⟨master, copy.number⟩ = some answer
  returned : receiveDbOnSocketImpl true (some answer.datagram) = some copy.db
  position_eq : copy.position = answer.position

/-- Where the replies and the stored databases after a step come from. -/
structure ReadEffect (state : State Master) (data after : Data Master) : Prop where
  answers : ∀ request answer, after.answers request = some answer →
    data.answers request = some answer ∨ Replied state data request answer
  copies : ∀ master copy, after.nodeinfoDb master = some copy →
    data.nodeinfoDb master = some copy ∨ ∃ answer, Stored data master copy answer

omit [DecidableEq Master] in
theorem ReadEffect.of_eq (answers_eq : after.answers = data.answers)
    (nodeinfoDb_eq : after.nodeinfoDb = data.nodeinfoDb) : ReadEffect state data after where
  answers _ _ found := Or.inl (answers_eq ▸ found)
  copies _ _ found := Or.inl (nodeinfoDb_eq ▸ found)

/-- An updated table holds the new value or an old one. -/
theorem update_eq_some {α β : Type} [DecidableEq α] {table : α → Option β} {key other : α}
    {new value : β} (found : Function.update table key (some new) other = some value) :
    table other = some value ∨ other = key ∧ value = new := by
  by_cases same : other = key
  · subst other
    rw [Function.update_self, Option.some.injEq] at found
    exact Or.inr ⟨rfl, found.symm⟩
  · rw [Function.update_of_ne same] at found
    exact Or.inl found

theorem Effect.readEffect (wellFormed : WellFormed state)
    (effect : Effect state data input action next after) : ReadEffect state data after := by
  cases effect with
  | quiet | joined | acknowledged | sent => exact .of_eq rfl rfl
  | received _ _ _ _ ran =>
      have frame := processed_of_processList ran
      exact .of_eq frame.answers_eq frame.nodeinfoDb_eq
  | @stored master number answer db next quiet phase_eq found returned =>
      refine ⟨fun _ _ old => Or.inl old, ?_⟩
      intro other copy stored
      rcases update_eq_some stored with old | ⟨rfl, rfl⟩
      · exact Or.inl old
      · refine Or.inr ⟨answer, found, ?_, rfl⟩
        cases received : receiveDbOnSocketImpl true (some answer.datagram) with
        | none => simp [fetchNodeinfoDatabase, Collector.Exchange.local, Reception.received,
            received] at returned
        | some received_db =>
            rw [Collector.fetchNodeinfoDatabase_datagram received] at returned
            simp only [Prod.mk.injEq, Option.some.injEq, true_and] at returned
            rw [returned]
  | @answered client relay_eq =>
      rcases wellFormed.client_made client (by rw [relay_eq]; rfl) with ⟨request, rfl, made⟩
      simp only [Data.replyFetch]
      split
      · next same datagram client_eq payload_eq =>
          obtain rfl : request = same := by simpa using client_eq
          refine ⟨?_, fun _ _ old => Or.inl old⟩
          intro other answer found
          rcases update_eq_some found with old | ⟨rfl, rfl⟩
          · exact Or.inl old
          · exact Or.inr ⟨made, by simp [relay_eq], payload_eq, rfl⟩
      · exact .of_eq rfl rfl

/-! ## Where the stored databases come from -/

/-- The reply holds what the relay served after the rounds before it. -/
def Answered (rounds : List (Relay.Round (Endpoint Master))) (answer : Answer) : Prop :=
  answer.position ≤ rounds.length ∧
    ∃ relay, (Relay.relay (Endpoint Master)).run (rounds.take answer.position) = some relay ∧
      databasePayload (Relay.served relay.db) = some answer.datagram

/-- Every reply and every stored database comes from a prefix of the rounds. -/
structure Recorded (state : State Master) (data : Data Master) : Prop where
  made : ∀ request answer, data.answers request = some answer → Made state request
  answered : ∀ request answer, data.answers request = some answer → Answered data.rounds answer
  copyMade : ∀ master copy, data.nodeinfoDb master = some copy →
    Made state ⟨master, copy.number⟩
  copied : ∀ master copy, data.nodeinfoDb master = some copy →
    copy.position ≤ data.rounds.length ∧
      ServedAfter (data.rounds.take copy.position) copy.db.entries

omit [DecidableEq Master] in
theorem recorded_initial : Recorded (Exchange.State.initial : State Master) Data.initial where
  made _ _ found := by simp [Data.initial] at found
  answered _ _ found := by simp [Data.initial] at found
  copyMade _ _ found := by simp [Data.initial] at found
  copied _ _ found := by simp [Data.initial] at found

omit [DecidableEq Master] in
theorem Answered.extend {before after : List (Relay.Round (Endpoint Master))} {answer : Answer}
    (answered : Answered before answer) (extended : before <+: after) : Answered after answer := by
  refine ⟨answered.1.trans extended.length_le, ?_⟩
  rw [take_eq_of_extended extended answered.1]
  exact answered.2

omit [DecidableEq Master] in
theorem Answered.served {rounds : List (Relay.Round (Endpoint Master))} {answer : Answer}
    {db : NodeinfoDatabase} (answered : Answered rounds answer)
    (returned : receiveDbOnSocketImpl true (some answer.datagram) = some db) :
    ServedAfter (rounds.take answer.position) db.entries := by
  rcases answered.2 with ⟨relay, ran, payload_eq⟩
  rcases Collector.receiveDb_of_databasePayload payload_eq with ⟨same, received, -, -, entries_eq⟩
  obtain rfl : db = same := Option.some.inj (returned.symm.trans received)
  exact ⟨relay, ran, by simp [payload_eq], entries_eq⟩

omit [DecidableEq Master] in
/-- A reply is sent after the rounds that lead to what is served. -/
theorem Replied.answered {request : Request Master} {answer : Answer}
    (replied : Replied state data request answer) (refined : Refined state data) :
    Answered data.rounds answer := by
  rcases refined with ⟨relay, ran, represents⟩
  refine ⟨replied.position_eq.le, relay, ?_, ?_⟩
  · rw [replied.position_eq, List.take_length, ran]
  · rw [← represents.db_eq, replied.payload_eq]

theorem Recorded.of_effect (invariants : WellFormed state ∧ Refined state data)
    (stepped : Exchange.Step state action next) (effect : Effect state data input action next after)
    (recorded : Recorded state data) : Recorded next after := by
  have extended := effect.extends_.rounds
  rcases effect.readEffect invariants.1 with ⟨answers, copies⟩
  refine ⟨?_, ?_, ?_, ?_⟩
  · intro request answer found
    rcases answers request answer found with old | replied
    · exact made_step stepped (recorded.made request answer old)
    · exact made_step stepped replied.made
  · intro request answer found
    rcases answers request answer found with old | replied
    · exact (recorded.answered request answer old).extend extended
    · exact (replied.answered invariants.2).extend extended
  · intro master copy found
    rcases copies master copy found with old | ⟨answer, stored⟩
    · exact made_step stepped (recorded.copyMade master copy old)
    · exact made_step stepped (recorded.made _ _ stored.found)
  · intro master copy found
    rcases copies master copy found with old | ⟨answer, stored⟩
    · rcases recorded.copied master copy old with ⟨inside, served⟩
      rw [take_eq_of_extended extended inside]
      exact ⟨inside.trans extended.length_le, served⟩
    · have answered := (recorded.answered _ _ stored.found).extend extended
      rw [stored.position_eq]
      exact ⟨answered.1, answered.served stored.returned⟩

theorem recorded_inductive (allowed : State Master × Data Master → Action Master × Input → Prop) :
    (system Master).Inductive allowed fun state =>
      (WellFormed state.1 ∧ Refined state.1 state.2) ∧ Recorded state.1 state.2 :=
  (refined_inductive allowed).and recorded_initial fun stepped _ invariants recorded => by
    rcases effect_of_step invariants.1 stepped with ⟨step, effect⟩
    exact recorded.of_effect invariants step effect

/-! ## Runs -/

/--
What holds in the states after `start`: replies to requests that are made later come
after the rounds that were complete at `start`, and after the lists sent by then.
-/
structure Since (start : State Master × Data Master) (state : State Master × Data Master) :
    Prop where
  rounds : start.2.rounds <+: state.2.rounds
  sent : start.2.sent <+: state.2.sent
  answers : ∀ request answer, ¬Made start.1 request → state.2.answers request = some answer →
    start.2.rounds.length ≤ answer.position ∧
      start.2.sent <+: received (state.2.rounds.take answer.position)
  copies : ∀ master copy, ¬Made start.1 ⟨master, copy.number⟩ →
    state.2.nodeinfoDb master = some copy →
    start.2.rounds.length ≤ copy.position ∧
      start.2.sent <+: received (state.2.rounds.take copy.position)

omit [DecidableEq Master] in
theorem Since.refl {start : State Master × Data Master} (recorded : Recorded start.1 start.2) :
    Since start start where
  rounds := List.prefix_refl _
  sent := List.prefix_refl _
  answers request answer fresh found := absurd (recorded.made request answer found) fresh
  copies master copy fresh found := absurd (recorded.copyMade master copy found) fresh

variable [Fintype Master]

/-- The invariants that the runs are about. -/
structure Consistent (state : State Master) (data : Data Master) : Prop where
  wellFormed : WellFormed state
  tokens : TokenInvariant state
  refined : Refined state data
  ordered : Ordered state data
  recorded : Recorded state data

theorem consistent_inductive
    (allowed : State Master × Data Master → Action Master × Input → Prop) :
    (system Master).Inductive allowed fun state => Consistent state.1 state.2 where
  initial := by
    rcases (ordered_inductive allowed).initial with ⟨⟨wellFormed, tokens⟩, ordered⟩
    exact ⟨wellFormed, tokens, refined_initial, ordered, recorded_initial⟩
  preserved stepped permitted consistent := by
    rcases consistent with ⟨wellFormed, tokens, refined, ordered, recorded⟩
    rcases (ordered_inductive allowed).preserved stepped permitted
      ⟨⟨wellFormed, tokens⟩, ordered⟩ with ⟨⟨wellFormed', tokens'⟩, ordered'⟩
    rcases (recorded_inductive allowed).preserved stepped permitted
      ⟨⟨wellFormed, refined⟩, recorded⟩ with ⟨⟨-, refined'⟩, recorded'⟩
    exact ⟨wellFormed', tokens', refined', ordered', recorded'⟩

theorem Since.step {start before after : State Master × Data Master}
    {action : Action Master × Input} (consistent : Consistent before.1 before.2)
    (stepped : (system Master).step before action = some after) (since : Since start before) :
    Since start after := by
  rcases effect_of_step consistent.wellFormed stepped with ⟨step, effect⟩
  rcases effect.extends_ with ⟨rounds, sent, -⟩
  rcases effect.readEffect consistent.wellFormed with ⟨answers, copies⟩
  have later : ∀ request answer, ¬Made start.1 request →
      before.2.answers request = some answer →
        start.2.rounds.length ≤ answer.position ∧
          start.2.sent <+: received (after.2.rounds.take answer.position) := by
    intro request answer fresh old
    have inside := (consistent.recorded.answered request answer old).1
    rw [take_eq_of_extended rounds inside]
    exact since.answers request answer fresh old
  refine ⟨since.rounds.trans rounds, since.sent.trans sent, ?_, ?_⟩
  · intro request answer fresh found
    rcases answers request answer found with old | replied
    · exact later request answer fresh old
    · -- the relay has processed every list that was sent when it replies
      rw [replied.position_eq, take_eq_of_extended rounds (Nat.le_refl _), List.take_length,
        ← consistent.ordered.order_of_idle replied.idle]
      exact ⟨since.rounds.length_le, since.sent⟩
  · intro master copy fresh found
    rcases copies master copy found with old | ⟨answer, stored⟩
    · have inside := (consistent.recorded.copied master copy old).1
      rw [take_eq_of_extended rounds inside]
      exact since.copies master copy fresh old
    · rw [stored.position_eq]
      exact later _ answer fresh stored.found

theorem Since.of_run {start final : State Master × Data Master}
    {actions : List (Action Master × Input)} (consistent : Consistent start.1 start.2)
    (ran : (system Master).runFrom start actions = some final) :
    Consistent final.1 final.2 ∧ Since start final := by
  have kept {before after : State Master × Data Master} {action : Action Master × Input}
      (stepped : (system Master).step before action = some after)
      (holds : Consistent before.1 before.2 ∧ Since start before) :
      Consistent after.1 after.2 ∧ Since start after :=
    ⟨(consistent_inductive fun _ _ => True).preserved stepped trivial holds.1,
      holds.2.step holds.1 stepped⟩
  exact (system Master).runFrom_preserves kept ran ⟨consistent, .refl consistent.recorded⟩

/--
Fetches are linearizable. A database that a master has stored for a request made
after `start` is what the relay served after some of its rounds: after all those that
were complete at `start`, and after every list that any master had sent by then.
-/
theorem fetches_linearizable (start final : State Master × Data Master)
    (actions : List (Action Master × Input)) (reached : (system Master).Reachable start)
    (ran : (system Master).runFrom start actions = some final) (master : Master) (copy : Copy)
    (stored : final.2.nodeinfoDb master = some copy)
    (later : (start.1.masters master).nextRequest ≤ copy.number) :
    ∃ rounds, start.2.rounds <+: rounds ∧ rounds <+: final.2.rounds ∧
      start.2.sent <+: received rounds ∧ received rounds <+: final.2.sent ∧
      ServedAfter rounds copy.db.entries := by
  rcases Since.of_run ((consistent_inductive fun _ _ => True).holds reached) ran with
    ⟨consistent, since⟩
  have fresh : ¬Made start.1 ⟨master, copy.number⟩ := Nat.not_lt.mpr later
  rcases since.copies master copy fresh stored with ⟨complete, sent⟩
  rcases consistent.recorded.copied master copy stored with ⟨inside, served⟩
  refine ⟨final.2.rounds.take copy.position, ?_, List.take_prefix _ _, sent, ?_, served⟩
  · rw [List.prefix_take_iff]
    exact ⟨since.rounds, complete⟩
  · have processed : received (final.2.rounds.take copy.position) <+: received final.2.rounds :=
      (List.take_prefix _ _).filterMap _
    exact processed.trans consistent.ordered.received_prefix_sent

end Steps

/-- The list is processed, and the database is fetched afterwards. -/
theorem fetches_linearizable_fetchRound : ∃ start final copy,
    (system (Fin 2)).run (sampleRun completedRound) = some start ∧
      (system (Fin 2)).runFrom start (sampleRun (fetchRound 0)) = some final ∧
      final.2.nodeinfoDb 0 = some copy ∧
      ∃ rounds, start.2.rounds <+: rounds ∧ rounds <+: final.2.rounds ∧
        start.2.sent <+: received rounds ∧ received rounds <+: final.2.sent ∧
        ServedAfter rounds copy.db.entries := by
  have numbered : (((system (Fin 2)).run (sampleRun completedRound)).bind fun start =>
      ((system (Fin 2)).runFrom start (sampleRun (fetchRound 0))).bind fun final =>
        (final.2.nodeinfoDb 0).map fun copy =>
          ((start.1.masters 0).nextRequest, copy.number)) = some (2, 2) := by decide
  simp only [Option.bind_eq_some_iff, Option.map_eq_some_iff, Prod.mk.injEq] at numbered
  rcases numbered with ⟨start, ran, final, more, copy, stored, next_eq, number_eq⟩
  exact ⟨start, final, copy, ran, more, stored, fetches_linearizable start final _
    (TransitionSystem.reachable_of_run ran) more 0 copy stored (by rw [next_eq, number_eq])⟩

end NodeinfoSystem.HugeCluster
