import NodeinfoSystem.Collector.RelayRequests
import NodeinfoSystem.Collector.Transfer
import NodeinfoSystem.Relay.Effect

/-!
# The database that is served

The relay holds its database twice: in `g_db`, which every update changes, and as
the copy that `db` of `main` names. While no allocation fails the two agree, so what
a master fetches and forwards is what the relay holds.
-/

namespace NodeinfoSystem.Relay

open Foundation Wire Collector

variable {Client : Type}

theorem entries_snapshot (block : Database.Block) (small : block.elements.length < 2 ^ 31) :
    block.snapshot.entries = block.elements := by
  have count : (Int32.ofInt block.elements.length).toInt = block.elements.length := by
    apply toInt_ofInt_of_fitsInt
    constructor <;> omega
  simp only [NodeinfoDatabase.entries, Database.Block.snapshot, count, Int.toNat_natCast,
    List.take_length]

/-- `db` of `main` is a copy of `g_db`. -/
def Mirrored (state : State Client) : Prop :=
  state.db = state.manager.gDb.map Database.Block.snapshot

theorem Mirrored.of_sameData {before after : State Client} (mirrored : Mirrored before)
    (same : SameData before after) : Mirrored after := by
  rw [Mirrored, same.db_eq, same.manager_eq]
  exact mirrored

/-- The rounds in which every allocation of the database manager succeeds. -/
def Granted (round : Round Client) : Prop :=
  ∀ allocation, round.os.malloc allocation = true

theorem Mirrored.iterate {round : Round Client} {before after : State Client}
    (ran : Relay.iterate round before = some after) (granted : Granted round)
    (mirrored : Mirrored before) : Mirrored after := by
  cases iterate_effect ran with
  | quiet same _ _ => exact mirrored.of_sameData same
  | joined _ same _ _ => exact mirrored.of_sameData same
  | rejected _ _ same _ _ => exact mirrored.of_sameData same
  | answered _ _ same _ _ => exact mirrored.of_sameData same
  | updated _ _ updated _ _ =>
      rcases Database.updateNodeinfoDatabase_result updated with
        ⟨-, allocation, refused⟩ | ⟨block, present, copied⟩
      · rw [granted allocation] at refused
        contradiction
      · rw [Mirrored, present, copied, Option.map_some]

theorem Mirrored.of_run {rounds : List (Round Client)} {state : State Client}
    (ran : (relay Client).run rounds = some state) (granted : ∀ round ∈ rounds, Granted round) :
    Mirrored state :=
  (relay Client).runFrom_preserves_of_forall
    (fun stepped granted mirrored => mirrored.iterate stepped granted) ran granted rfl

theorem Mirrored.served {state : State Client} (mirrored : Mirrored state)
    (few : state.manager.entries.length ≤ 2729) :
    (served state.db).entries = state.manager.entries ∧
      (served state.db).currentSize.toInt = state.manager.entries.length := by
  rw [Mirrored] at mirrored
  cases present : state.manager.gDb with
  | none =>
      rw [present, Option.map_none] at mirrored
      simp [Relay.served, mirrored, emptyHdr, NodeinfoDatabase.entries, Database.State.entries,
        present]
  | some block =>
      rw [present, Option.map_some] at mirrored
      simp only [Database.State.entries, present] at few
      simp only [Relay.served, mirrored, Option.getD_some, Database.State.entries, present]
      refine ⟨entries_snapshot block (by omega), ?_⟩
      apply toInt_ofInt_of_fitsInt
      constructor <;> omega

/-- Whoever receives the datagram stores the entries, and whoever it is forwarded to as well. -/
def Delivers (entries : List NodeinfoDatabaseElement) (datagram : Datagram) : Prop :=
  ∃ stored : NodeinfoDatabase, stored.entries = entries ∧
    (∀ gNodeinfoDb, fetchNodeinfoDatabase true (.local (.datagram datagram)) gNodeinfoDb =
      (0, some stored)) ∧
    ∃ forwarded, databasePayload stored = some forwarded ∧
      ∃ received, receiveDbOnSocketImpl true (some forwarded) = some received ∧
        received.entries = entries

theorem exists_databasePayload {db : NodeinfoDatabase} (nonneg : 0 ≤ db.currentSize.toInt)
    (few : db.currentSize.toInt ≤ 2729) : ∃ datagram, databasePayload db = some datagram := by
  have small : databasePayloadLen db ≤ maxIpv4Payload := by
    rw [databasePayloadLen_le_iff]
    refine ⟨nonneg, ?_⟩
    simp only [maxIpv4Payload]
    omega
  exact ⟨_, dif_pos small⟩

theorem delivers_of_databasePayload {db : NodeinfoDatabase} {datagram : Datagram}
    (sent : databasePayload db = some datagram) (nonneg : 0 ≤ db.currentSize.toInt)
    (few : db.currentSize.toInt ≤ 2729) : Delivers db.entries datagram := by
  rcases receiveDb_of_databasePayload sent with ⟨stored, returned, -, count_eq, entries_eq⟩
  rcases exists_databasePayload (count_eq ▸ nonneg) (count_eq ▸ few) with ⟨forwarded, resent⟩
  rcases receiveDb_of_databasePayload resent with ⟨received, again, -, -, same⟩
  exact ⟨stored, entries_eq, fun _ => fetchNodeinfoDatabase_datagram returned, forwarded, resent,
    received, again, same.trans entries_eq⟩

/-- The round answers the client's request for the database. -/
def Answers (round : Round Client) (state : State Client) (client : Client)
    (datagram : Datagram) : Prop :=
  ∃ after, (relay Client).step state round = some after ∧
    after.replies = state.replies ++ [(client, .database datagram)]

/-- A request for the database, met by sockets that work. -/
structure AsksForDb (round : Round Client) (state : State Client) (client : Client) : Prop where
  opened : (state.ctrlInited || round.ctrlOpens) = true
  requested : ∃ request, round.request = some (client, request) ∧ requestText request = giveMeDbMsg
  replySent : round.replySent = true

theorem sent_of_answers {round : Round Client} {state : State Client} {client : Client}
    {datagram : Datagram} (answers : Answers round state client datagram) :
    databasePayload (served state.db) = some datagram := by
  rcases answers with ⟨after, ran, replies_eq⟩
  cases iterate_effect ran with
  | quiet _ _ quiet =>
      rw [quiet] at replies_eq
      exact absurd replies_eq (by simp)
  | joined _ _ _ joined =>
      rw [joined] at replies_eq
      simp at replies_eq
  | rejected _ _ _ _ rejected =>
      rw [rejected] at replies_eq
      simp at replies_eq
  | updated _ _ _ _ updated =>
      rw [updated] at replies_eq
      simp at replies_eq
  | answered _ sent _ _ answered =>
      rw [answered] at replies_eq
      simp only [List.append_cancel_left_eq, List.cons.injEq, Prod.mk.injEq, Reply.database.injEq,
        and_true] at replies_eq
      rw [sent, replies_eq.2]

theorem answers_of_asksForDb {round : Round Client} {state : State Client} {client : Client}
    {datagram : Datagram} (asks : AsksForDb round state client)
    (sent : databasePayload (served state.db) = some datagram) :
    Answers round state client datagram := by
  rcases asks.requested with ⟨request, requested, text_eq⟩
  have notHello : giveMeDbMsg ≠ helloRelayServerMsg := by decide
  have notReady : giveMeDbMsg ≠ readySendNodedataListMsg := by decide
  let remembered : State Client := { state with ctrlInited := true, lastClient := some client }
  have accepted : acceptRequest round state = (.nodeinfoDb, remembered) := by
    simp only [acceptRequest, asks.opened, requested, text_eq, if_neg notHello, if_neg notReady]
    rfl
  refine ⟨remembered.reply client (.database datagram), ?_, rfl⟩
  change iterate round state = _
  simp [iterate, accepted, sendNodeinfoDatabase, sent, asks.replySent, remembered]

/--
The database served is the database held. While no allocation fails and `g_db` has
at most 2729 entries, a request for the database is answered when the answer can be
sent, and any answer delivers exactly the entries of `g_db`: to the master that
stores them, and to the members it forwards them to.
-/
theorem served_is_held (rounds : List (Round Client)) (state : State Client)
    (ran : (relay Client).run rounds = some state) (granted : ∀ round ∈ rounds, Granted round)
    (few : state.manager.entries.length ≤ 2729) (round : Round Client) (client : Client) :
    (AsksForDb round state client → ∃ datagram, Answers round state client datagram) ∧
      ∀ datagram, Answers round state client datagram →
        Delivers state.manager.entries datagram := by
  have mirrored := Mirrored.of_run ran granted
  rcases mirrored.served few with ⟨entries_eq, count_eq⟩
  have nonneg : 0 ≤ (served state.db).currentSize.toInt := by omega
  have small : (served state.db).currentSize.toInt ≤ 2729 := by omega
  refine ⟨?_, ?_⟩
  · intro asks
    rcases exists_databasePayload nonneg small with ⟨datagram, sent⟩
    exact ⟨datagram, answers_of_asksForDb asks sent⟩
  · intro datagram answers
    rw [← entries_eq]
    exact delivers_of_databasePayload (sent_of_answers answers) nonneg small

/-- A master sends a list of one node, and another one asks for the database. -/
theorem served_is_held_listRound : ∃ state, (relay ℕ).run [listRound 1 1 21] = some state ∧
    state.manager.entries = [Database.newElement 1 ⟨21, 7, 4⟩ 10000 10001] ∧
    (∃ datagram, Answers (giveDbRound 2) state 2 datagram) ∧
    ∀ datagram, Answers (giveDbRound 2) state 2 datagram →
      Delivers state.manager.entries datagram := by
  rcases exists_run [listRound 1 1 21] with ⟨state, ran, -⟩
  have held : ((relay ℕ).run [listRound 1 1 21]).map (fun state => state.manager.entries) =
      some [Database.newElement 1 ⟨21, 7, 4⟩ 10000 10001] := by
    decide
  rw [ran, Option.map_some, Option.some.injEq] at held
  have granted : ∀ round ∈ [listRound 1 1 21], Granted round := by
    intro round round_mem
    rw [List.mem_singleton] at round_mem
    subst round
    exact fun _ => rfl
  have few : state.manager.entries.length ≤ 2729 := by
    rw [held]
    decide
  rcases served_is_held [listRound 1 1 21] state ran granted few (giveDbRound 2) 2 with
    ⟨answered, delivered⟩
  refine ⟨state, ran, held, answered ⟨?_, ?_, rfl⟩, delivered⟩
  · exact Bool.or_true _
  · exact ⟨_, rfl, by decide⟩

end NodeinfoSystem.Relay
