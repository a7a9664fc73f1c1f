import NodeinfoSystem.Database.Capacity
import NodeinfoSystem.Relay.Basic

/-!
# What one round can do

A round leaves everything later rounds depend on alone, or it sends one reply: an
id, after which the counter advances; an acknowledgement, which is followed by an
update unless the list is rejected; or the database. No round gets stuck, because
every list the reader accepts leaves the database manager room to work.
-/

namespace NodeinfoSystem.Relay

open Foundation Wire
open Collector (databasePayload)

variable {Client : Type} {round : Round Client} {before after state : State Client}

/-- The database manager, the pointer of `main` and the sockets' flags aside, nothing moved. -/
structure SameData (before after : State Client) : Prop where
  manager_eq : after.manager = before.manager
  db_eq : after.db = before.db

inductive RoundEffect (round : Round Client) (before : State Client) : State Client → Prop
  | quiet {after : State Client} (same : SameData before after)
      (networkId_eq : after.networkId = before.networkId)
      (replies_eq : after.replies = before.replies) : RoundEffect round before after
  | joined {after : State Client} (client : Client) (same : SameData before after)
      (networkId_eq : after.networkId = before.networkId + 1)
      (replies_eq : after.replies = before.replies ++ [(client, .networkId before.networkId)]) :
      RoundEffect round before after
  | rejected {after : State Client} (client : Client)
      (returned : (receiveNodedataList round before).1 = none) (same : SameData before after)
      (networkId_eq : after.networkId = before.networkId)
      (replies_eq : after.replies = before.replies ++ [(client, .readyRecv)]) :
      RoundEffect round before after
  | updated {after : State Client} (client : Client) {list : NodedataList Int32}
      (returned : (receiveNodedataList round before).1 = some list)
      (ran : Database.updateNodeinfoDatabase round.os list before.manager =
        some (after.db, after.manager))
      (networkId_eq : after.networkId = before.networkId)
      (replies_eq : after.replies = before.replies ++ [(client, .readyRecv)]) :
      RoundEffect round before after
  | answered {after : State Client} (client : Client) {datagram : Datagram}
      (sent : databasePayload (served before.db) = some datagram) (same : SameData before after)
      (networkId_eq : after.networkId = before.networkId)
      (replies_eq : after.replies = before.replies ++ [(client, .database datagram)]) :
      RoundEffect round before after

/-- What `accept_request` changes, by the code it returns. -/
inductive AcceptEffect (before : State Client) : RequestCode → State Client → Prop
  | silent {code : RequestCode} {after : State Client} (notJoin : code ≠ .join)
      (notList : code ≠ .recvNodedataList) (same : SameData before after)
      (networkId_eq : after.networkId = before.networkId)
      (replies_eq : after.replies = before.replies) : AcceptEffect before code after
  | joined {after : State Client} (client : Client) (same : SameData before after)
      (networkId_eq : after.networkId = before.networkId + 1)
      (replies_eq : after.replies = before.replies ++ [(client, .networkId before.networkId)]) :
      AcceptEffect before .join after
  | acknowledged {after : State Client} (client : Client) (same : SameData before after)
      (listInited_eq : after.listInited = before.listInited)
      (networkId_eq : after.networkId = before.networkId)
      (replies_eq : after.replies = before.replies ++ [(client, .readyRecv)]) :
      AcceptEffect before .recvNodedataList after

theorem AcceptEffect.error {after : State Client} (same : SameData before after)
    (networkId_eq : after.networkId = before.networkId)
    (replies_eq : after.replies = before.replies) : AcceptEffect before .error after :=
  .silent (by decide) (by decide) same networkId_eq replies_eq

theorem acceptRequest_effect (round : Round Client) (before : State Client) :
    AcceptEffect before (acceptRequest round before).1 (acceptRequest round before).2 := by
  unfold acceptRequest
  split
  · split
    · exact .error ⟨rfl, rfl⟩ rfl rfl
    · next client datagram _ =>
        split
        · split
          · exact .joined client ⟨rfl, rfl⟩ rfl rfl
          · exact .error ⟨rfl, rfl⟩ rfl rfl
        · split
          · split
            · exact .acknowledged client ⟨rfl, rfl⟩ rfl rfl rfl
            · exact .error ⟨rfl, rfl⟩ rfl rfl
          · split
            · exact .silent (by simp) (by simp) ⟨rfl, rfl⟩ rfl rfl
            · exact .error ⟨rfl, rfl⟩ rfl rfl
  · exact .error ⟨rfl, rfl⟩ rfl rfl

theorem receiveNodedataList_effect (round : Round Client) (before : State Client) :
    SameData before (receiveNodedataList round before).2 ∧
      (receiveNodedataList round before).2.networkId = before.networkId ∧
      (receiveNodedataList round before).2.replies = before.replies := by
  unfold receiveNodedataList
  split <;> exact ⟨⟨rfl, rfl⟩, rfl, rfl⟩

theorem receiveNodedataList_congr (round : Round Client)
    (same : after.listInited = before.listInited) :
    (receiveNodedataList round after).1 = (receiveNodedataList round before).1 := by
  unfold receiveNodedataList
  rw [same]
  split <;> rfl

/-- An acknowledged list round goes on to receive a list. -/
theorem exists_of_acceptRequest_list
    (accepted : (acceptRequest round before).1 = .recvNodedataList) :
    ∃ middle, acceptRequest round before = (.recvNodedataList, middle) ∧
      SameData before middle ∧
      (receiveNodedataList round middle).1 = (receiveNodedataList round before).1 := by
  have effect := acceptRequest_effect round before
  rcases accept_eq : acceptRequest round before with ⟨code, middle⟩
  rw [accept_eq] at accepted effect
  simp only at accepted
  subst code
  cases effect with
  | silent _ notList _ _ _ => exact absurd rfl notList
  | acknowledged _ same listInited_eq _ _ =>
      exact ⟨middle, rfl, same, receiveNodedataList_congr round listInited_eq⟩

theorem sendNodeinfoDatabase_cases (round : Round Client) (before : State Client) :
    (sendNodeinfoDatabase round before).2 = before ∨
      ∃ client datagram, databasePayload (served before.db) = some datagram ∧
        (sendNodeinfoDatabase round before).2 = before.reply client (.database datagram) := by
  unfold sendNodeinfoDatabase
  split
  · split
    · exact Or.inl rfl
    · next client _ =>
        split
        · exact Or.inl rfl
        · next datagram sent =>
            split
            · exact Or.inr ⟨client, datagram, sent, rfl⟩
            · exact Or.inl rfl
  · exact Or.inl rfl

theorem iterate_effect (ran : iterate round before = some after) :
    RoundEffect round before after := by
  have accepted := acceptRequest_effect round before
  unfold iterate at ran
  split at ran
  · next middle accept_eq =>
      rw [accept_eq] at accepted
      simp only [Option.some.injEq] at ran
      subst ran
      cases accepted with
      | silent _ _ same networkId_eq replies_eq => exact .quiet same networkId_eq replies_eq
  · next middle accept_eq =>
      rw [accept_eq] at accepted
      simp only [Option.some.injEq] at ran
      subst ran
      cases accepted with
      | silent notJoin _ _ _ _ => exact absurd rfl notJoin
      | joined client same networkId_eq replies_eq =>
          exact .joined client same networkId_eq replies_eq
  · next middle accept_eq =>
      rw [accept_eq] at accepted
      cases accepted with
      | silent _ notList _ _ _ => exact absurd rfl notList
      | acknowledged client same listInited_eq networkId_eq replies_eq =>
          have received := receiveNodedataList_effect round middle
          have returned_eq := receiveNodedataList_congr round listInited_eq
          split at ran
          · next final receive_eq =>
              rw [receive_eq] at received returned_eq
              simp only [Option.some.injEq] at ran
              subst ran
              exact .rejected client returned_eq.symm
                ⟨received.1.manager_eq.trans same.manager_eq, received.1.db_eq.trans same.db_eq⟩
                (received.2.1.trans networkId_eq) (received.2.2.trans replies_eq)
          · next list final receive_eq =>
              rw [receive_eq] at received returned_eq
              split at ran
              · contradiction
              · next db manager updated =>
                  simp only [Option.some.injEq] at ran
                  subst ran
                  rw [received.1.manager_eq, same.manager_eq] at updated
                  exact .updated client returned_eq.symm updated (received.2.1.trans networkId_eq)
                    (received.2.2.trans replies_eq)
  · next middle accept_eq =>
      rw [accept_eq] at accepted
      simp only [Option.some.injEq] at ran
      subst ran
      cases accepted with
      | silent _ _ same networkId_eq replies_eq =>
          rcases sendNodeinfoDatabase_cases round middle with
            unchanged | ⟨client, datagram, sent, replied⟩
          · rw [unchanged]
            exact .quiet same networkId_eq replies_eq
          · rw [replied]
            rw [same.db_eq] at sent
            refine .answered client sent ⟨same.manager_eq, same.db_eq⟩ networkId_eq ?_
            rw [← replies_eq]
            rfl

/-! ## Progress -/

theorem leavesRoom_of_returned {list : NodedataList Int32}
    (returned : (receiveNodedataList round before).1 = some list) : Database.LeavesRoom list := by
  unfold receiveNodedataList at returned
  split at returned
  · exact Database.leavesRoom_of_received returned
  · contradiction

theorem exists_iterate (round : Round Client) (managed : Database.Managed before.manager) :
    ∃ after, iterate round before = some after ∧ Database.Managed after.manager := by
  have accepted := acceptRequest_effect round before
  unfold iterate
  split
  · next middle accept_eq =>
      rw [accept_eq] at accepted
      cases accepted with
      | silent _ _ same _ _ => exact ⟨middle, rfl, same.manager_eq ▸ managed⟩
  · next middle accept_eq =>
      rw [accept_eq] at accepted
      cases accepted with
      | silent notJoin _ _ _ _ => exact absurd rfl notJoin
      | joined _ same _ _ => exact ⟨middle, rfl, same.manager_eq ▸ managed⟩
  · next middle accept_eq =>
      rw [accept_eq] at accepted
      have received := receiveNodedataList_effect round middle
      cases accepted with
      | silent _ notList _ _ _ => exact absurd rfl notList
      | acknowledged client same _ _ _ =>
          have final_managed : Database.Managed (receiveNodedataList round middle).2.manager := by
            rw [received.1.manager_eq, same.manager_eq]
            exact managed
          split
          · next final receive_eq =>
              rw [receive_eq] at final_managed
              exact ⟨final, rfl, final_managed⟩
          · next list final receive_eq =>
              have room := leavesRoom_of_returned (congrArg Prod.fst receive_eq)
              rw [receive_eq] at final_managed
              rcases final_managed.exists_update round.os room with ⟨db, manager, updated, kept⟩
              simp only [updated]
              exact ⟨_, rfl, kept⟩
  · next middle accept_eq =>
      rw [accept_eq] at accepted
      cases accepted with
      | silent _ _ same _ _ =>
          refine ⟨_, rfl, ?_⟩
          rcases sendNodeinfoDatabase_cases round middle with
            unchanged | ⟨client, datagram, sent, replied⟩
          · rw [unchanged, same.manager_eq]
            exact managed
          · rw [replied]
            exact same.manager_eq ▸ managed

theorem exists_run (rounds : List (Round Client)) :
    ∃ state, (relay Client).run rounds = some state ∧ Database.Managed state.manager := by
  have progress {before : State Client} {round : Round Client} (_ : True)
      (managed : Database.Managed before.manager) :
      ∃ after, (relay Client).step before round = some after ∧ Database.Managed after.manager :=
    exists_iterate round managed
  exact (relay Client).exists_runFrom progress (fun _ _ => trivial) Database.Managed.initial

end NodeinfoSystem.Relay
