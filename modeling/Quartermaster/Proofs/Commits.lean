import Quartermaster.Proofs.Atomicity
import Quartermaster.Proofs.Runs

/-!
# What transactions of repository calls lead to

A transaction of repository calls, committed or rolled back, leads from a store to the next
(`Store.Commits`), and a store arises when any number of them lead to it from the empty one
(`Store.Arises`).

1. `Operation.commits`, `Http.handle_commits`, `Store.runBatch_commits`: every operation, every
   request and every batch of statements is such a transaction.
2. `Store.Arises.invariant`: what every write keeps holds of every store that arises.
3. `Store.Arises.sound`, `Reachable.arises`.
-/

namespace Quartermaster

/-! ## Stores that lead to each other -/

namespace Store

/-- One transaction of repository calls, committed or rolled back, leads from store to store. -/
def Commits (s s' : Store) : Prop :=
  ∃ (α : Type) (tx : Tx α), tx.Composed ∧ (s.transact tx).2 = s'

/-- Transactions of repository calls, one after another, lead from store to store. -/
abbrev Evolves : Store → Store → Prop := Relation.ReflTransGen Commits

/-- Transactions of repository calls lead to the store from an empty one. -/
def Arises (s : Store) : Prop :=
  ∃ supply clock minted, Evolves { supply, clock, minted } s

variable {s s' : Store} {α : Type}

theorem transact_commits (s : Store) (tx : Tx α) [composed : tx.Composed] :
    s.Commits (s.transact tx).2 := ⟨α, tx, composed, rfl⟩

theorem commits_refl (s : Store) : s.Commits s := s.transact_commits (pure ())

theorem Commits.written (h : s.Commits s') : s.Written s' := by
  obtain ⟨α, tx, composed, rfl⟩ := h
  unfold transact
  cases ran : tx s with
  | ok r => exact composed.written ran
  | error why => exact .refl

theorem Evolves.written (h : s.Evolves s') : s.Written s' := by
  induction h with
  | refl => exact .refl
  | tail _ commits ih => exact ih.trans commits.written

theorem Arises.evolves (h : s.Arises) (evolves : s.Evolves s') : s'.Arises := by
  obtain ⟨supply, clock, minted, before⟩ := h
  exact ⟨supply, clock, minted, before.trans evolves⟩

/-- What holds of empty stores and is kept by every write holds of every store that arises. -/
theorem Arises.invariant {P : Store → Prop} (h : s.Arises)
    (empty : ∀ supply clock minted, P { supply, clock, minted })
    (step : ∀ s s', s.Sound → P s → s.Write s' → P s') : P s := by
  obtain ⟨supply, clock, minted, evolves⟩ := h
  have both : s.Sound ∧ P s :=
    evolves.written.keeps (P := fun s => s.Sound ∧ P s)
      (fun _ _ here w => ⟨w.sound here.1, step _ _ here.1 here.2 w⟩)
      ⟨sound_empty supply clock minted, empty supply clock minted⟩
  exact both.2

theorem Arises.sound (h : s.Arises) : s.Sound :=
  h.invariant sound_empty fun _ _ _ sound w => w.sound sound

end Store

/-! ## Operations, requests and statements -/

section Operations

open Tx (Composed)

variable {α β : Type} {d : Setting} {s : Store} {ctx : Context}

instance {k : Kind} [Record k α] {e : Entry k α} : Composed (Custody.lock e) :=
  inferInstanceAs (Composed (Tx.read _))

instance {u : Entry .user User} : Composed (Custody.reload u) :=
  inferInstanceAs (Composed (Tx.read _))

instance {holder : UserId} : Composed (Custody.holderOf holder) :=
  inferInstanceAs (Composed (Tx.read _))

instance {e : Entry .accessory Accessory} : Composed (Custody.lockAccessory ctx e) := by
  unfold Custody.lockAccessory; infer_instance

instance {e : Entry .consumable Consumable} : Composed (Custody.lockConsumable ctx e) := by
  unfold Custody.lockConsumable; infer_instance

instance {e : Entry .equipment Equipment} {u : Entry .user User} :
    Composed (Custody.authorizeHandover ctx e u) := by
  unfold Custody.authorizeHandover; infer_instance

instance {action : String} {e : Entry .consumable Consumable}
    {i : Entry .consumableIssue ConsumableIssue} {type : EventType} {units : Int} :
    Composed (Custody.reduceCustody d ctx action e i type units) := by
  unfold Custody.reduceCustody; infer_instance

instance {e : Entry .consumable Consumable} : Composed (Custody.lowStockNotice d e) := by
  unfold Custody.lowStockNotice; infer_instance

instance {b : Binding} {deed : String} : Composed (Grants.authorize ctx b deed) :=
  inferInstanceAs (Composed (Tx.read _))

theorem Setting.commit_commits {tx : Tx (Committed α)} {f : α → β} (composed : tx.Composed) :
    s.Commits ((d.commit s tx).mapOk f).store := by
  refine ⟨_, tx, composed, ?_⟩
  show (s.transact tx).2 = (d.commit s tx).store
  unfold commit
  split
  · next ran => rw [ran]
  · next ran => rw [ran]

theorem Setting.commitQuietly_commits {tx : Tx α} {f : α → β} (composed : tx.Composed) :
    s.Commits ((d.commitQuietly s tx).mapOk f).store :=
  commit_commits inferInstance

theorem Setting.run_commits {γ : Type} {p : TwoPhase γ α} {f : α → β}
    (composed : ∀ found, (p.commit found).Composed) :
    s.Commits ((d.run s p).mapOk f).store := by
  show s.Commits (d.run s p).store
  unfold run
  cases p.read s with
  | ok found => exact commit_commits (f := id) (composed found)
  | error why => exact s.commits_refl

theorem EquipmentOp.commits (op : EquipmentOp) : s.Commits (op.run d s ctx).store := by
  cases op with
  | get | list | history => exact s.commits_refl
  | register =>
    refine Setting.commit_commits ?_
    unfold Custody.registerEquipment
    infer_instance
  | assign =>
    refine Setting.run_commits fun found => ?_
    dsimp only [Custody.assignEquipment]
    iterate 6 refine .bind inferInstance fun _ => ?_
    infer_instance
  | unassign =>
    refine Setting.run_commits fun found => ?_
    dsimp only [Custody.unassignEquipment]
    iterate 6 refine .bind inferInstance fun _ => ?_
    infer_instance
  | reassign =>
    refine Setting.run_commits fun found => ?_
    dsimp only [Custody.reassignEquipment]
    iterate 6 refine .bind inferInstance fun _ => ?_
    infer_instance
  | changeStatus =>
    refine Setting.run_commits fun found => ?_
    dsimp only [Custody.changeEquipmentStatus]
    iterate 6 refine .bind inferInstance fun _ => ?_
    infer_instance

theorem AccessoryOp.commits (op : AccessoryOp) : s.Commits (op.run d s ctx).store := by
  cases op with
  | get | list | history => exact s.commits_refl
  | register =>
    refine Setting.commit_commits ?_
    unfold Custody.registerAccessory
    infer_instance
  | assign =>
    refine Setting.run_commits fun found => ?_
    dsimp only [Custody.assignAccessory]
    infer_instance
  | takeBack =>
    refine Setting.run_commits fun found => ?_
    dsimp only [Custody.returnAccessory]
    iterate 6 refine .bind inferInstance fun _ => ?_
    infer_instance
  | condemn =>
    refine Setting.run_commits fun found => ?_
    dsimp only [Custody.condemnAccessory]
    iterate 6 refine .bind inferInstance fun _ => ?_
    infer_instance
  | restock =>
    refine Setting.run_commits fun found => ?_
    dsimp only [Custody.restockAccessory]
    infer_instance

theorem ConsumableOp.commits (op : ConsumableOp) : s.Commits (op.run d s ctx).store := by
  cases op with
  | get | list | history => exact s.commits_refl
  | register =>
    refine Setting.commit_commits ?_
    unfold Custody.registerConsumable
    infer_instance
  | issue =>
    refine Setting.run_commits fun found => ?_
    dsimp only [Custody.issueConsumable]
    iterate 6 refine .bind inferInstance fun _ => ?_
    infer_instance
  | use =>
    refine Setting.run_commits fun found => ?_
    dsimp only [Custody.useConsumable]
    infer_instance
  | takeBack =>
    refine Setting.run_commits fun found => ?_
    dsimp only [Custody.returnConsumable]
    iterate 6 refine .bind inferInstance fun _ => ?_
    infer_instance
  | recordLoss =>
    refine Setting.run_commits fun found => ?_
    dsimp only [Custody.recordLoss]
    infer_instance
  | reportLoss =>
    refine Setting.run_commits fun found => ?_
    dsimp only [Custody.reportLoss]
    infer_instance
  | restock =>
    refine Setting.run_commits fun found => ?_
    dsimp only [Custody.restockConsumable]
    infer_instance

theorem RoleOp.commits (op : RoleOp) : s.Commits (op.run d s ctx).store := by
  cases op with
  | list => exact s.commits_refl
  | grant =>
    refine Setting.commit_commits ?_
    unfold Grants.grant
    infer_instance
  | activate =>
    refine Setting.commitQuietly_commits ?_
    unfold Grants.activate
    infer_instance
  | revoke =>
    refine Setting.commit_commits ?_
    unfold Grants.revoke
    infer_instance

theorem DirectoryOp.commits (op : DirectoryOp) : s.Commits (op.run d s).store := by
  cases op with
  | chain => exact s.commits_refl
  | createDepartment | createLocation | createRoom | relocateRoom | relocateLocation | createUser
  | deleteNode =>
    exact Setting.commitQuietly_commits inferInstance
  | moveUser =>
    refine Setting.commitQuietly_commits ?_
    unfold Directory.moveUser
    infer_instance
  | bootstrap =>
    refine Setting.commitQuietly_commits ?_
    unfold Directory.bootstrap
    refine .bind inferInstance fun _ => .bind inferInstance fun _ => .bind inferInstance fun s => ?_
    split <;> infer_instance

/-- Every operation is a transaction of repository calls. -/
theorem Operation.commits (op : Operation) : s.Commits (op.run d s).store := by
  cases op with
  | directory op => exact op.commits
  | caller ctx op =>
    cases op with
    | holdings => exact s.commits_refl
    | roles op => exact op.commits
    | equipment op => exact op.commits
    | accessories op => exact op.commits
    | consumables op => exact op.commits

/-- Every request is a transaction of repository calls. -/
theorem Http.handle_commits (r : Request) : s.Commits (handle d s r).store := by
  rcases handle_cases d s r with untouched | ⟨success, operation, run⟩
  · rw [untouched.store]
    exact s.commits_refl
  · rw [run]
    exact operation.commits

end Operations

section Statements

open Tx (Composed)

theorem TreeStatement.composed (st : TreeStatement) : st.run.Composed := by
  cases st <;> dsimp only [run] <;> infer_instance

theorem PeopleStatement.composed (st : PeopleStatement) : st.run.Composed := by
  cases st with
  | setActive user assignment =>
    dsimp only [run]
    refine .bind inferInstance fun u => ?_
    split <;> infer_instance
  | _ => dsimp only [run]; infer_instance

theorem EquipmentStatement.composed (st : EquipmentStatement) : st.run.Composed := by
  cases st <;> dsimp only [run] <;> infer_instance

theorem AccessoryStatement.composed (st : AccessoryStatement) : st.run.Composed := by
  cases st <;> dsimp only [run] <;> infer_instance

theorem ConsumableStatement.composed (st : ConsumableStatement) : st.run.Composed := by
  cases st <;> dsimp only [run] <;> infer_instance

instance {st : Statement} : st.run.Composed := by
  cases st with
  | tree st => exact st.composed
  | people st => exact st.composed
  | equipment st => exact st.composed
  | accessories st => exact st.composed
  | consumables st => exact st.composed
  | alter table what =>
    dsimp only [Statement.run]
    unfold Tx.alter
    infer_instance
  | audit | auditCount | state => dsimp only [Statement.run]; infer_instance

theorem Statement.mapM_composed (batch : List Statement) : (batch.mapM run).Composed := by
  induction batch with
  | nil => exact inferInstanceAs (Composed (pure []))
  | cons st rest ih =>
    rw [List.mapM_cons]
    infer_instance

/-- Every batch is a transaction of repository calls. -/
theorem Store.runBatch_commits (s : Store) (batch : List Statement) :
    s.Commits (s.runBatch batch).2 := ⟨_, _, Statement.mapM_composed batch, rfl⟩

end Statements

/-! ## Runs -/

section Runs

variable {s s' s₀ : Store} {may : Setting → Store → Operation → Prop}

theorem Leads.evolves (h : Leads may s₀ s) : s₀.Evolves s := by
  induction h with
  | refl => exact .refl
  | run d op _ _ ih => exact ih.tail op.commits

/-- A call that went through, alone in its transaction. -/
theorem Store.commits_of_ok {α : Type} {tx : Tx α} {a : α} [composed : tx.Composed]
    (ran : tx s = .ok (a, s')) : s.Commits s' :=
  ⟨α, tx, composed, by rw [Store.transact, ran]⟩

theorem Seeded.arises (h : Seeded s) : s.Arises := by
  have step {α : Type} {tx : Tx α} {a : α} {s s' : Store} (before : s.Arises)
      (composed : tx.Composed) (ran : tx s = .ok (a, s')) : s'.Arises :=
    before.evolves (.single (Store.commits_of_ok ran))
  induction h with
  | empty supply clock minted => exact ⟨supply, clock, minted, .refl⟩
  | department _ created ih => exact step ih inferInstance created
  | location _ created ih => exact step ih inferInstance created
  | room _ created ih => exact step ih inferInstance created
  | user _ created ih => exact step ih inferInstance created
  | role _ created ih => exact step ih inferInstance created
  | activeRole _ granted ih => exact step ih (PeopleStatement.composed _) granted
  | equipment _ created ih => exact step ih inferInstance created
  | accessory _ created ih => exact step ih inferInstance created
  | consumable _ created ih => exact step ih inferInstance created

/-- What operations can leave, transactions of repository calls can leave. -/
theorem Reachable.arises (h : Reachable s) : s.Arises := by
  induction h with
  | seeded h => exact h.arises
  | run d op _ ih => exact ih.evolves (.single op.commits)

end Runs

end Quartermaster
