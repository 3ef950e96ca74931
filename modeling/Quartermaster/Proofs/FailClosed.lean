import Quartermaster.Proofs.OperationStep

/-!
# Nothing goes unrecorded

Every change of custody and every grant is recorded in the transaction that makes it, after all that
it writes. When the audit log takes no rows, an operation that would have gone through is refused
there, and for no other reason.

1. `Tx.FailsClosed`: one transaction is refused by the audit log wherever another goes through. It is
   kept by what comes before the record and by what comes after it (`bind_right`, `bind_left`).
2. `CallerOp.fails_closed`.
-/

namespace Quartermaster

variable {α β : Type} {text : String}

namespace Tx

/-- Wherever `x` goes through, `x'` is refused because the change cannot be recorded. -/
def FailsClosed (text : String) (x x' : Tx α) : Prop :=
  ∀ s r, x s = .ok r → x' s = .error (.auditSink text)

namespace FailsClosed

variable {x x' : Tx α} {f f' : α → Tx β}

theorem bind_left (h : FailsClosed text x x') : FailsClosed text (x >>= f) (x' >>= f') := by
  rintro s ⟨b, s'⟩ through
  obtain ⟨a, s₁, first, _⟩ := bind_ok.1 through
  exact bind_of_error (h s _ first)

theorem bind_right (h : ∀ a, FailsClosed text (f a) (f' a)) :
    FailsClosed text (x >>= f) (x >>= f') := by
  rintro s ⟨b, s'⟩ through
  obtain ⟨a, s₁, first, rest⟩ := bind_ok.1 through
  exact (bind_of_ok first).trans (h a s₁ _ rest)

theorem ite {c : Prop} [Decidable c] {y y' : Tx α} (h : FailsClosed text x x')
    (otherwise : FailsClosed text y y') :
    FailsClosed text (if c then x else y) (if c then x' else y') := by
  by_cases holds : c
  · simp only [if_pos holds]
    exact h
  · simp only [if_neg holds]
    exact otherwise

theorem record {sink : AuditSink} {actor : Actor} {entry : AuditEntry} :
    FailsClosed text (record sink actor entry) (record (.failing text) actor entry) :=
  fun _ _ _ => rfl

end FailsClosed

end Tx

namespace Setting

/-- With an audit log that takes no rows. -/
def unrecorded (d : Setting) (text : String) : Setting := { d with audit := .failing text }

variable {d : Setting} {s : Store} {f : α → β} {b : β}

theorem commit_failsClosed {tx tx' : Tx (Committed α)}
    (h : ((d.commit s tx).mapOk f).answer = .ok b) (closed : Tx.FailsClosed text tx tx') :
    (((d.unrecorded text).commit s tx').mapOk f).answer = .error (.auditSink text) := by
  obtain ⟨done, after, through, _⟩ := commit_mapOk h
  unfold commit Store.transact
  rw [closed s _ through]
  rfl

theorem run_failsClosed {γ : Type} {p p' : TwoPhase γ α}
    (h : ((d.run s p).mapOk f).answer = .ok b) (same : p'.read = p.read)
    (closed : ∀ found, Tx.FailsClosed text (p.commit found) (p'.commit found)) :
    (((d.unrecorded text).run s p').mapOk f).answer = .error (.auditSink text) := by
  obtain ⟨found, done, after, reads, through, _⟩ := run_mapOk h
  unfold run commit Store.transact
  rw [same, reads]
  dsimp only
  rw [closed found s _ through]
  rfl

end Setting

open Tx FailsClosed

variable {d : Setting} {s : Store} {ctx : Context} {answer : Answer}

theorem EquipmentOp.fails_closed {op : EquipmentOp} (changes : op.isRead = false)
    (h : (op.run d s ctx).answer = .ok answer) :
    (op.run (d.unrecorded text) s ctx).answer = .error (.auditSink text) := by
  have record {action : String} {e : Entry .equipment Equipment} {details : List (String × Json)} :
      FailsClosed text (Custody.recordItem d ctx action e details)
        (Custody.recordItem (d.unrecorded text) ctx action e details) := FailsClosed.record
  cases op with
  | get | list | history => cases changes
  | register =>
    refine Setting.commit_failsClosed h ?_
    unfold Custody.registerEquipment
    repeat with_reducible refine bind_right fun _ => ?_
    exact bind_left record
  | assign =>
    refine Setting.run_failsClosed h rfl fun _ => ?_
    unfold Custody.assignEquipment
    repeat with_reducible refine bind_right fun _ => ?_
    exact bind_left record
  | unassign =>
    refine Setting.run_failsClosed h rfl fun _ => ?_
    unfold Custody.unassignEquipment
    repeat with_reducible refine bind_right fun _ => ?_
    exact bind_left record
  | reassign =>
    refine Setting.run_failsClosed h rfl fun _ => ?_
    unfold Custody.reassignEquipment
    repeat with_reducible refine bind_right fun _ => ?_
    exact bind_left record
  | changeStatus =>
    refine Setting.run_failsClosed h rfl fun _ => ?_
    unfold Custody.changeEquipmentStatus
    repeat with_reducible refine bind_right fun _ => ?_
    exact bind_left record

theorem AccessoryOp.fails_closed {op : AccessoryOp} (changes : op.isRead = false)
    (h : (op.run d s ctx).answer = .ok answer) :
    (op.run (d.unrecorded text) s ctx).answer = .error (.auditSink text) := by
  have record {action : String} {e : Entry .accessory Accessory} {details : List (String × Json)} :
      FailsClosed text (Custody.recordAccessory d ctx action e details)
        (Custody.recordAccessory (d.unrecorded text) ctx action e details) := FailsClosed.record
  cases op with
  | get | list | history => cases changes
  | register =>
    refine Setting.commit_failsClosed h ?_
    unfold Custody.registerAccessory
    repeat with_reducible refine bind_right fun _ => ?_
    exact ite (bind_right fun _ => bind_left record) (bind_left record)
  | assign =>
    refine Setting.run_failsClosed h rfl fun _ => ?_
    unfold Custody.assignAccessory
    repeat with_reducible refine bind_right fun _ => ?_
    exact bind_left record
  | takeBack =>
    refine Setting.run_failsClosed h rfl fun _ => ?_
    unfold Custody.returnAccessory
    repeat with_reducible refine bind_right fun _ => ?_
    exact bind_left record
  | condemn =>
    refine Setting.run_failsClosed h rfl fun _ => ?_
    unfold Custody.condemnAccessory
    repeat with_reducible refine bind_right fun _ => ?_
    exact bind_left record
  | restock =>
    refine Setting.run_failsClosed h rfl fun _ => ?_
    unfold Custody.restockAccessory
    repeat with_reducible refine bind_right fun _ => ?_
    exact bind_left record

theorem ConsumableOp.fails_closed {op : ConsumableOp} (changes : op.isRead = false)
    (h : (op.run d s ctx).answer = .ok answer) :
    (op.run (d.unrecorded text) s ctx).answer = .error (.auditSink text) := by
  have record {action : String} {e : Entry .consumable Consumable}
      {details : List (String × Json)} :
      FailsClosed text (Custody.recordConsumable d ctx action e details)
        (Custody.recordConsumable (d.unrecorded text) ctx action e details) := FailsClosed.record
  have reduced {action : String} {e : Entry .consumable Consumable}
      {i : Entry .consumableIssue ConsumableIssue} {type : EventType} {units : Int} :
      FailsClosed text (Custody.reduceCustody d ctx action e i type units)
        (Custody.reduceCustody (d.unrecorded text) ctx action e i type units) := by
    unfold Custody.reduceCustody
    repeat with_reducible refine bind_right fun _ => ?_
    exact bind_left record
  cases op with
  | get | list | history => cases changes
  | register =>
    refine Setting.commit_failsClosed h ?_
    unfold Custody.registerConsumable
    repeat with_reducible refine bind_right fun _ => ?_
    exact ite (bind_right fun _ => bind_left record) (bind_left record)
  | issue =>
    refine Setting.run_failsClosed h rfl fun _ => ?_
    unfold Custody.issueConsumable
    repeat with_reducible refine bind_right fun _ => ?_
    exact bind_left record
  | use =>
    refine Setting.run_failsClosed h rfl fun _ => ?_
    unfold Custody.useConsumable
    repeat with_reducible refine bind_right fun _ => ?_
    exact bind_left reduced
  | takeBack =>
    refine Setting.run_failsClosed h rfl fun _ => ?_
    unfold Custody.returnConsumable
    repeat with_reducible refine bind_right fun _ => ?_
    exact bind_left record
  | recordLoss =>
    refine Setting.run_failsClosed h rfl fun _ => ?_
    unfold Custody.recordLoss
    repeat with_reducible refine bind_right fun _ => ?_
    exact bind_left reduced
  | reportLoss =>
    refine Setting.run_failsClosed h rfl fun _ => ?_
    unfold Custody.reportLoss
    repeat with_reducible refine bind_right fun _ => ?_
    exact bind_left reduced
  | restock =>
    refine Setting.run_failsClosed h rfl fun _ => ?_
    unfold Custody.restockConsumable
    repeat with_reducible refine bind_right fun _ => ?_
    exact bind_left record

theorem RoleOp.fails_closed {op : RoleOp} (changes : op.isGrant = true)
    (h : (op.run d s ctx).answer = .ok answer) :
    (op.run (d.unrecorded text) s ctx).answer = .error (.auditSink text) := by
  have record {action : String} {u : Entry .user User} {scope : Scope}
      {details : List (String × Json)} :
      FailsClosed text (Grants.recordRole d ctx action u scope details)
        (Grants.recordRole (d.unrecorded text) ctx action u scope details) := FailsClosed.record
  cases op with
  | list | activate => cases changes
  | grant =>
    refine Setting.commit_failsClosed h ?_
    unfold Grants.grant
    repeat with_reducible refine bind_right fun _ => ?_
    exact ite (bind_right fun _ => bind_left record) (bind_left record)
  | revoke =>
    refine Setting.commit_failsClosed h ?_
    unfold Grants.revoke
    repeat with_reducible refine bind_right fun _ => ?_
    exact bind_left record

/-- Whether the operation is recorded in the audit log. -/
def CallerOp.isRecorded : CallerOp → Bool
  | .holdings => false
  | .roles op => op.isGrant
  | .equipment op => !op.isRead
  | .accessories op => !op.isRead
  | .consumables op => !op.isRead

/-- What goes through only changes something if it can be recorded. -/
theorem CallerOp.fails_closed {op : CallerOp} (text : String) (changes : op.isRecorded = true)
    (h : (op.run d s ctx).answer = .ok answer) :
    (op.run (d.unrecorded text) s ctx).answer = .error (.auditSink text) := by
  cases op with
  | holdings => cases changes
  | roles op => exact op.fails_closed changes h
  | equipment op => exact op.fails_closed (by simpa [isRecorded] using changes) h
  | accessories op => exact op.fails_closed (by simpa [isRecorded] using changes) h
  | consumables op => exact op.fails_closed (by simpa [isRecorded] using changes) h

/-- Where a change goes through, changes are recorded. -/
theorem CallerOp.logged {op : CallerOp} (changes : op.isRecorded = true)
    (h : (op.run d s ctx).answer = .ok answer) : d.audit = .log := by
  cases sink : d.audit with
  | log => rfl
  | failing text =>
    have same : d.unrecorded text = d := by rw [Setting.unrecorded, ← sink]
    have refused := op.fails_closed text changes h
    rw [same, h] at refused
    cases refused

end Quartermaster
