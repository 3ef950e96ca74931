import Quartermaster.Jurisdiction
import Quartermaster.Json.Value
import Quartermaster.Store.Tree

/-!
# The audit log and the tables that only grow

An audit row names its actor, its target and the nodes around the target by name, as they were when
it was written. The audit log and the three ledgers take new rows and nothing else: a statement
that changes or removes at least one of their rows is refused (`alterWhere_refused`).
-/

namespace Quartermaster

/-- A change that is to be recorded, before the names around it are looked up. -/
structure AuditEntry where
  action : String
  targetKind : Kind
  targetPublicId : String
  targetName : String
  room : Option RoomId
  details : Json

/-- Where audit rows go. -/
inductive AuditSink where
  /-- Into the audit log, in the transaction of the change. -/
  | log
  /-- Nowhere: recording fails with this text. -/
  | failing (text : String)
  deriving DecidableEq, Repr

/-- The tables that only grow. -/
inductive GrowingTable where
  | equipmentEvents | accessoryEvents | consumableEvents | auditLog
  deriving DecidableEq, Repr

namespace GrowingTable

def all : List GrowingTable := [.equipmentEvents, .accessoryEvents, .consumableEvents, .auditLog]

def name : GrowingTable → String
  | .equipmentEvents => "equipment_events"
  | .accessoryEvents => "accessory_events"
  | .consumableEvents => "consumable_events"
  | .auditLog => "audit_log"

def ofName? (name : String) : Option GrowingTable :=
  all.find? (·.name == name)

/-- The numbers of the rows of the table, in order. -/
def rows (s : Store) : GrowingTable → List Int
  | .equipmentEvents => s.equipmentEvents.entries.map (·.id.row)
  | .accessoryEvents => s.accessoryEvents.entries.map (·.id.row)
  | .consumableEvents => s.consumableEvents.entries.map (·.id.row)
  | .auditLog => s.audit.entries.map (·.id.row)

end GrowingTable

/-- What a statement may try on the rows of a table. -/
inductive Alteration where
  | update | delete
  deriving DecidableEq, Repr

namespace Store

/-- The audit rows of a target, oldest first. -/
def auditOf (s : Store) (kind publicId : String) : List AuditRow :=
  (s.audit.filter fun r => r.targetKind.noun == kind && r.targetPublicId == publicId).map (·.val)

def auditCount (s : Store) : Nat := s.audit.entries.length

end Store

namespace Tx

/-- Appends a row to the audit log. -/
def appendAudit (actor : Actor) (entry : AuditEntry) (scope : ScopeNames) : Tx Unit := do
  let publicId ← mint
  let _ ← insertOr .audit (fun _ => .auditSink "row refused")
    { publicId, action := entry.action, actorPublicId := actor.publicId
      actorName := actor.displayName, targetKind := entry.targetKind
      targetPublicId := entry.targetPublicId, targetName := entry.targetName, scope
      details := some entry.details.compact, occurredAt := ← now }

/-- Records a change. The names are those along the present chain of the room. -/
def record (sink : AuditSink) (actor : Actor) (entry : AuditEntry) : Tx Unit :=
  match sink with
  | .failing text => throw (.auditSink text)
  | .log => do
    let scope := (← get).scopeNames entry.room
    appendAudit actor entry scope

/-- Tries to change or remove the rows of a growing table that a condition picks. Answers how many
rows it met, which is none unless it is refused. -/
def alterWhere (table : GrowingTable) (_ : Alteration) (picks : Int → Bool) : Tx Nat := do
  require (!(table.rows (← get)).any picks) (.ofFault (.aborted ("append_only:" ++ table.name)))
  return 0

/-- Tries to change or remove every row of a growing table. -/
def alter (table : GrowingTable) (what : Alteration) : Tx Nat :=
  alterWhere table what fun _ => true

/-- A statement that meets a row is refused, and the refusal names the table. -/
theorem alterWhere_refused {s : Store} {table : GrowingTable} {what : Alteration}
    {picks : Int → Bool} (met : ∃ row ∈ table.rows s, picks row = true) :
    alterWhere table what picks s = .error (.appendOnly table.name) := by
  have picked : (table.rows s).any picks = true := List.any_eq_true.2 met
  have guarded : Refusal.ofFault (.aborted ("append_only:" ++ table.name))
      = .appendOnly table.name := by
    cases table <;> decide
  simp [alterWhere, require, picked, guarded, bind, StateT.bind, get, getThe, MonadStateOf.get,
    StateT.get, throw, throwThe, MonadExceptOf.throw, StateT.lift, Except.bind, pure, Except.pure]

end Tx

end Quartermaster
