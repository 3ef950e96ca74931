import Quartermaster.Store.Consumable

/-!
# Sessions

Who holds the connection calls the repository as they like: each call by itself, or several in one
transaction, and a refusal may be caught. What a call has written before it was refused is then not
taken back. The calls that let the storage add up units are such calls: they write the sum, and find
only when they read the row again that it is not a word.
-/

namespace Quartermaster

/-- A use of the repository, which leaves a store also when it ends with a refusal. -/
abbrev Session := ExceptT Refusal (StateM Store)

namespace Session

variable {α : Type}

/-- A call that writes once at most. It goes through, or it leaves no trace. -/
def call (tx : Tx α) : Session α := fun s => s.transact tx

/-- Carries the body out in one transaction, which is given up if the body ends with a refusal. A
refusal that the body catches does not end it. -/
def transaction (body : Session α) : Session α := fun s =>
  match body s with
  | (.ok a, after) => (.ok a, after)
  | (.error why, _) => (.error why, s)

def increaseAccessoryAssignment (id : AccessoryAssignmentId) (units : Int) :
    Session (Entry .accessoryAssignment AccessoryAssignment) := do
  call (Tx.addToAccessoryAssignment id units)
  call (Tx.reread id)

def reduceAccessoryAssignment (id : AccessoryAssignmentId) (units : Int) :
    Session (Entry .accessoryAssignment AccessoryAssignment) := do
  call (Tx.takeFromAccessoryAssignment id units)
  call (Tx.reread id)

def increaseIssue (id : ConsumableIssueId) (units : Int) :
    Session (Entry .consumableIssue ConsumableIssue) := do
  call (Tx.addToIssue id units)
  call (Tx.reread id)

def reduceIssue (id : ConsumableIssueId) (units : Int) :
    Session (Entry .consumableIssue ConsumableIssue) := do
  call (Tx.takeFromIssue id units)
  call (Tx.reread id)

end Session

end Quartermaster
