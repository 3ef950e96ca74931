import Quartermaster.Ledger.CustodyEvent
import Quartermaster.Notice
import Quartermaster.Store.Audit

/-!
# Outcomes

An operation answers, leaves a store, and tells of what it did. What it tells leaves the transaction
as part of its result (`Committed`), so a transaction that is refused tells nothing
(`Setting.commit_error`).

An operation in two phases reads without a lock and then decides in one transaction, which looks at
everything again. Only the rows that were found go from the first phase to the second.
-/

namespace Quartermaster

/-- What the operations are given besides the store. -/
structure Setting where
  audit : AuditSink := .log
  notifier : Notifier := fun _ => .ok ()
  /-- Whether low stock is told to anybody. -/
  lowStockNotices : Bool := true

structure Outcome (α : Type) where
  answer : α
  store : Store
  /-- What listeners are told, in order. -/
  events : List CustodyEvent := []
  deliveries : List Delivery := []

/-- What a transaction leaves to be told once it is through. -/
structure Committed (α : Type) where
  answer : α
  events : List CustodyEvent := []
  notice : Option Notice := none

/-- An operation in two phases: `β` is what the first finds for the second. -/
structure TwoPhase (β α : Type) where
  read : Store → Except Refusal β
  commit : β → Tx (Committed α)

namespace Outcome

variable {α β : Type}

/-- The outcome of an operation that only reads. -/
def ofRead (s : Store) (answer : α) : Outcome α := { answer, store := s }

def map (f : α → β) (o : Outcome α) : Outcome β := { o with answer := f o.answer }

/-- Changes what an operation answers when it is not refused. -/
def mapOk (f : α → β) (o : Outcome (Except Refusal α)) : Outcome (Except Refusal β) :=
  o.map (·.map f)

end Outcome

namespace Setting

variable {α β : Type}

/-- Runs a transaction, and tells of it if it went through. -/
def commit (d : Setting) (s : Store) (tx : Tx (Committed α)) : Outcome (Except Refusal α) :=
  match s.transact tx with
  | (.ok done, after) =>
    { answer := .ok done.answer
      store := after
      events := done.events
      deliveries := done.notice.elim [] (·.dispatch d.notifier) }
  | (.error why, after) => { answer := .error why, store := after }

/-- Runs a transaction that has nothing to tell. -/
def commitQuietly (d : Setting) (s : Store) (tx : Tx α) : Outcome (Except Refusal α) :=
  d.commit s (tx.map fun answer => { answer })

/-- Runs both phases on one store. -/
def run (d : Setting) (s : Store) (p : TwoPhase β α) : Outcome (Except Refusal α) :=
  match p.read s with
  | .ok found => d.commit s (p.commit found)
  | .error why => { answer := .error why, store := s }

/-- A transaction that is refused leaves the store and tells nothing. -/
theorem commit_error {d : Setting} {s : Store} {tx : Tx (Committed α)} {why : Refusal}
    (h : (d.commit s tx).answer = .error why) :
    (d.commit s tx).store = s ∧ (d.commit s tx).events = [] ∧ (d.commit s tx).deliveries = [] := by
  revert h
  unfold commit Store.transact
  cases tx s with
  | ok r => simp
  | error e => simp

/-- An operation that is refused in either phase leaves the store and tells nothing. -/
theorem run_error {d : Setting} {s : Store} {p : TwoPhase β α} {why : Refusal}
    (h : (d.run s p).answer = .error why) :
    (d.run s p).store = s ∧ (d.run s p).events = [] ∧ (d.run s p).deliveries = [] := by
  revert h
  unfold run
  cases p.read s with
  | ok found => exact commit_error
  | error e => simp

end Setting

end Quartermaster
