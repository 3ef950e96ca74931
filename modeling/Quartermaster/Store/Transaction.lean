import Quartermaster.Minted
import Quartermaster.Store.Basic
import Quartermaster.Text.Blank

/-!
# Transactions

A transaction is a store-passing computation that may be refused. A refusal carries no store, so
everything that was written before it is gone, also the ids that were minted and the clock readings
that were taken (`Store.transact_error`). An id that is minted is new to the store (`Tx.mint_fresh`).
-/

namespace Quartermaster

abbrev Tx := StateT Store (Except Refusal)

namespace Tx

/-- Reads the store as it is in the transaction. -/
def read {α : Type} (f : Store → Except Refusal α) : Tx α :=
  fun s => (f s).map (·, s)

/-- Goes on only if the condition holds. -/
def require (ok : Bool) (otherwise : Refusal) : Tx Unit :=
  if ok then pure () else throw otherwise

/-- Goes on with a value that is there. -/
def present {α : Type} (value : Option α) (otherwise : Refusal) : Tx α :=
  match value with
  | some a => pure a
  | none => throw otherwise

/-- Takes a reading of the clock. -/
def now : Tx Stamp :=
  fun s => .ok (⟨s.clock⟩, { s with clock := s.clock + 1 })

/-- Takes the next minted id that no row has. -/
def mint : Tx String :=
  fun s =>
    let used := s.publicIds
    let n := Minted.firstFree s.supply used.length used s.minted
    .ok (Minted.text s.supply n, { s with minted := n + 1 })

/-- The public id that was given, or a minted one. A given id must not be blank. -/
def publicIdOr (given : Option String) : Tx String :=
  match given with
  | some id => do
    require (!Text.isBlank id) (.invalid .blankPublicId)
    return id
  | none => mint

/-- Adds a row under the next id of its table. `onConstraint` is the refusal when the row breaks a
rule of the storage. -/
def insertOr (k : Kind) {α : Type} [Record k α] (onConstraint : Constraint → Refusal) (row : α) :
    Tx (Entry k α) :=
  fun s =>
    match s.insertFault k row with
    | some (.constraint rule) => .error (onConstraint rule)
    | some fault => .error (.ofFault fault)
    | none =>
      let t : Table k α := Record.table s
      .ok (⟨t.next, row⟩, Record.setTable s (t.insert row))

/-- Adds a row; a broken rule is a fault of the storage. -/
def insert (k : Kind) {α : Type} [Record k α] (row : α) : Tx (Entry k α) :=
  insertOr k (fun rule => .ofFault (.constraint rule)) row

/-- Writes new values of the row under an id. -/
def put {k : Kind} {α : Type} [Record k α] (id : Id k) (row : α) : Tx Unit :=
  fun s =>
    match s.updateFault k row with
    | some fault => .error (.ofFault fault)
    | none => .ok ((), Record.setTable s ((Record.table s : Table k α).put id row))

/-- Writes values of the row under an id that the storage made itself. That their numbers can be read
is not looked at. -/
def overwrite {k : Kind} {α : Type} [Record k α] (id : Id k) (row : α) : Tx Unit :=
  fun s =>
    match s.ruleFault k row with
    | some fault => .error (.ofFault fault)
    | none => .ok ((), Record.setTable s ((Record.table s : Table k α).put id row))

/-- Reads the row under an id again. Its numbers have to be words. -/
def reread {k : Kind} {α : Type} [Record k α] (id : Id k) : Tx (Entry k α) := do
  let e ← read (·.numbered id)
  require (Record.fits k e.val) (.ofFault .outOfRange)
  return e

end Tx

/-- Runs a transaction: its answer and the store after it, which is the store before when it is
refused. -/
def Store.transact {α : Type} (s : Store) (tx : Tx α) : Except Refusal α × Store :=
  match tx s with
  | .ok (a, after) => (.ok a, after)
  | .error why => (.error why, s)

/-- A minted id is new. -/
theorem Tx.mint_fresh {s after : Store} {publicId : String}
    (h : Tx.mint s = .ok (publicId, after)) : publicId ∉ s.publicIds := by
  obtain ⟨rfl, _⟩ := Prod.mk.inj (Except.ok.inj h)
  exact Minted.text_firstFree s.minted (Nat.le_refl _)

theorem Store.transact_error {α : Type} {s : Store} {tx : Tx α} {why : Refusal}
    (h : (s.transact tx).1 = .error why) : (s.transact tx).2 = s := by
  revert h
  unfold Store.transact
  split <;> simp

end Quartermaster
