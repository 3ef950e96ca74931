import Quartermaster.Outcome

/-!
# Custody operations: what they share

Every change of custody is decided in one transaction that looks up its rows again, asks once more
for permission, and then writes the asset, the custody row, the ledger row and the audit row.
-/

namespace Quartermaster.Custody

/-- Refuses a count that is not positive. -/
def positive (quantity : Int64) : Except Refusal Unit :=
  if 0 < quantity.toInt then .ok () else .error (.invalid .notPositive)

/-- A stock with units added. -/
def addStock (stock units : Int) : Except Refusal Int :=
  if fitsWord (stock + units) then .ok (stock + units) else .error (.invalid .stockLimit)

/-- What a room is called when somebody asks to put an asset there. -/
def roomLabel (room : Option String) : String := "room " ++ room.getD "-"

/-- The row under an id as it is in the transaction. -/
def lock {k : Kind} {α : Type} [Record k α] (e : Entry k α) : Tx (Entry k α) :=
  Tx.read (·.numbered e.id)

/-- A user as it is in the transaction. -/
def reload (u : Entry .user User) : Tx (Entry .user User) :=
  Tx.read fun s =>
    match s.row? u.id with
    | some e => .ok e
    | none => .error (.missing (.named .user u.val.publicId))

/-- The holder of a custody row. -/
def holderOf (holder : UserId) : Tx (Entry .user User) :=
  Tx.read (·.numbered holder)

end Quartermaster.Custody
