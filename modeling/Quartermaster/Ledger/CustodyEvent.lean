import Quartermaster.Ledger.EventType
import Quartermaster.Role
import Quartermaster.Status

/-!
# Custody events

What is told to listeners after a transaction: one event for each ledger row that was appended, and
one for each role that was granted or revoked. Events name their subjects by public id.
-/

namespace Quartermaster

/-- A ledger row about units, as listeners see it. -/
structure UnitLedgerEvent where
  asset : String
  type : EventType
  holder : Option String
  quantity : Int
  quantityChange : Int
  deriving DecidableEq, Repr

inductive CustodyEvent where
  | equipmentAssigned (equipment holder actor : String)
  | equipmentReturned (equipment holder actor : String)
  | equipmentStatusChanged (equipment : String) (status : EquipmentStatus) (actor : String)
  | accessoryLedger (row : UnitLedgerEvent)
  | consumableLedger (row : UnitLedgerEvent)
  | roleGranted (assignment user : String) (role : Role)
  | roleRevoked (assignment user : String)
  deriving DecidableEq, Repr

end Quartermaster
