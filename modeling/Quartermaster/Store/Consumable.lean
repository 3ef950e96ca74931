import Quartermaster.Store.Accessory

/-!
# Consumables: rows and ledger

Issued units leave the stock when they are issued. An issue row keeps what its holder was given and
what is left of it.
-/

namespace Quartermaster

/-- What a new consumable is made from. -/
structure ConsumableInput where
  publicId : Option String := none
  name : String
  unit : Option String := none
  quantity : Int64 := 0
  lowStockThreshold : Int64 := 0
  room : Option String := none
  deriving DecidableEq

structure ConsumableListing where
  item : Entry .consumable Consumable
  room : Option String
  deriving DecidableEq, Repr

namespace Store

/-- The consumables that a condition shows. -/
def listConsumables (s : Store) (c : Condition) : List ConsumableListing :=
  (s.consumables.filter fun e => c.admits s e.room).map fun item =>
    { item, room := s.roomPublicId item.val.room }

/-- The ledger of a consumable, oldest first. -/
def consumableHistory (s : Store) (item : ConsumableId) : List UnitEventView :=
  (s.consumableEvents.filter (·.asset == item)).map fun e => s.unitEventView e.val

/-- The open issue of a consumable to a holder. -/
def openIssue (s : Store) (item : ConsumableId) (holder : UserId) :
    Option (Entry .consumableIssue ConsumableIssue) :=
  s.consumableIssues.find? fun i => i.consumable == item && i.holder == holder && i.isOpen

/-- What a user holds: the open issues with their consumables, in order. -/
def heldConsumables (s : Store) (holder : UserId) :
    Except Refusal
      (List (Entry .consumable Consumable × Entry .consumableIssue ConsumableIssue)) :=
  (s.consumableIssues.filter fun i => i.holder == holder && i.isOpen).mapM fun i =>
    (s.numbered i.val.consumable).map (·, i)

end Store

namespace Tx

def createConsumable (input : ConsumableInput) (room : Option RoomId) :
    Tx (Entry .consumable Consumable) := do
  requireName input.name
  require (0 ≤ input.quantity.toInt) (.invalid .negativeQuantity)
  require (0 ≤ input.lowStockThreshold.toInt) (.invalid .negativeThreshold)
  let publicId ← publicIdOr input.publicId
  let at' ← now
  insertOr .consumable (publicIdTaken .consumable)
    { publicId, name := input.name, unit := input.unit, quantity := input.quantity.toInt
      lowStockThreshold := input.lowStockThreshold.toInt, room, createdAt := at'
      updatedAt := at' }

/-- Writes the stock of a consumable; a consumable that is not there is left alone. -/
def setConsumableQuantity (item : ConsumableId) (quantity : Int) : Tx Unit := do
  let updatedAt ← now
  match (← get).row? item with
  | none => return ()
  | some c => put item { c.val with quantity, updatedAt }

/-- Opens an issue of units. -/
def openIssue (item : ConsumableId) (holder : UserId) (quantity : Int) (assignedBy : UserId)
    (purpose : Option String) : Tx (Entry .consumableIssue ConsumableIssue) := do
  let publicId ← mint
  insertOr .consumableIssue (fun _ => .invalid .issueOpen)
    { publicId, consumable := item, holder, quantity, issuedQuantity := quantity
      assignedBy := some assignedBy, purpose, issuedAt := ← now, returnedAt := none
      state := .opened }

/-- The storage adds units to an issue while it is open; a closed one stays as it is. -/
def addToIssue (id : ConsumableIssueId) (units : Int) : Tx Unit := do
  match ((← get).row? id).filter (·.val.isOpen) with
  | some i =>
    overwrite id { i.val with
      quantity := storedSum i.val.quantity units
      issuedQuantity := storedSum i.val.issuedQuantity units }
  | none => return ()

/-- Adds units to an issue, and reads what has become of it. -/
def increaseIssue (id : ConsumableIssueId) (units : Int) :
    Tx (Entry .consumableIssue ConsumableIssue) := do
  addToIssue id units
  reread id

/-- Gives units to a holder: into the open issue, or into a new one if there is none. -/
def giveUnits (item : ConsumableId) (holder : UserId) (units : Int) (assignedBy : UserId)
    (purpose : Option String) : Tx (Entry .consumableIssue ConsumableIssue) := do
  match (← get).openIssue item holder with
  | some held => increaseIssue held.id units
  | none => openIssue item holder units assignedBy purpose

/-- The storage takes units from an issue while it is open, and closes it when none are left. -/
def takeFromIssue (id : ConsumableIssueId) (units : Int) : Tx Unit := do
  let at' ← now
  match ((← get).row? id).filter (·.val.isOpen) with
  | some i =>
    let rest := storedSum i.val.quantity (-units)
    overwrite id { i.val with
      quantity := rest
      state := if rest = 0 then .closed else i.val.state
      returnedAt := if rest = 0 then some at' else i.val.returnedAt }
  | none => return ()

/-- Takes units from an issue, and reads what has become of it. -/
def reduceIssue (id : ConsumableIssueId) (units : Int) :
    Tx (Entry .consumableIssue ConsumableIssue) := do
  takeFromIssue id units
  reread id

/-- Appends a row to the consumable ledger. -/
def appendConsumableEvent (item : ConsumableId) (custody : Option ConsumableIssueId)
    (type : EventType) (holder : Option UserId) (quantity quantityChange : Int)
    (reportedBy : UserId) (notes : Option String) :
    Tx (Entry .consumableEvent ConsumableEvent) := do
  insert .consumableEvent
    { asset := item, custody, type, holder, quantity, quantityChange, reportedBy, notes
      occurredAt := ← now }

end Tx

end Quartermaster
