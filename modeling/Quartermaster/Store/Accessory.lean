import Quartermaster.Store.Equipment
import Quartermaster.Store.Sum

/-!
# Accessories: rows and ledger

The total of an accessory is kept; what is available is the total less the units in open
assignments. Units are added to an assignment by the storage itself, and the row is read again
afterwards: a sum that is not a word is found then, when it is already written.
-/

namespace Quartermaster

structure AccessoryListing where
  item : Entry .accessory Accessory
  room : Option String
  available : Int
  deriving DecidableEq, Repr

/-- A ledger row about units with public ids in place of references. -/
structure UnitEventView where
  type : EventType
  holder : Option String
  quantity : Int
  quantityChange : Int
  reportedBy : Option String
  notes : Option String
  occurredAt : Stamp
  deriving DecidableEq, Repr

namespace Store

/-- A ledger row as it is shown. -/
def unitEventView {asset custody : Kind} (s : Store) (e : UnitEvent asset custody) :
    UnitEventView :=
  { type := e.type
    holder := s.userPublicId e.holder
    quantity := e.quantity
    quantityChange := e.quantityChange
    reportedBy := s.userPublicId (some e.reportedBy)
    notes := e.notes
    occurredAt := e.occurredAt }

/-- The units of an accessory in open assignments. -/
def assignedUnits (s : Store) (item : AccessoryId) : Int :=
  Table.totalOf (·.quantity)
    (s.accessoryAssignments.filter fun a => a.accessory == item && a.isOpen)

/-- The units in open assignments, as the storage sums them. -/
def assigned (s : Store) (item : AccessoryId) : Except Refusal Int :=
  let units := s.assignedUnits item
  if fitsWord units then .ok units else .error (.ofFault .outOfRange)

/-- The units on the shelf. -/
def available (s : Store) (item : Entry .accessory Accessory) : Except Refusal Int :=
  (s.assigned item.id).map (item.val.quantity - ·)

/-- The accessories that a condition shows. -/
def listAccessories (s : Store) (c : Condition) : Except Refusal (List AccessoryListing) :=
  (s.accessories.filter fun a => c.admits s a.room).mapM fun item =>
    (s.available item).map fun available =>
      { item, room := s.roomPublicId item.val.room, available }

/-- The ledger of an accessory, oldest first. -/
def accessoryHistory (s : Store) (item : AccessoryId) : List UnitEventView :=
  (s.accessoryEvents.filter (·.asset == item)).map fun e => s.unitEventView e.val

/-- The open assignment of an accessory to a holder. -/
def openAccessoryAssignment (s : Store) (item : AccessoryId) (holder : UserId) :
    Option (Entry .accessoryAssignment AccessoryAssignment) :=
  s.accessoryAssignments.find? fun a => a.accessory == item && a.holder == holder && a.isOpen

/-- What a user holds: the open assignments with their accessories, in order. -/
def heldAccessories (s : Store) (holder : UserId) :
    Except Refusal
      (List (Entry .accessory Accessory × Entry .accessoryAssignment AccessoryAssignment)) :=
  (s.accessoryAssignments.filter fun a => a.holder == holder && a.isOpen).mapM fun a =>
    (s.numbered a.val.accessory).map (·, a)

end Store

namespace Tx

def createAccessory (publicId : Option String) (name : String) (quantity : Int64)
    (room : Option RoomId) : Tx (Entry .accessory Accessory) := do
  requireName name
  require (0 ≤ quantity.toInt) (.invalid .negativeQuantity)
  let publicId ← publicIdOr publicId
  let at' ← now
  insertOr .accessory (publicIdTaken .accessory)
    { publicId, name, quantity := quantity.toInt, room, createdAt := at', updatedAt := at' }

/-- Writes the total of an accessory; an accessory that is not there is left alone. -/
def setAccessoryQuantity (item : AccessoryId) (quantity : Int) : Tx Unit := do
  let updatedAt ← now
  match (← get).row? item with
  | none => return ()
  | some a => put item { a.val with quantity, updatedAt }

/-- Opens an assignment of units. -/
def openAccessoryAssignment (item : AccessoryId) (holder : UserId) (quantity : Int)
    (assignedBy : UserId) : Tx (Entry .accessoryAssignment AccessoryAssignment) := do
  let publicId ← mint
  insertOr .accessoryAssignment (fun _ => .invalid .assignmentOpen)
    { publicId, accessory := item, holder, quantity, assignedBy := some assignedBy
      assignedAt := ← now, returnedAt := none, state := .opened }

/-- The storage adds units to an assignment while it is open; a closed one stays as it is. -/
def addToAccessoryAssignment (id : AccessoryAssignmentId) (units : Int) : Tx Unit := do
  match ((← get).row? id).filter (·.val.isOpen) with
  | some a => overwrite id { a.val with quantity := storedSum a.val.quantity units }
  | none => return ()

/-- Adds units to an assignment, and reads what has become of it. -/
def increaseAccessoryAssignment (id : AccessoryAssignmentId) (units : Int) :
    Tx (Entry .accessoryAssignment AccessoryAssignment) := do
  addToAccessoryAssignment id units
  reread id

/-- Hands units to a holder: into the open assignment, or into a new one if there is none. -/
def handAccessories (item : AccessoryId) (holder : UserId) (units : Int) (assignedBy : UserId) :
    Tx (Entry .accessoryAssignment AccessoryAssignment) := do
  match (← get).openAccessoryAssignment item holder with
  | some held => increaseAccessoryAssignment held.id units
  | none => openAccessoryAssignment item holder units assignedBy

/-- The storage takes units from an assignment while it is open, and closes it when none are left. -/
def takeFromAccessoryAssignment (id : AccessoryAssignmentId) (units : Int) : Tx Unit := do
  let at' ← now
  match ((← get).row? id).filter (·.val.isOpen) with
  | some a =>
    let rest := storedSum a.val.quantity (-units)
    overwrite id { a.val with
      quantity := rest
      state := if rest = 0 then .closed else a.val.state
      returnedAt := if rest = 0 then some at' else a.val.returnedAt }
  | none => return ()

/-- Takes units from an assignment, and reads what has become of it. -/
def reduceAccessoryAssignment (id : AccessoryAssignmentId) (units : Int) :
    Tx (Entry .accessoryAssignment AccessoryAssignment) := do
  takeFromAccessoryAssignment id units
  reread id

/-- Appends a row to the accessory ledger. -/
def appendAccessoryEvent (item : AccessoryId) (custody : Option AccessoryAssignmentId)
    (type : EventType) (holder : Option UserId) (quantity quantityChange : Int)
    (reportedBy : UserId) (notes : Option String) : Tx (Entry .accessoryEvent AccessoryEvent) := do
  insert .accessoryEvent
    { asset := item, custody, type, holder, quantity, quantityChange, reportedBy, notes
      occurredAt := ← now }

end Tx

end Quartermaster
