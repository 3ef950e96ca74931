import Quartermaster.Store.People

/-!
# Equipment: rows and ledger

The register of items and the ledger of who held them. The register says what an item is; its open
assignment, of which there is at most one, says who has it.
-/

namespace Quartermaster

/-- Whether a condition shows an asset of the given room. An asset in no room is shown by the
unrestricted condition alone. -/
def Condition.admits (c : Condition) (s : Store) (room : Option RoomId) : Bool :=
  match c with
  | .unrestricted => true
  | .nothing => false
  | .room id => room == some id
  | .location id => (room.bind s.row?).any fun r => r.val.location == some id
  | .department id =>
    (room.bind s.row?).any fun r =>
      (r.val.location.bind s.row?).any fun l => l.val.department == some id

/-- A row of the equipment listing. -/
structure EquipmentListing where
  item : Entry .equipment Equipment
  room : Option String
  holder : Option String
  deriving DecidableEq, Repr

/-- A row of the equipment ledger with public ids in place of references. -/
structure EquipmentEventView where
  type : EventType
  holder : Option String
  status : Option EquipmentStatus
  reportedBy : Option String
  notes : Option String
  occurredAt : Stamp
  deriving DecidableEq, Repr

namespace Store

/-- The public id of a user that is referred to. -/
def userPublicId (s : Store) (user : Option UserId) : Option String :=
  (user.bind s.row?).map (·.val.publicId)

/-- The public id of a room that is referred to. -/
def roomPublicId (s : Store) (room : Option RoomId) : Option String :=
  (room.bind s.row?).map (·.val.publicId)

/-- The open assignments of an item. -/
def openEquipmentAssignments (s : Store) (item : EquipmentId) :
    List (Entry .equipmentAssignment EquipmentAssignment) :=
  s.equipmentAssignments.filter fun a => a.equipment == item && a.isOpen

/-- The open assignment of an item. -/
def openEquipmentAssignment (s : Store) (item : EquipmentId) :
    Option (Entry .equipmentAssignment EquipmentAssignment) :=
  s.equipmentAssignments.find? fun a => a.equipment == item && a.isOpen

/-- The listing rows of one item: one for each open assignment, and one if there is none. -/
def equipmentListings (s : Store) (item : Entry .equipment Equipment) : List EquipmentListing :=
  let row (holder : Option UserId) : EquipmentListing :=
    { item, room := s.roomPublicId item.val.room, holder := s.userPublicId holder }
  match s.openEquipmentAssignments item.id with
  | [] => [row none]
  | held => held.map fun a => row (some a.val.holder)

/-- The items that a condition shows. -/
def listEquipment (s : Store) (c : Condition) : List EquipmentListing :=
  (s.equipment.filter fun e => c.admits s e.room).flatMap s.equipmentListings

/-- The ledger of an item, oldest first. -/
def equipmentHistory (s : Store) (item : EquipmentId) : List EquipmentEventView :=
  (s.equipmentEvents.filter (·.equipment == item)).map fun e =>
    { type := e.val.type
      holder := s.userPublicId e.val.holder
      status := e.val.status
      reportedBy := s.userPublicId (some e.val.reportedBy)
      notes := e.val.notes
      occurredAt := e.val.occurredAt }

/-- What a user holds: the open assignments with their items, in order. -/
def heldEquipment (s : Store) (holder : UserId) :
    Except Refusal
      (List (Entry .equipment Equipment × Entry .equipmentAssignment EquipmentAssignment)) :=
  (s.equipmentAssignments.filter fun a => a.holder == holder && a.isOpen).mapM fun a =>
    (s.numbered a.val.equipment).map (·, a)

end Store

namespace Tx

def createEquipment (publicId : Option String) (name : String) (serialNumber : Option String)
    (room : Option RoomId) : Tx (Entry .equipment Equipment) := do
  requireName name
  let publicId ← publicIdOr publicId
  let at' ← now
  insertOr .equipment (publicIdTaken .equipment)
    { publicId, name, serialNumber, status := .ok, room, createdAt := at', updatedAt := at' }

/-- Writes the status of an item; an item that is not there is left alone. -/
def setEquipmentStatus (item : EquipmentId) (status : EquipmentStatus) : Tx Unit := do
  let updatedAt ← now
  match (← get).row? item with
  | none => return ()
  | some e => put item { e.val with status, updatedAt }

/-- Opens an assignment of an item. -/
def openEquipmentAssignment (item : EquipmentId) (holder assignedBy : UserId)
    (notes : Option String) : Tx (Entry .equipmentAssignment EquipmentAssignment) := do
  let publicId ← mint
  insertOr .equipmentAssignment (fun _ => .invalid .equipmentAssigned)
    { publicId, equipment := item, holder, assignedBy := some assignedBy, assignedAt := ← now
      returnedAt := none, state := .opened, notes }

/-- The assignment under an id while it is open. -/
def openEquipmentRow (id : EquipmentAssignmentId) :
    Tx (Entry .equipmentAssignment EquipmentAssignment) := do
  present (((← get).row? id).filter (·.val.isOpen)) (.invalid .assignmentClosed)

/-- Closes an open assignment. New notes replace the old ones. -/
def closeEquipmentAssignment (id : EquipmentAssignmentId) (notes : Option String) :
    Tx (Entry .equipmentAssignment EquipmentAssignment) := do
  let a ← openEquipmentRow id
  let closed :=
    { a.val with state := .closed, returnedAt := some (← now), notes := notes.or a.val.notes }
  put id closed
  return { a with val := closed }

/-- Hands an open assignment to another holder; the period starts anew. -/
def transferEquipmentAssignment (id : EquipmentAssignmentId) (holder assignedBy : UserId)
    (notes : Option String) : Tx (Entry .equipmentAssignment EquipmentAssignment) := do
  let a ← openEquipmentRow id
  let moved := { a.val with holder, assignedBy := some assignedBy, assignedAt := ← now, notes }
  put id moved
  return { a with val := moved }

/-- Appends a row to the equipment ledger. -/
def appendEquipmentEvent (item : EquipmentId) (assignment : Option EquipmentAssignmentId)
    (type : EventType) (holder : Option UserId) (status : Option EquipmentStatus)
    (reportedBy : UserId) (notes : Option String) : Tx (Entry .equipmentEvent EquipmentEvent) := do
  insert .equipmentEvent
    { equipment := item, assignment, type, holder, status, reportedBy, notes, occurredAt := ← now }

end Tx

end Quartermaster
