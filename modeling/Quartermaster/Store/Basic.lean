import Quartermaster.Store.Rows
import Quartermaster.Store.Table
import Quartermaster.Word

/-!
# The store

Fifteen tables, the clock and the supply of minted ids. `Record` says of each kind of row where it
is kept and which rules it has to meet: its own values (`holds`), the rows it refers to (`refers`),
and the rows it may not stand beside (`clashes`). Every write goes through these rules.
-/

namespace Quartermaster

structure Store where
  departments : Table .department Department := {}
  locations : Table .location Location := {}
  rooms : Table .room Room := {}
  users : Table .user User := {}
  roleAssignments : Table .roleAssignment RoleAssignment := {}
  equipment : Table .equipment Equipment := {}
  equipmentAssignments : Table .equipmentAssignment EquipmentAssignment := {}
  equipmentEvents : Table .equipmentEvent EquipmentEvent := {}
  accessories : Table .accessory Accessory := {}
  accessoryAssignments : Table .accessoryAssignment AccessoryAssignment := {}
  accessoryEvents : Table .accessoryEvent AccessoryEvent := {}
  consumables : Table .consumable Consumable := {}
  consumableIssues : Table .consumableIssue ConsumableIssue := {}
  consumableEvents : Table .consumableEvent ConsumableEvent := {}
  audit : Table .audit AuditRow := {}
  /-- The version of the layout, as it is written in the store. -/
  version : Option Int := some 1
  /-- The next reading of the clock. -/
  clock : Nat := 0
  /-- Where the minted ids come from. -/
  supply : Nat := 0
  /-- The number of the next minted id. -/
  minted : Nat := 0
  deriving DecidableEq, Repr

/-- Where rows of kind `k` are kept, and the rules they have to meet. -/
class Record (k : Kind) (α : outParam Type) where
  table : Store → Table k α
  setTable : Store → Table k α → Store
  /-- The numbers of the row can be read as words. -/
  fits : α → Bool := fun _ => true
  /-- The row's own values are consistent. -/
  holds : α → Bool := fun _ => true
  /-- Every reference of the row names a row. -/
  refers : Store → α → Bool := fun _ _ => true
  /-- The two rows share a unique key. -/
  clashes : α → α → Bool := fun _ _ => false

/-- A kind of row that has public ids. -/
class Named (k : Kind) {α : outParam Type} [Record k α] where
  publicId : α → String

namespace Store

variable {k : Kind} {α : Type} [Record k α]

/-- The row under an id. -/
def row? (s : Store) (id : Id k) : Option (Entry k α) := (Record.table s).get? id

/-- The row with a public id. -/
def named? (s : Store) (k : Kind) {α : Type} [Record k α] [Named k] (publicId : String) :
    Option (Entry k α) :=
  (Record.table s : Table k α).find? fun row => Named.publicId k row == publicId

/-- The public ids of the rows of a kind. -/
def idsOf (s : Store) (k : Kind) {α : Type} [Record k α] [Named k] : List String :=
  (Record.table s : Table k α).entries.map fun e => Named.publicId k e.val

/-- The rule that a row would break beside the rows of the store, were it added. -/
def insertFault (s : Store) (k : Kind) {α : Type} [Record k α] (row : α) : Option Fault :=
  if !Record.fits k row then some .outOfRange
  else if !Record.holds k row then some (.constraint .check)
  else if !Record.refers k s row then some (.constraint .foreignKey)
  else if ((Record.table s : Table k α).find? (Record.clashes k row)).isSome then
    some (.constraint .unique)
  else none

/-- The rule that the new values of a row would break, whatever its numbers are. No write changes a
column of a unique key, so those are not looked at again. -/
def ruleFault (s : Store) (k : Kind) {α : Type} [Record k α] (row : α) : Option Fault :=
  if !Record.holds k row then some (.constraint .check)
  else if !Record.refers k s row then some (.constraint .foreignKey)
  else none

/-- The fault of new values of a row that are given as they are to be kept. -/
def updateFault (s : Store) (k : Kind) {α : Type} [Record k α] (row : α) : Option Fault :=
  if !Record.fits k row then some .outOfRange else s.ruleFault k row

end Store

instance : Record .department Department where
  table := Store.departments
  setTable s t := { s with departments := t }
  clashes a b := a.publicId == b.publicId

instance : Named .department := ⟨Department.publicId⟩

instance : Record .location Location where
  table := Store.locations
  setTable s t := { s with locations := t }
  refers s row := s.departments.resolves row.department
  clashes a b := a.publicId == b.publicId

instance : Named .location := ⟨Location.publicId⟩

instance : Record .room Room where
  table := Store.rooms
  setTable s t := { s with rooms := t }
  refers s row := s.locations.resolves row.location
  clashes a b := a.publicId == b.publicId

instance : Named .room := ⟨Room.publicId⟩

instance : Record .user User where
  table := Store.users
  setTable s t := { s with users := t }
  refers s row := s.rooms.resolves row.room && s.roleAssignments.resolves row.active
  clashes a b := a.publicId == b.publicId

instance : Named .user := ⟨User.publicId⟩

/-- An assignment has at most one column set, and none for the highest role. A user holds the highest
role at most once, and another one at a node at most once; assignments without a node do not
count. -/
instance : Record .roleAssignment RoleAssignment where
  table := Store.roleAssignments
  setTable s t := { s with roleAssignments := t }
  holds row := row.columns.count ≤ 1 && (row.role != .siteAdmin || row.columns.count == 0)
  refers s row := s.users.has row.user && s.users.resolves row.grantedBy
    && s.departments.resolves row.columns.department && s.locations.resolves row.columns.location
    && s.rooms.resolves row.columns.room
  clashes a b := a.publicId == b.publicId
    || (a.user == b.user && a.role == b.role
      && (a.role == .siteAdmin || (a.columns == b.columns && a.columns.count != 0)))

instance : Named .roleAssignment := ⟨RoleAssignment.publicId⟩

instance : Record .equipment Equipment where
  table := Store.equipment
  setTable s t := { s with equipment := t }
  refers s row := s.rooms.resolves row.room
  clashes a b := a.publicId == b.publicId

instance : Named .equipment := ⟨Equipment.publicId⟩

/-- An item has at most one open assignment. -/
instance : Record .equipmentAssignment EquipmentAssignment where
  table := Store.equipmentAssignments
  setTable s t := { s with equipmentAssignments := t }
  holds row := row.state.agrees row.returnedAt
  refers s row := s.equipment.has row.equipment && s.users.has row.holder
    && s.users.resolves row.assignedBy
  clashes a b := a.publicId == b.publicId
    || (a.equipment == b.equipment && a.isOpen && b.isOpen)

instance : Named .equipmentAssignment := ⟨EquipmentAssignment.publicId⟩

instance : Record .equipmentEvent EquipmentEvent where
  table := Store.equipmentEvents
  setTable s t := { s with equipmentEvents := t }
  holds row := row.type ∈ EventType.equipment
  refers s row := s.equipment.has row.equipment && s.equipmentAssignments.resolves row.assignment
    && s.users.resolves row.holder && s.users.has row.reportedBy

instance : Record .accessory Accessory where
  table := Store.accessories
  setTable s t := { s with accessories := t }
  fits row := fitsWord row.quantity
  holds row := 0 ≤ row.quantity
  refers s row := s.rooms.resolves row.room
  clashes a b := a.publicId == b.publicId

instance : Named .accessory := ⟨Accessory.publicId⟩

/-- A holder has at most one open assignment of an accessory. It holds units while it is open and
none when it is closed. -/
instance : Record .accessoryAssignment AccessoryAssignment where
  table := Store.accessoryAssignments
  setTable s t := { s with accessoryAssignments := t }
  fits row := fitsWord row.quantity
  holds row := (if row.isOpen then 1 ≤ row.quantity else row.quantity = 0)
    && row.state.agrees row.returnedAt
  refers s row := s.accessories.has row.accessory && s.users.has row.holder
    && s.users.resolves row.assignedBy
  clashes a b := a.publicId == b.publicId
    || (a.accessory == b.accessory && a.holder == b.holder && a.isOpen && b.isOpen)

instance : Named .accessoryAssignment := ⟨AccessoryAssignment.publicId⟩

instance : Record .accessoryEvent AccessoryEvent where
  table := Store.accessoryEvents
  setTable s t := { s with accessoryEvents := t }
  fits row := fitsWord row.quantity && fitsWord row.quantityChange
  holds row := row.type ∈ EventType.accessory
  refers s row := s.accessories.has row.asset && s.accessoryAssignments.resolves row.custody
    && s.users.resolves row.holder && s.users.has row.reportedBy

instance : Record .consumable Consumable where
  table := Store.consumables
  setTable s t := { s with consumables := t }
  fits row := fitsWord row.quantity && fitsWord row.lowStockThreshold
  holds row := 0 ≤ row.quantity && 0 ≤ row.lowStockThreshold
  refers s row := s.rooms.resolves row.room
  clashes a b := a.publicId == b.publicId

instance : Named .consumable := ⟨Consumable.publicId⟩

/-- A holder has at most one open issue of a consumable. Of what was issued, an open issue still
holds some and a closed one nothing. -/
instance : Record .consumableIssue ConsumableIssue where
  table := Store.consumableIssues
  setTable s t := { s with consumableIssues := t }
  fits row := fitsWord row.quantity && fitsWord row.issuedQuantity
  holds row := 0 < row.issuedQuantity && row.quantity ≤ row.issuedQuantity
    && (if row.isOpen then 1 ≤ row.quantity else row.quantity = 0)
    && row.state.agrees row.returnedAt
  refers s row := s.consumables.has row.consumable && s.users.has row.holder
    && s.users.resolves row.assignedBy
  clashes a b := a.publicId == b.publicId
    || (a.consumable == b.consumable && a.holder == b.holder && a.isOpen && b.isOpen)

instance : Named .consumableIssue := ⟨ConsumableIssue.publicId⟩

instance : Record .consumableEvent ConsumableEvent where
  table := Store.consumableEvents
  setTable s t := { s with consumableEvents := t }
  fits row := fitsWord row.quantity && fitsWord row.quantityChange
  holds row := row.type ∈ EventType.consumable
  refers s row := s.consumables.has row.asset && s.consumableIssues.resolves row.custody
    && s.users.resolves row.holder && s.users.has row.reportedBy

/-- Audit rows refer to nothing, so that they outlive what they describe. -/
instance : Record .audit AuditRow where
  table := Store.audit
  setTable s t := { s with audit := t }
  clashes a b := a.publicId == b.publicId

instance : Named .audit := ⟨AuditRow.publicId⟩

namespace Store

/-- The present parent links. -/
def links (s : Store) : Ancestry :=
  .ofLinks (fun room => (s.rooms.get? room).bind (·.val.location))
    (fun location => (s.locations.get? location).bind (·.val.department))

/-- Every public id that is in use. -/
def publicIds (s : Store) : List String :=
  s.idsOf .department ++ s.idsOf .location ++ s.idsOf .room ++ s.idsOf .user
    ++ s.idsOf .roleAssignment ++ s.idsOf .equipment ++ s.idsOf .equipmentAssignment
    ++ s.idsOf .accessory ++ s.idsOf .accessoryAssignment ++ s.idsOf .consumable
    ++ s.idsOf .consumableIssue ++ s.idsOf .audit

/-- The row with a public id, or the refusal that names it. -/
def named (s : Store) (k : Kind) {α : Type} [Record k α] [Named k] (publicId : String) :
    Except Refusal (Entry k α) :=
  match s.named? k publicId with
  | some e => .ok e
  | none => .error (.missing (.named k publicId))

/-- The row under an id, or the refusal that names its number. -/
def numbered {k : Kind} {α : Type} [Record k α] (s : Store) (id : Id k) :
    Except Refusal (Entry k α) :=
  match s.row? id with
  | some e => .ok e
  | none => .error (.missing (.numbered k id.row))

end Store

end Quartermaster
