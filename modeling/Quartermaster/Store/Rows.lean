import Quartermaster.Ledger.EventType
import Quartermaster.Scope
import Quartermaster.Stamp
import Quartermaster.Status

/-!
# Rows

What is kept about nodes, people, assets and custody. A reference is an id; an absent reference is
`none`.
-/

namespace Quartermaster

structure Department where
  publicId : String
  name : String
  createdAt : Stamp
  deriving DecidableEq, Repr

structure Location where
  publicId : String
  name : String
  department : Option DepartmentId
  createdAt : Stamp
  deriving DecidableEq, Repr

structure Room where
  publicId : String
  name : String
  location : Option LocationId
  createdAt : Stamp
  deriving DecidableEq, Repr

structure User where
  publicId : String
  displayName : String
  room : Option RoomId
  /-- The assignment that governs requests which choose none. -/
  active : Option RoleAssignmentId
  createdAt : Stamp
  deriving DecidableEq, Repr

/-- The columns in which the node of a binding is kept, one for each kind of node. -/
structure ScopeColumns where
  department : Option DepartmentId := none
  location : Option LocationId := none
  room : Option RoomId := none
  deriving DecidableEq, Repr

namespace ScopeColumns

/-- How many columns are set. -/
def count (c : ScopeColumns) : Nat :=
  c.department.toList.length + c.location.toList.length + c.room.toList.length

/-- The columns of a scope. A scope without a node leaves them all empty. -/
def ofScope : Scope → ScopeColumns
  | .site | .detached => {}
  | .department id => { department := some id }
  | .location id => { location := some id }
  | .room id => { room := some id }

/-- The scope that the columns of a role tell, the coarsest node first. The highest role needs no
column. -/
def scope (c : ScopeColumns) : Role → Scope
  | .siteAdmin => .site
  | _ =>
    match c.department, c.location, c.room with
    | some id, _, _ => .department id
    | none, some id, _ => .location id
    | none, none, some id => .room id
    | none, none, none => .detached

end ScopeColumns

/-- The binding that is read back from the columns of a role. A node that is not of the role's tier
is read as gone. -/
def Binding.ofColumns (role : Role) (columns : ScopeColumns) : Binding :=
  if fits : (columns.scope role).tier = some role.tier then ⟨role, columns.scope role, .inl fits⟩
  else ⟨role, .detached, .inr rfl⟩

namespace Binding

theorem ofColumns_role {role : Role} {columns : ScopeColumns} :
    (ofColumns role columns).role = role := by
  unfold ofColumns
  split <;> rfl

/-- The highest role is read over the whole tree, whatever its columns. -/
theorem ofColumns_siteAdmin {columns : ScopeColumns} : ofColumns .siteAdmin columns = .siteAdmin :=
  rfl

/-- What is bound to a node is read back as it was. -/
theorem ofColumns_ofScope {b : Binding} (attached : b.scope ≠ .detached) :
    ofColumns b.role (.ofScope b.scope) = b := by
  obtain ⟨role, scope, fits⟩ := b
  have tier : scope.tier = some role.tier := fits.resolve_right attached
  have same : (ScopeColumns.ofScope scope).scope role = scope := by
    cases role <;> cases scope <;> first | rfl | cases tier
  simp [ofColumns, same, tier]

end Binding

/-- A role at a node. -/
structure RoleAssignment where
  publicId : String
  user : UserId
  role : Role
  columns : ScopeColumns
  grantedBy : Option UserId
  createdAt : Stamp
  deriving DecidableEq, Repr

namespace RoleAssignment

/-- The binding that the columns are read back as. -/
def binding (a : RoleAssignment) : Binding := .ofColumns a.role a.columns

@[simp] theorem binding_role (a : RoleAssignment) : a.binding.role = a.role :=
  Binding.ofColumns_role

/-- What was made of a binding is read back as that. -/
theorem binding_of {a : RoleAssignment} {b : Binding} (attached : b.scope ≠ .detached)
    (role : a.role = b.role) (columns : a.columns = .ofScope b.scope) : a.binding = b := by
  rw [binding, role, columns, Binding.ofColumns_ofScope attached]

end RoleAssignment

/-- A unique item with a life cycle. -/
structure Equipment where
  publicId : String
  name : String
  serialNumber : Option String
  status : EquipmentStatus
  room : Option RoomId
  createdAt : Stamp
  updatedAt : Stamp
  deriving DecidableEq, Repr

/-- One period in which somebody holds an item. -/
structure EquipmentAssignment where
  publicId : String
  equipment : EquipmentId
  holder : UserId
  assignedBy : Option UserId
  assignedAt : Stamp
  returnedAt : Option Stamp
  state : CustodyState
  notes : Option String
  deriving DecidableEq, Repr

structure EquipmentEvent where
  equipment : EquipmentId
  assignment : Option EquipmentAssignmentId
  type : EventType
  holder : Option UserId
  status : Option EquipmentStatus
  reportedBy : UserId
  notes : Option String
  occurredAt : Stamp
  deriving DecidableEq, Repr

/-- Counted units that stay owned while they are handed out. `quantity` is the total owned. -/
structure Accessory where
  publicId : String
  name : String
  quantity : Int
  room : Option RoomId
  createdAt : Stamp
  updatedAt : Stamp
  deriving DecidableEq, Repr

/-- The units of an accessory that one person holds. -/
structure AccessoryAssignment where
  publicId : String
  accessory : AccessoryId
  holder : UserId
  quantity : Int
  assignedBy : Option UserId
  assignedAt : Stamp
  returnedAt : Option Stamp
  state : CustodyState
  deriving DecidableEq, Repr

/-- Units that are used up. `quantity` is the stock on the shelf; issued units have left it. -/
structure Consumable where
  publicId : String
  name : String
  unit : Option String
  quantity : Int
  lowStockThreshold : Int
  room : Option RoomId
  createdAt : Stamp
  updatedAt : Stamp
  deriving DecidableEq, Repr

/-- What one person was given of a consumable (`issuedQuantity`) and still has (`quantity`). -/
structure ConsumableIssue where
  publicId : String
  consumable : ConsumableId
  holder : UserId
  quantity : Int
  issuedQuantity : Int
  assignedBy : Option UserId
  purpose : Option String
  issuedAt : Stamp
  returnedAt : Option Stamp
  state : CustodyState
  deriving DecidableEq, Repr

/-- A ledger row about units of an asset, with the custody row it concerns. -/
structure UnitEvent (asset custody : Kind) where
  asset : Id asset
  custody : Option (Id custody)
  type : EventType
  holder : Option UserId
  /-- The units concerned. -/
  quantity : Int
  /-- The change of what is kept of the asset. -/
  quantityChange : Int
  reportedBy : UserId
  notes : Option String
  occurredAt : Stamp
  deriving DecidableEq, Repr

abbrev AccessoryEvent := UnitEvent .accessory .accessoryAssignment
abbrev ConsumableEvent := UnitEvent .consumable .consumableIssue

/-- The names of a room and its ancestors; a missing link has no name. -/
structure ScopeNames where
  room : Option String := none
  location : Option String := none
  department : Option String := none
  deriving DecidableEq, Repr

/-- What is recorded of a change. Names are copied, so the row outlives what it names. -/
structure AuditRow where
  publicId : String
  action : String
  actorPublicId : String
  actorName : String
  targetKind : Kind
  targetPublicId : String
  targetName : String
  scope : ScopeNames
  /-- Compact JSON text. -/
  details : Option String
  occurredAt : Stamp
  deriving DecidableEq, Repr

/-- Whether a custody row is closed exactly when it has been returned. -/
def CustodyState.agrees (state : CustodyState) (returnedAt : Option Stamp) : Bool :=
  (state == .closed) == returnedAt.isSome

@[simp] theorem CustodyState.agrees_opened (returnedAt : Option Stamp) :
    opened.agrees returnedAt = returnedAt.isNone := by
  cases returnedAt <;> rfl

@[simp] theorem CustodyState.agrees_closed (returnedAt : Option Stamp) :
    closed.agrees returnedAt = returnedAt.isSome := by
  cases returnedAt <;> rfl

def EquipmentAssignment.isOpen (a : EquipmentAssignment) : Bool := a.state == .opened

def AccessoryAssignment.isOpen (a : AccessoryAssignment) : Bool := a.state == .opened

def ConsumableIssue.isOpen (i : ConsumableIssue) : Bool := i.state == .opened

def Consumable.isLowStock (c : Consumable) : Bool := c.quantity ≤ c.lowStockThreshold

end Quartermaster
