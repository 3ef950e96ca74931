import Quartermaster.Notice
import Quartermaster.Store.Audit
import Quartermaster.Store.Consumable

/-!
# Statements

What can be done to the store itself, without a caller and without the rules of custody: whatever
numbers and rows a statement names, only the rules of the storage hold it back. A batch of
statements is one transaction, so it goes through as a whole or not at all.
-/

namespace Quartermaster

inductive TreeStatement where
  | createDepartment (input : NodeInput)
  | deleteNode (node : Locator)
  | relocateRoom (room location : String)
  | renameNode (node : Locator) (publicId : String)
  | resolve (node : Locator)
  | scopeNames (room : Option String)
  | findRoom (publicId : String)

/-- The assignment that is to be active, by public id or by row. -/
inductive AssignmentRef where
  | named (publicId : String)
  | numbered (id : RoleAssignmentId)

inductive PeopleStatement where
  | findUser (publicId : String)
  | roles (user : String)
  | grant (input : GrantInput)
  /-- Gives the binding of an assignment to its user once more. -/
  | regrant (assignment : String) (publicId : Option String)
  | setActive (user : String) (assignment : Option AssignmentRef)
  | deleteRole (id : RoleAssignmentId)
  | setUserRoom (user : UserId) (room : Option String)
  | siteAdmins
  | administrators (node : Locator)
  | responsible (room : Option String)

inductive EquipmentStatement where
  | create (publicId : Option String) (name : String) (serialNumber : Option String)
      (room : Option String)
  | lock (item : EquipmentId)
  | setStatus (item : EquipmentId) (status : EquipmentStatus)
  | openRow (item user : String) (notes : Option String)
  | close (assignment : EquipmentAssignmentId) (notes : Option String)
  | transfer (assignment : EquipmentAssignmentId) (user : String) (notes : Option String)
  | append (item : EquipmentId) (assignment : Option EquipmentAssignmentId) (type : EventType)
      (holder : Option UserId) (status : Option EquipmentStatus) (reportedBy : UserId)
  | list (condition : Condition)

/-- A ledger row that a statement appends. -/
structure UnitEventInput (asset custody : Kind) where
  asset : Id asset
  custody : Option (Id custody)
  type : EventType
  holder : Option UserId
  quantity : Int64
  quantityChange : Int64
  reportedBy : UserId

inductive AccessoryStatement where
  | create (publicId : Option String) (name : String) (quantity : Int64) (room : Option String)
  | lock (item : AccessoryId)
  | setQuantity (item : AccessoryId) (quantity : Int64)
  | stock (item : String)
  | openRow (item user : String) (quantity : Int64)
  | increase (assignment : AccessoryAssignmentId) (quantity : Int64)
  | reduce (assignment : AccessoryAssignmentId) (quantity : Int64)
  | append (event : UnitEventInput .accessory .accessoryAssignment)
  | list (condition : Condition)

inductive ConsumableStatement where
  | create (input : ConsumableInput)
  | lock (item : ConsumableId)
  | setQuantity (item : ConsumableId) (quantity : Int64)
  | openRow (item user : String) (quantity : Int64) (purpose : Option String)
  | increase (issue : ConsumableIssueId) (quantity : Int64)
  | reduce (issue : ConsumableIssueId) (quantity : Int64)
  | append (event : UnitEventInput .consumable .consumableIssue)
  | list (condition : Condition)

inductive Statement where
  | tree (st : TreeStatement)
  | people (st : PeopleStatement)
  | equipment (st : EquipmentStatement)
  | accessories (st : AccessoryStatement)
  | consumables (st : ConsumableStatement)
  | audit (kind publicId : String)
  | auditCount
  | alter (table : GrowingTable) (what : Alteration)
  | state

/-- All assets with their ledgers, and the length of the audit log. -/
structure Overview where
  equipment : List (EquipmentListing × List EquipmentEventView)
  accessories : List (AccessoryListing × List UnitEventView)
  consumables : List (ConsumableListing × List UnitEventView)
  auditCount : Nat

/-- What a statement answers. -/
inductive StatementAnswer where
  | nothing
  | flag (b : Bool)
  | number (n : Int)
  | department (row : Entry .department Department)
  | room (row : Entry .room Room)
  | scope (s : Scope)
  | scopeNames (names : ScopeNames)
  | foundRoom (row : Option (Entry .room Room))
  | foundUser (row : Option (Entry .user User))
      (active : Option (Entry .roleAssignment RoleAssignment))
  | users (rows : List (Entry .user User))
  | role (row : Entry .roleAssignment RoleAssignment)
  | roles (rows : List (Entry .roleAssignment RoleAssignment))
  | recipients (people : List Recipient)
  | equipment (row : Entry .equipment Equipment)
  | equipmentAssignment (row : Entry .equipmentAssignment EquipmentAssignment)
  | equipmentOpened (row : Entry .equipmentAssignment EquipmentAssignment)
  | equipmentList (rows : List EquipmentListing)
  | accessory (row : Entry .accessory Accessory)
  | accessoryAssignment (row : Entry .accessoryAssignment AccessoryAssignment)
  | accessoryOpened (row : Entry .accessoryAssignment AccessoryAssignment)
  | accessoryList (rows : List AccessoryListing)
  | stock (assigned available : Int)
  | consumable (row : Entry .consumable Consumable)
  | issue (row : Entry .consumableIssue ConsumableIssue)
  | issueOpened (row : Entry .consumableIssue ConsumableIssue)
  | consumableList (rows : List ConsumableListing)
  | audit (rows : List AuditRow)
  | overview (o : Overview)

namespace Store

def overview (s : Store) : Except Refusal Overview := do
  return {
    equipment := (s.listEquipment .unrestricted).map fun l => (l, s.equipmentHistory l.item.id)
    accessories :=
      (← s.listAccessories .unrestricted).map fun l => (l, s.accessoryHistory l.item.id)
    consumables :=
      (s.listConsumables .unrestricted).map fun l => (l, s.consumableHistory l.item.id)
    auditCount := s.auditCount }

end Store

def TreeStatement.run : TreeStatement → Tx StatementAnswer
  | .createDepartment input => return .department (← Tx.createDepartment input)
  | .deleteNode node => do
    Tx.deleteNode node
    return .nothing
  | .relocateRoom room location => return .room (← Tx.relocateRoom room location)
  | .renameNode node publicId => return .number (← Tx.renameNode node publicId)
  | .resolve node => return .scope (← Tx.read (·.resolve node))
  | .scopeNames room => do
    let room ← Tx.read (·.roomOf room)
    return .scopeNames ((← get).scopeNames room)
  | .findRoom publicId => return .foundRoom ((← get).named? .room publicId)

/-- The binding that a direct grant asks for. The highest role takes no node and no other role goes
without. -/
def GrantInput.binding (input : GrantInput) (s : Store) : Except Refusal Binding :=
  match input.scope, input.role with
  | some node, role => do Binding.bind role (← s.resolve node)
  | none, .siteAdmin => .ok .siteAdmin
  | none, role => Binding.bind role .detached

def PeopleStatement.run : PeopleStatement → Tx StatementAnswer
  | .findUser publicId => do
    let s ← get
    let u := s.named? .user publicId
    return .foundUser u ((u.bind (·.val.active)).bind s.row?)
  | .roles user => do
    let u ← Tx.read (·.named .user user)
    return .roles ((← get).rolesOf u.id)
  | .grant input => do
    let u ← Tx.read (·.named .user input.user)
    let b ← Tx.read input.binding
    let a ← Tx.createRoleAssignment input.publicId u.id b none
    if u.val.active.isNone then
      Tx.setActive u.id (some a.id)
    return .role a
  | .regrant assignment publicId => do
    let a ← Tx.read (·.named .roleAssignment assignment)
    return .role (← Tx.createRoleAssignment publicId a.val.user a.val.binding none)
  | .setActive user assignment => do
    let u ← Tx.read (·.named .user user)
    let id ← match assignment with
      | some (.named publicId) => do
        let a ← Tx.read (·.named .roleAssignment publicId)
        pure (some a.id)
      | some (.numbered id) => pure (some id)
      | none => pure none
    Tx.setActive u.id id
    return .nothing
  | .deleteRole id => return .flag (← Tx.deleteRoleAssignment id)
  | .setUserRoom user room => do
    let room ← Tx.read (·.roomOf room)
    Tx.setUserRoom user room
    return .nothing
  | .siteAdmins => return .users (← get).siteAdmins
  | .administrators node => do
    let chain ← Tx.read (·.chain node)
    return .users ((← get).administrators chain)
  | .responsible room => do
    let room ← Tx.read (·.roomOf room)
    return .recipients (← Tx.read (·.responsible room))

def EquipmentStatement.run : EquipmentStatement → Tx StatementAnswer
  | .create publicId name serialNumber room => do
    let room ← Tx.read (·.roomOf room)
    return .equipment (← Tx.createEquipment publicId name serialNumber room)
  | .lock item => return .equipment (← Tx.read (·.numbered item))
  | .setStatus item status => do
    Tx.setEquipmentStatus item status
    return .nothing
  | .openRow item user notes => do
    let e ← Tx.read (·.named .equipment item)
    let u ← Tx.read (·.named .user user)
    return .equipmentOpened (← Tx.openEquipmentAssignment e.id u.id u.id notes)
  | .close assignment notes =>
    return .equipmentAssignment (← Tx.closeEquipmentAssignment assignment notes)
  | .transfer assignment user notes => do
    let u ← Tx.read (·.named .user user)
    return .equipmentAssignment (← Tx.transferEquipmentAssignment assignment u.id u.id notes)
  | .append item assignment type holder status reportedBy => do
    let e ← Tx.appendEquipmentEvent item assignment type holder status reportedBy none
    return .number e.id.row
  | .list condition => return .equipmentList ((← get).listEquipment condition)

def AccessoryStatement.run : AccessoryStatement → Tx StatementAnswer
  | .create publicId name quantity room => do
    let room ← Tx.read (·.roomOf room)
    return .accessory (← Tx.createAccessory publicId name quantity room)
  | .lock item => return .accessory (← Tx.read (·.numbered item))
  | .setQuantity item quantity => do
    Tx.setAccessoryQuantity item quantity.toInt
    return .nothing
  | .stock item => do
    let e ← Tx.read (·.named .accessory item)
    return .stock (← Tx.read (·.assigned e.id)) (← Tx.read (·.available e))
  | .openRow item user quantity => do
    let e ← Tx.read (·.named .accessory item)
    let u ← Tx.read (·.named .user user)
    return .accessoryOpened (← Tx.openAccessoryAssignment e.id u.id quantity.toInt u.id)
  | .increase assignment quantity =>
    return .accessoryAssignment (← Tx.increaseAccessoryAssignment assignment quantity.toInt)
  | .reduce assignment quantity =>
    return .accessoryAssignment (← Tx.reduceAccessoryAssignment assignment quantity.toInt)
  | .append e => do
    let row ← Tx.appendAccessoryEvent e.asset e.custody e.type e.holder e.quantity.toInt
      e.quantityChange.toInt e.reportedBy none
    return .number row.id.row
  | .list condition => return .accessoryList (← Tx.read (·.listAccessories condition))

def ConsumableStatement.run : ConsumableStatement → Tx StatementAnswer
  | .create input => do
    let room ← Tx.read (·.roomOf input.room)
    return .consumable (← Tx.createConsumable input room)
  | .lock item => return .consumable (← Tx.read (·.numbered item))
  | .setQuantity item quantity => do
    Tx.setConsumableQuantity item quantity.toInt
    return .nothing
  | .openRow item user quantity purpose => do
    let e ← Tx.read (·.named .consumable item)
    let u ← Tx.read (·.named .user user)
    return .issueOpened (← Tx.openIssue e.id u.id quantity.toInt u.id purpose)
  | .increase issue quantity => return .issue (← Tx.increaseIssue issue quantity.toInt)
  | .reduce issue quantity => return .issue (← Tx.reduceIssue issue quantity.toInt)
  | .append e => do
    let row ← Tx.appendConsumableEvent e.asset e.custody e.type e.holder e.quantity.toInt
      e.quantityChange.toInt e.reportedBy none
    return .number row.id.row
  | .list condition => return .consumableList ((← get).listConsumables condition)

/-- Carries a statement out in the transaction it is part of. -/
def Statement.run : Statement → Tx StatementAnswer
  | .tree st => st.run
  | .people st => st.run
  | .equipment st => st.run
  | .accessories st => st.run
  | .consumables st => st.run
  | .audit kind publicId => return .audit ((← get).auditOf kind publicId)
  | .auditCount => return .number (← get).auditCount
  | .alter table what => return .number (← Tx.alter table what)
  | .state => return .overview (← Tx.read (·.overview))

/-- Carries a batch out in one transaction. -/
def Store.runBatch (s : Store) (batch : List Statement) :
    Except Refusal (List StatementAnswer) × Store :=
  s.transact (batch.mapM Statement.run)

end Quartermaster
