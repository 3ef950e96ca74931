import Quartermaster.Custody.Accessory
import Quartermaster.Custody.Consumable
import Quartermaster.Custody.Equipment
import Quartermaster.Custody.Holdings
import Quartermaster.Directory
import Quartermaster.Grants

/-!
# Operations

All that can be asked of the library, as one closed type, and `Operation.run`, which carries it out.
An operation on the directory needs no caller; every other one acts for the context it is given.
-/

namespace Quartermaster

/-- What an operation answers. -/
inductive Answer where
  | nothing
  | chain (c : Chain)
  | department (row : Entry .department Department)
  | location (row : Entry .location Location)
  | room (row : Entry .room Room)
  | user (row : Entry .user User)
  | role (row : Entry .roleAssignment RoleAssignment)
  | roles (rows : List (Entry .roleAssignment RoleAssignment))
  | holdings (held : Holdings)
  | equipment (row : Entry .equipment Equipment)
  | equipmentCustody (custody : EquipmentCustody)
  | equipmentList (rows : List EquipmentListing)
  | equipmentHistory (rows : List EquipmentEventView)
  | accessory (row : Entry .accessory Accessory)
  | accessoryCustody (custody : AccessoryCustody)
  | accessoryList (rows : List AccessoryListing)
  | consumable (row : Entry .consumable Consumable)
  | consumableCustody (custody : ConsumableCustody)
  | consumableList (rows : List ConsumableListing)
  | unitHistory (rows : List UnitEventView)

/-- What can be asked of the directory. -/
inductive DirectoryOp where
  | createDepartment (input : NodeInput)
  | createLocation (input : NodeInput)
  | createRoom (input : NodeInput)
  | relocateRoom (room location : String)
  | relocateLocation (location department : String)
  | deleteNode (node : Locator)
  | chain (node : Locator)
  | createUser (input : UserInput)
  | moveUser (user : String) (room : Option String)
  | bootstrap (user displayName : String)

/-- What a caller can ask about own roles and the roles of others. -/
inductive RoleOp where
  | list
  | grant (input : GrantInput)
  | activate (assignment : String)
  | revoke (assignment : String)

inductive EquipmentOp where
  | get (item : String)
  | list
  | history (item : String)
  | register (input : EquipmentInput)
  | assign (item user : String) (notes : Option String)
  | unassign (item user : String) (notes : Option String)
  | reassign (item fromUser toUser : String) (notes : Option String)
  | changeStatus (item : String) (status : EquipmentStatus) (notes : Option String)

inductive AccessoryOp where
  | get (item : String)
  | list
  | history (item : String)
  | register (input : AccessoryInput)
  | assign (item user : String) (quantity : Int64)
  | takeBack (assignment : String) (quantity : Int64)
  | condemn (item : String) (quantity : Int64)
  | restock (item : String) (quantity : Int64)

inductive ConsumableOp where
  | get (item : String)
  | list
  | history (item : String)
  | register (input : ConsumableInput)
  | issue (item user : String) (quantity : Int64) (purpose : Option String)
  | use (item : String) (quantity : Int64)
  | takeBack (issue : String) (quantity : Int64)
  | recordLoss (issue : String) (quantity : Int64) (kind : LossKind)
  | reportLoss (item : String) (quantity : Int64) (kind : LossKind)
  | restock (item : String) (quantity : Int64)

/-- What can be asked for a caller. -/
inductive CallerOp where
  | holdings
  | roles (op : RoleOp)
  | equipment (op : EquipmentOp)
  | accessories (op : AccessoryOp)
  | consumables (op : ConsumableOp)

/-- What can be asked. -/
inductive Operation where
  | directory (op : DirectoryOp)
  | caller (ctx : Context) (op : CallerOp)

def DirectoryOp.run (d : Setting) (s : Store) : DirectoryOp → Outcome (Except Refusal Answer)
  | .createDepartment input => (d.commitQuietly s (Tx.createDepartment input)).mapOk .department
  | .createLocation input => (d.commitQuietly s (Tx.createLocation input)).mapOk .location
  | .createRoom input => (d.commitQuietly s (Tx.createRoom input)).mapOk .room
  | .relocateRoom room location => (d.commitQuietly s (Tx.relocateRoom room location)).mapOk .room
  | .relocateLocation location department =>
    (d.commitQuietly s (Tx.relocateLocation location department)).mapOk .location
  | .deleteNode node => (d.commitQuietly s (Tx.deleteNode node)).mapOk fun _ => .nothing
  | .chain node => .ofRead s ((s.chain node).map .chain)
  | .createUser input => (d.commitQuietly s (Tx.createUser input)).mapOk .user
  | .moveUser user room => (d.commitQuietly s (Directory.moveUser user room)).mapOk .user
  | .bootstrap user displayName =>
    (d.commitQuietly s (Directory.bootstrap user displayName)).mapOk .role

def RoleOp.run (d : Setting) (s : Store) (ctx : Context) :
    RoleOp → Outcome (Except Refusal Answer)
  | .list => .ofRead s (.ok (.roles (s.rolesOf ctx.actor.id)))
  | .grant input => (d.commit s (Grants.grant d ctx input)).mapOk .role
  | .activate assignment => (d.commitQuietly s (Grants.activate ctx assignment)).mapOk .role
  | .revoke assignment => (d.commit s (Grants.revoke d ctx assignment)).mapOk fun _ => .nothing

def EquipmentOp.run (d : Setting) (s : Store) (ctx : Context) :
    EquipmentOp → Outcome (Except Refusal Answer)
  | .get item => .ofRead s ((Custody.getEquipment ctx item s).map .equipmentCustody)
  | .list => .ofRead s (.ok (.equipmentList (Custody.listEquipment ctx s)))
  | .history item => .ofRead s ((Custody.equipmentHistory ctx item s).map .equipmentHistory)
  | .register input => (d.commit s (Custody.registerEquipment d ctx input)).mapOk .equipment
  | .assign item user notes =>
    (d.run s (Custody.assignEquipment d ctx item user notes)).mapOk .equipmentCustody
  | .unassign item user notes =>
    (d.run s (Custody.unassignEquipment d ctx item user notes)).mapOk .equipmentCustody
  | .reassign item fromUser toUser notes =>
    (d.run s (Custody.reassignEquipment d ctx item fromUser toUser notes)).mapOk .equipmentCustody
  | .changeStatus item status notes =>
    (d.run s (Custody.changeEquipmentStatus d ctx item status notes)).mapOk .equipmentCustody

def AccessoryOp.run (d : Setting) (s : Store) (ctx : Context) :
    AccessoryOp → Outcome (Except Refusal Answer)
  | .get item => .ofRead s ((Custody.getAccessory ctx item s).map .accessoryCustody)
  | .list => .ofRead s ((Custody.listAccessories ctx s).map .accessoryList)
  | .history item => .ofRead s ((Custody.accessoryHistory ctx item s).map .unitHistory)
  | .register input => (d.commit s (Custody.registerAccessory d ctx input)).mapOk .accessory
  | .assign item user quantity =>
    (d.run s (Custody.assignAccessory d ctx item user quantity)).mapOk .accessoryCustody
  | .takeBack assignment quantity =>
    (d.run s (Custody.returnAccessory d ctx assignment quantity)).mapOk .accessoryCustody
  | .condemn item quantity =>
    (d.run s (Custody.condemnAccessory d ctx item quantity)).mapOk .accessoryCustody
  | .restock item quantity =>
    (d.run s (Custody.restockAccessory d ctx item quantity)).mapOk .accessoryCustody

def ConsumableOp.run (d : Setting) (s : Store) (ctx : Context) :
    ConsumableOp → Outcome (Except Refusal Answer)
  | .get item => .ofRead s ((Custody.getConsumable ctx item s).map .consumableCustody)
  | .list => .ofRead s (.ok (.consumableList (Custody.listConsumables ctx s)))
  | .history item => .ofRead s ((Custody.consumableHistory ctx item s).map .unitHistory)
  | .register input => (d.commit s (Custody.registerConsumable d ctx input)).mapOk .consumable
  | .issue item user quantity purpose =>
    (d.run s (Custody.issueConsumable d ctx item user quantity purpose)).mapOk .consumableCustody
  | .use item quantity =>
    (d.run s (Custody.useConsumable d ctx item quantity)).mapOk .consumableCustody
  | .takeBack publicId quantity =>
    (d.run s (Custody.returnConsumable d ctx publicId quantity)).mapOk .consumableCustody
  | .recordLoss publicId quantity kind =>
    (d.run s (Custody.recordLoss d ctx publicId quantity kind)).mapOk .consumableCustody
  | .reportLoss item quantity kind =>
    (d.run s (Custody.reportLoss d ctx item quantity kind)).mapOk .consumableCustody
  | .restock item quantity =>
    (d.run s (Custody.restockConsumable d ctx item quantity)).mapOk .consumableCustody

def CallerOp.run (d : Setting) (s : Store) (ctx : Context) :
    CallerOp → Outcome (Except Refusal Answer)
  | .holdings => .ofRead s ((s.holdings ctx.actor.id).map .holdings)
  | .roles op => op.run d s ctx
  | .equipment op => op.run d s ctx
  | .accessories op => op.run d s ctx
  | .consumables op => op.run d s ctx

/-- Carries an operation out on a store. -/
def Operation.run (d : Setting) (s : Store) : Operation → Outcome (Except Refusal Answer)
  | .directory op => op.run d s
  | .caller ctx op => op.run d s ctx

end Quartermaster
