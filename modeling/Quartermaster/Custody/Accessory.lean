import Quartermaster.Custody.Basic
import Quartermaster.Store.Accessory

/-!
# Custody of accessories

Units go from the shelf to a holder and back without a change of the total. Only condemning and
restocking change the total, and units in custody cannot be condemned. All of it is for
administrators of the accessory's room.
-/

namespace Quartermaster

/-- What a new accessory is made from. -/
structure AccessoryInput where
  publicId : Option String := none
  name : String
  quantity : Int64 := 0
  room : Option String := none
  deriving DecidableEq

/-- An accessory with the custody row that an operation touched. -/
structure AccessoryCustody where
  item : Entry .accessory Accessory
  available : Int
  assignment : Option (Entry .accessoryAssignment AccessoryAssignment)
  deriving DecidableEq, Repr

namespace Custody

def accessoryLabel (e : Entry .accessory Accessory) : String := s!"accessory {e.val.publicId}"

def recordAccessory (d : Setting) (ctx : Context) (action : String)
    (e : Entry .accessory Accessory) (details : List (String × Json)) : Tx Unit :=
  Tx.record d.audit ctx.actor
    { action, targetKind := .accessory, targetPublicId := e.val.publicId, targetName := e.val.name
      room := e.val.room, details := .sorted details }

/-- What listeners are told of a row of the accessory ledger. -/
def accessoryEvent (e : Entry .accessory Accessory) (type : EventType) (holder : Option String)
    (quantity quantityChange : Int) : CustodyEvent :=
  .accessoryLedger { asset := e.val.publicId, type, holder, quantity, quantityChange }

/-- The accessory with a public id, for whoever has the rank over its room. -/
def findAccessory (ctx : Context) (required : Role) (item : String) (s : Store) :
    Except Refusal (Entry .accessory Accessory) := do
  let e ← s.named .accessory item
  s.authorize ctx required e.val.room (accessoryLabel e)
  return e

/-- The accessory as it is in the transaction, for its administrators. -/
def lockAccessory (ctx : Context) (found : Entry .accessory Accessory) :
    Tx (Entry .accessory Accessory) := do
  let e ← lock found
  Tx.authorize ctx .roomAdmin e.val.room (accessoryLabel e)
  return e

def getAccessory (ctx : Context) (item : String) (s : Store) : Except Refusal AccessoryCustody := do
  let e ← findAccessory ctx .roomViewer item s
  return { item := e, available := ← s.available e, assignment := none }

def listAccessories (ctx : Context) (s : Store) : Except Refusal (List AccessoryListing) :=
  s.listAccessories ctx.condition

def accessoryHistory (ctx : Context) (item : String) (s : Store) :
    Except Refusal (List UnitEventView) := do
  let e ← findAccessory ctx .roomViewer item s
  return s.accessoryHistory e.id

/-- Registers a new accessory in a room. Units that it begins with are its first restock. -/
def registerAccessory (d : Setting) (ctx : Context) (input : AccessoryInput) :
    Tx (Committed (Entry .accessory Accessory)) := do
  let room ← Tx.read (·.roomOf input.room)
  Tx.authorize ctx .roomAdmin room (roomLabel input.room)
  let e ← Tx.createAccessory input.publicId input.name input.quantity room
  let units := e.val.quantity
  if 0 < units then
    let _ ← Tx.appendAccessoryEvent e.id none .restocked none units units ctx.actor.id
      (some "initial stock")
  recordAccessory d ctx "accessory.register" e [("quantity", .int units)]
  return {
    answer := e
    events := if 0 < units then [accessoryEvent e .restocked none units units] else [] }

/-- Hands units to a user, into the open assignment if there is one. -/
def assignAccessory (d : Setting) (ctx : Context) (item user : String) (quantity : Int64) :
    TwoPhase (Entry .accessory Accessory × Entry .user User) AccessoryCustody where
  read s := do
    positive quantity
    let e ← findAccessory ctx .roomAdmin item s
    let holder ← s.named .user user
    return (e, holder)
  commit found := do
    let units := quantity.toInt
    let e ← lockAccessory ctx found.1
    let holder := found.2
    let available ← Tx.read (·.available e)
    Tx.require (units ≤ available) (.invalid (.onlyAvailable available))
    let a ← Tx.handAccessories e.id holder.id units ctx.actor.id
    let _ ← Tx.appendAccessoryEvent e.id (some a.id) .assigned (some holder.id) units 0 ctx.actor.id
      none
    recordAccessory d ctx "accessory.assign" e
      [("holder", .str holder.val.publicId), ("quantity", .int units),
       ("assignment", .str a.val.publicId)]
    return {
      answer := { item := e, available := available - units, assignment := some a }
      events := [accessoryEvent e .assigned (some holder.val.publicId) units 0] }

/-- Takes units back from an open assignment. -/
def returnAccessory (d : Setting) (ctx : Context) (assignment : String) (quantity : Int64) :
    TwoPhase (Entry .accessory Accessory × Entry .accessoryAssignment AccessoryAssignment)
      AccessoryCustody where
  read s := do
    positive quantity
    let a ← s.named .accessoryAssignment assignment
    let e ← s.numbered a.val.accessory
    s.authorize ctx .roomAdmin e.val.room (accessoryLabel e)
    return (e, a)
  commit found := do
    let units := quantity.toInt
    let e ← lock found.1
    let a ← lock found.2
    Tx.authorize ctx .roomAdmin e.val.room (accessoryLabel e)
    Tx.require a.val.isOpen (.invalid .assignmentClosed)
    Tx.require (units ≤ a.val.quantity) (.invalid (.holderHasOnly a.val.quantity))
    let a ← Tx.reduceAccessoryAssignment a.id units
    let _ ← Tx.appendAccessoryEvent e.id (some a.id) .returned (some a.val.holder) units 0
      ctx.actor.id none
    let holder ← holderOf a.val.holder
    recordAccessory d ctx "accessory.return" e
      [("holder", .str holder.val.publicId), ("quantity", .int units),
       ("assignment", .str a.val.publicId)]
    return {
      answer := { item := e, available := ← Tx.read (·.available e), assignment := some a }
      events := [accessoryEvent e .returned (some holder.val.publicId) units 0] }

/-- Writes off units on the shelf. -/
def condemnAccessory (d : Setting) (ctx : Context) (item : String) (quantity : Int64) :
    TwoPhase (Entry .accessory Accessory) AccessoryCustody where
  read s := do
    positive quantity
    findAccessory ctx .roomAdmin item s
  commit found := do
    let units := quantity.toInt
    let e ← lockAccessory ctx found
    let available ← Tx.read (·.available e)
    Tx.require (units ≤ available) (.invalid (.onlyAvailable available))
    Tx.setAccessoryQuantity e.id (e.val.quantity - units)
    let _ ← Tx.appendAccessoryEvent e.id none .condemned none units (-units) ctx.actor.id none
    let e ← lock e
    recordAccessory d ctx "accessory.condemn" e [("quantity", .int units)]
    return {
      answer := { item := e, available := available - units, assignment := none }
      events := [accessoryEvent e .condemned none units (-units)] }

/-- Adds units to the total. -/
def restockAccessory (d : Setting) (ctx : Context) (item : String) (quantity : Int64) :
    TwoPhase (Entry .accessory Accessory) AccessoryCustody where
  read s := do
    positive quantity
    findAccessory ctx .roomAdmin item s
  commit found := do
    let units := quantity.toInt
    let e ← lockAccessory ctx found
    let total ← Tx.read fun _ => addStock e.val.quantity units
    Tx.setAccessoryQuantity e.id total
    let _ ← Tx.appendAccessoryEvent e.id none .restocked none units units ctx.actor.id none
    let e ← lock e
    recordAccessory d ctx "accessory.restock" e [("quantity", .int units)]
    return {
      answer := { item := e, available := ← Tx.read (·.available e), assignment := none }
      events := [accessoryEvent e .restocked none units units] }

end Custody

end Quartermaster
