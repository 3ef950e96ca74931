import Quartermaster.Custody.Basic
import Quartermaster.Store.Consumable

/-!
# Custody of consumables

Units leave the stock when they are issued. After that only a return and a restock add to the stock;
use and loss shrink what the holder has. Issuing and taking back are for administrators of the
consumable's room, and everybody may use, or report lost, what was issued to them.
-/

namespace Quartermaster

/-- A consumable with the issue that an operation touched. -/
structure ConsumableCustody where
  item : Entry .consumable Consumable
  issue : Option (Entry .consumableIssue ConsumableIssue)
  deriving DecidableEq, Repr

namespace Custody

def consumableLabel (e : Entry .consumable Consumable) : String := s!"consumable {e.val.publicId}"

def recordConsumable (d : Setting) (ctx : Context) (action : String)
    (e : Entry .consumable Consumable) (details : List (String × Json)) : Tx Unit :=
  Tx.record d.audit ctx.actor
    { action, targetKind := .consumable, targetPublicId := e.val.publicId, targetName := e.val.name
      room := e.val.room, details := .sorted details }

/-- What listeners are told of a row of the consumable ledger. -/
def consumableEvent (e : Entry .consumable Consumable) (type : EventType) (holder : Option String)
    (quantity quantityChange : Int) : CustodyEvent :=
  .consumableLedger { asset := e.val.publicId, type, holder, quantity, quantityChange }

/-- The consumable with a public id, for whoever has the rank over its room. -/
def findConsumable (ctx : Context) (required : Role) (item : String) (s : Store) :
    Except Refusal (Entry .consumable Consumable) := do
  let e ← s.named .consumable item
  s.authorize ctx required e.val.room (consumableLabel e)
  return e

/-- The consumable as it is in the transaction, for its administrators. -/
def lockConsumable (ctx : Context) (found : Entry .consumable Consumable) :
    Tx (Entry .consumable Consumable) := do
  let e ← lock found
  Tx.authorize ctx .roomAdmin e.val.room (consumableLabel e)
  return e

/-- The caller's own open issue. Issues of other people look like none. -/
def ownIssue (ctx : Context) (e : Entry .consumable Consumable) (s : Store) :
    Except Refusal (Entry .consumableIssue ConsumableIssue) :=
  match s.openIssue e.id ctx.actor.id with
  | some i => .ok i
  | none => .error (.missing (.openIssue e.val.publicId))

/-- The issue with a public id and its consumable, for administrators of the latter. -/
def findIssue (ctx : Context) (issue : String) (s : Store) :
    Except Refusal (Entry .consumable Consumable × Entry .consumableIssue ConsumableIssue) := do
  let i ← s.named .consumableIssue issue
  let e ← s.numbered i.val.consumable
  s.authorize ctx .roomAdmin e.val.room (consumableLabel e)
  return (e, i)

/-- The notice about low stock, if there is anything to tell. -/
def lowStockNotice (d : Setting) (e : Entry .consumable Consumable) : Tx (Option Notice) := do
  if d.lowStockNotices && e.val.isLowStock then
    let recipients ← Tx.read (·.responsible e.val.room)
    return some {
      recipients
      notification := .lowStock e.val.publicId e.val.quantity e.val.lowStockThreshold }
  else return none

/-- Takes units out of a holder's custody for good; the stock stays as it is. -/
def reduceCustody (d : Setting) (ctx : Context) (action : String) (e : Entry .consumable Consumable)
    (i : Entry .consumableIssue ConsumableIssue) (type : EventType) (units : Int) :
    Tx (Entry .consumableIssue ConsumableIssue) := do
  Tx.require (units ≤ i.val.quantity) (.invalid (.holderHasOnly i.val.quantity))
  let i ← Tx.reduceIssue i.id units
  let _ ← Tx.appendConsumableEvent e.id (some i.id) type (some i.val.holder) units (-units)
    ctx.actor.id none
  recordConsumable d ctx action e
    [("issue", .str i.val.publicId), ("event_type", .str type.name), ("quantity", .int units)]
  return i

def getConsumable (ctx : Context) (item : String) (s : Store) :
    Except Refusal ConsumableCustody := do
  let e ← findConsumable ctx .roomViewer item s
  return { item := e, issue := none }

def listConsumables (ctx : Context) (s : Store) : List ConsumableListing :=
  s.listConsumables ctx.condition

def consumableHistory (ctx : Context) (item : String) (s : Store) :
    Except Refusal (List UnitEventView) := do
  let e ← findConsumable ctx .roomViewer item s
  return s.consumableHistory e.id

/-- Registers a new consumable in a room. Units that it begins with are its first restock. -/
def registerConsumable (d : Setting) (ctx : Context) (input : ConsumableInput) :
    Tx (Committed (Entry .consumable Consumable)) := do
  let room ← Tx.read (·.roomOf input.room)
  Tx.authorize ctx .roomAdmin room (roomLabel input.room)
  let e ← Tx.createConsumable input room
  let units := e.val.quantity
  if 0 < units then
    let _ ← Tx.appendConsumableEvent e.id none .restocked none units units ctx.actor.id
      (some "initial stock")
  recordConsumable d ctx "consumable.register" e
    [("quantity", .int units), ("low_stock_threshold", .int e.val.lowStockThreshold)]
  return {
    answer := e
    events := if 0 < units then [consumableEvent e .restocked none units units] else [] }

/-- Issues units from the stock to a user, into the open issue if there is one. -/
def issueConsumable (d : Setting) (ctx : Context) (item user : String) (quantity : Int64)
    (purpose : Option String) :
    TwoPhase (Entry .consumable Consumable × Entry .user User) ConsumableCustody where
  read s := do
    positive quantity
    let e ← findConsumable ctx .roomAdmin item s
    let holder ← s.named .user user
    return (e, holder)
  commit found := do
    let units := quantity.toInt
    let e ← lockConsumable ctx found.1
    let holder := found.2
    Tx.require (units ≤ e.val.quantity) (.invalid (.onlyInStock e.val.quantity))
    let i ← Tx.giveUnits e.id holder.id units ctx.actor.id purpose
    Tx.setConsumableQuantity e.id (e.val.quantity - units)
    let _ ← Tx.appendConsumableEvent e.id (some i.id) .issued (some holder.id) units (-units)
      ctx.actor.id purpose
    let e ← lock e
    recordConsumable d ctx "consumable.issue" e
      [("holder", .str holder.val.publicId), ("quantity", .int units),
       ("issue", .str i.val.publicId)]
    return {
      answer := { item := e, issue := some i }
      events := [consumableEvent e .issued (some holder.val.publicId) units (-units)]
      notice := ← lowStockNotice d e }

/-- The caller uses units of an own issue. -/
def useConsumable (d : Setting) (ctx : Context) (item : String) (quantity : Int64) :
    TwoPhase (Entry .consumable Consumable) ConsumableCustody where
  read s := do
    positive quantity
    let e ← s.named .consumable item
    let _ ← ownIssue ctx e s
    return e
  commit found := do
    let units := quantity.toInt
    let e ← lock found
    let i ← Tx.read (ownIssue ctx e)
    let i ← reduceCustody d ctx "consumable.use" e i .used units
    return {
      answer := { item := e, issue := some i }
      events := [consumableEvent e .used (some ctx.actor.publicId) units (-units)] }

/-- Takes units of an issue back into the stock. -/
def returnConsumable (d : Setting) (ctx : Context) (issue : String) (quantity : Int64) :
    TwoPhase (Entry .consumable Consumable × Entry .consumableIssue ConsumableIssue)
      ConsumableCustody where
  read s := do
    positive quantity
    findIssue ctx issue s
  commit found := do
    let units := quantity.toInt
    let e ← lock found.1
    let i ← lock found.2
    Tx.authorize ctx .roomAdmin e.val.room (consumableLabel e)
    Tx.require i.val.isOpen (.invalid .issueClosed)
    Tx.require (units ≤ i.val.quantity) (.invalid (.holderHasOnly i.val.quantity))
    let i ← Tx.reduceIssue i.id units
    let stock ← Tx.read fun _ => addStock e.val.quantity units
    Tx.setConsumableQuantity e.id stock
    let _ ← Tx.appendConsumableEvent e.id (some i.id) .returned (some i.val.holder) units units
      ctx.actor.id none
    let e ← lock e
    let holder ← holderOf i.val.holder
    recordConsumable d ctx "consumable.return" e
      [("holder", .str holder.val.publicId), ("quantity", .int units),
       ("issue", .str i.val.publicId)]
    return {
      answer := { item := e, issue := some i }
      events := [consumableEvent e .returned (some holder.val.publicId) units units] }

/-- Records a loss against an open issue. -/
def recordLoss (d : Setting) (ctx : Context) (issue : String) (quantity : Int64) (kind : LossKind) :
    TwoPhase (Entry .consumable Consumable × Entry .consumableIssue ConsumableIssue)
      ConsumableCustody where
  read s := do
    positive quantity
    findIssue ctx issue s
  commit found := do
    let units := quantity.toInt
    let e ← lock found.1
    let i ← lock found.2
    Tx.authorize ctx .roomAdmin e.val.room (consumableLabel e)
    Tx.require i.val.isOpen (.invalid .issueClosed)
    let i ← reduceCustody d ctx "consumable.loss" e i kind.eventType units
    let holder ← holderOf i.val.holder
    return {
      answer := { item := e, issue := some i }
      events :=
        [consumableEvent e kind.eventType (some holder.val.publicId) units (-units)] }

/-- The caller reports a loss from an own issue. The administrators of the caller's room are
told. -/
def reportLoss (d : Setting) (ctx : Context) (item : String) (quantity : Int64) (kind : LossKind) :
    TwoPhase (Entry .consumable Consumable × Entry .user User) ConsumableCustody where
  read s := do
    positive quantity
    let e ← s.named .consumable item
    let _ ← ownIssue ctx e s
    let holder ← s.named .user ctx.actor.publicId
    return (e, holder)
  commit found := do
    let units := quantity.toInt
    let e ← lock found.1
    let i ← Tx.read (ownIssue ctx e)
    let i ← reduceCustody d ctx "consumable.loss" e i kind.eventType units
    let holder ← reload found.2
    let recipients ← Tx.read (·.responsible holder.val.room)
    return {
      answer := { item := e, issue := some i }
      events := [consumableEvent e kind.eventType (some holder.val.publicId) units (-units)]
      notice := some {
        recipients
        notification :=
          .lossReported e.val.publicId holder.val.publicId kind.eventType units } }

/-- Adds units to the stock. -/
def restockConsumable (d : Setting) (ctx : Context) (item : String) (quantity : Int64) :
    TwoPhase (Entry .consumable Consumable) ConsumableCustody where
  read s := do
    positive quantity
    findConsumable ctx .roomAdmin item s
  commit found := do
    let units := quantity.toInt
    let e ← lockConsumable ctx found
    let stock ← Tx.read fun _ => addStock e.val.quantity units
    Tx.setConsumableQuantity e.id stock
    let _ ← Tx.appendConsumableEvent e.id none .restocked none units units ctx.actor.id none
    let e ← lock e
    recordConsumable d ctx "consumable.restock" e [("quantity", .int units)]
    return {
      answer := { item := e, issue := none }
      events := [consumableEvent e .restocked none units units] }

end Custody

end Quartermaster
