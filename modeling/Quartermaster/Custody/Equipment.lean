import Quartermaster.Custody.Basic
import Quartermaster.Store.Equipment

/-!
# Custody of equipment

An item has one holder or none. Handing it out, taking it back and handing it on are for clerks of
the item's room, and whoever receives it has to be in the clerk's jurisdiction too. The life cycle
is for administrators: nothing leaves `condemned`, and an item is given back before it is retired or
condemned.
-/

namespace Quartermaster

/-- What a new item is made from. -/
structure EquipmentInput where
  publicId : Option String := none
  name : String
  serialNumber : Option String := none
  room : Option String := none
  deriving DecidableEq, Repr

/-- An item with its custody. -/
structure EquipmentCustody where
  item : Entry .equipment Equipment
  isAssigned : Bool
  holder : Option String
  /-- The open period, or the one that was just closed. -/
  assignment : Option (Entry .equipmentAssignment EquipmentAssignment)
  deriving DecidableEq, Repr

namespace Custody

/-- What an item is called in a refusal. -/
def itemLabel (e : Entry .equipment Equipment) : String := s!"equipment {e.val.publicId}"

/-- What a receiving user is called in a refusal. -/
def recipientLabel (u : Entry .user User) : String := s!"user {u.val.publicId}"

/-- Permission to hand an item to somebody: over the item and over the person. -/
def authorizeHandover (ctx : Context) (e : Entry .equipment Equipment)
    (receiver : Entry .user User) : Tx Unit := do
  Tx.authorize ctx .roomClerk e.val.room (itemLabel e)
  Tx.authorize ctx .roomClerk receiver.val.room (recipientLabel receiver)

def recordItem (d : Setting) (ctx : Context) (action : String) (e : Entry .equipment Equipment)
    (details : List (String × Json)) : Tx Unit :=
  Tx.record d.audit ctx.actor
    { action, targetKind := .equipment, targetPublicId := e.val.publicId, targetName := e.val.name
      room := e.val.room, details := .sorted details }

/-- The item with a public id, for whoever has the rank over its room. -/
def findItem (ctx : Context) (required : Role) (item : String) (s : Store) :
    Except Refusal (Entry .equipment Equipment) := do
  let e ← s.named .equipment item
  s.authorize ctx required e.val.room (itemLabel e)
  return e

def getEquipment (ctx : Context) (item : String) (s : Store) : Except Refusal EquipmentCustody := do
  let e ← findItem ctx .roomViewer item s
  let assignment := s.openEquipmentAssignment e.id
  return {
    item := e
    isAssigned := assignment.isSome
    holder := s.userPublicId (assignment.map (·.val.holder))
    assignment }

def listEquipment (ctx : Context) (s : Store) : List EquipmentListing :=
  s.listEquipment ctx.condition

def equipmentHistory (ctx : Context) (item : String) (s : Store) :
    Except Refusal (List EquipmentEventView) := do
  let e ← findItem ctx .roomViewer item s
  return s.equipmentHistory e.id

/-- Registers a new item in a room. -/
def registerEquipment (d : Setting) (ctx : Context) (input : EquipmentInput) :
    Tx (Committed (Entry .equipment Equipment)) := do
  let room ← Tx.read (·.roomOf input.room)
  Tx.authorize ctx .roomAdmin room (roomLabel input.room)
  let e ← Tx.createEquipment input.publicId input.name input.serialNumber room
  recordItem d ctx "equipment.register" e [("serial_number", .text? e.val.serialNumber)]
  return { answer := e }

/-- Hands an item to a user. -/
def assignEquipment (d : Setting) (ctx : Context) (item user : String) (notes : Option String) :
    TwoPhase (Entry .equipment Equipment × Entry .user User) EquipmentCustody where
  read s := do
    let e ← findItem ctx .roomClerk item s
    let holder ← s.named .user user
    s.authorize ctx .roomClerk holder.val.room (recipientLabel holder)
    return (e, holder)
  commit found := do
    let e ← lock found.1
    let holder ← reload found.2
    authorizeHandover ctx e holder
    Tx.require e.val.status.isAssignable (.invalid (.statusIs e.val.status))
    Tx.require ((← get).openEquipmentAssignment e.id).isNone (.invalid .equipmentAssigned)
    let a ← Tx.openEquipmentAssignment e.id holder.id ctx.actor.id notes
    let _ ← Tx.appendEquipmentEvent e.id (some a.id) .assigned (some holder.id) none ctx.actor.id
      notes
    recordItem d ctx "equipment.assign" e
      [("holder", .str holder.val.publicId), ("assignment", .str a.val.publicId)]
    return {
      answer :=
        { item := e, isAssigned := true, holder := some holder.val.publicId, assignment := some a }
      events := [.equipmentAssigned e.val.publicId user ctx.actor.publicId] }

/-- Takes an item back from the user that holds it. -/
def unassignEquipment (d : Setting) (ctx : Context) (item user : String) (notes : Option String) :
    TwoPhase (Entry .equipment Equipment × Entry .user User) EquipmentCustody where
  read s := do
    let e ← findItem ctx .roomClerk item s
    let holder ← s.named .user user
    return (e, holder)
  commit found := do
    let e ← lock found.1
    let holder := found.2
    Tx.authorize ctx .roomClerk e.val.room (itemLabel e)
    let held ← Tx.present ((← get).openEquipmentAssignment e.id) (.invalid .equipmentNotAssigned)
    Tx.require (held.val.holder == holder.id) (.invalid .notHolder)
    let closed ← Tx.closeEquipmentAssignment held.id notes
    let _ ← Tx.appendEquipmentEvent e.id (some closed.id) .returned (some holder.id) none
      ctx.actor.id notes
    recordItem d ctx "equipment.unassign" e
      [("holder", .str holder.val.publicId), ("assignment", .str closed.val.publicId)]
    return {
      answer := { item := e, isAssigned := false, holder := none, assignment := some closed }
      events := [.equipmentReturned e.val.publicId user ctx.actor.publicId] }

/-- Hands an item on from its holder to another user. The period goes on under its id. -/
def reassignEquipment (d : Setting) (ctx : Context) (item fromUser toUser : String)
    (notes : Option String) :
    TwoPhase (Entry .equipment Equipment × Entry .user User × Entry .user User)
      EquipmentCustody where
  read s := do
    if fromUser = toUser then throw (.invalid .sameHolder)
    let e ← findItem ctx .roomClerk item s
    let giver ← s.named .user fromUser
    let receiver ← s.named .user toUser
    s.authorize ctx .roomClerk receiver.val.room (recipientLabel receiver)
    return (e, giver, receiver)
  commit found := do
    let e ← lock found.1
    let giver := found.2.1
    let receiver ← reload found.2.2
    authorizeHandover ctx e receiver
    Tx.require e.val.status.isAssignable (.invalid (.statusIs e.val.status))
    let held ← Tx.present ((← get).openEquipmentAssignment e.id) (.invalid .equipmentNotAssigned)
    Tx.require (held.val.holder == giver.id) (.invalid .notPassedOnByHolder)
    let _ ← Tx.appendEquipmentEvent e.id (some held.id) .returned (some giver.id) none ctx.actor.id
      notes
    let a ← Tx.transferEquipmentAssignment held.id receiver.id ctx.actor.id notes
    let _ ← Tx.appendEquipmentEvent e.id (some a.id) .assigned (some receiver.id) none ctx.actor.id
      notes
    recordItem d ctx "equipment.reassign" e
      [("from", .str giver.val.publicId), ("to", .str receiver.val.publicId),
       ("assignment", .str a.val.publicId)]
    return {
      answer :=
        { item := e, isAssigned := true, holder := some receiver.val.publicId
          assignment := some a }
      events :=
        [.equipmentReturned e.val.publicId fromUser ctx.actor.publicId,
         .equipmentAssigned e.val.publicId toUser ctx.actor.publicId] }

/-- Moves an item through its life cycle. -/
def changeEquipmentStatus (d : Setting) (ctx : Context) (item : String) (status : EquipmentStatus)
    (notes : Option String) : TwoPhase (Entry .equipment Equipment) EquipmentCustody where
  read s := findItem ctx .roomAdmin item s
  commit found := do
    let e ← lock found
    Tx.authorize ctx .roomAdmin e.val.room (itemLabel e)
    Tx.require (!e.val.status.isTerminal) (.invalid (.statusIs e.val.status))
    Tx.require (e.val.status != status) (.invalid (.statusAlready status))
    let held := (← get).openEquipmentAssignment e.id
    Tx.require (!(status.requiresUnassigned && held.isSome)) (.invalid .stillAssigned)
    Tx.setEquipmentStatus e.id status
    let _ ← Tx.appendEquipmentEvent e.id (held.map (·.id)) .statusChanged
      (held.map (·.val.holder)) (some status) ctx.actor.id notes
    let after ← lock e
    recordItem d ctx "equipment.status" after
      [("from", .str e.val.status.name), ("to", .str status.name)]
    return {
      answer :=
        { item := after
          isAssigned := held.isSome
          holder := (← get).userPublicId (held.map (·.val.holder))
          assignment := held }
      events := [.equipmentStatusChanged after.val.publicId status ctx.actor.publicId] }

end Custody

end Quartermaster
