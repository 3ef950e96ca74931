import Quartermaster.Json.Shape
import Quartermaster.Operation

/-!
# Bodies

The records that requests carry. The names of the fields stand in the order in which a list of the
fields is read.
-/

namespace Quartermaster.Http

open Json (Document)
open Json.Document (Shape record required optional defaulted string integer)

def nodeInput : Shape NodeInput := fun d => do
  let found ← record ["public_id", "name", "parent"] d
  return {
    publicId := ← optional found "public_id" string
    name := ← required found "name" string
    parent := ← optional found "parent" string }

def userInput : Shape UserInput := fun d => do
  let found ← record ["public_id", "display_name", "room"] d
  return {
    publicId := ← optional found "public_id" string
    displayName := ← required found "display_name" string
    room := ← optional found "room" string }

def grantInput : Shape GrantInput := fun d => do
  let found ← record ["public_id", "user", "role", "scope"] d
  return {
    publicId := ← optional found "public_id" string
    user := ← required found "user" string
    role := ← required found "role" Document.role
    scope := ← optional found "scope" Document.locator }

def equipmentInput : Shape EquipmentInput := fun d => do
  let found ← record ["public_id", "name", "serial_number", "room"] d
  return {
    publicId := ← optional found "public_id" string
    name := ← required found "name" string
    serialNumber := ← optional found "serial_number" string
    room := ← optional found "room" string }

def accessoryInput : Shape AccessoryInput := fun d => do
  let found ← record ["public_id", "name", "quantity", "room"] d
  return {
    publicId := ← optional found "public_id" string
    name := ← required found "name" string
    quantity := ← defaulted found "quantity" integer 0
    room := ← optional found "room" string }

def consumableInput : Shape ConsumableInput := fun d => do
  let found ← record ["public_id", "name", "unit", "quantity", "low_stock_threshold", "room"] d
  return {
    publicId := ← optional found "public_id" string
    name := ← required found "name" string
    unit := ← optional found "unit" string
    quantity := ← defaulted found "quantity" integer 0
    lowStockThreshold := ← defaulted found "low_stock_threshold" integer 0
    room := ← optional found "room" string }

/-- A user with notes. -/
def handover : Shape (String × Option String) := fun d => do
  let found ← record ["user", "notes"] d
  return (← required found "user" string, ← optional found "notes" string)

/-- The giver, the receiver and notes. -/
def reassignment : Shape (String × String × Option String) := fun d => do
  let found ← record ["from_user", "to_user", "notes"] d
  return (← required found "from_user" string, ← required found "to_user" string,
    ← optional found "notes" string)

def statusChange : Shape (EquipmentStatus × Option String) := fun d => do
  let found ← record ["status", "notes"] d
  return (← required found "status" Document.status, ← optional found "notes" string)

def units : Shape Int64 := fun d => do
  let found ← record ["quantity"] d
  required found "quantity" integer

/-- Units for a user. -/
def unitsFor : Shape (String × Int64) := fun d => do
  let found ← record ["user", "quantity"] d
  return (← required found "user" string, ← required found "quantity" integer)

/-- Units for a user, with their purpose. -/
def issue : Shape (String × Int64 × Option String) := fun d => do
  let found ← record ["user", "quantity", "purpose"] d
  return (← required found "user" string, ← required found "quantity" integer,
    ← optional found "purpose" string)

def loss : Shape (Int64 × LossKind) := fun d => do
  let found ← record ["quantity", "event_type"] d
  return (← required found "quantity" integer, ← required found "event_type" Document.lossKind)

/-- The new parent of a node. -/
def parent : Shape String := fun d => do
  let found ← record ["parent"] d
  required found "parent" string

/-- The new room of a user, or none. -/
def roomOfUser : Shape (Option String) := fun d => do
  let found ← record ["room"] d
  optional found "room" string

end Quartermaster.Http
