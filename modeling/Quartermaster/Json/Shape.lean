import Quartermaster.Json.Document
import Quartermaster.Ledger.EventType
import Quartermaster.Scope
import Quartermaster.Status
import Quartermaster.Word

/-!
# Shapes

How a document is read as a value of a known shape. A record is an object or the list of its fields
in their order; a field that is not known is skipped, and one that is repeated makes the record
unreadable. A choice without content is its name, or an object with the name over `null`.
-/

namespace Quartermaster.Json.Document

/-- A reader of documents. -/
abbrev Shape (α : Type) := Document → Option α

def string : Shape String
  | .text s => s
  | _ => none

/-- An integer of 64 bits. -/
def integer : Shape Int64
  | .number (some n) => if fitsWord n then some (.ofInt n) else none
  | _ => none

def isNull : Document → Bool
  | .null => true
  | _ => false

/-- Checks the fields of an object and keeps the known ones. Every key has to be text, and a known
one may come once. -/
def knownFields (names : List String) :
    List (Option String × Document) → Option (List (String × Document))
  | [] => some []
  | (none, _) :: _ => none
  | (some key, v) :: rest =>
    (knownFields names rest).bind fun found =>
      if !names.contains key then some found
      else if found.any (·.1 == key) then none
      else some ((key, v) :: found)

/-- The fields of a record by name. -/
def record (names : List String) : Document → Option (List (String × Document))
  | .fields members => knownFields names members
  | .list items => if items.length ≤ names.length then some (names.zip items) else none
  | _ => none

/-- The field of a name. -/
def field? (found : List (String × Document)) (name : String) : Option Document :=
  (found.find? (·.1 == name)).map (·.2)

/-- A field that has to be there. -/
def required {α : Type} (found : List (String × Document)) (name : String) (shape : Shape α) :
    Option α :=
  (field? found name).bind shape

/-- A field that may be absent or `null`. -/
def optional {α : Type} (found : List (String × Document)) (name : String) (shape : Shape α) :
    Option (Option α) :=
  match field? found name with
  | none => some none
  | some v => if v.isNull then some none else (shape v).map some

/-- A field that may be absent; then it has the default value. -/
def defaulted {α : Type} (found : List (String × Document)) (name : String) (shape : Shape α)
    (value : α) : Option α :=
  match field? found name with
  | none => some value
  | some v => shape v

/-- A choice without content. -/
def choice {α : Type} (ofName? : String → Option α) : Shape α
  | .text (some name) => ofName? name
  | .fields [(some name, .null)] => ofName? name
  | _ => none

/-- A choice under `tier` with its content under `id`. In a list the two come in this order, both
have to be there, and the choice is its bare name. -/
def tagged (d : Document) : Option (Document × Option Document) :=
  match d with
  | .fields members => do
    let found ← knownFields ["tier", "id"] members
    return (← field? found "tier", field? found "id")
  | .list [.text tier, id] => some (.text tier, some id)
  | _ => none

def role : Shape Role := choice Role.ofName?

def tier : Shape Tier := choice Tier.ofName?

def status : Shape EquipmentStatus := choice EquipmentStatus.ofName?

def custodyState : Shape CustodyState := choice CustodyState.ofName?

def eventType : Shape EventType := choice EventType.ofName?

def lossKind : Shape LossKind := choice LossKind.ofName?

/-- The tiers at which a node can be named. -/
def locatorTier (name : String) : Option (String → Locator) :=
  match name with
  | "room" => some .room
  | "location" => some .location
  | "department" => some .department
  | _ => none

def locator : Shape Locator := fun d => do
  let (tier, id) ← tagged d
  let node ← choice locatorTier tier
  return node (← (← id).string)

/-- The scope of a tier over the content that stands beside it. -/
def scopeOf (tier : String) (id : Option Document) : Option Scope :=
  let row := (id.bind integer).map (·.toInt)
  let bare := id.all isNull
  match tier with
  | "site" => if bare then some .site else none
  | "detached" => if bare then some .detached else none
  | "room" => row.map fun n => .room ⟨n⟩
  | "location" => row.map fun n => .location ⟨n⟩
  | "department" => row.map fun n => .department ⟨n⟩
  | _ => none

def scope : Shape Scope := fun d => do
  let (tier, id) ← tagged d
  scopeOf (← choice some tier) id

end Quartermaster.Json.Document
