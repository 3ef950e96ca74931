import Quartermaster.Json.Scope
import Quartermaster.Store.Consumable
import Quartermaster.Store.Statement

/-!
# Rows as JSON

A row is an object of its fields. Row numbers and references stay inside; where somebody has to be
named, the public id stands for them.
-/

namespace Quartermaster

def Stamp.json (t : Stamp) : Json := .str t.text

/-- A stamp that may be absent. -/
def Stamp.json? (t : Option Stamp) : Json := t.elim .null Stamp.json

def Department.json (d : Department) : Json :=
  .sorted
    [("public_id", .str d.publicId), ("name", .str d.name), ("created_at", d.createdAt.json)]

def Location.json (l : Location) : Json :=
  .sorted
    [("public_id", .str l.publicId), ("name", .str l.name), ("created_at", l.createdAt.json)]

def Room.json (r : Room) : Json :=
  .sorted
    [("public_id", .str r.publicId), ("name", .str r.name), ("created_at", r.createdAt.json)]

def User.json (u : User) : Json :=
  .sorted
    [("public_id", .str u.publicId), ("display_name", .str u.displayName),
     ("created_at", u.createdAt.json)]

def RoleAssignment.json (a : RoleAssignment) : Json :=
  .sorted
    [("public_id", .str a.publicId), ("binding", a.binding.json), ("created_at", a.createdAt.json)]

def Equipment.fields (e : Equipment) : List (String × Json) :=
  [("public_id", .str e.publicId), ("name", .str e.name), ("serial_number", .text? e.serialNumber),
   ("status", .str e.status.name), ("created_at", e.createdAt.json),
   ("updated_at", e.updatedAt.json)]

def Equipment.json (e : Equipment) : Json := .sorted e.fields

def EquipmentAssignment.json (a : EquipmentAssignment) : Json :=
  .sorted
    [("public_id", .str a.publicId), ("assigned_at", a.assignedAt.json),
     ("returned_at", Stamp.json? a.returnedAt),
     ("state", .str a.state.name), ("notes", .text? a.notes)]

def EquipmentListing.json (l : EquipmentListing) : Json :=
  .sorted
    (l.item.val.fields ++
      [("room", .text? l.room), ("is_assigned", .bool l.holder.isSome),
       ("holder", .text? l.holder)])

/-- A row of the equipment ledger. It changes no stock, so its change is zero. -/
def EquipmentEventView.json (e : EquipmentEventView) : Json :=
  .sorted
    [("event_type", .str e.type.name), ("holder", .text? e.holder), ("quantity_change", .int 0),
     ("status", .text? (e.status.map (·.name))), ("reported_by", .text? e.reportedBy),
     ("notes", .text? e.notes), ("occurred_at", e.occurredAt.json)]

def Accessory.fields (a : Accessory) : List (String × Json) :=
  [("public_id", .str a.publicId), ("name", .str a.name), ("quantity", .int a.quantity),
   ("created_at", a.createdAt.json), ("updated_at", a.updatedAt.json)]

def Accessory.json (a : Accessory) : Json := .sorted a.fields

def AccessoryAssignment.json (a : AccessoryAssignment) : Json :=
  .sorted
    [("public_id", .str a.publicId), ("quantity", .int a.quantity),
     ("assigned_at", a.assignedAt.json), ("returned_at", Stamp.json? a.returnedAt),
     ("state", .str a.state.name)]

def AccessoryListing.json (l : AccessoryListing) : Json :=
  .sorted
    (l.item.val.fields ++ [("room", .text? l.room), ("available_quantity", .int l.available)])

def UnitEventView.json (e : UnitEventView) : Json :=
  .sorted
    [("event_type", .str e.type.name), ("holder", .text? e.holder), ("quantity", .int e.quantity),
     ("quantity_change", .int e.quantityChange), ("reported_by", .text? e.reportedBy),
     ("notes", .text? e.notes), ("occurred_at", e.occurredAt.json)]

def Consumable.fields (c : Consumable) : List (String × Json) :=
  [("public_id", .str c.publicId), ("name", .str c.name), ("unit", .text? c.unit),
   ("quantity", .int c.quantity), ("low_stock_threshold", .int c.lowStockThreshold),
   ("created_at", c.createdAt.json), ("updated_at", c.updatedAt.json)]

def Consumable.json (c : Consumable) : Json := .sorted c.fields

def ConsumableIssue.json (i : ConsumableIssue) : Json :=
  .sorted
    [("public_id", .str i.publicId), ("quantity", .int i.quantity),
     ("issued_quantity", .int i.issuedQuantity), ("purpose", .text? i.purpose),
     ("issued_at", i.issuedAt.json), ("returned_at", Stamp.json? i.returnedAt),
     ("state", .str i.state.name)]

def ConsumableListing.json (l : ConsumableListing) : Json :=
  .sorted
    (l.item.val.fields ++
      [("room", .text? l.room), ("is_low_stock", .bool l.item.val.isLowStock)])

def ScopeNames.fields (n : ScopeNames) : List (String × Json) :=
  [("room", .text? n.room), ("location", .text? n.location), ("department", .text? n.department)]

def ScopeNames.json (n : ScopeNames) : Json := .sorted n.fields

def AuditRow.json (r : AuditRow) : Json :=
  .sorted
    [("action", .str r.action), ("actor_public_id", .str r.actorPublicId),
     ("actor_name", .str r.actorName), ("target_kind", .str r.targetKind.noun),
     ("target_public_id", .str r.targetPublicId), ("target_name", .str r.targetName),
     ("room_name", .text? r.scope.room), ("location_name", .text? r.scope.location),
     ("department_name", .text? r.scope.department), ("details_json", .text? r.details),
     ("occurred_at", r.occurredAt.json)]

def Recipient.json (r : Recipient) : Json :=
  .sorted [("public_id", .str r.publicId), ("display_name", .str r.displayName)]

/-- A row with the ledger of its asset. -/
def ledgerJson (row : Json) (events : List Json) : Json :=
  .sorted [("row", row), ("events", .arr events)]

def Overview.json (o : Overview) : Json :=
  .sorted
    [("equipment", .arr (o.equipment.map fun p => ledgerJson p.1.json (p.2.map (·.json)))),
     ("accessories", .arr (o.accessories.map fun p => ledgerJson p.1.json (p.2.map (·.json)))),
     ("consumables", .arr (o.consumables.map fun p => ledgerJson p.1.json (p.2.map (·.json)))),
     ("audit_count", .int o.auditCount)]

/-- A row with its number. -/
def openedJson (row : Int) (name : String) (custody : Json) : Json :=
  .sorted [("row", .int row), (name, custody)]

def StatementAnswer.json : StatementAnswer → Json
  | .nothing => .null
  | .flag b => .bool b
  | .number n => .int n
  | .department row => row.val.json
  | .room row => row.val.json
  | .scope s => s.json
  | .scopeNames names => names.json
  | .foundRoom row =>
    .sorted
      [("row", row.elim .null (·.val.json)),
       ("location_id", .int? (row.bind fun r => r.val.location.map (·.row))),
       ("by_id", .text? (row.map (·.val.publicId)))]
  | .foundUser row active =>
    .sorted
      [("row", row.elim .null (·.val.json)),
       ("room_id", .int? (row.bind fun u => u.val.room.map (·.row))),
       ("active", active.elim .null (·.val.json))]
  | .users rows => .arr (rows.map (·.val.json))
  | .role row => row.val.json
  | .roles rows => .arr (rows.map (·.val.json))
  | .recipients people => .arr (people.map (·.json))
  | .equipment row => row.val.json
  | .equipmentAssignment row => row.val.json
  | .equipmentOpened row => openedJson row.id.row "assignment" row.val.json
  | .equipmentList rows => .arr (rows.map (·.json))
  | .accessory row => row.val.json
  | .accessoryAssignment row => row.val.json
  | .accessoryOpened row => openedJson row.id.row "assignment" row.val.json
  | .accessoryList rows => .arr (rows.map (·.json))
  | .stock assigned available =>
    .sorted [("assigned", .int assigned), ("available", .int available)]
  | .consumable row => row.val.json
  | .issue row => row.val.json
  | .issueOpened row => openedJson row.id.row "issue" row.val.json
  | .consumableList rows => .arr (rows.map (·.json))
  | .audit rows => .arr (rows.map (·.json))
  | .overview o => o.json

end Quartermaster
