import Quartermaster.Json.Rows
import Quartermaster.Operation

/-!
# Answers, events and notices as JSON
-/

namespace Quartermaster

def EquipmentCustody.json (c : EquipmentCustody) : Json :=
  .sorted
    [("equipment", c.item.val.json), ("is_assigned", .bool c.isAssigned),
     ("holder", .text? c.holder), ("assignment", c.assignment.elim .null (·.val.json))]

def AccessoryCustody.json (c : AccessoryCustody) : Json :=
  .sorted
    [("accessory", c.item.val.json), ("available_quantity", .int c.available),
     ("assignment", c.assignment.elim .null (·.val.json))]

def ConsumableCustody.json (c : ConsumableCustody) : Json :=
  .sorted
    [("consumable", c.item.val.json), ("is_low_stock", .bool c.item.val.isLowStock),
     ("issue", c.issue.elim .null (·.val.json))]

def heldEquipmentJson (e : Equipment) (a : EquipmentAssignment) : Json :=
  .sorted
    [("equipment", .str e.publicId), ("name", .str e.name), ("status", .str e.status.name),
     ("assignment", .str a.publicId), ("assigned_at", a.assignedAt.json)]

def heldAccessoryJson (e : Accessory) (a : AccessoryAssignment) : Json :=
  .sorted
    [("accessory", .str e.publicId), ("name", .str e.name), ("assignment", .str a.publicId),
     ("quantity", .int a.quantity), ("assigned_at", a.assignedAt.json)]

def heldConsumableJson (e : Consumable) (i : ConsumableIssue) : Json :=
  .sorted
    [("consumable", .str e.publicId), ("name", .str e.name), ("issue", .str i.publicId),
     ("quantity", .int i.quantity), ("issued_quantity", .int i.issuedQuantity),
     ("issued_at", i.issuedAt.json)]

def Holdings.json (h : Holdings) : Json :=
  .sorted
    [("equipment", .arr (h.equipment.map fun p => heldEquipmentJson p.1.val p.2.val)),
     ("accessories", .arr (h.accessories.map fun p => heldAccessoryJson p.1.val p.2.val)),
     ("consumables", .arr (h.consumables.map fun p => heldConsumableJson p.1.val p.2.val))]

def Answer.json : Answer → Json
  | .nothing => .null
  | .chain c => c.json
  | .department row => row.val.json
  | .location row => row.val.json
  | .room row => row.val.json
  | .user row => row.val.json
  | .role row => row.val.json
  | .roles rows => .arr (rows.map (·.val.json))
  | .holdings held => held.json
  | .equipment row => row.val.json
  | .equipmentCustody custody => custody.json
  | .equipmentList rows => .arr (rows.map (·.json))
  | .equipmentHistory rows => .arr (rows.map (·.json))
  | .accessory row => row.val.json
  | .accessoryCustody custody => custody.json
  | .accessoryList rows => .arr (rows.map (·.json))
  | .consumable row => row.val.json
  | .consumableCustody custody => custody.json
  | .consumableList rows => .arr (rows.map (·.json))
  | .unitHistory rows => .arr (rows.map (·.json))

/-- The fields of a ledger event. The asset stands under the name of its kind. -/
def UnitLedgerEvent.fields (e : UnitLedgerEvent) (kind : Kind) : List (String × Json) :=
  [(kind.noun, .str e.asset), ("event_type", .str e.type.name), ("holder", .text? e.holder),
   ("quantity", .int e.quantity), ("quantity_change", .int e.quantityChange)]

def CustodyEvent.json : CustodyEvent → Json
  | .equipmentAssigned equipment holder actor =>
    .sorted
      [("event", .str "EquipmentAssigned"), ("equipment", .str equipment),
       ("holder", .str holder), ("actor", .str actor)]
  | .equipmentReturned equipment holder actor =>
    .sorted
      [("event", .str "EquipmentReturned"), ("equipment", .str equipment),
       ("holder", .str holder), ("actor", .str actor)]
  | .equipmentStatusChanged equipment status actor =>
    .sorted
      [("event", .str "EquipmentStatusChanged"), ("equipment", .str equipment),
       ("status", .str status.name), ("actor", .str actor)]
  | .accessoryLedger row => .sorted (("event", .str "AccessoryLedger") :: row.fields .accessory)
  | .consumableLedger row => .sorted (("event", .str "ConsumableLedger") :: row.fields .consumable)
  | .roleGranted assignment user role =>
    .sorted
      [("event", .str "RoleGranted"), ("assignment", .str assignment), ("user", .str user),
       ("role", .str role.name)]
  | .roleRevoked assignment user =>
    .sorted
      [("event", .str "RoleRevoked"), ("assignment", .str assignment), ("user", .str user)]

def Notification.json : Notification → Json
  | .lossReported consumable holder type quantity =>
    .sorted
      [("kind", .str "consumable_loss_reported"), ("consumable", .str consumable),
       ("holder", .str holder), ("event_type", .str type.name), ("quantity", .int quantity)]
  | .lowStock consumable quantity threshold =>
    .sorted
      [("kind", .str "low_stock"), ("consumable", .str consumable), ("quantity", .int quantity),
       ("threshold", .int threshold)]

def Notice.json (n : Notice) : Json :=
  .sorted
    [("recipients", .arr (n.recipients.map (·.json))), ("notification", n.notification.json)]

end Quartermaster
