/-!
# Row ids

Each table numbers its rows from one. An id carries the kind of row that it names, so the id of a
room is never taken for the id of a user.
-/

namespace Quartermaster

/-- The kinds of rows that are kept. -/
inductive Kind where
  | department | location | room
  | user | roleAssignment
  | equipment | equipmentAssignment | equipmentEvent
  | accessory | accessoryAssignment | accessoryEvent
  | consumable | consumableIssue | consumableEvent
  | audit
  deriving DecidableEq, Repr

/-- The id of a row of kind `k`. -/
structure Id (k : Kind) where
  row : Int
  deriving DecidableEq, Repr

abbrev DepartmentId := Id .department
abbrev LocationId := Id .location
abbrev RoomId := Id .room
abbrev UserId := Id .user
abbrev RoleAssignmentId := Id .roleAssignment
abbrev EquipmentId := Id .equipment
abbrev EquipmentAssignmentId := Id .equipmentAssignment
abbrev AccessoryId := Id .accessory
abbrev AccessoryAssignmentId := Id .accessoryAssignment
abbrev ConsumableId := Id .consumable
abbrev ConsumableIssueId := Id .consumableIssue

/-- What one row of the kind is called. -/
def Kind.noun : Kind → String
  | .department => "department"
  | .location => "location"
  | .room => "room"
  | .user => "user"
  | .roleAssignment => "role assignment"
  | .equipment => "equipment"
  | .equipmentAssignment => "equipment assignment"
  | .equipmentEvent => "equipment event"
  | .accessory => "accessory"
  | .accessoryAssignment => "accessory assignment"
  | .accessoryEvent => "accessory event"
  | .consumable => "consumable"
  | .consumableIssue => "consumable issue"
  | .consumableEvent => "consumable event"
  | .audit => "audit row"

/-- An id as it is written in a message: the noun and the number. -/
def Id.label {k : Kind} (id : Id k) : String :=
  s!"{k.noun}#{id.row}"

end Quartermaster
