import Quartermaster.Scope

/-!
# Jurisdiction

Who may do what where. A binding covers its own node and everything below it; it never covers a
node above it. Parent links are read at each question, so a node that was moved after the binding
was granted is judged by where it is now.
-/

namespace Quartermaster

/-- The person a request acts for. -/
structure Actor where
  id : UserId
  publicId : String
  displayName : String
  deriving DecidableEq, Repr

/-- Who asks, and under which binding. -/
structure Context where
  actor : Actor
  binding : Option Binding
  deriving DecidableEq, Repr

namespace Ancestry

/-- Whether the scope is the room or one of its present ancestors; no room, no. -/
def reachesFromRoom (a : Ancestry) (scope : Scope) : Option RoomId → Except Refusal Bool
  | none => .ok false
  | some room => (a.chainOfRoom room).map (·.passes scope)

/-- Whether the scope is the location or its present department; no location, no. -/
def reachesFromLocation (a : Ancestry) (scope : Scope) : Option LocationId → Except Refusal Bool
  | none => .ok false
  | some location => (a.chainOfLocation location).map (·.passes scope)

/-- Whether the binding covers a node of the target. The nodes are tried finest first, and no
link is read after a node that is covered. -/
def covers (a : Ancestry) (b : Binding) (t : Target) : Except Refusal Bool :=
  match b.scope with
  | .site => .ok true
  | .detached => .ok false
  | scope => do
    if ← a.reachesFromRoom scope t.room then .ok true
    else if ← a.reachesFromLocation scope t.location then .ok true
    else .ok (Chain.passes { department := t.department } scope)

/-- Rank and coverage. Nobody passes without a binding. -/
def permits (a : Ancestry) (ctx : Context) (required : Role) (t : Target) : Except Refusal Bool :=
  match ctx.binding with
  | none => .ok false
  | some b => if b.role.hasRank required then a.covers b t else .ok false

/-- Refuses what is not permitted. The refusal names the role that is needed and the target, and
nothing about the caller. -/
def demand (a : Ancestry) (ctx : Context) (required : Role) (t : Target) (label : String) :
    Except Refusal Unit := do
  if ← a.permits ctx required t then .ok ()
  else .error (.forbidden required label)

end Ancestry

/-- Which assets a listing shows: the containment of `Ancestry.covers`, said of an asset's room. -/
inductive Condition where
  | unrestricted
  | nothing
  | room (id : RoomId)
  | location (id : LocationId)
  | department (id : DepartmentId)
  deriving DecidableEq, Repr

/-- The condition for listings under the context's binding. -/
def Context.condition (ctx : Context) : Condition :=
  match ctx.binding with
  | none => .nothing
  | some b =>
    match b.scope with
    | .site => .unrestricted
    | .department id => .department id
    | .location id => .location id
    | .room id => .room id
    | .detached => .nothing

namespace Condition

/-- The condition as SQL text over the column that holds the room, and its parameters. The
sub-selects read the tree as it is. -/
def sql (column : String) : Condition → String × List Int
  | .unrestricted => ("1 = 1", [])
  | .nothing => ("1 = 0", [])
  | .room id => (s!"{column} = ?", [id.row])
  | .location id => (s!"{column} IN (SELECT id FROM rooms WHERE location_id = ?)", [id.row])
  | .department id =>
    (s!"{column} IN (SELECT rooms.id FROM rooms " ++
      "JOIN locations ON rooms.location_id = locations.id " ++
      "WHERE locations.department_id = ?)", [id.row])

end Condition

/-- The three kinds of assets. -/
inductive AssetKind where
  | equipment | accessory | consumable
  deriving DecidableEq, Repr

/-- The column that holds the room of an asset of the kind. -/
def AssetKind.roomColumn : AssetKind → String
  | .equipment => "equipment.room_id"
  | .accessory => "accessories.room_id"
  | .consumable => "consumables.room_id"

end Quartermaster
