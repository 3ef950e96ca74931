import Quartermaster.Json.Value
import Quartermaster.Jurisdiction

/-!
# Scopes, bindings and conditions as JSON

A scope is an object with a tier and, where there is a node, its id.
-/

namespace Quartermaster

def Scope.json : Scope → Json
  | .site => .sorted [("tier", .str "site")]
  | .department id => .sorted [("tier", .str "department"), ("id", .int id.row)]
  | .location id => .sorted [("tier", .str "location"), ("id", .int id.row)]
  | .room id => .sorted [("tier", .str "room"), ("id", .int id.row)]
  | .detached => .sorted [("tier", .str "detached")]

def Binding.json (b : Binding) : Json :=
  .sorted [("role", .str b.role.name), ("scope", b.scope.json)]

/-- The tier and the public id of a named node. -/
def Locator.json (node : Locator) : Json :=
  .sorted [("tier", .str node.kind.noun), ("id", .str node.publicId)]

def Chain.json (c : Chain) : Json :=
  .sorted
    [("room", .int? (c.room.map (·.row))), ("location", .int? (c.location.map (·.row))),
     ("department", .int? (c.department.map (·.row)))]

def Target.json (t : Target) : Json :=
  .sorted
    [("room", .int? (t.room.map (·.row))), ("location", .int? (t.location.map (·.row))),
     ("department", .int? (t.department.map (·.row)))]

def Condition.json : Condition → Json
  | .unrestricted => .sorted [("kind", .str "unrestricted")]
  | .nothing => .sorted [("kind", .str "nothing")]
  | .room id => .sorted [("kind", .str "room"), ("id", .int id.row)]
  | .location id => .sorted [("kind", .str "location"), ("id", .int id.row)]
  | .department id => .sorted [("kind", .str "department"), ("id", .int id.row)]

def Context.json (ctx : Context) : Json :=
  .sorted
    [("actor", .sorted
      [("public_id", .str ctx.actor.publicId), ("display_name", .str ctx.actor.displayName)]),
     ("binding", ctx.binding.elim .null Binding.json)]

end Quartermaster
