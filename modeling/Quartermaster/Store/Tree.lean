import Quartermaster.Store.Transaction

/-!
# The tree of nodes

Departments hold locations, locations hold rooms. Only parent links are kept, and every question
about ancestors reads them as they are. Deleting a node clears the references to it and detaches
the bindings at it; nothing else is removed.
-/

namespace Quartermaster

/-- What a new node is made from. A department takes no parent. -/
structure NodeInput where
  publicId : Option String := none
  name : String
  parent : Option String := none
  deriving DecidableEq, Repr

namespace Store

/-- The scope of the node that a locator names. -/
def resolve (s : Store) : Locator → Except Refusal Scope
  | .room publicId => (s.named .room publicId).map fun e => .room e.id
  | .location publicId => (s.named .location publicId).map fun e => .location e.id
  | .department publicId => (s.named .department publicId).map fun e => .department e.id

/-- The present chain of the node that a locator names. -/
def chain (s : Store) (node : Locator) : Except Refusal Chain := do
  match ← s.resolve node with
  | .room id => s.links.chainOfRoom id
  | .location id => s.links.chainOfLocation id
  | .department id => .ok { department := some id }
  | .site | .detached => .ok {}

/-- The room with a public id; no public id, no room. -/
def roomOf (s : Store) : Option String → Except Refusal (Option RoomId)
  | some publicId => (s.named .room publicId).map fun e => some e.id
  | none => .ok none

/-- The names along the present chain of a room. -/
def scopeNames (s : Store) (room : Option RoomId) : ScopeNames :=
  match room.bind s.row? with
  | none => {}
  | some r =>
    let location := r.val.location.bind s.row?
    let department := location.bind fun l => l.val.department.bind s.row?
    { room := some r.val.name
      location := location.map (·.val.name)
      department := department.map (·.val.name) }

/-- Clears a reference that points at a row that goes away. -/
def cleared {k : Kind} (gone : Id k) (reference : Option (Id k)) : Option (Id k) :=
  if reference = some gone then none else reference

end Store

/-- The columns after a node is gone. -/
def ScopeColumns.without (c : ScopeColumns) : Scope → ScopeColumns
  | .department id => { c with department := Store.cleared id c.department }
  | .location id => { c with location := Store.cleared id c.location }
  | .room id => { c with room := Store.cleared id c.room }
  | .site | .detached => c

namespace Store

/-- Clears the column of a node that goes away. -/
def detached (gone : Scope) (a : RoleAssignment) : RoleAssignment :=
  { a with columns := a.columns.without gone }

/-- The store without a room. -/
def withoutRoom (s : Store) (id : RoomId) : Store :=
  { s with
    rooms := s.rooms.erase id
    users := s.users.map fun u => { u with room := cleared id u.room }
    equipment := s.equipment.map fun e => { e with room := cleared id e.room }
    accessories := s.accessories.map fun a => { a with room := cleared id a.room }
    consumables := s.consumables.map fun c => { c with room := cleared id c.room }
    roleAssignments := s.roleAssignments.map (detached (.room id)) }

/-- The store without a location. Its rooms stay, without a location. -/
def withoutLocation (s : Store) (id : LocationId) : Store :=
  { s with
    locations := s.locations.erase id
    rooms := s.rooms.map fun r => { r with location := cleared id r.location }
    roleAssignments := s.roleAssignments.map (detached (.location id)) }

/-- The store without a department. Its locations stay, without a department. -/
def withoutDepartment (s : Store) (id : DepartmentId) : Store :=
  { s with
    departments := s.departments.erase id
    locations := s.locations.map fun l => { l with department := cleared id l.department }
    roleAssignments := s.roleAssignments.map (detached (.department id)) }

/-- The store without the node of a scope. -/
def without (s : Store) : Scope → Store
  | .room id => s.withoutRoom id
  | .location id => s.withoutLocation id
  | .department id => s.withoutDepartment id
  | .site | .detached => s

end Store

namespace Tx

def requireName (name : String) : Tx Unit :=
  require (!Text.isBlank name) (.invalid .blankName)

/-- The refusal for a public id that is in use. Every broken rule of the insert is told so. -/
def publicIdTaken (kind : Kind) (_ : Constraint) : Refusal :=
  .invalid (.publicIdTaken kind)

def createDepartment (input : NodeInput) : Tx (Entry .department Department) := do
  requireName input.name
  let publicId ← publicIdOr input.publicId
  insertOr .department (publicIdTaken .department)
    { publicId, name := input.name, createdAt := ← now }

def createLocation (input : NodeInput) : Tx (Entry .location Location) := do
  requireName input.name
  let parent ← present input.parent (.invalid .locationWithoutDepartment)
  let department ← read (·.named .department parent)
  let publicId ← publicIdOr input.publicId
  insertOr .location (publicIdTaken .location)
    { publicId, name := input.name, department := some department.id, createdAt := ← now }

def createRoom (input : NodeInput) : Tx (Entry .room Room) := do
  requireName input.name
  let parent ← present input.parent (.invalid .roomWithoutLocation)
  let location ← read (·.named .location parent)
  let publicId ← publicIdOr input.publicId
  insertOr .room (publicIdTaken .room)
    { publicId, name := input.name, location := some location.id, createdAt := ← now }

/-- Moves a room under another location. -/
def relocateRoom (room location : String) : Tx (Entry .room Room) := do
  let l ← read (·.named .location location)
  let r ← read (·.named .room room)
  let moved := { r.val with location := some l.id }
  put r.id moved
  return { r with val := moved }

/-- Moves a location under another department. -/
def relocateLocation (location department : String) : Tx (Entry .location Location) := do
  let d ← read (·.named .department department)
  let l ← read (·.named .location location)
  let moved := { l.val with department := some d.id }
  put l.id moved
  return { l with val := moved }

/-- Deletes a node. -/
def deleteNode (node : Locator) : Tx Unit :=
  fun s =>
    match s.resolve node with
    | .ok scope => .ok ((), s.without scope)
    | .error _ => .error (.missing (.node node.kind node.publicId))

/-- Gives a node another public id. Public ids of nodes are fixed, so this is refused unless
nothing changes. Answers how many rows were written. -/
def renameNode (node : Locator) (publicId : String) : Tx Nat := do
  match (← get).resolve node with
  | .error _ => return 0
  | .ok _ =>
    require (publicId == node.publicId)
      (.ofFault (.aborted s!"immutable:{node.kind.noun}s.public_id"))
    return 1

end Tx

end Quartermaster
