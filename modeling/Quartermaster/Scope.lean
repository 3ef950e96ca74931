import Quartermaster.Refusal

/-!
# Scopes, bindings and chains

A binding is a role together with the node it is bound to. The type keeps them at one tier: a
binding whose node was deleted is detached, and no other mismatch exists (`Binding.fits`).

A chain is a node with its present ancestors, finest first. `Ancestry` is the reader of parent
links from which chains are made. It may fail, and a chain fails with the first link that cannot
be read.
-/

namespace Quartermaster

/-- The node that a role is bound to. -/
inductive Scope where
  /-- The whole tree; no node. -/
  | site
  | department (id : DepartmentId)
  | location (id : LocationId)
  | room (id : RoomId)
  /-- The node was deleted; nothing is covered. -/
  | detached
  deriving DecidableEq, Repr

/-- The tier of a scope; a detached scope has none. -/
def Scope.tier : Scope → Option Tier
  | .site => some .site
  | .department _ => some .department
  | .location _ => some .location
  | .room _ => some .room
  | .detached => none

/-- A role bound to a node of its tier, or to a node that is gone. -/
@[ext]
structure Binding where
  role : Role
  scope : Scope
  fits : scope.tier = some role.tier ∨ scope = .detached
  deriving DecidableEq, Repr

namespace Binding

/-- Binds a role to a node. The tiers have to agree, and a node has to be there. -/
def bind (role : Role) (scope : Scope) : Except Refusal Binding :=
  match h : scope.tier with
  | some tier =>
    if same : tier = role.tier then .ok ⟨role, scope, .inl (same ▸ h)⟩
    else .error (.invalid (.tierMismatch role))
  | none => .error (.invalid .scopeRequired)

/-- The binding of the highest role. -/
def siteAdmin : Binding := ⟨.siteAdmin, .site, .inl rfl⟩

/-- The binding after its node is gone. -/
def detach (b : Binding) : Binding := { b with scope := .detached, fits := .inr rfl }

theorem bind_scope {b : Binding} (h : b.scope ≠ .detached) : bind b.role b.scope = .ok b := by
  obtain ⟨role, scope, fits⟩ := b
  have tier : scope.tier = some role.tier := fits.resolve_right h
  unfold bind
  split
  · rename_i t ht
    rw [tier] at ht
    cases ht
    simp
  · rename_i ht
    rw [tier] at ht
    cases ht

end Binding

/-- The nodes that a request is about. Any tiers may be given; a request passes when one of them
is covered. -/
structure Target where
  room : Option RoomId := none
  location : Option LocationId := none
  department : Option DepartmentId := none
  deriving DecidableEq, Repr

/-- The target for a thing that may be in no room. -/
def Target.inRoom (room : Option RoomId) : Target := { room }

/-- Whether no node is given. -/
def Target.isEmpty (t : Target) : Bool :=
  t.room.isNone && t.location.isNone && t.department.isNone

/-- The target that is the node of a scope; a scope without a node gives none. -/
def Scope.target : Scope → Target
  | .room id => { room := some id }
  | .location id => { location := some id }
  | .department id => { department := some id }
  | .site | .detached => {}

/-- A node with its present ancestors. -/
structure Chain where
  room : Option RoomId := none
  location : Option LocationId := none
  department : Option DepartmentId := none
  deriving DecidableEq, Repr

/-- Whether the scope is a node of the chain. -/
def Chain.passes (c : Chain) : Scope → Bool
  | .site => true
  | .department id => c.department == some id
  | .location id => c.location == some id
  | .room id => c.room == some id
  | .detached => false

/-- A reader of the present parent links. -/
structure Ancestry where
  locationOf : RoomId → Except Refusal (Option LocationId)
  departmentOf : LocationId → Except Refusal (Option DepartmentId)

namespace Ancestry

/-- Links that are always readable. -/
def ofLinks (locationOf : RoomId → Option LocationId)
    (departmentOf : LocationId → Option DepartmentId) : Ancestry where
  locationOf room := .ok (locationOf room)
  departmentOf location := .ok (departmentOf location)

def chainOfRoom (a : Ancestry) (room : RoomId) : Except Refusal Chain := do
  let location ← a.locationOf room
  let department ← match location with
    | some l => a.departmentOf l
    | none => pure none
  return { room := some room, location, department }

def chainOfLocation (a : Ancestry) (location : LocationId) : Except Refusal Chain := do
  return { location := some location, department := ← a.departmentOf location }

end Ancestry

/-- A node named by its public id. -/
inductive Locator where
  | room (publicId : String)
  | location (publicId : String)
  | department (publicId : String)
  deriving DecidableEq, Repr

/-- The kind of row that the node is. -/
def Locator.kind : Locator → Kind
  | .room _ => .room
  | .location _ => .location
  | .department _ => .department

def Locator.publicId : Locator → String
  | .room publicId | .location publicId | .department publicId => publicId

end Quartermaster
