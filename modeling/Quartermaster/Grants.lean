import Quartermaster.Json.Scope
import Quartermaster.Outcome

/-!
# Grants

A role is handed out, and withdrawn, by somebody who outranks it over its node. The highest role has
nothing above it and is handed out by its own holders.
-/

namespace Quartermaster

namespace Grants

/-- The room of a scope at the finest tier. -/
def roomOf : Scope → Option RoomId
  | .room id => some id
  | _ => none

/-- The binding that a grant asks for. -/
def bindingOf (role : Role) (scope : Option Locator) (s : Store) : Except Refusal Binding :=
  match role, scope with
  | .siteAdmin, none => .ok .siteAdmin
  | .siteAdmin, some _ => .error (.invalid .siteAdminTakesNoScope)
  | _, none => .error (.invalid .scopeRequired)
  | role, some node => do Binding.bind role (← s.resolve node)

/-- Refuses whoever does not outrank a binding over its node. -/
def authorize (ctx : Context) (b : Binding) (deed : String) : Tx Unit :=
  Tx.read fun s =>
    s.links.demand ctx b.role.successor b.scope.target s!"{deed} {b.role.name}"

def recordRole (d : Setting) (ctx : Context) (action : String) (user : Entry .user User)
    (scope : Scope) (details : List (String × Json)) : Tx Unit :=
  Tx.record d.audit ctx.actor
    { action, targetKind := .user, targetPublicId := user.val.publicId
      targetName := user.val.displayName, room := roomOf scope, details := .sorted details }

/-- Hands out a role. It becomes the active one of a user that has none. -/
def grant (d : Setting) (ctx : Context) (input : GrantInput) :
    Tx (Committed (Entry .roleAssignment RoleAssignment)) := do
  let b ← Tx.read (bindingOf input.role input.scope)
  authorize ctx b "granting"
  let user ← Tx.read (·.named .user input.user)
  let a ← Tx.createRoleAssignment input.publicId user.id b (some ctx.actor.id)
  if user.val.active.isNone then
    Tx.setActive user.id (some a.id)
  recordRole d ctx "role.grant" user b.scope
    [("assignment", .str a.val.publicId), ("role", .str b.role.name), ("scope", b.scope.json)]
  return { answer := a, events := [.roleGranted a.val.publicId input.user input.role] }

/-- Makes an own role the active one. -/
def activate (ctx : Context) (assignment : String) :
    Tx (Entry .roleAssignment RoleAssignment) := do
  let own := ((← get).named? .roleAssignment assignment).filter (·.val.user == ctx.actor.id)
  let a ← Tx.present own (.missing (.named .roleAssignment assignment))
  Tx.setActive ctx.actor.id (some a.id)
  return a

/-- Withdraws a role. -/
def revoke (d : Setting) (ctx : Context) (assignment : String) : Tx (Committed Unit) := do
  let a ← Tx.read (·.named .roleAssignment assignment)
  authorize ctx a.val.binding "revoking"
  let user ← Tx.read (·.numbered a.val.user)
  let _ ← Tx.deleteRoleAssignment a.id
  recordRole d ctx "role.revoke" user a.val.binding.scope
    [("assignment", .str a.val.publicId), ("role", .str a.val.binding.role.name)]
  return { answer := (), events := [.roleRevoked assignment user.val.publicId] }

end Grants

end Quartermaster
