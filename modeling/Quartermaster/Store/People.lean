import Quartermaster.Jurisdiction
import Quartermaster.Store.Tree

/-!
# People and their roles

Users, the role assignments they hold, and the one of them that is active. A context is made anew
from these rows for each request, so a request acts under what its caller holds at that moment.
-/

namespace Quartermaster

/-- What a new user is made from. -/
structure UserInput where
  publicId : Option String := none
  displayName : String
  room : Option String := none
  deriving DecidableEq, Repr

/-- What a grant asks for. -/
structure GrantInput where
  publicId : Option String := none
  user : String
  role : Role
  /-- Nothing for the highest role. -/
  scope : Option Locator := none
  deriving DecidableEq, Repr

namespace Store

/-- The role assignments of a user, in order. -/
def rolesOf (s : Store) (user : UserId) : List (Entry .roleAssignment RoleAssignment) :=
  s.roleAssignments.filter (·.user == user)

/-- The users that hold an assignment with a property, each once, in order. -/
def holdersOf (s : Store) (p : RoleAssignment → Bool) : List (Entry .user User) :=
  s.users.entries.filter fun u => (s.roleAssignments.find? fun a => a.user == u.id && p a).isSome

/-- Whether the assignment administers a node of the chain. -/
def administers (chain : Chain) (a : RoleAssignment) : Bool :=
  match a.role with
  | .roomAdmin => a.columns.room.isSome && a.columns.room == chain.room
  | .locationAdmin => a.columns.location.isSome && a.columns.location == chain.location
  | .departmentAdmin => a.columns.department.isSome && a.columns.department == chain.department
  | _ => false

/-- The administrators of the nodes of a chain. -/
def administrators (s : Store) (chain : Chain) : List (Entry .user User) :=
  s.holdersOf (administers chain)

def siteAdmins (s : Store) : List (Entry .user User) :=
  s.holdersOf (·.role == .siteAdmin)

/-- The context of a request. An assignment that the caller chooses has to be the caller's. Without
a choice the active assignment governs, and without that there is no binding. -/
def context (s : Store) (user : String) (assignment : Option String) : Except Refusal Context :=
  match s.named? .user user with
  | none => .error (.unauthenticated (.unknownActor user))
  | some u =>
    let actor : Actor :=
      { id := u.id, publicId := u.val.publicId, displayName := u.val.displayName }
    match assignment with
    | some chosen =>
      match (s.named? .roleAssignment chosen).filter (·.val.user == u.id) with
      | some a => .ok { actor, binding := some a.val.binding }
      | none => .error (.unauthenticated (.notHeld chosen))
    | none => .ok { actor, binding := (u.val.active.bind s.row?).map (·.val.binding) }

/-- Refuses what the context may not do to a thing in a room. A thing in no room is left to the
highest role. -/
def authorize (s : Store) (ctx : Context) (required : Role) (room : Option RoomId)
    (label : String) : Except Refusal Unit :=
  s.links.demand ctx required (.inRoom room) label

end Store

namespace Tx

def authorize (ctx : Context) (required : Role) (room : Option RoomId) (label : String) :
    Tx Unit :=
  read (·.authorize ctx required room label)

def createUser (input : UserInput) : Tx (Entry .user User) := do
  require (!Text.isBlank input.displayName) (.invalid .blankDisplayName)
  let room ← read (·.roomOf input.room)
  let publicId ← publicIdOr input.publicId
  insertOr .user (publicIdTaken .user)
    { publicId, displayName := input.displayName, room, active := none, createdAt := ← now }

/-- Places a user in a room, or in none. -/
def setUserRoom (user : UserId) (room : Option RoomId) : Tx Unit := do
  let u ← read (·.numbered user)
  put user { u.val with room }

/-- Gives a user a role at the scope of a binding, which is kept in columns. A detached binding
cannot be given. Every broken rule of the insert is told as a role that is already held. -/
def createRoleAssignment (publicId : Option String) (user : UserId) (binding : Binding)
    (grantedBy : Option UserId) : Tx (Entry .roleAssignment RoleAssignment) := do
  require (binding.scope != .detached) (.invalid .scopeRequired)
  let publicId ← publicIdOr publicId
  insertOr .roleAssignment (fun _ => .invalid .roleAlreadyHeld)
    { publicId, user, role := binding.role, columns := .ofScope binding.scope, grantedBy
      createdAt := ← now }

/-- Points a user at the active assignment, or at none. A user that is not there is left alone. -/
def setActive (user : UserId) (assignment : Option RoleAssignmentId) : Tx Unit := do
  match (← get).row? user with
  | none => return ()
  | some u => put user { u.val with active := assignment }

/-- Withdraws an assignment and clears the pointers to it. Answers whether it was there. -/
def deleteRoleAssignment (id : RoleAssignmentId) : Tx Bool :=
  modifyGet fun s =>
    (s.roleAssignments.has id,
      { s with
        roleAssignments := s.roleAssignments.erase id
        users := s.users.map fun u => { u with active := Store.cleared id u.active } })

end Tx

end Quartermaster
