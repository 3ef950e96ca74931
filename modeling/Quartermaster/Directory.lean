import Quartermaster.Custody.Basic
import Quartermaster.Store.People

/-!
# The directory

Building the tree, placing people in it, and naming the first holder of the highest role. Nobody is
asked for a rank here.
-/

namespace Quartermaster.Directory

/-- Makes a user the first holder of the highest role. The user is made if there is none of the
public id. -/
def bootstrap (user displayName : String) : Tx (Entry .roleAssignment RoleAssignment) := do
  Tx.require (← get).siteAdmins.isEmpty (.invalid .siteAdminExists)
  let u ← match (← get).named? .user user with
    | some u => pure u
    | none => Tx.createUser { publicId := some user, displayName }
  let a ← Tx.createRoleAssignment none u.id .siteAdmin none
  Tx.setActive u.id (some a.id)
  return a

/-- Moves a user to a room, or out of every room. -/
def moveUser (user : String) (room : Option String) : Tx (Entry .user User) := do
  let u ← Tx.read (·.named .user user)
  let target ← Tx.read (·.roomOf room)
  Tx.setUserRoom u.id target
  Custody.reload u

end Quartermaster.Directory
