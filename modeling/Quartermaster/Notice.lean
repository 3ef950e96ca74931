import Quartermaster.Ledger.EventType
import Quartermaster.Store.People

/-!
# Notices

What the administrators of a room are told. Who they are is found out in the transaction; delivery
comes after it, and a delivery that fails is dropped.
-/

namespace Quartermaster

/-- A person that a notice goes to. -/
structure Recipient where
  publicId : String
  displayName : String
  deriving DecidableEq, Repr

inductive Notification where
  | lossReported (consumable holder : String) (type : EventType) (quantity : Int)
  | lowStock (consumable : String) (quantity threshold : Int)
  deriving DecidableEq, Repr

/-- A notification with the people it is for. -/
structure Notice where
  recipients : List Recipient
  notification : Notification
  deriving DecidableEq, Repr

/-- What hands notices out. It may fail. -/
abbrev Notifier := Notice → Except Refusal Unit

/-- A notice that was handed out, with what came of it. -/
structure Delivery where
  notice : Notice
  result : Except Refusal Unit

/-- Hands a notice out. One that is for nobody is dropped. -/
def Notice.dispatch (notice : Notice) (notifier : Notifier) : List Delivery :=
  if notice.recipients.isEmpty then [] else [⟨notice, notifier notice⟩]

def Recipient.ofUser (u : Entry .user User) : Recipient :=
  { publicId := u.val.publicId, displayName := u.val.displayName }

/-- The people that answer for a room: its administrators and those of the nodes above it. The
highest role stands in where there is no room or nobody administers it. -/
def Store.responsible (s : Store) (room : Option RoomId) : Except Refusal (List Recipient) := do
  let administrators ← match room with
    | some r => (s.links.chainOfRoom r).map s.administrators
    | none => pure []
  let people := if administrators.isEmpty then s.siteAdmins else administrators
  return people.map .ofUser

end Quartermaster
