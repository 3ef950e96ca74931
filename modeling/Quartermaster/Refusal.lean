import Quartermaster.Id
import Quartermaster.Role
import Quartermaster.Status

/-!
# Refusals

Why an operation did not happen, by cause. The words for a cause are in `Report`; nothing here
depends on them.
-/

namespace Quartermaster

/-- What is wrong with a request that is understood and allowed. -/
inductive Invalid where
  /-- A name of a node or an asset is blank. -/
  | blankName
  | blankDisplayName
  | blankPublicId
  /-- A location was to be made without a department. -/
  | locationWithoutDepartment
  /-- A room was to be made without a location. -/
  | roomWithoutLocation
  /-- The public id is in use for a row of this kind. -/
  | publicIdTaken (kind : Kind)
  /-- A role other than the highest needs a node. -/
  | scopeRequired
  /-- The node is not at the tier of the role. -/
  | tierMismatch (role : Role)
  /-- The highest role takes no node. -/
  | siteAdminTakesNoScope
  | roleAlreadyHeld
  | siteAdminExists
  | notPositive
  | negativeQuantity
  | negativeThreshold
  /-- The sum is beyond the largest stock that can be kept. -/
  | stockLimit
  /-- Fewer units than asked for are on the shelf. -/
  | onlyAvailable (units : Int)
  /-- Fewer units than asked for are in stock. -/
  | onlyInStock (units : Int)
  /-- The holder has fewer units than are to be taken. -/
  | holderHasOnly (units : Int)
  /-- The item cannot be handed out, or changed, in its status. -/
  | statusIs (status : EquipmentStatus)
  | statusAlready (status : EquipmentStatus)
  /-- The status can be entered only while nobody holds the item. -/
  | stillAssigned
  | equipmentAssigned
  | equipmentNotAssigned
  /-- The user that is to give the item back does not hold it. -/
  | notHolder
  /-- The user that is to hand the item on does not hold it. -/
  | notPassedOnByHolder
  /-- The receiving user is the one that holds the item. -/
  | sameHolder
  | assignmentClosed
  | issueClosed
  | assignmentOpen
  | issueOpen
  deriving DecidableEq, Repr

/-- What was asked for and is not there. -/
inductive Missing where
  /-- No row of the kind has the public id. -/
  | named (kind : Kind) (publicId : String)
  /-- No row of the kind has the row number. -/
  | numbered (kind : Kind) (row : Int)
  /-- The node to be deleted is not in the table of its tier. -/
  | node (kind : Kind) (publicId : String)
  /-- The caller has no open issue of the consumable. -/
  | openIssue (consumable : String)
  deriving DecidableEq, Repr

/-- Why the caller is not known. -/
inductive AuthFault where
  | unknownActor (user : String)
  /-- The role assignment that the caller chose is not the caller's. -/
  | notHeld (assignment : String)
  | actorNotNamed
  deriving DecidableEq, Repr

/-- The rules of the storage that a row can break. -/
inductive Constraint where
  | unique | check | foreignKey
  deriving DecidableEq, Repr

/-- Why the storage refused to read or write. -/
inductive Fault where
  | constraint (rule : Constraint)
  /-- A guard on a table stopped the statement with this message. -/
  | aborted (message : String)
  /-- A number does not fit its column. -/
  | outOfRange
  /-- The storage cannot be opened. -/
  | unavailable
  deriving DecidableEq, Repr

/-- Why an operation was refused. -/
inductive Refusal where
  /-- The caller lacks the rank, or the target lies outside the caller's jurisdiction. -/
  | forbidden (required : Role) (target : String)
  | invalid (why : Invalid)
  | missing (what : Missing)
  | unauthenticated (why : AuthFault)
  /-- A table that only grows was to be changed. -/
  | appendOnly (table : String)
  | storage (fault : Fault)
  | auditSink (text : String)
  | config
  | io
  | json
  | internal (text : String)
  deriving DecidableEq, Repr

namespace Refusal

/-- What a guard on an append-only table writes before the table's name. -/
def appendOnlyMark : List Char := "append_only:".toList

/-- The rest of the message behind the mark of an append-only guard. -/
def appendOnlyTable? (message : String) : Option String :=
  if appendOnlyMark.isPrefixOf message.toList then
    some (String.ofList (message.toList.drop appendOnlyMark.length))
  else none

/-- A fault of the storage as a refusal: the guards of append-only tables have a class of their
own. -/
def ofFault : Fault → Refusal
  | .aborted message =>
    match appendOnlyTable? message with
    | some table => .appendOnly table
    | none => .storage (.aborted message)
  | fault => .storage fault

end Refusal

end Quartermaster
