import Quartermaster.Proofs.Store.Written

/-!
# Transactions of repository calls

The calls of the repository may be put together in one transaction in any way and be given any
arguments, also such as no operation would give them. `Tx.Composed` is the class of these
transactions; one that is put together by the combinators is found from its parts.

1. `Tx.Composed.written`: a transaction of the class leaves writes in a row.
2. `Store.Sound.after`: so it keeps the tables sound.
-/

namespace Quartermaster

namespace Tx

/-- Calls of the repository that are put together in one transaction. What is called, and with which
arguments, may depend on what was answered so far. A call that is refused ends the transaction. -/
class inductive Composed : {α : Type} → Tx α → Prop
  | read {α : Type} (f : Store → Except Refusal α) : Composed (read f)
  | bind {α β : Type} {x : Tx α} {f : α → Tx β} :
      Composed x → (∀ a, Composed (f a)) → Composed (x >>= f)
  | createDepartment {input : NodeInput} : Composed (createDepartment input)
  | createLocation {input : NodeInput} : Composed (createLocation input)
  | createRoom {input : NodeInput} : Composed (createRoom input)
  | relocateRoom {room location : String} : Composed (relocateRoom room location)
  | relocateLocation {location department : String} :
      Composed (relocateLocation location department)
  | deleteNode {node : Locator} : Composed (deleteNode node)
  | createUser {input : UserInput} : Composed (createUser input)
  | setUserRoom {user : UserId} {room : Option RoomId} : Composed (setUserRoom user room)
  | createRoleAssignment {publicId : Option String} {user : UserId} {binding : Binding}
      {grantedBy : Option UserId} :
      Composed (createRoleAssignment publicId user binding grantedBy)
  | setActive {user : UserId} {assignment : Option RoleAssignmentId} :
      Composed (setActive user assignment)
  | deleteRoleAssignment {id : RoleAssignmentId} : Composed (deleteRoleAssignment id)
  | createEquipment {publicId serialNumber : Option String} {name : String}
      {room : Option RoomId} : Composed (createEquipment publicId name serialNumber room)
  | setEquipmentStatus {item : EquipmentId} {status : EquipmentStatus} :
      Composed (setEquipmentStatus item status)
  | openEquipmentAssignment {item : EquipmentId} {holder assignedBy : UserId}
      {notes : Option String} : Composed (openEquipmentAssignment item holder assignedBy notes)
  | closeEquipmentAssignment {id : EquipmentAssignmentId} {notes : Option String} :
      Composed (closeEquipmentAssignment id notes)
  | transferEquipmentAssignment {id : EquipmentAssignmentId} {holder assignedBy : UserId}
      {notes : Option String} : Composed (transferEquipmentAssignment id holder assignedBy notes)
  | appendEquipmentEvent {item : EquipmentId} {assignment : Option EquipmentAssignmentId}
      {type : EventType} {holder : Option UserId} {status : Option EquipmentStatus}
      {reportedBy : UserId} {notes : Option String} :
      Composed (appendEquipmentEvent item assignment type holder status reportedBy notes)
  | createAccessory {publicId : Option String} {name : String} {quantity : Int64}
      {room : Option RoomId} : Composed (createAccessory publicId name quantity room)
  | setAccessoryQuantity {item : AccessoryId} {quantity : Int} :
      Composed (setAccessoryQuantity item quantity)
  | openAccessoryAssignment {item : AccessoryId} {holder assignedBy : UserId} {units : Int} :
      Composed (openAccessoryAssignment item holder units assignedBy)
  | increaseAccessoryAssignment {id : AccessoryAssignmentId} {units : Int} :
      Composed (increaseAccessoryAssignment id units)
  | reduceAccessoryAssignment {id : AccessoryAssignmentId} {units : Int} :
      Composed (reduceAccessoryAssignment id units)
  | appendAccessoryEvent {item : AccessoryId} {custody : Option AccessoryAssignmentId}
      {type : EventType} {holder : Option UserId} {quantity change : Int} {reportedBy : UserId}
      {notes : Option String} :
      Composed (appendAccessoryEvent item custody type holder quantity change reportedBy notes)
  | createConsumable {input : ConsumableInput} {room : Option RoomId} :
      Composed (createConsumable input room)
  | setConsumableQuantity {item : ConsumableId} {quantity : Int} :
      Composed (setConsumableQuantity item quantity)
  | openIssue {item : ConsumableId} {holder assignedBy : UserId} {units : Int}
      {purpose : Option String} : Composed (openIssue item holder units assignedBy purpose)
  | increaseIssue {id : ConsumableIssueId} {units : Int} : Composed (increaseIssue id units)
  | reduceIssue {id : ConsumableIssueId} {units : Int} : Composed (reduceIssue id units)
  | appendConsumableEvent {item : ConsumableId} {custody : Option ConsumableIssueId}
      {type : EventType} {holder : Option UserId} {quantity change : Int} {reportedBy : UserId}
      {notes : Option String} :
      Composed (appendConsumableEvent item custody type holder quantity change reportedBy notes)
  | appendAudit {actor : Actor} {entry : AuditEntry} {scope : ScopeNames} :
      Composed (appendAudit actor entry scope)

variable {α β : Type} {s s' : Store}

/-- A transaction of the class leaves writes in a row. -/
theorem Composed.written {x : Tx α} (h : Composed x) {s s' : Store} {a : α}
    (ran : x s = .ok (a, s')) : s.Written s' := by
  induction h generalizing s s' with
  | read f =>
    obtain ⟨_, rfl⟩ := read_ok.1 ran
    exact .refl
  | bind _ _ first rest =>
    obtain ⟨b, between, through, goes_on⟩ := bind_ok.1 ran
    exact (first through).trans (rest b goes_on)
  | createDepartment => exact createDepartment_written ran
  | createLocation => exact createLocation_written ran
  | createRoom => exact createRoom_written ran
  | relocateRoom => exact relocateRoom_written ran
  | relocateLocation => exact relocateLocation_written ran
  | deleteNode => exact deleteNode_written ran
  | createUser => exact createUser_written ran
  | setUserRoom => exact setUserRoom_written ran
  | createRoleAssignment => exact createRoleAssignment_written ran
  | setActive => exact setActive_written ran
  | deleteRoleAssignment => exact deleteRoleAssignment_written ran
  | createEquipment => exact createEquipment_written ran
  | setEquipmentStatus => exact setEquipmentStatus_written ran
  | openEquipmentAssignment => exact openEquipmentAssignment_written ran
  | closeEquipmentAssignment => exact closeEquipmentAssignment_written ran
  | transferEquipmentAssignment => exact transferEquipmentAssignment_written ran
  | appendEquipmentEvent => exact appendEquipmentEvent_written ran
  | createAccessory => exact createAccessory_written ran
  | setAccessoryQuantity => exact setAccessoryQuantity_written ran
  | openAccessoryAssignment => exact openAccessoryAssignment_written ran
  | increaseAccessoryAssignment => exact increaseAccessoryAssignment_written ran
  | reduceAccessoryAssignment => exact reduceAccessoryAssignment_written ran
  | appendAccessoryEvent => exact appendAccessoryEvent_written ran
  | createConsumable => exact createConsumable_written ran
  | setConsumableQuantity => exact setConsumableQuantity_written ran
  | openIssue => exact openIssue_written ran
  | increaseIssue => exact increaseIssue_written ran
  | reduceIssue => exact reduceIssue_written ran
  | appendConsumableEvent => exact appendConsumableEvent_written ran
  | appendAudit => exact appendAudit_written ran

/-! ## The class

A transaction that is put together by the combinators alone is found at once. -/

attribute [instance] Composed.read Composed.createDepartment Composed.createLocation
  Composed.createRoom Composed.relocateRoom Composed.relocateLocation Composed.createUser
  Composed.setUserRoom Composed.createRoleAssignment Composed.setActive
  Composed.deleteRoleAssignment Composed.createEquipment Composed.setEquipmentStatus
  Composed.openEquipmentAssignment Composed.closeEquipmentAssignment
  Composed.transferEquipmentAssignment Composed.appendEquipmentEvent Composed.createAccessory
  Composed.setAccessoryQuantity Composed.openAccessoryAssignment
  Composed.increaseAccessoryAssignment Composed.reduceAccessoryAssignment
  Composed.appendAccessoryEvent Composed.createConsumable Composed.setConsumableQuantity
  Composed.openIssue Composed.increaseIssue Composed.reduceIssue Composed.appendConsumableEvent
  Composed.appendAudit Composed.deleteNode

instance {x : Tx α} {f : α → Tx β} [first : Composed x] [rest : ∀ a, Composed (f a)] :
    Composed (x >>= f) := first.bind rest

instance {a : α} : Composed (pure a) := Composed.read fun _ => .ok a

instance {why : Refusal} : Composed (throw why : Tx α) := Composed.read fun _ => .error why

instance : Composed (get : Tx Store) := Composed.read .ok

instance {ok : Bool} {why : Refusal} : Composed (require ok why) := by
  unfold require
  split <;> infer_instance

instance {value : Option α} {why : Refusal} : Composed (present value why) := by
  unfold present
  split <;> infer_instance

instance {c : Prop} [Decidable c] {x y : Tx α} [Composed x] [Composed y] :
    Composed (if c then x else y) := by
  split <;> infer_instance

instance {x : Tx α} {f : α → β} [Composed x] : Composed (x.map f) :=
  inferInstanceAs (Composed (x >>= fun a => pure (f a)))

instance {ctx : Context} {required : Role} {room : Option RoomId} {label : String} :
    Composed (authorize ctx required room label) := inferInstanceAs (Composed (read _))

instance {sink : AuditSink} {actor : Actor} {entry : AuditEntry} :
    Composed (record sink actor entry) := by
  unfold record
  split <;> infer_instance

instance {node : Locator} {publicId : String} : Composed (renameNode node publicId) := by
  unfold renameNode
  refine .bind inferInstance fun s => ?_
  split <;> infer_instance

instance {item : AccessoryId} {holder assignedBy : UserId} {units : Int} :
    Composed (handAccessories item holder units assignedBy) := by
  unfold handAccessories
  refine .bind inferInstance fun s => ?_
  split <;> infer_instance

instance {item : ConsumableId} {holder assignedBy : UserId} {units : Int}
    {purpose : Option String} : Composed (giveUnits item holder units assignedBy purpose) := by
  unfold giveUnits
  refine .bind inferInstance fun s => ?_
  split <;> infer_instance

instance {table : GrowingTable} {what : Alteration} {picks : Int → Bool} :
    Composed (alterWhere table what picks) := by
  unfold alterWhere; infer_instance

end Tx

/-- Repository calls keep the tables sound. -/
theorem Store.Sound.after {α : Type} {tx : Tx α} [composed : tx.Composed] {s s' : Store} {a : α}
    (sound : s.Sound) (ran : tx s = .ok (a, s')) : s'.Sound :=
  (composed.written ran).sound sound

end Quartermaster
