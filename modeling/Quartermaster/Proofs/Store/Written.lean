import Mathlib.Logic.Relation
import Quartermaster.Proofs.Store.Sound

/-!
# Writes

`Store.Write` says all that one statement can do to the tables, whoever asks for it and whatever it
is asked: a row is added, or written again, if the storage finds no fault in it; a role is withdrawn;
a node is deleted. Of custody rows only open ones are written again. `Store.Written` is any number of
writes in a row.

1. `Tx.*_written`: each call of the repository, with any arguments, is a row of such writes.
2. `Store.Write.sound`, `Store.Written.sound`: writes keep the tables sound.
3. `Store.Written.keeps`: what every write keeps is kept by writes in a row.
-/

namespace Quartermaster

namespace Store

/-- What one statement can do to the tables. -/
inductive Write (s : Store) : Store → Prop
  /-- The clock is read, and ids are minted. -/
  | tick (clock minted : Nat) : s.Write { s with clock, minted }
  | addDepartment {row : Department} (faultless : s.insertFault .department row = none) :
      s.Write { s with departments := s.departments.insert row }
  | addLocation {row : Location} (faultless : s.insertFault .location row = none) :
      s.Write { s with locations := s.locations.insert row }
  | addRoom {row : Room} (faultless : s.insertFault .room row = none) :
      s.Write { s with rooms := s.rooms.insert row }
  | addUser {row : User} (faultless : s.insertFault .user row = none) :
      s.Write { s with users := s.users.insert row }
  /-- What is given is given at a node, or over all of them. -/
  | addRole {row : RoleAssignment} (attached : row.binding.scope ≠ .detached)
      (readable : row.Readable) (faultless : s.insertFault .roleAssignment row = none) :
      s.Write { s with roleAssignments := s.roleAssignments.insert row }
  | addEquipment {row : Equipment} (faultless : s.insertFault .equipment row = none) :
      s.Write { s with equipment := s.equipment.insert row }
  | addEquipmentAssignment {row : EquipmentAssignment}
      (faultless : s.insertFault .equipmentAssignment row = none) :
      s.Write { s with equipmentAssignments := s.equipmentAssignments.insert row }
  | addEquipmentEvent {row : EquipmentEvent}
      (faultless : s.insertFault .equipmentEvent row = none) :
      s.Write { s with equipmentEvents := s.equipmentEvents.insert row }
  | addAccessory {row : Accessory} (faultless : s.insertFault .accessory row = none) :
      s.Write { s with accessories := s.accessories.insert row }
  | addAccessoryAssignment {row : AccessoryAssignment}
      (faultless : s.insertFault .accessoryAssignment row = none) :
      s.Write { s with accessoryAssignments := s.accessoryAssignments.insert row }
  | addAccessoryEvent {row : AccessoryEvent}
      (faultless : s.insertFault .accessoryEvent row = none) :
      s.Write { s with accessoryEvents := s.accessoryEvents.insert row }
  | addConsumable {row : Consumable} (faultless : s.insertFault .consumable row = none) :
      s.Write { s with consumables := s.consumables.insert row }
  | addConsumableIssue {row : ConsumableIssue}
      (faultless : s.insertFault .consumableIssue row = none) :
      s.Write { s with consumableIssues := s.consumableIssues.insert row }
  | addConsumableEvent {row : ConsumableEvent}
      (faultless : s.insertFault .consumableEvent row = none) :
      s.Write { s with consumableEvents := s.consumableEvents.insert row }
  | addAudit {row : AuditRow} (faultless : s.insertFault .audit row = none) :
      s.Write { s with audit := s.audit.insert row }
  | changeLocation {e : Entry .location Location} {row : Location}
      (member : e ∈ s.locations.entries)
      (faultless : s.updateFault .location row = none)
      (keys : Table.KeepsKeys .location e.val row) :
      s.Write { s with locations := s.locations.put e.id row }
  | changeRoom {e : Entry .room Room} {row : Room}
      (member : e ∈ s.rooms.entries)
      (faultless : s.updateFault .room row = none)
      (keys : Table.KeepsKeys .room e.val row) :
      s.Write { s with rooms := s.rooms.put e.id row }
  | changeUser {e : Entry .user User} {row : User}
      (member : e ∈ s.users.entries)
      (faultless : s.updateFault .user row = none)
      (keys : Table.KeepsKeys .user e.val row) :
      s.Write { s with users := s.users.put e.id row }
  | changeEquipment {e : Entry .equipment Equipment} {row : Equipment}
      (member : e ∈ s.equipment.entries)
      (faultless : s.updateFault .equipment row = none)
      (keys : Table.KeepsKeys .equipment e.val row) :
      s.Write { s with equipment := s.equipment.put e.id row }
  | changeEquipmentAssignment {e : Entry .equipmentAssignment EquipmentAssignment}
      {row : EquipmentAssignment} (member : e ∈ s.equipmentAssignments.entries)
      (opened : e.val.isOpen = true)
      (faultless : s.updateFault .equipmentAssignment row = none)
      (keys : Table.KeepsKeys .equipmentAssignment e.val row) :
      s.Write { s with equipmentAssignments := s.equipmentAssignments.put e.id row }
  | changeAccessory {e : Entry .accessory Accessory} {row : Accessory}
      (member : e ∈ s.accessories.entries)
      (faultless : s.updateFault .accessory row = none)
      (keys : Table.KeepsKeys .accessory e.val row) :
      s.Write { s with accessories := s.accessories.put e.id row }
  | changeAccessoryAssignment {e : Entry .accessoryAssignment AccessoryAssignment}
      {row : AccessoryAssignment} (member : e ∈ s.accessoryAssignments.entries)
      (opened : e.val.isOpen = true)
      (faultless : s.updateFault .accessoryAssignment row = none)
      (keys : Table.KeepsKeys .accessoryAssignment e.val row) :
      s.Write { s with accessoryAssignments := s.accessoryAssignments.put e.id row }
  | changeConsumable {e : Entry .consumable Consumable} {row : Consumable}
      (member : e ∈ s.consumables.entries)
      (faultless : s.updateFault .consumable row = none)
      (keys : Table.KeepsKeys .consumable e.val row) :
      s.Write { s with consumables := s.consumables.put e.id row }
  | changeConsumableIssue {e : Entry .consumableIssue ConsumableIssue} {row : ConsumableIssue}
      (member : e ∈ s.consumableIssues.entries) (opened : e.val.isOpen = true)
      (faultless : s.updateFault .consumableIssue row = none)
      (keys : Table.KeepsKeys .consumableIssue e.val row) :
      s.Write { s with consumableIssues := s.consumableIssues.put e.id row }
  /-- The pointers to a role that is withdrawn are cleared. -/
  | withdraw (id : RoleAssignmentId) :
      s.Write { s with
        roleAssignments := s.roleAssignments.erase id
        users := s.users.map fun u => { u with active := Store.cleared id u.active } }
  | deleteNode {node : Locator} {scope : Scope} (named : s.resolve node = .ok scope) :
      s.Write (s.without scope)

/-- Writes in a row. -/
abbrev Written : Store → Store → Prop := Relation.ReflTransGen Write

variable {s s₁ s' : Store}

/-- A write together with the readings of the clock and the ids that were minted for it. -/
theorem Write.ticked (w : s.Write s₁) (clock minted : Nat) :
    s.Written { s₁ with clock, minted } :=
  (Relation.ReflTransGen.single w).tail (.tick clock minted)

/-- What every write keeps is kept by writes in a row. -/
theorem Written.keeps {P : Store → Prop} (h : s.Written s')
    (step : ∀ s s', P s → s.Write s' → P s') (start : P s) : P s' := by
  induction h with
  | refl => exact start
  | tail _ w ih => exact step _ _ ih w

/-! ## Soundness -/

theorem Write.sound (w : s.Write s') (sound : s.Sound) : s'.Sound := by
  cases w with
  | tick => exact { sound with }
  | addDepartment ok => exact { sound with departments := sound.departments.insert rfl ok }
  | addLocation ok => exact { sound with locations := sound.locations.insert rfl ok }
  | addRoom ok => exact { sound with rooms := sound.rooms.insert rfl ok }
  | addUser ok => exact { sound with users := sound.users.insert rfl ok }
  | addRole _ readable ok =>
    exact { sound with
      roleAssignments := sound.roleAssignments.insert rfl ok
      readable := sound.readable.insert readable }
  | addEquipment ok => exact { sound with equipment := sound.equipment.insert rfl ok }
  | addEquipmentAssignment ok =>
    exact { sound with equipmentAssignments := sound.equipmentAssignments.insert rfl ok }
  | addEquipmentEvent ok =>
    exact { sound with equipmentEvents := sound.equipmentEvents.insert rfl ok }
  | addAccessory ok => exact { sound with accessories := sound.accessories.insert rfl ok }
  | addAccessoryAssignment ok =>
    exact { sound with accessoryAssignments := sound.accessoryAssignments.insert rfl ok }
  | addAccessoryEvent ok =>
    exact { sound with accessoryEvents := sound.accessoryEvents.insert rfl ok }
  | addConsumable ok => exact { sound with consumables := sound.consumables.insert rfl ok }
  | addConsumableIssue ok =>
    exact { sound with consumableIssues := sound.consumableIssues.insert rfl ok }
  | addConsumableEvent ok =>
    exact { sound with consumableEvents := sound.consumableEvents.insert rfl ok }
  | addAudit ok => exact { sound with audit := sound.audit.insert rfl ok }
  | changeLocation member ok keys =>
    exact { sound with locations := sound.locations.write member ok keys }
  | changeRoom member ok keys => exact { sound with rooms := sound.rooms.write member ok keys }
  | changeUser member ok keys => exact { sound with users := sound.users.write member ok keys }
  | changeEquipment member ok keys =>
    exact { sound with equipment := sound.equipment.write member ok keys }
  | changeEquipmentAssignment member _ ok keys =>
    exact { sound with
      equipmentAssignments := sound.equipmentAssignments.write member ok keys }
  | changeAccessory member ok keys =>
    exact { sound with accessories := sound.accessories.write member ok keys }
  | changeAccessoryAssignment member _ ok keys =>
    exact { sound with
      accessoryAssignments := sound.accessoryAssignments.write member ok keys }
  | changeConsumable member ok keys =>
    exact { sound with consumables := sound.consumables.write member ok keys }
  | changeConsumableIssue member _ ok keys =>
    exact { sound with consumableIssues := sound.consumableIssues.write member ok keys }
  | withdraw id =>
    exact { sound with
      roleAssignments := sound.roleAssignments.erase id
      readable := sound.readable.erase id
      users := sound.users.map (fun u => { u with active := Store.cleared id u.active })
        (fun _ h => h) (fun _ h => h) (fun _ _ _ _ h => h) }
  | deleteNode => exact sound.without _

theorem Written.sound (h : s.Written s') (sound : s.Sound) : s'.Sound :=
  h.keeps (P := Store.Sound) (fun _ _ sound w => w.sound sound) sound

end Store

/-! ## The calls of the repository -/

namespace Tx

variable {s s' : Store} {u : Unit}

open Store (Write)

/-! Nodes and people. -/

theorem createDepartment_written {input : NodeInput} {e : Entry .department Department}
    (h : createDepartment input s = .ok (e, s')) : s.Written s' := by
  obtain ⟨_, faultless, _, rfl⟩ := createDepartment_ok h
  exact (Write.addDepartment faultless).ticked _ _

theorem createLocation_written {input : NodeInput} {e : Entry .location Location}
    (h : createLocation input s = .ok (e, s')) : s.Written s' := by
  obtain ⟨_, faultless, _, rfl⟩ := createLocation_ok h
  exact (Write.addLocation faultless).ticked _ _

theorem createRoom_written {input : NodeInput} {e : Entry .room Room}
    (h : createRoom input s = .ok (e, s')) : s.Written s' := by
  obtain ⟨_, faultless, _, rfl⟩ := createRoom_ok h
  exact (Write.addRoom faultless).ticked _ _

theorem relocateRoom_written {room location : String} {e : Entry .room Room}
    (h : relocateRoom room location s = .ok (e, s')) : s.Written s' := by
  obtain ⟨r, _, found, _, rfl, faultless, rfl⟩ := relocateRoom_ok h
  exact .single (.changeRoom (Table.mem_of_find? found).1 faultless ⟨fun _ h => h, fun _ h => h⟩)

theorem relocateLocation_written {location department : String} {e : Entry .location Location}
    (h : relocateLocation location department s = .ok (e, s')) : s.Written s' := by
  obtain ⟨l, _, found, _, rfl, faultless, rfl⟩ := relocateLocation_ok h
  exact .single
    (.changeLocation (Table.mem_of_find? found).1 faultless ⟨fun _ h => h, fun _ h => h⟩)

theorem deleteNode_written {node : Locator} (h : deleteNode node s = .ok (u, s')) :
    s.Written s' := by
  obtain ⟨_, named, rfl⟩ := deleteNode_ok.1 h
  exact .single (.deleteNode named)

theorem createUser_written {input : UserInput} {e : Entry .user User}
    (h : createUser input s = .ok (e, s')) : s.Written s' := by
  obtain ⟨_, faultless, _, _, rfl⟩ := createUser_ok h
  exact (Write.addUser faultless).ticked _ _

theorem setUserRoom_written {user : UserId} {room : Option RoomId}
    (h : setUserRoom user room s = .ok (u, s')) : s.Written s' := by
  obtain ⟨e, found, faultless, rfl⟩ := setUserRoom_ok.1 h
  obtain ⟨member, rfl⟩ := Table.mem_of_get? found
  exact .single (.changeUser member faultless ⟨fun _ h => h, fun _ h => h⟩)

theorem createRoleAssignment_written {publicId : Option String} {user : UserId}
    {binding : Binding} {grantedBy : Option UserId}
    {e : Entry .roleAssignment RoleAssignment}
    (h : createRoleAssignment publicId user binding grantedBy s = .ok (e, s')) :
    s.Written s' := by
  obtain ⟨_, _, attached, made, faultless, rfl⟩ := createRoleAssignment_ok h
  have role : e.val.role = binding.role := by rw [made]
  have columns : e.val.columns = .ofScope binding.scope := by rw [made]
  have bound : e.val.binding = binding := RoleAssignment.binding_of attached role columns
  exact (Write.addRole (bound ▸ attached) (.of attached role columns) faultless).ticked _ _

theorem setActive_written {user : UserId} {assignment : Option RoleAssignmentId}
    (h : setActive user assignment s = .ok (u, s')) : s.Written s' := by
  obtain ⟨_, rfl⟩ | ⟨e, found, faultless, rfl⟩ := setActive_ok h
  · exact .refl
  · obtain ⟨member, rfl⟩ := Table.mem_of_get? found
    exact .single (.changeUser member faultless ⟨fun _ h => h, fun _ h => h⟩)

theorem deleteRoleAssignment_written {id : RoleAssignmentId} {b : Bool}
    (h : deleteRoleAssignment id s = .ok (b, s')) : s.Written s' := by
  obtain ⟨_, rfl⟩ := deleteRoleAssignment_ok.1 h
  exact .single (.withdraw id)

/-! Equipment. -/

theorem createEquipment_written {publicId serialNumber : Option String} {name : String}
    {room : Option RoomId} {e : Entry .equipment Equipment}
    (h : createEquipment publicId name serialNumber room s = .ok (e, s')) : s.Written s' := by
  obtain ⟨_, faultless, _, _, _, rfl⟩ := createEquipment_ok h
  exact (Write.addEquipment faultless).ticked _ _

theorem setEquipmentStatus_written {item : EquipmentId} {status : EquipmentStatus}
    (h : setEquipmentStatus item status s = .ok (u, s')) : s.Written s' := by
  cases found : s.row? item with
  | some e =>
    obtain ⟨faultless, rfl⟩ := setEquipmentStatus_ok found h
    obtain ⟨member, rfl⟩ := Table.mem_of_get? found
    exact (Write.changeEquipment member faultless ⟨fun _ h => h, fun _ h => h⟩).ticked _ _
  | none =>
    simp only [setEquipmentStatus, bind_ok, now_ok, get_ok, and_assoc, exists_and_left,
      exists_eq_left] at h
    rw [show Store.row? { s with clock := s.clock + 1 } item = none from found] at h
    obtain ⟨_, rfl⟩ := pure_ok.1 h
    exact .single (.tick _ _)

theorem openEquipmentAssignment_written {item : EquipmentId} {holder assignedBy : UserId}
    {notes : Option String} {a : Entry .equipmentAssignment EquipmentAssignment}
    (h : openEquipmentAssignment item holder assignedBy notes s = .ok (a, s')) :
    s.Written s' := by
  obtain ⟨_, _, _, _, faultless, rfl⟩ := openEquipmentAssignment_ok h
  exact (Write.addEquipmentAssignment faultless).ticked _ _

theorem closeEquipmentAssignment_written {id : EquipmentAssignmentId} {notes : Option String}
    {a : Entry .equipmentAssignment EquipmentAssignment}
    (h : closeEquipmentAssignment id notes s = .ok (a, s')) : s.Written s' := by
  obtain ⟨a, found, opened, rfl, faultless, rfl⟩ := closeEquipmentAssignment_ok h
  obtain ⟨member, rfl⟩ := Table.mem_of_get? found
  exact (Write.changeEquipmentAssignment member opened faultless
    (a.val.keepsKeys_close _ _)).ticked _ _

theorem transferEquipmentAssignment_written {id : EquipmentAssignmentId}
    {holder assignedBy : UserId} {notes : Option String}
    {a : Entry .equipmentAssignment EquipmentAssignment}
    (h : transferEquipmentAssignment id holder assignedBy notes s = .ok (a, s')) :
    s.Written s' := by
  obtain ⟨a, found, opened, rfl, faultless, rfl⟩ := transferEquipmentAssignment_ok h
  obtain ⟨member, rfl⟩ := Table.mem_of_get? found
  exact (Write.changeEquipmentAssignment member opened faultless
    ⟨fun _ h => h, fun _ h => h⟩).ticked _ _

theorem appendEquipmentEvent_written {item : EquipmentId}
    {assignment : Option EquipmentAssignmentId} {type : EventType} {holder : Option UserId}
    {status : Option EquipmentStatus} {reportedBy : UserId} {notes : Option String}
    {e : Entry .equipmentEvent EquipmentEvent}
    (h : appendEquipmentEvent item assignment type holder status reportedBy notes s =
      .ok (e, s')) : s.Written s' := by
  obtain ⟨_, faultless, rfl⟩ := appendEquipmentEvent_ok h
  exact (Write.addEquipmentEvent faultless).ticked _ _

/-! Accessories. -/

theorem createAccessory_written {publicId : Option String} {name : String} {quantity : Int64}
    {room : Option RoomId} {e : Entry .accessory Accessory}
    (h : createAccessory publicId name quantity room s = .ok (e, s')) : s.Written s' := by
  obtain ⟨_, faultless, _, _, _, _, rfl⟩ := createAccessory_ok h
  exact (Write.addAccessory faultless).ticked _ _

theorem setAccessoryQuantity_written {item : AccessoryId} {quantity : Int}
    (h : setAccessoryQuantity item quantity s = .ok (u, s')) : s.Written s' := by
  cases found : s.row? item with
  | some e =>
    obtain ⟨faultless, rfl⟩ := setAccessoryQuantity_ok found h
    obtain ⟨member, rfl⟩ := Table.mem_of_get? found
    exact (Write.changeAccessory member faultless ⟨fun _ h => h, fun _ h => h⟩).ticked _ _
  | none =>
    simp only [setAccessoryQuantity, bind_ok, now_ok, get_ok, and_assoc, exists_and_left,
      exists_eq_left] at h
    rw [show Store.row? { s with clock := s.clock + 1 } item = none from found] at h
    obtain ⟨_, rfl⟩ := pure_ok.1 h
    exact .single (.tick _ _)

theorem openAccessoryAssignment_written {item : AccessoryId} {holder assignedBy : UserId}
    {units : Int} {a : Entry .accessoryAssignment AccessoryAssignment}
    (h : openAccessoryAssignment item holder units assignedBy s = .ok (a, s')) :
    s.Written s' := by
  obtain ⟨_, _, _, _, faultless, rfl⟩ := openAccessoryAssignment_ok h
  exact (Write.addAccessoryAssignment faultless).ticked _ _

/-- A closed assignment, and one that is not there, is left alone. -/
theorem increaseAccessoryAssignment_written {id : AccessoryAssignmentId} {units : Int}
    {a : Entry .accessoryAssignment AccessoryAssignment}
    (h : increaseAccessoryAssignment id units s = .ok (a, s')) : s.Written s' := by
  cases held : (s.row? id).filter (·.val.isOpen) with
  | some e =>
    obtain ⟨found, opened⟩ := Option.filter_eq_some_iff.1 held
    obtain ⟨rfl, faultless, rfl⟩ := increaseAccessoryAssignment_stored found opened h
    obtain ⟨member, rfl⟩ := Table.mem_of_get? found
    exact .single
      (.changeAccessoryAssignment member opened faultless ⟨fun _ h => h, fun _ h => h⟩)
  | none =>
    simp only [increaseAccessoryAssignment, bind_ok, addToAccessoryAssignment_idle held,
      reread_ok] at h
    obtain ⟨_, _, rfl, _, _, rfl⟩ := h
    exact .refl

theorem reduceAccessoryAssignment_written {id : AccessoryAssignmentId} {units : Int}
    {a : Entry .accessoryAssignment AccessoryAssignment}
    (h : reduceAccessoryAssignment id units s = .ok (a, s')) : s.Written s' := by
  cases held : (s.row? id).filter (·.val.isOpen) with
  | some e =>
    obtain ⟨found, opened⟩ := Option.filter_eq_some_iff.1 held
    obtain ⟨rfl, faultless, rfl⟩ := reduceAccessoryAssignment_stored found opened rfl h
    obtain ⟨member, rfl⟩ := Table.mem_of_get? found
    exact (Write.changeAccessoryAssignment member opened faultless
      (e.val.keepsKeys_reduce opened _ _ _)).ticked _ _
  | none =>
    simp only [reduceAccessoryAssignment, bind_ok, takeFromAccessoryAssignment_idle held,
      reread_ok] at h
    obtain ⟨_, _, rfl, _, _, rfl⟩ := h
    exact .single (.tick _ _)

theorem appendAccessoryEvent_written {item : AccessoryId} {custody : Option AccessoryAssignmentId}
    {type : EventType} {holder : Option UserId} {quantity change : Int} {reportedBy : UserId}
    {notes : Option String} {e : Entry .accessoryEvent AccessoryEvent}
    (h : appendAccessoryEvent item custody type holder quantity change reportedBy notes s =
      .ok (e, s')) : s.Written s' := by
  obtain ⟨_, faultless, rfl⟩ := appendAccessoryEvent_ok h
  exact (Write.addAccessoryEvent faultless).ticked _ _

/-! Consumables. -/

theorem createConsumable_written {input : ConsumableInput} {room : Option RoomId}
    {e : Entry .consumable Consumable} (h : createConsumable input room s = .ok (e, s')) :
    s.Written s' := by
  obtain ⟨_, faultless, _, _, _, _, rfl⟩ := createConsumable_ok h
  exact (Write.addConsumable faultless).ticked _ _

theorem setConsumableQuantity_written {item : ConsumableId} {quantity : Int}
    (h : setConsumableQuantity item quantity s = .ok (u, s')) : s.Written s' := by
  cases found : s.row? item with
  | some e =>
    obtain ⟨faultless, rfl⟩ := setConsumableQuantity_ok found h
    obtain ⟨member, rfl⟩ := Table.mem_of_get? found
    exact (Write.changeConsumable member faultless ⟨fun _ h => h, fun _ h => h⟩).ticked _ _
  | none =>
    simp only [setConsumableQuantity, bind_ok, now_ok, get_ok, and_assoc, exists_and_left,
      exists_eq_left] at h
    rw [show Store.row? { s with clock := s.clock + 1 } item = none from found] at h
    obtain ⟨_, rfl⟩ := pure_ok.1 h
    exact .single (.tick _ _)

theorem openIssue_written {item : ConsumableId} {holder assignedBy : UserId} {units : Int}
    {purpose : Option String} {i : Entry .consumableIssue ConsumableIssue}
    (h : openIssue item holder units assignedBy purpose s = .ok (i, s')) : s.Written s' := by
  obtain ⟨_, _, _, _, faultless, rfl⟩ := openIssue_ok h
  exact (Write.addConsumableIssue faultless).ticked _ _

/-- A closed issue, and one that is not there, is left alone. -/
theorem increaseIssue_written {id : ConsumableIssueId} {units : Int}
    {i : Entry .consumableIssue ConsumableIssue} (h : increaseIssue id units s = .ok (i, s')) :
    s.Written s' := by
  cases held : (s.row? id).filter (·.val.isOpen) with
  | some e =>
    obtain ⟨found, opened⟩ := Option.filter_eq_some_iff.1 held
    obtain ⟨rfl, faultless, rfl⟩ := increaseIssue_stored found opened h
    obtain ⟨member, rfl⟩ := Table.mem_of_get? found
    exact .single (.changeConsumableIssue member opened faultless ⟨fun _ h => h, fun _ h => h⟩)
  | none =>
    simp only [increaseIssue, bind_ok, addToIssue_idle held, reread_ok] at h
    obtain ⟨_, _, rfl, _, _, rfl⟩ := h
    exact .refl

theorem reduceIssue_written {id : ConsumableIssueId} {units : Int}
    {i : Entry .consumableIssue ConsumableIssue} (h : reduceIssue id units s = .ok (i, s')) :
    s.Written s' := by
  cases held : (s.row? id).filter (·.val.isOpen) with
  | some e =>
    obtain ⟨found, opened⟩ := Option.filter_eq_some_iff.1 held
    obtain ⟨rfl, faultless, rfl⟩ := reduceIssue_stored found opened rfl h
    obtain ⟨member, rfl⟩ := Table.mem_of_get? found
    exact (Write.changeConsumableIssue member opened faultless
      (e.val.keepsKeys_reduce opened _ _ _)).ticked _ _
  | none =>
    simp only [reduceIssue, bind_ok, takeFromIssue_idle held, reread_ok] at h
    obtain ⟨_, _, rfl, _, _, rfl⟩ := h
    exact .single (.tick _ _)

theorem appendConsumableEvent_written {item : ConsumableId} {custody : Option ConsumableIssueId}
    {type : EventType} {holder : Option UserId} {quantity change : Int} {reportedBy : UserId}
    {notes : Option String} {e : Entry .consumableEvent ConsumableEvent}
    (h : appendConsumableEvent item custody type holder quantity change reportedBy notes s =
      .ok (e, s')) : s.Written s' := by
  obtain ⟨_, faultless, rfl⟩ := appendConsumableEvent_ok h
  exact (Write.addConsumableEvent faultless).ticked _ _

/-! The audit log. -/

theorem appendAudit_written {actor : Actor} {entry : AuditEntry} {scope : ScopeNames}
    (h : appendAudit actor entry scope s = .ok (u, s')) : s.Written s' := by
  obtain ⟨_, _, _, faultless, rfl⟩ := appendAudit_ok h
  exact (Write.addAudit faultless).ticked _ _

end Tx

end Quartermaster
