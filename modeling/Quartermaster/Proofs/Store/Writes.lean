import Quartermaster.Proofs.Inversion
import Quartermaster.Proofs.Store.Tables

/-!
# What each write leaves

One lemma for each way in which rows come and change: what the row is, which rule of the storage it
met, and the store afterwards. Everything that a lemma does not name is as it was, except for the
clock and the number of the next minted id, which only move on.
-/

namespace Quartermaster

/-- The ledger row is about these units of an asset. -/
structure UnitEvent.Of {asset custody : Kind} (event : UnitEvent asset custody) (item : Id asset)
    (row : Option (Id custody)) (type : EventType) (holder : Option UserId) (quantity change : Int)
    (reportedBy : UserId) : Prop where
  asset : event.asset = item
  custody : event.custody = row
  type : event.type = type
  holder : event.holder = holder
  quantity : event.quantity = quantity
  change : event.quantityChange = change
  reportedBy : event.reportedBy = reportedBy

/-- The row tells of a change by the actor to the target, with the names of the nodes around it. -/
structure AuditRow.Tells (row : AuditRow) (actor : Actor) (action : String) (kind : Kind)
    (publicId name : String) (around : ScopeNames) : Prop where
  action : row.action = action
  actorPublicId : row.actorPublicId = actor.publicId
  actorName : row.actorName = actor.displayName
  targetKind : row.targetKind = kind
  targetPublicId : row.targetPublicId = publicId
  targetName : row.targetName = name
  scope : row.scope = around

namespace Tx

variable {s s' : Store}

/-! ## Nodes and people -/

theorem createDepartment_ok {input : NodeInput} {e : Entry .department Department}
    (h : createDepartment input s = .ok (e, s')) :
    ∃ minted, s.insertFault .department e.val = none ∧ e.id = s.departments.next ∧
      s' = { s with
        departments := s.departments.insert e.val, clock := s.clock + 1, minted } := by
  simp only [createDepartment, requireName, bind_ok, require_ok, now_ok, insertOr_ok] at h
  obtain ⟨_, _, ⟨_, rfl⟩, publicId, _, named, _, _, ⟨rfl, rfl⟩, faultless, rfl, rfl⟩ := h
  obtain ⟨_, _, minted, rfl⟩ := publicIdOr_ok named
  exact ⟨minted, faultless, rfl, rfl⟩

theorem createLocation_ok {input : NodeInput} {e : Entry .location Location}
    (h : createLocation input s = .ok (e, s')) :
    ∃ minted, s.insertFault .location e.val = none ∧ e.id = s.locations.next ∧
      s' = { s with locations := s.locations.insert e.val, clock := s.clock + 1, minted } := by
  simp only [createLocation, requireName, bind_ok, require_ok, present_ok, read_ok, now_ok,
    insertOr_ok] at h
  obtain ⟨_, _, ⟨_, rfl⟩, _, _, ⟨_, rfl⟩, _, _, ⟨_, rfl⟩, publicId, _, named, _, _, ⟨rfl, rfl⟩,
    faultless, rfl, rfl⟩ := h
  obtain ⟨_, _, minted, rfl⟩ := publicIdOr_ok named
  exact ⟨minted, faultless, rfl, rfl⟩

theorem createRoom_ok {input : NodeInput} {e : Entry .room Room}
    (h : createRoom input s = .ok (e, s')) :
    ∃ minted, s.insertFault .room e.val = none ∧ e.id = s.rooms.next ∧
      s' = { s with rooms := s.rooms.insert e.val, clock := s.clock + 1, minted } := by
  simp only [createRoom, requireName, bind_ok, require_ok, present_ok, read_ok, now_ok,
    insertOr_ok] at h
  obtain ⟨_, _, ⟨_, rfl⟩, _, _, ⟨_, rfl⟩, _, _, ⟨_, rfl⟩, publicId, _, named, _, _, ⟨rfl, rfl⟩,
    faultless, rfl, rfl⟩ := h
  obtain ⟨_, _, minted, rfl⟩ := publicIdOr_ok named
  exact ⟨minted, faultless, rfl, rfl⟩

theorem relocateRoom_ok {room location : String} {e : Entry .room Room}
    (h : relocateRoom room location s = .ok (e, s')) :
    ∃ r l, s.named? .room room = some r ∧ s.named? .location location = some l ∧
      e = { r with val := { r.val with location := some l.id } } ∧
      s.updateFault .room e.val = none ∧ s' = { s with rooms := s.rooms.put r.id e.val } := by
  simp only [relocateRoom, bind_ok, read_ok, Store.named_ok, put_ok, pure_ok] at h
  obtain ⟨l, _, ⟨place, rfl⟩, r, _, ⟨found, rfl⟩, _, _, ⟨faultless, rfl⟩, rfl, rfl⟩ := h
  exact ⟨r, l, found, place, rfl, faultless, rfl⟩

theorem relocateLocation_ok {location department : String} {e : Entry .location Location}
    (h : relocateLocation location department s = .ok (e, s')) :
    ∃ l d, s.named? .location location = some l ∧ s.named? .department department = some d ∧
      e = { l with val := { l.val with department := some d.id } } ∧
      s.updateFault .location e.val = none ∧
      s' = { s with locations := s.locations.put l.id e.val } := by
  simp only [relocateLocation, bind_ok, read_ok, Store.named_ok, put_ok, pure_ok] at h
  obtain ⟨d, _, ⟨place, rfl⟩, l, _, ⟨found, rfl⟩, _, _, ⟨faultless, rfl⟩, rfl, rfl⟩ := h
  exact ⟨l, d, found, place, rfl, faultless, rfl⟩

theorem deleteNode_ok {node : Locator} {u : Unit} :
    deleteNode node s = .ok (u, s') ↔
      ∃ scope, s.resolve node = .ok scope ∧ s' = s.without scope := by
  unfold deleteNode
  cases s.resolve node with
  | ok scope => simp [eq_comm]
  | error why => simp

theorem createUser_ok {input : UserInput} {e : Entry .user User}
    (h : createUser input s = .ok (e, s')) :
    ∃ minted, s.insertFault .user e.val = none ∧ e.id = s.users.next ∧ e.val.active = none ∧
      s' = { s with users := s.users.insert e.val, clock := s.clock + 1, minted } := by
  simp only [createUser, bind_ok, require_ok, read_ok, now_ok, insertOr_ok] at h
  obtain ⟨_, _, ⟨_, rfl⟩, _, _, ⟨_, rfl⟩, publicId, _, named, _, _, ⟨rfl, rfl⟩, faultless, rfl,
    rfl⟩ := h
  obtain ⟨_, _, minted, rfl⟩ := publicIdOr_ok named
  exact ⟨minted, faultless, rfl, rfl, rfl⟩

theorem setUserRoom_ok {user : UserId} {room : Option RoomId} {u : Unit} :
    setUserRoom user room s = .ok (u, s') ↔
      ∃ e, s.row? user = some e ∧ s.updateFault .user { e.val with room } = none ∧
        s' = { s with users := s.users.put user { e.val with room } } := by
  simp only [setUserRoom, bind_ok, read_ok, Store.numbered_ok, put_ok]
  constructor
  · rintro ⟨e, _, ⟨found, rfl⟩, faultless, rfl⟩
    exact ⟨e, found, faultless, rfl⟩
  · rintro ⟨e, found, faultless, rfl⟩
    exact ⟨e, s, ⟨found, rfl⟩, faultless, rfl⟩

theorem createRoleAssignment_ok {publicId : Option String} {user : UserId} {binding : Binding}
    {grantedBy : Option UserId} {e : Entry .roleAssignment RoleAssignment}
    (h : createRoleAssignment publicId user binding grantedBy s = .ok (e, s')) :
    ∃ id minted, binding.scope ≠ .detached ∧
      e = ⟨s.roleAssignments.next,
        { publicId := id, user, role := binding.role, columns := .ofScope binding.scope, grantedBy
          createdAt := ⟨s.clock⟩ }⟩ ∧
      s.insertFault .roleAssignment e.val = none ∧
      s' = { s with
        roleAssignments := s.roleAssignments.insert e.val, clock := s.clock + 1, minted } := by
  simp only [createRoleAssignment, bind_ok, require_ok, now_ok, insertOr_ok, bne_iff_ne] at h
  obtain ⟨_, _, ⟨attached, rfl⟩, id, _, named, _, _, ⟨rfl, rfl⟩, faultless, rfl, rfl⟩ := h
  obtain ⟨_, _, minted, rfl⟩ := publicIdOr_ok named
  exact ⟨id, minted, attached, rfl, faultless, rfl⟩

theorem setActive_ok {user : UserId} {assignment : Option RoleAssignmentId} {u : Unit}
    (h : setActive user assignment s = .ok (u, s')) :
    (s.row? user = none ∧ s' = s) ∨
      ∃ e, s.row? user = some e ∧ s.updateFault .user { e.val with active := assignment } = none ∧
        s' = { s with users := s.users.put user { e.val with active := assignment } } := by
  simp only [setActive, bind_ok, get_ok, and_assoc, exists_and_left, exists_eq_left] at h
  cases found : s.row? user with
  | none =>
    rw [found] at h
    exact .inl ⟨rfl, (pure_ok.1 h).2⟩
  | some e =>
    rw [found] at h
    obtain ⟨faultless, rfl⟩ := put_ok.1 h
    exact .inr ⟨e, rfl, faultless, rfl⟩

theorem deleteRoleAssignment_ok {id : RoleAssignmentId} {b : Bool} :
    deleteRoleAssignment id s = .ok (b, s') ↔
      b = s.roleAssignments.has id ∧
        s' = { s with
          roleAssignments := s.roleAssignments.erase id
          users := s.users.map fun u => { u with active := Store.cleared id u.active } } := by
  simp [deleteRoleAssignment, modifyGet, MonadStateOf.modifyGet, StateT.modifyGet, pure,
    Except.pure, eq_comm]

/-! ## Equipment -/

theorem createEquipment_ok {publicId serialNumber : Option String} {name : String}
    {room : Option RoomId} {e : Entry .equipment Equipment}
    (h : createEquipment publicId name serialNumber room s = .ok (e, s')) :
    ∃ minted, s.insertFault .equipment e.val = none ∧ e.id = s.equipment.next ∧
      e.val.room = room ∧ e.val.status = .ok ∧
      s' = { s with equipment := s.equipment.insert e.val, clock := s.clock + 1, minted } := by
  simp only [createEquipment, requireName, bind_ok, require_ok, now_ok, insertOr_ok] at h
  obtain ⟨_, _, ⟨_, rfl⟩, _, _, named, _, _, ⟨rfl, rfl⟩, faultless, rfl, rfl⟩ := h
  obtain ⟨_, _, minted, rfl⟩ := publicIdOr_ok named
  exact ⟨minted, faultless, rfl, rfl, rfl, rfl⟩

theorem setEquipmentStatus_ok {item : EquipmentId} {status : EquipmentStatus} {u : Unit}
    {e : Entry .equipment Equipment} (found : s.row? item = some e)
    (h : setEquipmentStatus item status s = .ok (u, s')) :
    s.updateFault .equipment { e.val with status, updatedAt := ⟨s.clock⟩ } = none ∧
      s' = { s with
        equipment := s.equipment.put item { e.val with status, updatedAt := ⟨s.clock⟩ }
        clock := s.clock + 1 } := by
  simp only [setEquipmentStatus, bind_ok, now_ok, get_ok, and_assoc, exists_and_left,
    exists_eq_left] at h
  rw [show Store.row? { s with clock := s.clock + 1 } item = some e from found] at h
  exact put_ok.1 h

theorem openEquipmentAssignment_ok {item : EquipmentId} {holder assignedBy : UserId}
    {notes : Option String} {a : Entry .equipmentAssignment EquipmentAssignment}
    (h : openEquipmentAssignment item holder assignedBy notes s = .ok (a, s')) :
    ∃ publicId minted, publicId ∉ s.publicIds ∧
      a = ⟨s.equipmentAssignments.next,
        { publicId, equipment := item, holder, assignedBy := some assignedBy
          assignedAt := ⟨s.clock⟩, returnedAt := none, state := .opened, notes }⟩ ∧
      s.insertFault .equipmentAssignment a.val = none ∧
      s' = { s with
        equipmentAssignments := s.equipmentAssignments.insert a.val
        clock := s.clock + 1, minted } := by
  simp only [openEquipmentAssignment, bind_ok, now_ok, insertOr_ok] at h
  obtain ⟨publicId, _, named, _, _, ⟨rfl, rfl⟩, faultless, rfl, rfl⟩ := h
  obtain ⟨fresh, minted, rfl⟩ := mint_ok named
  exact ⟨publicId, minted, fresh, rfl, faultless, rfl⟩

theorem openEquipmentRow_ok {id : EquipmentAssignmentId}
    {a : Entry .equipmentAssignment EquipmentAssignment} :
    openEquipmentRow id s = .ok (a, s') ↔
      (s.row? id = some a ∧ a.val.isOpen = true) ∧ s' = s := by
  simp only [openEquipmentRow, bind_ok, get_ok, present_ok, and_assoc, exists_and_left,
    exists_eq_left, Option.filter_eq_some_iff]

theorem closeEquipmentAssignment_ok {id : EquipmentAssignmentId} {notes : Option String}
    {closed : Entry .equipmentAssignment EquipmentAssignment}
    (h : closeEquipmentAssignment id notes s = .ok (closed, s')) :
    ∃ a, s.row? id = some a ∧ a.val.isOpen = true ∧
      closed = { a with val := { a.val with
        state := .closed, returnedAt := some ⟨s.clock⟩, notes := notes.or a.val.notes } } ∧
      s.updateFault .equipmentAssignment closed.val = none ∧
      s' = { s with
        equipmentAssignments := s.equipmentAssignments.put id closed.val
        clock := s.clock + 1 } := by
  simp only [closeEquipmentAssignment, bind_ok, openEquipmentRow_ok, now_ok, put_ok, pure_ok] at h
  obtain ⟨a, _, ⟨⟨found, opened⟩, rfl⟩, _, _, ⟨rfl, rfl⟩, _, _, ⟨faultless, rfl⟩, rfl, rfl⟩ := h
  exact ⟨a, found, opened, rfl, faultless, rfl⟩

theorem transferEquipmentAssignment_ok {id : EquipmentAssignmentId} {holder assignedBy : UserId}
    {notes : Option String} {moved : Entry .equipmentAssignment EquipmentAssignment}
    (h : transferEquipmentAssignment id holder assignedBy notes s = .ok (moved, s')) :
    ∃ a, s.row? id = some a ∧ a.val.isOpen = true ∧
      moved = { a with val := { a.val with
        holder, assignedBy := some assignedBy, assignedAt := ⟨s.clock⟩, notes } } ∧
      s.updateFault .equipmentAssignment moved.val = none ∧
      s' = { s with
        equipmentAssignments := s.equipmentAssignments.put id moved.val
        clock := s.clock + 1 } := by
  simp only [transferEquipmentAssignment, bind_ok, openEquipmentRow_ok, now_ok, put_ok,
    pure_ok] at h
  obtain ⟨a, _, ⟨⟨found, opened⟩, rfl⟩, _, _, ⟨rfl, rfl⟩, _, _, ⟨faultless, rfl⟩, rfl, rfl⟩ := h
  exact ⟨a, found, opened, rfl, faultless, rfl⟩

theorem appendEquipmentEvent_ok {item : EquipmentId} {assignment : Option EquipmentAssignmentId}
    {type : EventType} {holder : Option UserId} {status : Option EquipmentStatus}
    {reportedBy : UserId} {notes : Option String} {e : Entry .equipmentEvent EquipmentEvent}
    (h : appendEquipmentEvent item assignment type holder status reportedBy notes s = .ok (e, s')) :
    e = ⟨s.equipmentEvents.next,
        { equipment := item, assignment, type, holder, status, reportedBy, notes
          occurredAt := ⟨s.clock⟩ }⟩ ∧
      s.insertFault .equipmentEvent e.val = none ∧
      s' = { s with
        equipmentEvents := s.equipmentEvents.insert e.val, clock := s.clock + 1 } := by
  simp only [appendEquipmentEvent, bind_ok, now_ok, insert, insertOr_ok] at h
  obtain ⟨_, _, ⟨rfl, rfl⟩, faultless, rfl, rfl⟩ := h
  exact ⟨rfl, faultless, rfl⟩

/-! ## Accessories -/

theorem createAccessory_ok {publicId : Option String} {name : String} {quantity : Int64}
    {room : Option RoomId} {e : Entry .accessory Accessory}
    (h : createAccessory publicId name quantity room s = .ok (e, s')) :
    ∃ minted, s.insertFault .accessory e.val = none ∧ e.id = s.accessories.next ∧
      e.val.room = room ∧ e.val.quantity = quantity.toInt ∧ 0 ≤ e.val.quantity ∧
      s' = { s with accessories := s.accessories.insert e.val, clock := s.clock + 1, minted } := by
  simp only [createAccessory, requireName, bind_ok, require_ok, now_ok, insertOr_ok,
    decide_eq_true_eq] at h
  obtain ⟨_, _, ⟨_, rfl⟩, _, _, ⟨positive, rfl⟩, _, _, named, _, _, ⟨rfl, rfl⟩, faultless, rfl,
    rfl⟩ := h
  obtain ⟨_, _, minted, rfl⟩ := publicIdOr_ok named
  exact ⟨minted, faultless, rfl, rfl, rfl, positive, rfl⟩

theorem setAccessoryQuantity_ok {item : AccessoryId} {quantity : Int} {u : Unit}
    {e : Entry .accessory Accessory} (found : s.row? item = some e)
    (h : setAccessoryQuantity item quantity s = .ok (u, s')) :
    s.updateFault .accessory { e.val with quantity, updatedAt := ⟨s.clock⟩ } = none ∧
      s' = { s with
        accessories := s.accessories.put item { e.val with quantity, updatedAt := ⟨s.clock⟩ }
        clock := s.clock + 1 } := by
  simp only [setAccessoryQuantity, bind_ok, now_ok, get_ok, and_assoc, exists_and_left,
    exists_eq_left] at h
  rw [show Store.row? { s with clock := s.clock + 1 } item = some e from found] at h
  exact put_ok.1 h

theorem openAccessoryAssignment_ok {item : AccessoryId} {holder assignedBy : UserId} {units : Int}
    {a : Entry .accessoryAssignment AccessoryAssignment}
    (h : openAccessoryAssignment item holder units assignedBy s = .ok (a, s')) :
    ∃ publicId minted, publicId ∉ s.publicIds ∧
      a = ⟨s.accessoryAssignments.next,
        { publicId, accessory := item, holder, quantity := units, assignedBy := some assignedBy
          assignedAt := ⟨s.clock⟩, returnedAt := none, state := .opened }⟩ ∧
      s.insertFault .accessoryAssignment a.val = none ∧
      s' = { s with
        accessoryAssignments := s.accessoryAssignments.insert a.val
        clock := s.clock + 1, minted } := by
  simp only [openAccessoryAssignment, bind_ok, now_ok, insertOr_ok] at h
  obtain ⟨publicId, _, named, _, _, ⟨rfl, rfl⟩, faultless, rfl, rfl⟩ := h
  obtain ⟨fresh, minted, rfl⟩ := mint_ok named
  exact ⟨publicId, minted, fresh, rfl, faultless, rfl⟩

theorem addToAccessoryAssignment_eq {id : AccessoryAssignmentId} (units : Int)
    {a : Entry .accessoryAssignment AccessoryAssignment} (found : s.row? id = some a)
    (opened : a.val.isOpen = true) :
    addToAccessoryAssignment id units s =
      overwrite id { a.val with quantity := storedSum a.val.quantity units } s := by
  unfold addToAccessoryAssignment
  rw [bind_of_ok (get_ok.2 ⟨rfl, rfl⟩)]
  simp only [found, Option.filter_some, opened, if_true]

/-- A row that is not open, or not there, is left alone. -/
theorem addToAccessoryAssignment_idle {id : AccessoryAssignmentId} {units : Int} {u : Unit}
    (idle : (s.row? id).filter (·.val.isOpen) = none) :
    addToAccessoryAssignment id units s = .ok (u, s') ↔ s' = s := by
  unfold addToAccessoryAssignment
  rw [bind_of_ok (get_ok.2 ⟨rfl, rfl⟩)]
  simp only [idle, pure_ok, true_and]

theorem increaseAccessoryAssignment_stored {id : AccessoryAssignmentId} {units : Int}
    {a after : Entry .accessoryAssignment AccessoryAssignment} (found : s.row? id = some a)
    (opened : a.val.isOpen = true)
    (h : increaseAccessoryAssignment id units s = .ok (after, s')) :
    after = { a with val := { a.val with quantity := storedSum a.val.quantity units } } ∧
      s.updateFault .accessoryAssignment after.val = none ∧
      s' = { s with accessoryAssignments := s.accessoryAssignments.put id after.val } := by
  simp only [increaseAccessoryAssignment, bind_ok, addToAccessoryAssignment_eq units found opened,
    overwrite_ok, reread_ok] at h
  obtain ⟨_, _, ⟨faultless, rfl⟩, reread, fits, rfl⟩ := h
  obtain rfl := Option.some.inj (reread.symm.trans (Table.get?_put_self found))
  exact ⟨rfl, Store.updateFault_eq_none.2 ⟨fits, faultless⟩, rfl⟩

theorem takeFromAccessoryAssignment_eq {id : AccessoryAssignmentId} (units : Int) {rest : Int}
    {a : Entry .accessoryAssignment AccessoryAssignment} (found : s.row? id = some a)
    (opened : a.val.isOpen = true) (summed : storedSum a.val.quantity (-units) = rest) :
    takeFromAccessoryAssignment id units s =
      overwrite id { a.val with
        quantity := rest
        state := if rest = 0 then .closed else a.val.state
        returnedAt := if rest = 0 then some ⟨s.clock⟩ else a.val.returnedAt }
        { s with clock := s.clock + 1 } := by
  subst summed
  unfold takeFromAccessoryAssignment
  rw [bind_of_ok (now_ok.2 ⟨rfl, rfl⟩), bind_of_ok (get_ok.2 ⟨rfl, rfl⟩)]
  simp only [show Store.row? { s with clock := s.clock + 1 } id = some a from found,
    Option.filter_some, opened, if_true]

/-- A row that is not open, or not there, is left alone. -/
theorem takeFromAccessoryAssignment_idle {id : AccessoryAssignmentId} {units : Int} {u : Unit}
    (idle : (s.row? id).filter (·.val.isOpen) = none) :
    takeFromAccessoryAssignment id units s = .ok (u, s') ↔ s' = { s with clock := s.clock + 1 } := by
  unfold takeFromAccessoryAssignment
  rw [bind_of_ok (now_ok.2 ⟨rfl, rfl⟩), bind_of_ok (get_ok.2 ⟨rfl, rfl⟩)]
  rw [show (Store.row? { s with clock := s.clock + 1 } id).filter (·.val.isOpen) = none from idle]
  simp only [pure_ok, true_and]

theorem reduceAccessoryAssignment_stored {id : AccessoryAssignmentId} {units rest : Int}
    {a after : Entry .accessoryAssignment AccessoryAssignment} (found : s.row? id = some a)
    (opened : a.val.isOpen = true) (summed : storedSum a.val.quantity (-units) = rest)
    (h : reduceAccessoryAssignment id units s = .ok (after, s')) :
    after = { a with val := { a.val with
        quantity := rest
        state := if rest = 0 then .closed else a.val.state
        returnedAt := if rest = 0 then some ⟨s.clock⟩ else a.val.returnedAt } } ∧
      s.updateFault .accessoryAssignment after.val = none ∧
      s' = { s with
        accessoryAssignments := s.accessoryAssignments.put id after.val
        clock := s.clock + 1 } := by
  simp only [reduceAccessoryAssignment, bind_ok,
    takeFromAccessoryAssignment_eq units found opened summed, overwrite_ok, reread_ok] at h
  obtain ⟨_, _, ⟨faultless, rfl⟩, reread, fits, rfl⟩ := h
  obtain rfl := Option.some.inj (reread.symm.trans (Table.get?_put_self found))
  exact ⟨rfl, Store.updateFault_eq_none.2 ⟨fits, faultless⟩, rfl⟩

/-- Units go into the holder's open assignment, or into a new one if there is none. -/
theorem handAccessories_ok {item : AccessoryId} {holder assignedBy : UserId} {units : Int}
    {a : Entry .accessoryAssignment AccessoryAssignment}
    (h : handAccessories item holder units assignedBy s = .ok (a, s')) :
    (∃ held, s.openAccessoryAssignment item holder = some held ∧
      increaseAccessoryAssignment held.id units s = .ok (a, s')) ∨
      s.openAccessoryAssignment item holder = none ∧
        openAccessoryAssignment item holder units assignedBy s = .ok (a, s') := by
  simp only [handAccessories, bind_ok, get_ok, and_assoc, exists_and_left, exists_eq_left] at h
  cases found : s.openAccessoryAssignment item holder with
  | some held =>
    rw [found] at h
    exact .inl ⟨held, rfl, h⟩
  | none =>
    rw [found] at h
    exact .inr ⟨rfl, h⟩

theorem appendAccessoryEvent_ok {item : AccessoryId} {custody : Option AccessoryAssignmentId}
    {type : EventType} {holder : Option UserId} {quantity quantityChange : Int}
    {reportedBy : UserId} {notes : Option String} {e : Entry .accessoryEvent AccessoryEvent}
    (h : appendAccessoryEvent item custody type holder quantity quantityChange reportedBy notes s =
      .ok (e, s')) :
    UnitEvent.Of e.val item custody type holder quantity quantityChange reportedBy ∧
      s.insertFault .accessoryEvent e.val = none ∧
      s' = { s with
        accessoryEvents := s.accessoryEvents.insert e.val, clock := s.clock + 1 } := by
  simp only [appendAccessoryEvent, bind_ok, now_ok, insert, insertOr_ok] at h
  obtain ⟨_, _, ⟨rfl, rfl⟩, faultless, rfl, rfl⟩ := h
  exact ⟨⟨rfl, rfl, rfl, rfl, rfl, rfl, rfl⟩, faultless, rfl⟩

/-! ## Consumables -/

theorem createConsumable_ok {input : ConsumableInput} {room : Option RoomId}
    {e : Entry .consumable Consumable} (h : createConsumable input room s = .ok (e, s')) :
    ∃ minted, s.insertFault .consumable e.val = none ∧ e.id = s.consumables.next ∧
      e.val.room = room ∧ e.val.quantity = input.quantity.toInt ∧ 0 ≤ e.val.quantity ∧
      s' = { s with consumables := s.consumables.insert e.val, clock := s.clock + 1, minted } := by
  simp only [createConsumable, requireName, bind_ok, require_ok, now_ok, insertOr_ok,
    decide_eq_true_eq] at h
  obtain ⟨_, _, ⟨_, rfl⟩, _, _, ⟨positive, rfl⟩, _, _, ⟨_, rfl⟩, _, _, named, _, _, ⟨rfl, rfl⟩,
    faultless, rfl, rfl⟩ := h
  obtain ⟨_, _, minted, rfl⟩ := publicIdOr_ok named
  exact ⟨minted, faultless, rfl, rfl, rfl, positive, rfl⟩

theorem setConsumableQuantity_ok {item : ConsumableId} {quantity : Int} {u : Unit}
    {e : Entry .consumable Consumable} (found : s.row? item = some e)
    (h : setConsumableQuantity item quantity s = .ok (u, s')) :
    s.updateFault .consumable { e.val with quantity, updatedAt := ⟨s.clock⟩ } = none ∧
      s' = { s with
        consumables := s.consumables.put item { e.val with quantity, updatedAt := ⟨s.clock⟩ }
        clock := s.clock + 1 } := by
  simp only [setConsumableQuantity, bind_ok, now_ok, get_ok, and_assoc, exists_and_left,
    exists_eq_left] at h
  rw [show Store.row? { s with clock := s.clock + 1 } item = some e from found] at h
  exact put_ok.1 h

theorem openIssue_ok {item : ConsumableId} {holder assignedBy : UserId} {units : Int}
    {purpose : Option String} {i : Entry .consumableIssue ConsumableIssue}
    (h : openIssue item holder units assignedBy purpose s = .ok (i, s')) :
    ∃ publicId minted, publicId ∉ s.publicIds ∧
      i = ⟨s.consumableIssues.next,
        { publicId, consumable := item, holder, quantity := units, issuedQuantity := units
          assignedBy := some assignedBy, purpose, issuedAt := ⟨s.clock⟩, returnedAt := none
          state := .opened }⟩ ∧
      s.insertFault .consumableIssue i.val = none ∧
      s' = { s with
        consumableIssues := s.consumableIssues.insert i.val
        clock := s.clock + 1, minted } := by
  simp only [openIssue, bind_ok, now_ok, insertOr_ok] at h
  obtain ⟨publicId, _, named, _, _, ⟨rfl, rfl⟩, faultless, rfl, rfl⟩ := h
  obtain ⟨fresh, minted, rfl⟩ := mint_ok named
  exact ⟨publicId, minted, fresh, rfl, faultless, rfl⟩

theorem addToIssue_eq {id : ConsumableIssueId} (units : Int)
    {i : Entry .consumableIssue ConsumableIssue} (found : s.row? id = some i)
    (opened : i.val.isOpen = true) :
    addToIssue id units s =
      overwrite id { i.val with
        quantity := storedSum i.val.quantity units
        issuedQuantity := storedSum i.val.issuedQuantity units } s := by
  unfold addToIssue
  rw [bind_of_ok (get_ok.2 ⟨rfl, rfl⟩)]
  simp only [found, Option.filter_some, opened, if_true]

/-- A row that is not open, or not there, is left alone. -/
theorem addToIssue_idle {id : ConsumableIssueId} {units : Int} {u : Unit}
    (idle : (s.row? id).filter (·.val.isOpen) = none) :
    addToIssue id units s = .ok (u, s') ↔ s' = s := by
  unfold addToIssue
  rw [bind_of_ok (get_ok.2 ⟨rfl, rfl⟩)]
  simp only [idle, pure_ok, true_and]

theorem increaseIssue_stored {id : ConsumableIssueId} {units : Int}
    {i after : Entry .consumableIssue ConsumableIssue} (found : s.row? id = some i)
    (opened : i.val.isOpen = true) (h : increaseIssue id units s = .ok (after, s')) :
    after = { i with val := { i.val with
        quantity := storedSum i.val.quantity units
        issuedQuantity := storedSum i.val.issuedQuantity units } } ∧
      s.updateFault .consumableIssue after.val = none ∧
      s' = { s with consumableIssues := s.consumableIssues.put id after.val } := by
  simp only [increaseIssue, bind_ok, addToIssue_eq units found opened, overwrite_ok, reread_ok] at h
  obtain ⟨_, _, ⟨faultless, rfl⟩, reread, fits, rfl⟩ := h
  obtain rfl := Option.some.inj (reread.symm.trans (Table.get?_put_self found))
  exact ⟨rfl, Store.updateFault_eq_none.2 ⟨fits, faultless⟩, rfl⟩

theorem takeFromIssue_eq {id : ConsumableIssueId} (units : Int) {rest : Int}
    {i : Entry .consumableIssue ConsumableIssue} (found : s.row? id = some i)
    (opened : i.val.isOpen = true) (summed : storedSum i.val.quantity (-units) = rest) :
    takeFromIssue id units s =
      overwrite id { i.val with
        quantity := rest
        state := if rest = 0 then .closed else i.val.state
        returnedAt := if rest = 0 then some ⟨s.clock⟩ else i.val.returnedAt }
        { s with clock := s.clock + 1 } := by
  subst summed
  unfold takeFromIssue
  rw [bind_of_ok (now_ok.2 ⟨rfl, rfl⟩), bind_of_ok (get_ok.2 ⟨rfl, rfl⟩)]
  simp only [show Store.row? { s with clock := s.clock + 1 } id = some i from found,
    Option.filter_some, opened, if_true]

/-- A row that is not open, or not there, is left alone. -/
theorem takeFromIssue_idle {id : ConsumableIssueId} {units : Int} {u : Unit}
    (idle : (s.row? id).filter (·.val.isOpen) = none) :
    takeFromIssue id units s = .ok (u, s') ↔ s' = { s with clock := s.clock + 1 } := by
  unfold takeFromIssue
  rw [bind_of_ok (now_ok.2 ⟨rfl, rfl⟩), bind_of_ok (get_ok.2 ⟨rfl, rfl⟩)]
  rw [show (Store.row? { s with clock := s.clock + 1 } id).filter (·.val.isOpen) = none from idle]
  simp only [pure_ok, true_and]

theorem reduceIssue_stored {id : ConsumableIssueId} {units rest : Int}
    {i after : Entry .consumableIssue ConsumableIssue} (found : s.row? id = some i)
    (opened : i.val.isOpen = true) (summed : storedSum i.val.quantity (-units) = rest)
    (h : reduceIssue id units s = .ok (after, s')) :
    after = { i with val := { i.val with
        quantity := rest
        state := if rest = 0 then .closed else i.val.state
        returnedAt := if rest = 0 then some ⟨s.clock⟩ else i.val.returnedAt } } ∧
      s.updateFault .consumableIssue after.val = none ∧
      s' = { s with
        consumableIssues := s.consumableIssues.put id after.val
        clock := s.clock + 1 } := by
  simp only [reduceIssue, bind_ok, takeFromIssue_eq units found opened summed, overwrite_ok,
    reread_ok] at h
  obtain ⟨_, _, ⟨faultless, rfl⟩, reread, fits, rfl⟩ := h
  obtain rfl := Option.some.inj (reread.symm.trans (Table.get?_put_self found))
  exact ⟨rfl, Store.updateFault_eq_none.2 ⟨fits, faultless⟩, rfl⟩

/-- Units go into the holder's open issue, or into a new one if there is none. -/
theorem giveUnits_ok {item : ConsumableId} {holder assignedBy : UserId} {units : Int}
    {purpose : Option String} {i : Entry .consumableIssue ConsumableIssue}
    (h : giveUnits item holder units assignedBy purpose s = .ok (i, s')) :
    (∃ held, s.openIssue item holder = some held ∧
      increaseIssue held.id units s = .ok (i, s')) ∨
      s.openIssue item holder = none ∧
        openIssue item holder units assignedBy purpose s = .ok (i, s') := by
  simp only [giveUnits, bind_ok, get_ok, and_assoc, exists_and_left, exists_eq_left] at h
  cases found : s.openIssue item holder with
  | some held =>
    rw [found] at h
    exact .inl ⟨held, rfl, h⟩
  | none =>
    rw [found] at h
    exact .inr ⟨rfl, h⟩

theorem appendConsumableEvent_ok {item : ConsumableId} {custody : Option ConsumableIssueId}
    {type : EventType} {holder : Option UserId} {quantity quantityChange : Int}
    {reportedBy : UserId} {notes : Option String} {e : Entry .consumableEvent ConsumableEvent}
    (h : appendConsumableEvent item custody type holder quantity quantityChange reportedBy notes s =
      .ok (e, s')) :
    UnitEvent.Of e.val item custody type holder quantity quantityChange reportedBy ∧
      s.insertFault .consumableEvent e.val = none ∧
      s' = { s with
        consumableEvents := s.consumableEvents.insert e.val, clock := s.clock + 1 } := by
  simp only [appendConsumableEvent, bind_ok, now_ok, insert, insertOr_ok] at h
  obtain ⟨_, _, ⟨rfl, rfl⟩, faultless, rfl, rfl⟩ := h
  exact ⟨⟨rfl, rfl, rfl, rfl, rfl, rfl, rfl⟩, faultless, rfl⟩

/-! ## The audit log -/

theorem appendAudit_ok {actor : Actor} {entry : AuditEntry} {scope : ScopeNames} {u : Unit}
    (h : appendAudit actor entry scope s = .ok (u, s')) :
    ∃ row minted,
      row.Tells actor entry.action entry.targetKind entry.targetPublicId entry.targetName scope ∧
      s.insertFault .audit row = none ∧
      s' = { s with audit := s.audit.insert row, clock := s.clock + 1, minted } := by
  simp only [appendAudit, bind_ok, now_ok, insertOr_ok, pure_ok] at h
  obtain ⟨_, _, named, _, _, ⟨rfl, rfl⟩, _, _, ⟨faultless, _, rfl⟩, _, rfl⟩ := h
  obtain ⟨_, minted, rfl⟩ := mint_ok named
  exact ⟨_, minted, ⟨rfl, rfl, rfl, rfl, rfl, rfl, rfl⟩, faultless, rfl⟩

/-- Recording goes through only into the log, where it leaves one row. -/
theorem record_ok {sink : AuditSink} {actor : Actor} {entry : AuditEntry} {u : Unit}
    (h : record sink actor entry s = .ok (u, s')) :
    sink = .log ∧ ∃ row minted,
      row.Tells actor entry.action entry.targetKind entry.targetPublicId entry.targetName
        (s.scopeNames entry.room) ∧
      s.insertFault .audit row = none ∧
      s' = { s with audit := s.audit.insert row, clock := s.clock + 1, minted } := by
  cases sink with
  | failing text => exact absurd h throw_ok.1
  | log =>
    simp only [record, bind_ok, get_ok] at h
    obtain ⟨_, _, ⟨rfl, rfl⟩, appended⟩ := h
    exact ⟨rfl, appendAudit_ok appended⟩

end Tx

end Quartermaster
