import Quartermaster.Proofs.Store.Composed

/-!
# What an operation on equipment does

`EquipmentStep ctx s op done s'`: in the store `s`, the operation `op` for the caller `ctx` may
leave the store `s'` and tell `done`. A rule for each operation names the rows that were found, the
permissions and conditions that were met, and every row that is written.

Result: `EquipmentOp.run_ok`. An operation that is not refused takes such a step, and the store
stays sound.
-/

namespace Quartermaster

/-- Whether the operation only reads. -/
def EquipmentOp.isRead : EquipmentOp → Bool
  | .get _ | .list | .history _ => true
  | _ => false

/-- The row is made from the input. It has the public id that was given, if one was. -/
structure EquipmentInput.Makes (input : EquipmentInput) (row : Equipment) : Prop where
  publicId : ∀ id, input.publicId = some id → row.publicId = id
  name : row.name = input.name
  serialNumber : row.serialNumber = input.serialNumber

inductive EquipmentStep (ctx : Context) (s : Store) :
    EquipmentOp → Committed Answer → Store → Prop
  | read {op : EquipmentOp} {answer : Answer} :
      op.isRead = true → EquipmentStep ctx s op { answer } s
  | register {input : EquipmentInput} {room : Option RoomId} {e : Entry .equipment Equipment}
      {record : AuditRow} {clock minted : Nat}
      (placed : s.roomOf input.room = .ok room)
      (over_room : s.Permits ctx .roomAdmin room)
      (added : e.id = s.equipment.next)
      (in_room : e.val.room = room)
      (working : e.val.status = .ok)
      (told : record.Tells ctx.actor "equipment.register" .equipment e.val.publicId e.val.name
        (s.scopeNames room))
      (made : input.Makes e.val) :
      EquipmentStep ctx s (.register input) { answer := .equipment e }
        { s with
          equipment := s.equipment.insert e.val
          audit := s.audit.insert record, clock, minted }
  | assign {item user : String} {notes : Option String} {e : Entry .equipment Equipment}
      {u : Entry .user User} {a : Entry .equipmentAssignment EquipmentAssignment}
      {event : EquipmentEvent} {publicId : String} {since at' : Stamp} {record : AuditRow}
      {clock minted : Nat}
      (item_named : s.named? .equipment item = some e)
      (user_named : s.named? .user user = some u)
      (over_item : s.Permits ctx .roomClerk e.val.room)
      (over_user : s.Permits ctx .roomClerk u.val.room)
      (assignable : e.val.status.isAssignable = true)
      (free : s.openEquipmentAssignment e.id = none)
      (fresh : publicId ∉ s.publicIds)
      (opened : a = ⟨s.equipmentAssignments.next,
        { publicId, equipment := e.id, holder := u.id, assignedBy := some ctx.actor.id
          assignedAt := since, returnedAt := none, state := .opened, notes }⟩)
      (appended : event =
        { equipment := e.id, assignment := some a.id, type := .assigned, holder := some u.id
          status := none, reportedBy := ctx.actor.id, notes, occurredAt := at' })
      (told : record.Tells ctx.actor "equipment.assign" .equipment e.val.publicId e.val.name
        (s.scopeNames e.val.room)) :
      EquipmentStep ctx s (.assign item user notes)
        { answer := .equipmentCustody
            { item := e, isAssigned := true, holder := some u.val.publicId, assignment := some a }
          events := [.equipmentAssigned e.val.publicId user ctx.actor.publicId] }
        { s with
          equipmentAssignments := s.equipmentAssignments.insert a.val
          equipmentEvents := s.equipmentEvents.insert event
          audit := s.audit.insert record, clock, minted }
  | unassign {item user : String} {notes : Option String} {e : Entry .equipment Equipment}
      {u : Entry .user User} {held closed : Entry .equipmentAssignment EquipmentAssignment}
      {event : EquipmentEvent} {until' at' : Stamp} {record : AuditRow} {clock minted : Nat}
      (item_named : s.named? .equipment item = some e)
      (user_named : s.named? .user user = some u)
      (over_item : s.Permits ctx .roomClerk e.val.room)
      (is_held : s.openEquipmentAssignment e.id = some held)
      (by_user : held.val.holder = u.id)
      (returned : closed = { held with val := { held.val with
        state := .closed, returnedAt := some until', notes := notes.or held.val.notes } })
      (appended : event =
        { equipment := e.id, assignment := some held.id, type := .returned, holder := some u.id
          status := none, reportedBy := ctx.actor.id, notes, occurredAt := at' })
      (told : record.Tells ctx.actor "equipment.unassign" .equipment e.val.publicId e.val.name
        (s.scopeNames e.val.room)) :
      EquipmentStep ctx s (.unassign item user notes)
        { answer := .equipmentCustody
            { item := e, isAssigned := false, holder := none, assignment := some closed }
          events := [.equipmentReturned e.val.publicId user ctx.actor.publicId] }
        { s with
          equipmentAssignments := s.equipmentAssignments.put held.id closed.val
          equipmentEvents := s.equipmentEvents.insert event
          audit := s.audit.insert record, clock, minted }
  | reassign {item giver receiver : String} {notes : Option String}
      {e : Entry .equipment Equipment} {g u : Entry .user User}
      {held moved : Entry .equipmentAssignment EquipmentAssignment}
      {back on : EquipmentEvent} {since at₁ at₂ : Stamp} {record : AuditRow} {clock minted : Nat}
      (different : giver ≠ receiver)
      (item_named : s.named? .equipment item = some e)
      (giver_named : s.named? .user giver = some g)
      (receiver_named : s.named? .user receiver = some u)
      (over_item : s.Permits ctx .roomClerk e.val.room)
      (over_user : s.Permits ctx .roomClerk u.val.room)
      (assignable : e.val.status.isAssignable = true)
      (is_held : s.openEquipmentAssignment e.id = some held)
      (by_giver : held.val.holder = g.id)
      (handed : moved = { held with val := { held.val with
        holder := u.id, assignedBy := some ctx.actor.id, assignedAt := since, notes } })
      (first : back =
        { equipment := e.id, assignment := some held.id, type := .returned, holder := some g.id
          status := none, reportedBy := ctx.actor.id, notes, occurredAt := at₁ })
      (second : on =
        { equipment := e.id, assignment := some held.id, type := .assigned, holder := some u.id
          status := none, reportedBy := ctx.actor.id, notes, occurredAt := at₂ })
      (told : record.Tells ctx.actor "equipment.reassign" .equipment e.val.publicId e.val.name
        (s.scopeNames e.val.room)) :
      EquipmentStep ctx s (.reassign item giver receiver notes)
        { answer := .equipmentCustody
            { item := e, isAssigned := true, holder := some u.val.publicId
              assignment := some moved }
          events :=
            [.equipmentReturned e.val.publicId giver ctx.actor.publicId,
             .equipmentAssigned e.val.publicId receiver ctx.actor.publicId] }
        { s with
          equipmentAssignments := s.equipmentAssignments.put held.id moved.val
          equipmentEvents := (s.equipmentEvents.insert back).insert on
          audit := s.audit.insert record, clock, minted }
  | changeStatus {item : String} {status : EquipmentStatus} {notes : Option String}
      {e after : Entry .equipment Equipment}
      {held : Option (Entry .equipmentAssignment EquipmentAssignment)} {event : EquipmentEvent}
      {updatedAt at' : Stamp} {record : AuditRow} {clock minted : Nat}
      (item_named : s.named? .equipment item = some e)
      (over_item : s.Permits ctx .roomAdmin e.val.room)
      (not_final : e.val.status.isTerminal = false)
      (different : e.val.status ≠ status)
      (is_held : s.openEquipmentAssignment e.id = held)
      (given_back : status.requiresUnassigned = true → held = none)
      (changed : after = { e with val := { e.val with status, updatedAt } })
      (appended : event =
        { equipment := e.id, assignment := held.map (·.id), type := .statusChanged
          holder := held.map (·.val.holder), status := some status, reportedBy := ctx.actor.id
          notes, occurredAt := at' })
      (told : record.Tells ctx.actor "equipment.status" .equipment e.val.publicId e.val.name
        (s.scopeNames e.val.room)) :
      EquipmentStep ctx s (.changeStatus item status notes)
        { answer := .equipmentCustody
            { item := after, isAssigned := held.isSome
              holder := s.userPublicId (held.map (·.val.holder)), assignment := held }
          events := [.equipmentStatusChanged e.val.publicId status ctx.actor.publicId] }
        { s with
          equipment := s.equipment.put e.id after.val
          equipmentEvents := s.equipmentEvents.insert event
          audit := s.audit.insert record, clock, minted }

namespace Custody

open Tx (bind_ok pure_ok read_ok get_ok require_ok present_ok)

variable {d : Setting} {ctx : Context} {s s' : Store}

instance {action : String} {e : Entry .equipment Equipment} {details : List (String × Json)} :
    Tx.Composed (recordItem d ctx action e details) :=
  inferInstanceAs (Tx.Composed (Tx.record _ _ _))

theorem findItem_ok {required : Role} {item : String} {e : Entry .equipment Equipment} :
    findItem ctx required item s = .ok e ↔
      s.named? .equipment item = some e ∧ s.Permits ctx required e.val.room := by
  simp only [findItem, Results.bind_ok, Store.named_ok, Store.authorize_ok, Results.pure_ok]
  constructor
  · rintro ⟨_, found, _, permitted, rfl⟩
    exact ⟨found, permitted⟩
  · rintro ⟨found, permitted⟩
    exact ⟨e, found, (), permitted, rfl⟩

theorem authorizeHandover_ok {e : Entry .equipment Equipment} {receiver : Entry .user User}
    {u : Unit} :
    authorizeHandover ctx e receiver s = .ok (u, s') ↔
      (s.Permits ctx .roomClerk e.val.room ∧ s.Permits ctx .roomClerk receiver.val.room) ∧
        s' = s := by
  simp only [authorizeHandover, bind_ok, Tx.authorize_ok]
  constructor
  · rintro ⟨_, _, ⟨item, rfl⟩, user, rfl⟩
    exact ⟨⟨item, user⟩, rfl⟩
  · rintro ⟨⟨item, user⟩, rfl⟩
    exact ⟨(), s', ⟨item, rfl⟩, user, rfl⟩

theorem createEquipment_makes {input : EquipmentInput} {room : Option RoomId}
    {e : Entry .equipment Equipment}
    (h : Tx.createEquipment input.publicId input.name input.serialNumber room s = .ok (e, s')) :
    input.Makes e.val := by
  simp only [Tx.createEquipment, bind_ok, Tx.now_ok, Tx.insertOr_ok] at h
  obtain ⟨_, _, _, _, _, named, _, _, ⟨rfl, _⟩, _, rfl, _⟩ := h
  exact ⟨fun id given => ((Tx.publicIdOr_ok named).1 id given).1, rfl, rfl⟩

theorem registerEquipment_ok {input : EquipmentInput}
    {done : Committed (Entry .equipment Equipment)} (sound : s.Sound)
    (h : registerEquipment d ctx input s = .ok (done, s')) :
    EquipmentStep ctx s (.register input) (done.map .equipment) s' ∧ s'.Sound := by
  simp only [registerEquipment, bind_ok, read_ok, Tx.authorize_ok, pure_ok] at h
  obtain ⟨room, _, ⟨placed, rfl⟩, _, _, ⟨permitted, rfl⟩, e, _, created, _, _, recorded, rfl,
    rfl⟩ := h
  have kept := (sound.after created).after recorded
  have made := createEquipment_makes created
  obtain ⟨_, _, added, rfl, working, rfl⟩ := Tx.createEquipment_ok created
  obtain ⟨_, record, _, told, _, rfl⟩ := Tx.record_ok recorded
  exact ⟨.register placed permitted added rfl working told made, kept⟩

theorem assignEquipment_ok {item user : String} {notes : Option String}
    {found : Entry .equipment Equipment × Entry .user User} {done : Committed EquipmentCustody}
    (sound : s.Sound) (reads : (assignEquipment d ctx item user notes).read s = .ok found)
    (h : (assignEquipment d ctx item user notes).commit found s = .ok (done, s')) :
    EquipmentStep ctx s (.assign item user notes) (done.map .equipmentCustody) s' ∧ s'.Sound := by
  simp only [assignEquipment, Results.bind_ok, findItem_ok, Store.named_ok, Store.authorize_ok,
    Results.pure_ok] at reads
  obtain ⟨e, ⟨item_named, _⟩, u, user_named, _, _, rfl⟩ := reads
  simp only [assignEquipment, bind_ok, lock_ok, reload_ok, authorizeHandover_ok, require_ok, get_ok,
    pure_ok] at h
  obtain ⟨_, _, ⟨locked, rfl⟩, _, _, ⟨reloaded, rfl⟩, _, _, ⟨⟨over_item, over_user⟩, rfl⟩, _, _,
    ⟨assignable, rfl⟩, _, _, ⟨rfl, rfl⟩, _, _, ⟨free, rfl⟩, a, _, opened, _, _, appended, _, _,
    recorded, rfl, rfl⟩ := h
  -- both phases look at one store, so the rows that are locked are those that were found
  obtain rfl := Store.named_row sound.equipment item_named locked
  obtain rfl := Store.named_row sound.users user_named reloaded
  have kept := ((sound.after opened).after appended).after recorded
  obtain ⟨_, _, fresh, rfl, _, rfl⟩ := Tx.openEquipmentAssignment_ok opened
  obtain ⟨rfl, _, rfl⟩ := Tx.appendEquipmentEvent_ok appended
  obtain ⟨_, record, _, told, _, rfl⟩ := Tx.record_ok recorded
  exact ⟨.assign item_named user_named over_item over_user assignable
    (Option.isNone_iff_eq_none.1 free) fresh rfl rfl told, kept⟩

theorem unassignEquipment_ok {item user : String} {notes : Option String}
    {found : Entry .equipment Equipment × Entry .user User} {done : Committed EquipmentCustody}
    (sound : s.Sound) (reads : (unassignEquipment d ctx item user notes).read s = .ok found)
    (h : (unassignEquipment d ctx item user notes).commit found s = .ok (done, s')) :
    EquipmentStep ctx s (.unassign item user notes) (done.map .equipmentCustody) s' ∧ s'.Sound := by
  simp only [unassignEquipment, Results.bind_ok, findItem_ok, Store.named_ok,
    Results.pure_ok] at reads
  obtain ⟨e, ⟨item_named, _⟩, u, user_named, rfl⟩ := reads
  simp only [unassignEquipment, bind_ok, lock_ok, Tx.authorize_ok, present_ok, require_ok, get_ok,
    pure_ok, beq_iff_eq] at h
  obtain ⟨_, _, ⟨locked, rfl⟩, _, _, ⟨over_item, rfl⟩, _, _, ⟨rfl, rfl⟩, held, _, ⟨is_held, rfl⟩,
    _, _, ⟨by_user, rfl⟩, closed, _, returned, _, _, appended, _, _, recorded, rfl, rfl⟩ := h
  obtain rfl := Store.named_row sound.equipment item_named locked
  have kept := ((sound.after returned).after appended).after recorded
  obtain ⟨a, row, _, rfl, _, rfl⟩ := Tx.closeEquipmentAssignment_ok returned
  obtain rfl : a = held := Option.some.inj (row.symm.trans
    (sound.equipmentAssignments.get?_of_find? is_held))
  obtain ⟨rfl, _, rfl⟩ := Tx.appendEquipmentEvent_ok appended
  obtain ⟨_, record, _, told, _, rfl⟩ := Tx.record_ok recorded
  exact ⟨.unassign item_named user_named over_item is_held by_user rfl rfl told, kept⟩

theorem reassignEquipment_ok {item giver receiver : String} {notes : Option String}
    {found : Entry .equipment Equipment × Entry .user User × Entry .user User}
    {done : Committed EquipmentCustody} (sound : s.Sound)
    (reads : (reassignEquipment d ctx item giver receiver notes).read s = .ok found)
    (h : (reassignEquipment d ctx item giver receiver notes).commit found s = .ok (done, s')) :
    EquipmentStep ctx s (.reassign item giver receiver notes) (done.map .equipmentCustody) s' ∧
      s'.Sound := by
  have different : giver ≠ receiver := by
    rintro rfl
    simp [reassignEquipment, throw, throwThe, MonadExceptOf.throw, bind, Except.bind] at reads
  simp only [reassignEquipment, if_neg different, Results.bind_ok, findItem_ok, Store.named_ok,
    Store.authorize_ok, Results.pure_ok] at reads
  obtain ⟨e, ⟨item_named, _⟩, g, giver_named, u, receiver_named, _, _, rfl⟩ := reads
  simp only [reassignEquipment, bind_ok, lock_ok, reload_ok, authorizeHandover_ok, present_ok,
    require_ok, get_ok, pure_ok, beq_iff_eq] at h
  obtain ⟨_, _, ⟨locked, rfl⟩, _, _, ⟨reloaded, rfl⟩, _, _, ⟨⟨over_item, over_user⟩, rfl⟩, _, _,
    ⟨assignable, rfl⟩, _, _, ⟨rfl, rfl⟩, held, _, ⟨is_held, rfl⟩, _, _, ⟨by_giver, rfl⟩, _, _, first,
    moved, _, handed, _, _, second, _, _, recorded, rfl, rfl⟩ := h
  obtain rfl := Store.named_row sound.equipment item_named locked
  obtain rfl := Store.named_row sound.users receiver_named reloaded
  -- the ledger has the return before the assignment has its new holder
  have between := sound.after first
  have kept := ((between.after handed).after second).after recorded
  obtain ⟨rfl, _, rfl⟩ := Tx.appendEquipmentEvent_ok first
  obtain ⟨a, row, _, rfl, _, rfl⟩ := Tx.transferEquipmentAssignment_ok handed
  obtain rfl : a = held := Option.some.inj (row.symm.trans
    (sound.equipmentAssignments.get?_of_find? is_held))
  obtain ⟨rfl, _, rfl⟩ := Tx.appendEquipmentEvent_ok second
  obtain ⟨_, record, _, told, _, rfl⟩ := Tx.record_ok recorded
  exact ⟨.reassign different item_named giver_named receiver_named over_item over_user assignable
    is_held by_giver rfl rfl rfl told, kept⟩

theorem changeEquipmentStatus_ok {item : String} {status : EquipmentStatus} {notes : Option String}
    {found : Entry .equipment Equipment} {done : Committed EquipmentCustody} (sound : s.Sound)
    (reads : (changeEquipmentStatus d ctx item status notes).read s = .ok found)
    (h : (changeEquipmentStatus d ctx item status notes).commit found s = .ok (done, s')) :
    EquipmentStep ctx s (.changeStatus item status notes) (done.map .equipmentCustody) s' ∧
      s'.Sound := by
  obtain ⟨item_named, _⟩ := findItem_ok.1 reads
  simp only [changeEquipmentStatus, bind_ok, lock_ok, Tx.authorize_ok, require_ok, get_ok, pure_ok,
    Bool.not_eq_true', bne_iff_ne, ne_eq, Bool.and_eq_false_iff] at h
  obtain ⟨e, _, ⟨locked, rfl⟩, _, _, ⟨over_item, rfl⟩, _, _, ⟨not_final, rfl⟩, _, _,
    ⟨different, rfl⟩, _, _, ⟨rfl, rfl⟩, _, _, ⟨given_back, rfl⟩, _, _, changed, _, _, appended,
    after, _, ⟨relocked, rfl⟩, _, _, recorded, _, _, ⟨rfl, rfl⟩, rfl, rfl⟩ := h
  obtain rfl := Store.named_row sound.equipment item_named locked
  have kept := ((sound.after changed).after appended).after recorded
  obtain ⟨_, rfl⟩ := Tx.setEquipmentStatus_ok locked changed
  obtain ⟨rfl, _, rfl⟩ := Tx.appendEquipmentEvent_ok appended
  -- the row that is read again is the one that was written
  obtain rfl := Option.some.inj (relocked.symm.trans (Table.get?_put_self locked))
  obtain ⟨_, record, _, told, _, rfl⟩ := Tx.record_ok recorded
  refine ⟨.changeStatus (e := e) item_named over_item not_final different rfl ?_ rfl rfl told, kept⟩
  intro needed
  exact given_back.elim (fun free => absurd needed (by simp [free])) (by simp)

end Custody

/-- An operation on equipment that is not refused takes a step. -/
theorem EquipmentOp.run_ok {d : Setting} {ctx : Context} {s : Store} {op : EquipmentOp}
    {answer : Answer} (sound : s.Sound) (h : (op.run d s ctx).answer = .ok answer) :
    ∃ done s', EquipmentStep ctx s op done s' ∧ s'.Sound ∧ op.run d s ctx = d.outcome done s' := by
  cases op with
  | get | list | history => exact ⟨{ answer }, s, .read rfl, sound, Setting.ofRead_ok h⟩
  | register input =>
    obtain ⟨done, s', ran, _, out⟩ := Setting.commit_mapOk h
    obtain ⟨step, kept⟩ := Custody.registerEquipment_ok sound ran
    exact ⟨_, s', step, kept, out⟩
  | assign item user notes =>
    obtain ⟨_, done, s', reads, ran, _, out⟩ := Setting.run_mapOk h
    obtain ⟨step, kept⟩ := Custody.assignEquipment_ok sound reads ran
    exact ⟨_, s', step, kept, out⟩
  | unassign item user notes =>
    obtain ⟨_, done, s', reads, ran, _, out⟩ := Setting.run_mapOk h
    obtain ⟨step, kept⟩ := Custody.unassignEquipment_ok sound reads ran
    exact ⟨_, s', step, kept, out⟩
  | reassign item giver receiver notes =>
    obtain ⟨_, done, s', reads, ran, _, out⟩ := Setting.run_mapOk h
    obtain ⟨step, kept⟩ := Custody.reassignEquipment_ok sound reads ran
    exact ⟨_, s', step, kept, out⟩
  | changeStatus item status notes =>
    obtain ⟨_, done, s', reads, ran, _, out⟩ := Setting.run_mapOk h
    obtain ⟨step, kept⟩ := Custody.changeEquipmentStatus_ok sound reads ran
    exact ⟨_, s', step, kept, out⟩

end Quartermaster
