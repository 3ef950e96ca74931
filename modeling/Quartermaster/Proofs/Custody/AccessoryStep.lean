import Quartermaster.Proofs.Store.Composed

/-!
# What an operation on accessories does

`AccessoryStep ctx s op done s'`: in the store `s`, the operation `op` for the caller `ctx` may
leave the store `s'` and tell `done`. All that change anything ask for the administrator's rank over
the room of the accessory.

Result: `AccessoryOp.run_ok`. An operation that is not refused takes such a step, and the store
stays sound.
-/

namespace Quartermaster

/-- Whether the operation only reads. -/
def AccessoryOp.isRead : AccessoryOp → Bool
  | .get _ | .list | .history _ => true
  | _ => false

/-- Some units less, and closed if none are left. -/
def AccessoryAssignment.less (a : AccessoryAssignment) (units : Int) (until' : Stamp) :
    AccessoryAssignment :=
  { a with
    quantity := a.quantity - units
    state := if a.quantity - units = 0 then .closed else a.state
    returnedAt := if a.quantity - units = 0 then some until' else a.returnedAt }

/-- The row is made from the input. It has the public id that was given, if one was. -/
structure AccessoryInput.Makes (input : AccessoryInput) (row : Accessory) : Prop where
  publicId : ∀ id, input.publicId = some id → row.publicId = id
  name : row.name = input.name
  quantity : row.quantity = input.quantity.toInt

inductive AccessoryStep (ctx : Context) (s : Store) :
    AccessoryOp → Committed Answer → Store → Prop
  | read {op : AccessoryOp} {answer : Answer} :
      op.isRead = true → AccessoryStep ctx s op { answer } s
  | registerEmpty {input : AccessoryInput} {room : Option RoomId} {e : Entry .accessory Accessory}
      {record : AuditRow} {clock minted : Nat}
      (placed : s.roomOf input.room = .ok room)
      (over_room : s.Permits ctx .roomAdmin room)
      (added : e.id = s.accessories.next)
      (in_room : e.val.room = room)
      (units : e.val.quantity = 0)
      (told : record.Tells ctx.actor "accessory.register" .accessory e.val.publicId e.val.name
        (s.scopeNames room))
      (made : input.Makes e.val) :
      AccessoryStep ctx s (.register input) { answer := .accessory e }
        { s with
          accessories := s.accessories.insert e.val
          audit := s.audit.insert record, clock, minted }
  | registerStocked {input : AccessoryInput} {room : Option RoomId} {e : Entry .accessory Accessory}
      {event : AccessoryEvent} {record : AuditRow} {clock minted : Nat}
      (placed : s.roomOf input.room = .ok room)
      (over_room : s.Permits ctx .roomAdmin room)
      (added : e.id = s.accessories.next)
      (in_room : e.val.room = room)
      (units : 0 < e.val.quantity)
      (appended : event.Of e.id none .restocked none e.val.quantity e.val.quantity ctx.actor.id)
      (told : record.Tells ctx.actor "accessory.register" .accessory e.val.publicId e.val.name
        (s.scopeNames room))
      (made : input.Makes e.val) :
      AccessoryStep ctx s (.register input)
        { answer := .accessory e
          events := [Custody.accessoryEvent e .restocked none e.val.quantity e.val.quantity] }
        { s with
          accessories := s.accessories.insert e.val
          accessoryEvents := s.accessoryEvents.insert event
          audit := s.audit.insert record, clock, minted }
  | assignMore {item user : String} {quantity : Int64} {available : Int}
      {e : Entry .accessory Accessory} {u : Entry .user User}
      {held after : Entry .accessoryAssignment AccessoryAssignment} {event : AccessoryEvent}
      {record : AuditRow} {clock minted : Nat}
      (positive : 0 < quantity.toInt)
      (item_named : s.named? .accessory item = some e)
      (user_named : s.named? .user user = some u)
      (over_item : s.Permits ctx .roomAdmin e.val.room)
      (shelf : s.available e = .ok available)
      (enough : quantity.toInt ≤ available)
      (is_held : s.openAccessoryAssignment e.id u.id = some held)
      (grown : after = { held with val := { held.val with
        quantity := held.val.quantity + quantity.toInt } })
      (appended : event.Of e.id (some held.id) .assigned (some u.id) quantity.toInt 0 ctx.actor.id)
      (told : record.Tells ctx.actor "accessory.assign" .accessory e.val.publicId e.val.name
        (s.scopeNames e.val.room)) :
      AccessoryStep ctx s (.assign item user quantity)
        { answer := .accessoryCustody
            { item := e, available := available - quantity.toInt, assignment := some after }
          events :=
            [Custody.accessoryEvent e .assigned (some u.val.publicId) quantity.toInt 0] }
        { s with
          accessoryAssignments := s.accessoryAssignments.put held.id after.val
          accessoryEvents := s.accessoryEvents.insert event
          audit := s.audit.insert record, clock, minted }
  | assignNew {item user : String} {quantity : Int64} {available : Int}
      {e : Entry .accessory Accessory} {u : Entry .user User}
      {a : Entry .accessoryAssignment AccessoryAssignment} {event : AccessoryEvent}
      {publicId : String} {since : Stamp} {record : AuditRow} {clock minted : Nat}
      (positive : 0 < quantity.toInt)
      (item_named : s.named? .accessory item = some e)
      (user_named : s.named? .user user = some u)
      (over_item : s.Permits ctx .roomAdmin e.val.room)
      (shelf : s.available e = .ok available)
      (enough : quantity.toInt ≤ available)
      (none_held : s.openAccessoryAssignment e.id u.id = none)
      (fresh : publicId ∉ s.publicIds)
      (opened : a = ⟨s.accessoryAssignments.next,
        { publicId, accessory := e.id, holder := u.id, quantity := quantity.toInt
          assignedBy := some ctx.actor.id, assignedAt := since, returnedAt := none
          state := .opened }⟩)
      (appended : event.Of e.id (some a.id) .assigned (some u.id) quantity.toInt 0 ctx.actor.id)
      (told : record.Tells ctx.actor "accessory.assign" .accessory e.val.publicId e.val.name
        (s.scopeNames e.val.room)) :
      AccessoryStep ctx s (.assign item user quantity)
        { answer := .accessoryCustody
            { item := e, available := available - quantity.toInt, assignment := some a }
          events :=
            [Custody.accessoryEvent e .assigned (some u.val.publicId) quantity.toInt 0] }
        { s with
          accessoryAssignments := s.accessoryAssignments.insert a.val
          accessoryEvents := s.accessoryEvents.insert event
          audit := s.audit.insert record, clock, minted }
  | takeBack {assignment : String} {quantity : Int64} {left : Int}
      {e : Entry .accessory Accessory} {u : Entry .user User}
      {a after : Entry .accessoryAssignment AccessoryAssignment} {event : AccessoryEvent}
      {until' : Stamp} {record : AuditRow} {clock minted : Nat}
      (positive : 0 < quantity.toInt)
      (custody_named : s.named? .accessoryAssignment assignment = some a)
      (item_found : s.row? a.val.accessory = some e)
      (over_item : s.Permits ctx .roomAdmin e.val.room)
      (opened : a.val.isOpen = true)
      (enough : quantity.toInt ≤ a.val.quantity)
      (holder_found : s.row? a.val.holder = some u)
      (reduced : after = { a with val := a.val.less quantity.toInt until' })
      (shelf : Store.available
        { s with accessoryAssignments := s.accessoryAssignments.put a.id after.val } e = .ok left)
      (appended : event.Of e.id (some a.id) .returned (some a.val.holder) quantity.toInt 0
        ctx.actor.id)
      (told : record.Tells ctx.actor "accessory.return" .accessory e.val.publicId e.val.name
        (s.scopeNames e.val.room)) :
      AccessoryStep ctx s (.takeBack assignment quantity)
        { answer := .accessoryCustody { item := e, available := left, assignment := some after }
          events :=
            [Custody.accessoryEvent e .returned (some u.val.publicId) quantity.toInt 0] }
        { s with
          accessoryAssignments := s.accessoryAssignments.put a.id after.val
          accessoryEvents := s.accessoryEvents.insert event
          audit := s.audit.insert record, clock, minted }
  | condemn {item : String} {quantity : Int64} {available : Int}
      {e after : Entry .accessory Accessory} {event : AccessoryEvent} {updatedAt : Stamp}
      {record : AuditRow} {clock minted : Nat}
      (positive : 0 < quantity.toInt)
      (item_named : s.named? .accessory item = some e)
      (over_item : s.Permits ctx .roomAdmin e.val.room)
      (shelf : s.available e = .ok available)
      (enough : quantity.toInt ≤ available)
      (changed : after = { e with val := { e.val with
        quantity := e.val.quantity - quantity.toInt, updatedAt } })
      (appended : event.Of e.id none .condemned none quantity.toInt (-quantity.toInt) ctx.actor.id)
      (told : record.Tells ctx.actor "accessory.condemn" .accessory e.val.publicId e.val.name
        (s.scopeNames e.val.room)) :
      AccessoryStep ctx s (.condemn item quantity)
        { answer := .accessoryCustody
            { item := after, available := available - quantity.toInt, assignment := none }
          events :=
            [Custody.accessoryEvent after .condemned none quantity.toInt (-quantity.toInt)] }
        { s with
          accessories := s.accessories.put e.id after.val
          accessoryEvents := s.accessoryEvents.insert event
          audit := s.audit.insert record, clock, minted }
  | restock {item : String} {quantity : Int64} {available : Int}
      {e after : Entry .accessory Accessory} {event : AccessoryEvent} {updatedAt : Stamp}
      {record : AuditRow} {clock minted : Nat}
      (positive : 0 < quantity.toInt)
      (item_named : s.named? .accessory item = some e)
      (over_item : s.Permits ctx .roomAdmin e.val.room)
      (fits : fitsWord (e.val.quantity + quantity.toInt) = true)
      (changed : after = { e with val := { e.val with
        quantity := e.val.quantity + quantity.toInt, updatedAt } })
      (shelf : s.available after = .ok available)
      (appended : event.Of e.id none .restocked none quantity.toInt quantity.toInt ctx.actor.id)
      (told : record.Tells ctx.actor "accessory.restock" .accessory e.val.publicId e.val.name
        (s.scopeNames e.val.room)) :
      AccessoryStep ctx s (.restock item quantity)
        { answer := .accessoryCustody { item := after, available, assignment := none }
          events :=
            [Custody.accessoryEvent after .restocked none quantity.toInt quantity.toInt] }
        { s with
          accessories := s.accessories.put e.id after.val
          accessoryEvents := s.accessoryEvents.insert event
          audit := s.audit.insert record, clock, minted }

namespace Custody

open Tx (bind_ok pure_ok read_ok get_ok require_ok present_ok)

variable {d : Setting} {ctx : Context} {s s' : Store}

instance {action : String} {e : Entry .accessory Accessory} {details : List (String × Json)} :
    Tx.Composed (recordAccessory d ctx action e details) :=
  inferInstanceAs (Tx.Composed (Tx.record _ _ _))

theorem findAccessory_ok {required : Role} {item : String} {e : Entry .accessory Accessory} :
    findAccessory ctx required item s = .ok e ↔
      s.named? .accessory item = some e ∧ s.Permits ctx required e.val.room := by
  simp only [findAccessory, Results.bind_ok, Store.named_ok, Store.authorize_ok, Results.pure_ok]
  constructor
  · rintro ⟨_, found, _, permitted, rfl⟩
    exact ⟨found, permitted⟩
  · rintro ⟨found, permitted⟩
    exact ⟨e, found, (), permitted, rfl⟩

theorem lockAccessory_ok {found e : Entry .accessory Accessory} :
    lockAccessory ctx found s = .ok (e, s') ↔
      (s.row? found.id = some e ∧ s.Permits ctx .roomAdmin e.val.room) ∧ s' = s := by
  simp only [lockAccessory, bind_ok, lock_ok, Tx.authorize_ok, pure_ok]
  constructor
  · rintro ⟨_, _, ⟨row, rfl⟩, _, _, ⟨permitted, rfl⟩, rfl, rfl⟩
    exact ⟨⟨row, permitted⟩, rfl⟩
  · rintro ⟨⟨row, permitted⟩, rfl⟩
    exact ⟨e, s', ⟨row, rfl⟩, (), s', ⟨permitted, rfl⟩, rfl, rfl⟩

/-- What writing a new total leaves, with the ledger row and the audit row that go with it. -/
theorem setTotal_ok {action : String} {details : List (String × Json)} {type : EventType}
    {e after : Entry .accessory Accessory} {row : Option AccessoryAssignmentId}
    {holder : Option UserId} {total units change : Int} {notes : Option String}
    {event : Entry .accessoryEvent AccessoryEvent} {s₁ s₂ : Store} {u u' : Unit} (sound : s.Sound)
    (locked : s.row? e.id = some e)
    (changed : Tx.setAccessoryQuantity e.id total s = .ok (u, s₁))
    (appended : Tx.appendAccessoryEvent e.id row type holder units change ctx.actor.id notes s₁ =
      .ok (event, s₂))
    (relocked : s₂.row? e.id = some after)
    (recorded : recordAccessory d ctx action after details s₂ = .ok (u', s')) :
    s'.Sound ∧ ∃ updatedAt record clock minted,
      after = { e with val := { e.val with quantity := total, updatedAt } } ∧
      UnitEvent.Of event.val e.id row type holder units change ctx.actor.id ∧
      record.Tells ctx.actor action .accessory e.val.publicId e.val.name
        (s.scopeNames e.val.room) ∧
      s' = { s with
        accessories := s.accessories.put e.id after.val
        accessoryEvents := s.accessoryEvents.insert event.val
        audit := s.audit.insert record, clock, minted } := by
  have kept := ((sound.after changed).after appended).after recorded
  obtain ⟨_, rfl⟩ := Tx.setAccessoryQuantity_ok locked changed
  obtain ⟨told_of, _, rfl⟩ := Tx.appendAccessoryEvent_ok appended
  -- the row that is read again is the one that was written
  obtain rfl := Option.some.inj (relocked.symm.trans (Table.get?_put_self locked))
  obtain ⟨_, record, _, told, _, rfl⟩ := Tx.record_ok recorded
  exact ⟨kept, _, record, _, _, rfl, told_of, told, rfl⟩

theorem createAccessory_makes {input : AccessoryInput} {room : Option RoomId}
    {e : Entry .accessory Accessory}
    (h : Tx.createAccessory input.publicId input.name input.quantity room s = .ok (e, s')) :
    input.Makes e.val := by
  simp only [Tx.createAccessory, bind_ok, Tx.now_ok, Tx.insertOr_ok] at h
  obtain ⟨_, _, _, _, _, _, _, _, named, _, _, ⟨rfl, _⟩, _, rfl, _⟩ := h
  exact ⟨fun id given => ((Tx.publicIdOr_ok named).1 id given).1, rfl, rfl⟩

theorem registerAccessory_ok {input : AccessoryInput}
    {done : Committed (Entry .accessory Accessory)} (sound : s.Sound)
    (h : registerAccessory d ctx input s = .ok (done, s')) :
    AccessoryStep ctx s (.register input) (done.map .accessory) s' ∧ s'.Sound := by
  simp only [registerAccessory, bind_ok, read_ok, Tx.authorize_ok] at h
  obtain ⟨room, _, ⟨placed, rfl⟩, _, _, ⟨permitted, rfl⟩, e, _, created, h⟩ := h
  have between := sound.after created
  have made := createAccessory_makes created
  obtain ⟨_, _, added, rfl, _, not_negative, rfl⟩ := Tx.createAccessory_ok created
  by_cases stocked : 0 < e.val.quantity
  · simp only [if_pos stocked, bind_ok, pure_ok] at h
    obtain ⟨_, _, appended, _, _, recorded, rfl, rfl⟩ := h
    have kept := (between.after appended).after recorded
    obtain ⟨event, _, rfl⟩ := Tx.appendAccessoryEvent_ok appended
    obtain ⟨_, record, _, told, _, rfl⟩ := Tx.record_ok recorded
    exact ⟨.registerStocked placed permitted added rfl stocked event told made, kept⟩
  · have empty : e.val.quantity = 0 := by omega
    simp only [if_neg stocked, bind_ok, pure_ok] at h
    obtain ⟨_, _, recorded, rfl, rfl⟩ := h
    have kept := between.after recorded
    obtain ⟨_, record, _, told, _, rfl⟩ := Tx.record_ok recorded
    exact ⟨.registerEmpty placed permitted added rfl empty told made, kept⟩

theorem assignAccessory_ok {item user : String} {quantity : Int64}
    {found : Entry .accessory Accessory × Entry .user User} {done : Committed AccessoryCustody}
    (sound : s.Sound) (reads : (assignAccessory d ctx item user quantity).read s = .ok found)
    (h : (assignAccessory d ctx item user quantity).commit found s = .ok (done, s')) :
    AccessoryStep ctx s (.assign item user quantity) (done.map .accessoryCustody) s' ∧
      s'.Sound := by
  simp only [assignAccessory, Results.bind_ok, positive_ok, findAccessory_ok, Store.named_ok,
    Results.pure_ok] at reads
  obtain ⟨_, positive, e, ⟨item_named, _⟩, u, user_named, rfl⟩ := reads
  simp only [assignAccessory, bind_ok, lockAccessory_ok, read_ok, require_ok, pure_ok,
    decide_eq_true_eq] at h
  obtain ⟨_, _, ⟨⟨locked, over_item⟩, rfl⟩, available, _, ⟨shelf, rfl⟩, _, _, ⟨enough, rfl⟩, a, _,
    handed, _, _, appended, _, _, recorded, rfl, rfl⟩ := h
  obtain rfl := Store.named_row sound.accessories item_named locked
  have kept := ((sound.after handed).after appended).after recorded
  -- units go into the assignment that the user has open, if there is one
  obtain ⟨held, is_held, grown⟩ | ⟨none_held, opened⟩ := Tx.handAccessories_ok handed
  · obtain ⟨row, _, _, is_open⟩ := sound.openAccessoryAssignment is_held
    obtain ⟨rfl, _, rfl⟩ := Tx.increaseAccessoryAssignment_ok sound row is_open grown
    obtain ⟨event, _, rfl⟩ := Tx.appendAccessoryEvent_ok appended
    obtain ⟨_, record, _, told, _, rfl⟩ := Tx.record_ok recorded
    exact ⟨.assignMore positive item_named user_named over_item shelf enough is_held rfl event told,
      kept⟩
  · obtain ⟨_, _, fresh, rfl, _, rfl⟩ := Tx.openAccessoryAssignment_ok opened
    obtain ⟨event, _, rfl⟩ := Tx.appendAccessoryEvent_ok appended
    obtain ⟨_, record, _, told, _, rfl⟩ := Tx.record_ok recorded
    exact ⟨.assignNew positive item_named user_named over_item shelf enough none_held fresh rfl
      event told, kept⟩

theorem returnAccessory_ok {assignment : String} {quantity : Int64}
    {found : Entry .accessory Accessory × Entry .accessoryAssignment AccessoryAssignment}
    {done : Committed AccessoryCustody} (sound : s.Sound)
    (reads : (returnAccessory d ctx assignment quantity).read s = .ok found)
    (h : (returnAccessory d ctx assignment quantity).commit found s = .ok (done, s')) :
    AccessoryStep ctx s (.takeBack assignment quantity) (done.map .accessoryCustody) s' ∧
      s'.Sound := by
  simp only [returnAccessory, Results.bind_ok, positive_ok, Store.named_ok, Store.numbered_ok,
    Store.authorize_ok, Results.pure_ok] at reads
  obtain ⟨_, positive, a, custody_named, e, item_found, _, _, rfl⟩ := reads
  simp only [returnAccessory, bind_ok, lock_ok, Tx.authorize_ok, require_ok, holderOf_ok, read_ok,
    pure_ok, decide_eq_true_eq] at h
  obtain ⟨_, _, ⟨locked, rfl⟩, _, _, ⟨again, rfl⟩, _, _, ⟨over_item, rfl⟩, _, _, ⟨opened, rfl⟩, _, _,
    ⟨enough, rfl⟩, after, _, reduced, _, _, appended, u, _, ⟨holder_found, rfl⟩, _, _, recorded,
    left, _, ⟨shelf, rfl⟩, rfl, rfl⟩ := h
  obtain rfl := Store.named_row sound.accessoryAssignments custody_named again
  obtain rfl := Store.row_again item_found locked
  have kept := ((sound.after reduced).after appended).after recorded
  obtain ⟨rfl, _, rfl⟩ := Tx.reduceAccessoryAssignment_ok sound again opened reduced
  obtain ⟨event, _, rfl⟩ := Tx.appendAccessoryEvent_ok appended
  obtain ⟨_, record, _, told, _, rfl⟩ := Tx.record_ok recorded
  exact ⟨.takeBack positive custody_named item_found over_item opened enough holder_found rfl shelf
    event told, kept⟩

theorem condemnAccessory_ok {item : String} {quantity : Int64}
    {found : Entry .accessory Accessory} {done : Committed AccessoryCustody} (sound : s.Sound)
    (reads : (condemnAccessory d ctx item quantity).read s = .ok found)
    (h : (condemnAccessory d ctx item quantity).commit found s = .ok (done, s')) :
    AccessoryStep ctx s (.condemn item quantity) (done.map .accessoryCustody) s' ∧ s'.Sound := by
  simp only [condemnAccessory, Results.bind_ok, positive_ok, findAccessory_ok] at reads
  obtain ⟨_, positive, item_named, _⟩ := reads
  simp only [condemnAccessory, bind_ok, lockAccessory_ok, lock_ok, read_ok, require_ok, pure_ok,
    decide_eq_true_eq] at h
  obtain ⟨e, _, ⟨⟨locked, over_item⟩, rfl⟩, available, _, ⟨shelf, rfl⟩, _, _, ⟨enough, rfl⟩, _, _,
    changed, _, _, appended, after, _, ⟨relocked, rfl⟩, _, _, recorded, rfl, rfl⟩ := h
  obtain rfl := Store.named_row sound.accessories item_named locked
  obtain ⟨kept, _, record, _, _, rfl, event, told, rfl⟩ :=
    setTotal_ok sound locked changed appended relocked recorded
  exact ⟨.condemn positive item_named over_item shelf enough rfl event told, kept⟩

theorem restockAccessory_ok {item : String} {quantity : Int64}
    {found : Entry .accessory Accessory} {done : Committed AccessoryCustody} (sound : s.Sound)
    (reads : (restockAccessory d ctx item quantity).read s = .ok found)
    (h : (restockAccessory d ctx item quantity).commit found s = .ok (done, s')) :
    AccessoryStep ctx s (.restock item quantity) (done.map .accessoryCustody) s' ∧ s'.Sound := by
  simp only [restockAccessory, Results.bind_ok, positive_ok, findAccessory_ok] at reads
  obtain ⟨_, positive, item_named, _⟩ := reads
  simp only [restockAccessory, bind_ok, lockAccessory_ok, lock_ok, read_ok, addStock_ok,
    pure_ok] at h
  obtain ⟨e, _, ⟨⟨locked, over_item⟩, rfl⟩, _, _, ⟨⟨fits, rfl⟩, rfl⟩, _, _, changed, _, _, appended,
    after, _, ⟨relocked, rfl⟩, _, _, recorded, available, _, ⟨shelf, rfl⟩, rfl, rfl⟩ := h
  obtain rfl := Store.named_row sound.accessories item_named locked
  obtain ⟨kept, _, record, _, _, rfl, event, told, rfl⟩ :=
    setTotal_ok sound locked changed appended relocked recorded
  exact ⟨.restock positive item_named over_item fits rfl shelf event told, kept⟩

end Custody

/-- An operation on accessories that is not refused takes a step. -/
theorem AccessoryOp.run_ok {d : Setting} {ctx : Context} {s : Store} {op : AccessoryOp}
    {answer : Answer} (sound : s.Sound) (h : (op.run d s ctx).answer = .ok answer) :
    ∃ done s', AccessoryStep ctx s op done s' ∧ s'.Sound ∧ op.run d s ctx = d.outcome done s' := by
  cases op with
  | get | list | history => exact ⟨{ answer }, s, .read rfl, sound, Setting.ofRead_ok h⟩
  | register input =>
    obtain ⟨done, s', ran, _, out⟩ := Setting.commit_mapOk h
    obtain ⟨step, kept⟩ := Custody.registerAccessory_ok sound ran
    exact ⟨_, s', step, kept, out⟩
  | assign item user quantity =>
    obtain ⟨_, done, s', reads, ran, _, out⟩ := Setting.run_mapOk h
    obtain ⟨step, kept⟩ := Custody.assignAccessory_ok sound reads ran
    exact ⟨_, s', step, kept, out⟩
  | takeBack assignment quantity =>
    obtain ⟨_, done, s', reads, ran, _, out⟩ := Setting.run_mapOk h
    obtain ⟨step, kept⟩ := Custody.returnAccessory_ok sound reads ran
    exact ⟨_, s', step, kept, out⟩
  | condemn item quantity =>
    obtain ⟨_, done, s', reads, ran, _, out⟩ := Setting.run_mapOk h
    obtain ⟨step, kept⟩ := Custody.condemnAccessory_ok sound reads ran
    exact ⟨_, s', step, kept, out⟩
  | restock item quantity =>
    obtain ⟨_, done, s', reads, ran, _, out⟩ := Setting.run_mapOk h
    obtain ⟨step, kept⟩ := Custody.restockAccessory_ok sound reads ran
    exact ⟨_, s', step, kept, out⟩

end Quartermaster
