import Quartermaster.Proofs.Store.Composed

/-!
# What an operation on consumables does

`ConsumableStep d ctx s op done s'`: in the store `s`, the operation `op` for the caller `ctx` may
leave the store `s'` and tell `done`. All that change the stock, or custody of somebody else, ask
for the administrator's rank over the room of the consumable. Using units and reporting a loss ask
for no rank, and touch an open issue of the caller only.

Result: `ConsumableOp.run_ok`. An operation that is not refused takes such a step, and the store
stays sound.
-/

namespace Quartermaster

/-- Whether the operation only reads. -/
def ConsumableOp.isRead : ConsumableOp → Bool
  | .get _ | .list | .history _ => true
  | _ => false

/-- Some units less, and closed if none are left. -/
def ConsumableIssue.less (i : ConsumableIssue) (units : Int) (until' : Stamp) : ConsumableIssue :=
  { i with
    quantity := i.quantity - units
    state := if i.quantity - units = 0 then .closed else i.state
    returnedAt := if i.quantity - units = 0 then some until' else i.returnedAt }

/-- The row is made from the input. It has the public id that was given, if one was. -/
structure ConsumableInput.Makes (input : ConsumableInput) (row : Consumable) : Prop where
  publicId : ∀ id, input.publicId = some id → row.publicId = id
  name : row.name = input.name
  unit : row.unit = input.unit
  quantity : row.quantity = input.quantity.toInt
  lowStockThreshold : row.lowStockThreshold = input.lowStockThreshold.toInt

/-- What is told after an issue: of low stock, if there is anything to tell. -/
def Store.LowStockTold (s : Store) (d : Setting) (e : Entry .consumable Consumable)
    (notice : Option Notice) : Prop :=
  if d.lowStockNotices && e.val.isLowStock then
    ∃ recipients, s.responsible e.val.room = .ok recipients ∧
      notice = some {
        recipients
        notification := .lowStock e.val.publicId e.val.quantity e.val.lowStockThreshold }
  else notice = none

inductive ConsumableStep (d : Setting) (ctx : Context) (s : Store) :
    ConsumableOp → Committed Answer → Store → Prop
  | read {op : ConsumableOp} {answer : Answer} :
      op.isRead = true → ConsumableStep d ctx s op { answer } s
  | registerEmpty {input : ConsumableInput} {room : Option RoomId}
      {e : Entry .consumable Consumable} {record : AuditRow} {clock minted : Nat}
      (placed : s.roomOf input.room = .ok room)
      (over_room : s.Permits ctx .roomAdmin room)
      (added : e.id = s.consumables.next)
      (in_room : e.val.room = room)
      (units : e.val.quantity = 0)
      (told : record.Tells ctx.actor "consumable.register" .consumable e.val.publicId e.val.name
        (s.scopeNames room))
      (made : input.Makes e.val) :
      ConsumableStep d ctx s (.register input) { answer := .consumable e }
        { s with
          consumables := s.consumables.insert e.val
          audit := s.audit.insert record, clock, minted }
  | registerStocked {input : ConsumableInput} {room : Option RoomId}
      {e : Entry .consumable Consumable} {event : ConsumableEvent} {record : AuditRow}
      {clock minted : Nat}
      (placed : s.roomOf input.room = .ok room)
      (over_room : s.Permits ctx .roomAdmin room)
      (added : e.id = s.consumables.next)
      (in_room : e.val.room = room)
      (units : 0 < e.val.quantity)
      (appended : event.Of e.id none .restocked none e.val.quantity e.val.quantity ctx.actor.id)
      (told : record.Tells ctx.actor "consumable.register" .consumable e.val.publicId e.val.name
        (s.scopeNames room))
      (made : input.Makes e.val) :
      ConsumableStep d ctx s (.register input)
        { answer := .consumable e
          events := [Custody.consumableEvent e .restocked none e.val.quantity e.val.quantity] }
        { s with
          consumables := s.consumables.insert e.val
          consumableEvents := s.consumableEvents.insert event
          audit := s.audit.insert record, clock, minted }
  | issueMore {item user : String} {quantity : Int64} {purpose : Option String}
      {e stocked : Entry .consumable Consumable} {u : Entry .user User}
      {held after : Entry .consumableIssue ConsumableIssue} {event : ConsumableEvent}
      {notice : Option Notice} {updatedAt : Stamp} {record : AuditRow} {clock minted : Nat}
      (positive : 0 < quantity.toInt)
      (item_named : s.named? .consumable item = some e)
      (user_named : s.named? .user user = some u)
      (over_item : s.Permits ctx .roomAdmin e.val.room)
      (enough : quantity.toInt ≤ e.val.quantity)
      (is_held : s.openIssue e.id u.id = some held)
      (grown : after = { held with val := { held.val with
        quantity := held.val.quantity + quantity.toInt
        issuedQuantity := held.val.issuedQuantity + quantity.toInt } })
      (changed : stocked = { e with val := { e.val with
        quantity := e.val.quantity - quantity.toInt, updatedAt } })
      (appended : event.Of e.id (some held.id) .issued (some u.id) quantity.toInt (-quantity.toInt)
        ctx.actor.id)
      (told : record.Tells ctx.actor "consumable.issue" .consumable e.val.publicId e.val.name
        (s.scopeNames e.val.room))
      (noticed : s.LowStockTold d stocked notice) :
      ConsumableStep d ctx s (.issue item user quantity purpose)
        { answer := .consumableCustody { item := stocked, issue := some after }
          events := [Custody.consumableEvent stocked .issued (some u.val.publicId) quantity.toInt
            (-quantity.toInt)]
          notice }
        { s with
          consumables := s.consumables.put e.id stocked.val
          consumableIssues := s.consumableIssues.put held.id after.val
          consumableEvents := s.consumableEvents.insert event
          audit := s.audit.insert record, clock, minted }
  | issueNew {item user : String} {quantity : Int64} {purpose : Option String}
      {e stocked : Entry .consumable Consumable} {u : Entry .user User}
      {i : Entry .consumableIssue ConsumableIssue} {event : ConsumableEvent} {publicId : String}
      {since updatedAt : Stamp} {notice : Option Notice} {record : AuditRow} {clock minted : Nat}
      (positive : 0 < quantity.toInt)
      (item_named : s.named? .consumable item = some e)
      (user_named : s.named? .user user = some u)
      (over_item : s.Permits ctx .roomAdmin e.val.room)
      (enough : quantity.toInt ≤ e.val.quantity)
      (none_held : s.openIssue e.id u.id = none)
      (fresh : publicId ∉ s.publicIds)
      (opened : i = ⟨s.consumableIssues.next,
        { publicId, consumable := e.id, holder := u.id, quantity := quantity.toInt
          issuedQuantity := quantity.toInt, assignedBy := some ctx.actor.id, purpose
          issuedAt := since, returnedAt := none, state := .opened }⟩)
      (changed : stocked = { e with val := { e.val with
        quantity := e.val.quantity - quantity.toInt, updatedAt } })
      (appended : event.Of e.id (some i.id) .issued (some u.id) quantity.toInt (-quantity.toInt)
        ctx.actor.id)
      (told : record.Tells ctx.actor "consumable.issue" .consumable e.val.publicId e.val.name
        (s.scopeNames e.val.room))
      (noticed : s.LowStockTold d stocked notice) :
      ConsumableStep d ctx s (.issue item user quantity purpose)
        { answer := .consumableCustody { item := stocked, issue := some i }
          events := [Custody.consumableEvent stocked .issued (some u.val.publicId) quantity.toInt
            (-quantity.toInt)]
          notice }
        { s with
          consumables := s.consumables.put e.id stocked.val
          consumableIssues := s.consumableIssues.insert i.val
          consumableEvents := s.consumableEvents.insert event
          audit := s.audit.insert record, clock, minted }
  | use {item : String} {quantity : Int64} {e : Entry .consumable Consumable}
      {i after : Entry .consumableIssue ConsumableIssue} {event : ConsumableEvent} {until' : Stamp}
      {record : AuditRow} {clock minted : Nat}
      (positive : 0 < quantity.toInt)
      (item_named : s.named? .consumable item = some e)
      (own : s.openIssue e.id ctx.actor.id = some i)
      (enough : quantity.toInt ≤ i.val.quantity)
      (reduced : after = { i with val := i.val.less quantity.toInt until' })
      (appended : event.Of e.id (some i.id) .used (some ctx.actor.id) quantity.toInt
        (-quantity.toInt) ctx.actor.id)
      (told : record.Tells ctx.actor "consumable.use" .consumable e.val.publicId e.val.name
        (s.scopeNames e.val.room)) :
      ConsumableStep d ctx s (.use item quantity)
        { answer := .consumableCustody { item := e, issue := some after }
          events := [Custody.consumableEvent e .used (some ctx.actor.publicId) quantity.toInt
            (-quantity.toInt)] }
        { s with
          consumableIssues := s.consumableIssues.put i.id after.val
          consumableEvents := s.consumableEvents.insert event
          audit := s.audit.insert record, clock, minted }
  | takeBack {issue : String} {quantity : Int64} {e stocked : Entry .consumable Consumable}
      {u : Entry .user User} {i after : Entry .consumableIssue ConsumableIssue}
      {event : ConsumableEvent} {until' updatedAt : Stamp} {record : AuditRow} {clock minted : Nat}
      (positive : 0 < quantity.toInt)
      (issue_named : s.named? .consumableIssue issue = some i)
      (item_found : s.row? i.val.consumable = some e)
      (over_item : s.Permits ctx .roomAdmin e.val.room)
      (opened : i.val.isOpen = true)
      (enough : quantity.toInt ≤ i.val.quantity)
      (holder_found : s.row? i.val.holder = some u)
      (fits : fitsWord (e.val.quantity + quantity.toInt) = true)
      (reduced : after = { i with val := i.val.less quantity.toInt until' })
      (changed : stocked = { e with val := { e.val with
        quantity := e.val.quantity + quantity.toInt, updatedAt } })
      (appended : event.Of e.id (some i.id) .returned (some i.val.holder) quantity.toInt
        quantity.toInt ctx.actor.id)
      (told : record.Tells ctx.actor "consumable.return" .consumable e.val.publicId e.val.name
        (s.scopeNames e.val.room)) :
      ConsumableStep d ctx s (.takeBack issue quantity)
        { answer := .consumableCustody { item := stocked, issue := some after }
          events := [Custody.consumableEvent stocked .returned (some u.val.publicId) quantity.toInt
            quantity.toInt] }
        { s with
          consumables := s.consumables.put e.id stocked.val
          consumableIssues := s.consumableIssues.put i.id after.val
          consumableEvents := s.consumableEvents.insert event
          audit := s.audit.insert record, clock, minted }
  | recordLoss {issue : String} {quantity : Int64} {kind : LossKind}
      {e : Entry .consumable Consumable} {u : Entry .user User}
      {i after : Entry .consumableIssue ConsumableIssue} {event : ConsumableEvent} {until' : Stamp}
      {record : AuditRow} {clock minted : Nat}
      (positive : 0 < quantity.toInt)
      (issue_named : s.named? .consumableIssue issue = some i)
      (item_found : s.row? i.val.consumable = some e)
      (over_item : s.Permits ctx .roomAdmin e.val.room)
      (opened : i.val.isOpen = true)
      (enough : quantity.toInt ≤ i.val.quantity)
      (holder_found : s.row? i.val.holder = some u)
      (reduced : after = { i with val := i.val.less quantity.toInt until' })
      (appended : event.Of e.id (some i.id) kind.eventType (some i.val.holder) quantity.toInt
        (-quantity.toInt) ctx.actor.id)
      (told : record.Tells ctx.actor "consumable.loss" .consumable e.val.publicId e.val.name
        (s.scopeNames e.val.room)) :
      ConsumableStep d ctx s (.recordLoss issue quantity kind)
        { answer := .consumableCustody { item := e, issue := some after }
          events := [Custody.consumableEvent e kind.eventType (some u.val.publicId) quantity.toInt
            (-quantity.toInt)] }
        { s with
          consumableIssues := s.consumableIssues.put i.id after.val
          consumableEvents := s.consumableEvents.insert event
          audit := s.audit.insert record, clock, minted }
  | reportLoss {item : String} {quantity : Int64} {kind : LossKind}
      {e : Entry .consumable Consumable} {u : Entry .user User}
      {i after : Entry .consumableIssue ConsumableIssue} {event : ConsumableEvent} {until' : Stamp}
      {recipients : List Recipient} {record : AuditRow} {clock minted : Nat}
      (positive : 0 < quantity.toInt)
      (item_named : s.named? .consumable item = some e)
      (caller_named : s.named? .user ctx.actor.publicId = some u)
      (own : s.openIssue e.id ctx.actor.id = some i)
      (enough : quantity.toInt ≤ i.val.quantity)
      (reduced : after = { i with val := i.val.less quantity.toInt until' })
      (appended : event.Of e.id (some i.id) kind.eventType (some ctx.actor.id) quantity.toInt
        (-quantity.toInt) ctx.actor.id)
      (told : record.Tells ctx.actor "consumable.loss" .consumable e.val.publicId e.val.name
        (s.scopeNames e.val.room))
      (responsible : s.responsible u.val.room = .ok recipients) :
      ConsumableStep d ctx s (.reportLoss item quantity kind)
        { answer := .consumableCustody { item := e, issue := some after }
          events := [Custody.consumableEvent e kind.eventType (some u.val.publicId) quantity.toInt
            (-quantity.toInt)]
          notice := some {
            recipients
            notification :=
              .lossReported e.val.publicId u.val.publicId kind.eventType quantity.toInt } }
        { s with
          consumableIssues := s.consumableIssues.put i.id after.val
          consumableEvents := s.consumableEvents.insert event
          audit := s.audit.insert record, clock, minted }
  | restock {item : String} {quantity : Int64} {e stocked : Entry .consumable Consumable}
      {event : ConsumableEvent} {updatedAt : Stamp} {record : AuditRow} {clock minted : Nat}
      (positive : 0 < quantity.toInt)
      (item_named : s.named? .consumable item = some e)
      (over_item : s.Permits ctx .roomAdmin e.val.room)
      (fits : fitsWord (e.val.quantity + quantity.toInt) = true)
      (changed : stocked = { e with val := { e.val with
        quantity := e.val.quantity + quantity.toInt, updatedAt } })
      (appended : event.Of e.id none .restocked none quantity.toInt quantity.toInt ctx.actor.id)
      (told : record.Tells ctx.actor "consumable.restock" .consumable e.val.publicId e.val.name
        (s.scopeNames e.val.room)) :
      ConsumableStep d ctx s (.restock item quantity)
        { answer := .consumableCustody { item := stocked, issue := none }
          events :=
            [Custody.consumableEvent stocked .restocked none quantity.toInt quantity.toInt] }
        { s with
          consumables := s.consumables.put e.id stocked.val
          consumableEvents := s.consumableEvents.insert event
          audit := s.audit.insert record, clock, minted }

namespace Custody

open Tx (bind_ok pure_ok read_ok get_ok require_ok present_ok)

variable {d : Setting} {ctx : Context} {s s' : Store}

instance {action : String} {e : Entry .consumable Consumable} {details : List (String × Json)} :
    Tx.Composed (recordConsumable d ctx action e details) :=
  inferInstanceAs (Tx.Composed (Tx.record _ _ _))

theorem findConsumable_ok {required : Role} {item : String} {e : Entry .consumable Consumable} :
    findConsumable ctx required item s = .ok e ↔
      s.named? .consumable item = some e ∧ s.Permits ctx required e.val.room := by
  simp only [findConsumable, Results.bind_ok, Store.named_ok, Store.authorize_ok, Results.pure_ok]
  constructor
  · rintro ⟨_, found, _, permitted, rfl⟩
    exact ⟨found, permitted⟩
  · rintro ⟨found, permitted⟩
    exact ⟨e, found, (), permitted, rfl⟩

theorem lockConsumable_ok {found e : Entry .consumable Consumable} :
    lockConsumable ctx found s = .ok (e, s') ↔
      (s.row? found.id = some e ∧ s.Permits ctx .roomAdmin e.val.room) ∧ s' = s := by
  simp only [lockConsumable, bind_ok, lock_ok, Tx.authorize_ok, pure_ok]
  constructor
  · rintro ⟨_, _, ⟨row, rfl⟩, _, _, ⟨permitted, rfl⟩, rfl, rfl⟩
    exact ⟨⟨row, permitted⟩, rfl⟩
  · rintro ⟨⟨row, permitted⟩, rfl⟩
    exact ⟨e, s', ⟨row, rfl⟩, (), s', ⟨permitted, rfl⟩, rfl, rfl⟩

theorem ownIssue_ok {e : Entry .consumable Consumable} {i : Entry .consumableIssue ConsumableIssue} :
    ownIssue ctx e s = .ok i ↔ s.openIssue e.id ctx.actor.id = some i := by
  unfold ownIssue
  cases s.openIssue e.id ctx.actor.id with
  | some held => simp
  | none => simp

theorem findIssue_ok {issue : String} {e : Entry .consumable Consumable}
    {i : Entry .consumableIssue ConsumableIssue} :
    findIssue ctx issue s = .ok (e, i) ↔
      s.named? .consumableIssue issue = some i ∧ s.row? i.val.consumable = some e ∧
        s.Permits ctx .roomAdmin e.val.room := by
  simp only [findIssue, Results.bind_ok, Store.named_ok, Store.numbered_ok, Store.authorize_ok,
    Results.pure_ok, Prod.mk.injEq]
  constructor
  · rintro ⟨_, named, _, found, _, permitted, rfl, rfl⟩
    exact ⟨named, found, permitted⟩
  · rintro ⟨named, found, permitted⟩
    exact ⟨i, named, e, found, (), permitted, rfl, rfl⟩

theorem lowStockNotice_ok {e : Entry .consumable Consumable} {notice : Option Notice} :
    lowStockNotice d e s = .ok (notice, s') ↔ s.LowStockTold d e notice ∧ s' = s := by
  unfold lowStockNotice Store.LowStockTold
  by_cases low : (d.lowStockNotices && e.val.isLowStock) = true
  · simp only [if_pos low, bind_ok, read_ok, pure_ok]
    constructor
    · rintro ⟨_, _, ⟨asked, rfl⟩, rfl, rfl⟩
      exact ⟨⟨_, asked, rfl⟩, rfl⟩
    · rintro ⟨⟨_, asked, rfl⟩, rfl⟩
      exact ⟨_, _, ⟨asked, rfl⟩, rfl, rfl⟩
  · rw [if_neg low, if_neg low, pure_ok]

/-- What taking units out of custody for good leaves. -/
theorem reduceCustody_ok {action : String} {e : Entry .consumable Consumable} {type : EventType}
    {i after : Entry .consumableIssue ConsumableIssue} {units : Int} (sound : s.Sound)
    (found : s.row? i.id = some i) (opened : i.val.isOpen = true)
    (h : reduceCustody d ctx action e i type units s = .ok (after, s')) :
    units ≤ i.val.quantity ∧ s'.Sound ∧ ∃ until' event record clock minted,
      after = { i with val := i.val.less units until' } ∧
      UnitEvent.Of event e.id (some i.id) type (some i.val.holder) units (-units) ctx.actor.id ∧
      record.Tells ctx.actor action .consumable e.val.publicId e.val.name
        (s.scopeNames e.val.room) ∧
      s' = { s with
        consumableIssues := s.consumableIssues.put i.id after.val
        consumableEvents := s.consumableEvents.insert event
        audit := s.audit.insert record, clock, minted } := by
  simp only [reduceCustody, bind_ok, require_ok, pure_ok, decide_eq_true_eq] at h
  obtain ⟨_, _, ⟨enough, rfl⟩, _, _, reduced, _, _, appended, _, _, recorded, rfl, rfl⟩ := h
  have kept := ((sound.after reduced).after appended).after recorded
  obtain ⟨rfl, _, rfl⟩ := Tx.reduceIssue_ok sound found opened reduced
  obtain ⟨event, _, rfl⟩ := Tx.appendConsumableEvent_ok appended
  obtain ⟨_, record, _, told, _, rfl⟩ := Tx.record_ok recorded
  exact ⟨enough, kept, _, _, record, _, _, rfl, event, told, rfl⟩

/-- What writing a new stock leaves, with the ledger row and the audit row that go with it. -/
theorem setStock_ok {action : String} {details : List (String × Json)} {type : EventType}
    {e stocked : Entry .consumable Consumable} {row : Option ConsumableIssueId}
    {holder : Option UserId} {stock units change : Int} {notes : Option String}
    {event : Entry .consumableEvent ConsumableEvent} {s₁ s₂ : Store} {u u' : Unit} (sound : s.Sound)
    (locked : s.row? e.id = some e)
    (changed : Tx.setConsumableQuantity e.id stock s = .ok (u, s₁))
    (appended : Tx.appendConsumableEvent e.id row type holder units change ctx.actor.id notes s₁ =
      .ok (event, s₂))
    (relocked : s₂.row? e.id = some stocked)
    (recorded : recordConsumable d ctx action stocked details s₂ = .ok (u', s')) :
    s'.Sound ∧ (∀ user : UserId, s₂.row? user = s.row? user) ∧ ∃ updatedAt record clock minted,
      stocked = { e with val := { e.val with quantity := stock, updatedAt } } ∧
      UnitEvent.Of event.val e.id row type holder units change ctx.actor.id ∧
      record.Tells ctx.actor action .consumable e.val.publicId e.val.name
        (s.scopeNames e.val.room) ∧
      s' = { s with
        consumables := s.consumables.put e.id stocked.val
        consumableEvents := s.consumableEvents.insert event.val
        audit := s.audit.insert record, clock, minted } := by
  have kept := ((sound.after changed).after appended).after recorded
  obtain ⟨_, rfl⟩ := Tx.setConsumableQuantity_ok locked changed
  obtain ⟨told_of, _, rfl⟩ := Tx.appendConsumableEvent_ok appended
  -- the row that is read again is the one that was written
  obtain rfl := Option.some.inj (relocked.symm.trans (Table.get?_put_self locked))
  obtain ⟨_, record, _, told, _, rfl⟩ := Tx.record_ok recorded
  exact ⟨kept, fun _ => rfl, _, record, _, _, rfl, told_of, told, rfl⟩

theorem createConsumable_makes {input : ConsumableInput} {room : Option RoomId}
    {e : Entry .consumable Consumable} (h : Tx.createConsumable input room s = .ok (e, s')) :
    input.Makes e.val := by
  simp only [Tx.createConsumable, bind_ok, Tx.now_ok, Tx.insertOr_ok] at h
  obtain ⟨_, _, _, _, _, _, _, _, _, _, _, named, _, _, ⟨rfl, _⟩, _, rfl, _⟩ := h
  exact ⟨fun id given => ((Tx.publicIdOr_ok named).1 id given).1, rfl, rfl, rfl, rfl⟩

theorem registerConsumable_ok {input : ConsumableInput}
    {done : Committed (Entry .consumable Consumable)} (sound : s.Sound)
    (h : registerConsumable d ctx input s = .ok (done, s')) :
    ConsumableStep d ctx s (.register input) (done.map .consumable) s' ∧ s'.Sound := by
  simp only [registerConsumable, bind_ok, read_ok, Tx.authorize_ok] at h
  obtain ⟨room, _, ⟨placed, rfl⟩, _, _, ⟨permitted, rfl⟩, e, _, created, h⟩ := h
  have between := sound.after created
  have made := createConsumable_makes created
  obtain ⟨_, _, added, rfl, _, not_negative, rfl⟩ := Tx.createConsumable_ok created
  by_cases stocked : 0 < e.val.quantity
  · simp only [if_pos stocked, bind_ok, pure_ok] at h
    obtain ⟨_, _, appended, _, _, recorded, rfl, rfl⟩ := h
    have kept := (between.after appended).after recorded
    obtain ⟨event, _, rfl⟩ := Tx.appendConsumableEvent_ok appended
    obtain ⟨_, record, _, told, _, rfl⟩ := Tx.record_ok recorded
    exact ⟨.registerStocked placed permitted added rfl stocked event told made, kept⟩
  · have empty : e.val.quantity = 0 := by omega
    simp only [if_neg stocked, bind_ok, pure_ok] at h
    obtain ⟨_, _, recorded, rfl, rfl⟩ := h
    have kept := between.after recorded
    obtain ⟨_, record, _, told, _, rfl⟩ := Tx.record_ok recorded
    exact ⟨.registerEmpty placed permitted added rfl empty told made, kept⟩

theorem issueConsumable_ok {item user : String} {quantity : Int64} {purpose : Option String}
    {found : Entry .consumable Consumable × Entry .user User} {done : Committed ConsumableCustody}
    (sound : s.Sound)
    (reads : (issueConsumable d ctx item user quantity purpose).read s = .ok found)
    (h : (issueConsumable d ctx item user quantity purpose).commit found s = .ok (done, s')) :
    ConsumableStep d ctx s (.issue item user quantity purpose) (done.map .consumableCustody) s' ∧
      s'.Sound := by
  simp only [issueConsumable, Results.bind_ok, positive_ok, findConsumable_ok, Store.named_ok,
    Results.pure_ok] at reads
  obtain ⟨_, positive, e, ⟨item_named, _⟩, u, user_named, rfl⟩ := reads
  simp only [issueConsumable, bind_ok, lockConsumable_ok, lock_ok, require_ok, lowStockNotice_ok,
    pure_ok, decide_eq_true_eq] at h
  obtain ⟨_, _, ⟨⟨locked, over_item⟩, rfl⟩, _, _, ⟨enough, rfl⟩, i, _, given, _, _, changed, _, _,
    appended, stocked, _, ⟨relocked, rfl⟩, _, _, recorded, notice, _, ⟨noticed, rfl⟩, rfl, rfl⟩ := h
  obtain rfl := Store.named_row sound.consumables item_named locked
  have handed := sound.after given
  -- units go into the issue that the user has open, if there is one
  obtain ⟨held, is_held, grown⟩ | ⟨none_held, opened⟩ := Tx.giveUnits_ok given
  · obtain ⟨row, _, _, is_open⟩ := sound.openIssue is_held
    obtain ⟨rfl, _, rfl⟩ := Tx.increaseIssue_ok sound row is_open grown
    obtain ⟨kept, _, _, record, _, _, rfl, event, told, rfl⟩ :=
      setStock_ok handed locked changed appended relocked recorded
    exact ⟨.issueMore positive item_named user_named over_item enough is_held rfl rfl event told
      noticed, kept⟩
  · obtain ⟨_, _, fresh, rfl, _, rfl⟩ := Tx.openIssue_ok opened
    obtain ⟨kept, _, _, record, _, _, rfl, event, told, rfl⟩ :=
      setStock_ok handed locked changed appended relocked recorded
    exact ⟨.issueNew positive item_named user_named over_item enough none_held fresh rfl rfl event
      told noticed, kept⟩

theorem useConsumable_ok {item : String} {quantity : Int64} {found : Entry .consumable Consumable}
    {done : Committed ConsumableCustody} (sound : s.Sound)
    (reads : (useConsumable d ctx item quantity).read s = .ok found)
    (h : (useConsumable d ctx item quantity).commit found s = .ok (done, s')) :
    ConsumableStep d ctx s (.use item quantity) (done.map .consumableCustody) s' ∧ s'.Sound := by
  simp only [useConsumable, Results.bind_ok, positive_ok, Store.named_ok, ownIssue_ok,
    Results.pure_ok] at reads
  obtain ⟨_, positive, e, item_named, _, _, rfl⟩ := reads
  simp only [useConsumable, bind_ok, lock_ok, read_ok, ownIssue_ok, pure_ok] at h
  obtain ⟨_, _, ⟨locked, rfl⟩, i, _, ⟨own, rfl⟩, after, _, reduced, rfl, rfl⟩ := h
  obtain rfl := Store.named_row sound.consumables item_named locked
  obtain ⟨row, _, by_caller, is_open⟩ := sound.openIssue own
  obtain ⟨enough, kept, _, event, record, _, _, rfl, appended, told, rfl⟩ :=
    reduceCustody_ok sound row is_open reduced
  exact ⟨.use positive item_named own enough rfl (by_caller ▸ appended) told, kept⟩

theorem returnConsumable_ok {issue : String} {quantity : Int64}
    {found : Entry .consumable Consumable × Entry .consumableIssue ConsumableIssue}
    {done : Committed ConsumableCustody} (sound : s.Sound)
    (reads : (returnConsumable d ctx issue quantity).read s = .ok found)
    (h : (returnConsumable d ctx issue quantity).commit found s = .ok (done, s')) :
    ConsumableStep d ctx s (.takeBack issue quantity) (done.map .consumableCustody) s' ∧
      s'.Sound := by
  obtain ⟨e, i⟩ := found
  simp only [returnConsumable, Results.bind_ok, positive_ok, findIssue_ok] at reads
  obtain ⟨_, positive, issue_named, item_found, _⟩ := reads
  simp only [returnConsumable, bind_ok, lock_ok, Tx.authorize_ok, require_ok, read_ok, addStock_ok,
    holderOf_ok, pure_ok, decide_eq_true_eq] at h
  obtain ⟨_, _, ⟨locked, rfl⟩, _, _, ⟨again, rfl⟩, _, _, ⟨over_item, rfl⟩, _, _, ⟨opened, rfl⟩, _, _,
    ⟨enough, rfl⟩, after, _, reduced, _, _, ⟨⟨fits, rfl⟩, rfl⟩, _, _, changed, _, _, appended,
    stocked, _, ⟨relocked, rfl⟩, u, _, ⟨holder_found, rfl⟩, _, _, recorded, rfl, rfl⟩ := h
  obtain rfl := Store.named_row sound.consumableIssues issue_named again
  obtain rfl := Store.row_again item_found locked
  have less := sound.after reduced
  obtain ⟨rfl, _, rfl⟩ := Tx.reduceIssue_ok sound again opened reduced
  obtain ⟨kept, people, _, record, _, _, rfl, event, told, rfl⟩ :=
    setStock_ok less locked changed appended relocked recorded
  rw [people] at holder_found
  exact ⟨.takeBack positive issue_named item_found over_item opened enough holder_found fits rfl rfl
    event told, kept⟩

theorem recordLoss_ok {issue : String} {quantity : Int64} {kind : LossKind}
    {found : Entry .consumable Consumable × Entry .consumableIssue ConsumableIssue}
    {done : Committed ConsumableCustody} (sound : s.Sound)
    (reads : (recordLoss d ctx issue quantity kind).read s = .ok found)
    (h : (recordLoss d ctx issue quantity kind).commit found s = .ok (done, s')) :
    ConsumableStep d ctx s (.recordLoss issue quantity kind) (done.map .consumableCustody) s' ∧
      s'.Sound := by
  obtain ⟨e, i⟩ := found
  simp only [recordLoss, Results.bind_ok, positive_ok, findIssue_ok] at reads
  obtain ⟨_, positive, issue_named, item_found, _⟩ := reads
  simp only [recordLoss, bind_ok, lock_ok, Tx.authorize_ok, require_ok, holderOf_ok, pure_ok] at h
  obtain ⟨_, _, ⟨locked, rfl⟩, _, _, ⟨again, rfl⟩, _, _, ⟨over_item, rfl⟩, _, _, ⟨opened, rfl⟩,
    after, _, reduced, u, _, ⟨holder_found, rfl⟩, rfl, rfl⟩ := h
  obtain rfl := Store.named_row sound.consumableIssues issue_named again
  obtain rfl := Store.row_again item_found locked
  obtain ⟨enough, kept, _, event, record, _, _, rfl, appended, told, rfl⟩ :=
    reduceCustody_ok sound again opened reduced
  exact ⟨.recordLoss positive issue_named item_found over_item opened enough holder_found rfl
    appended told, kept⟩

theorem reportLoss_ok {item : String} {quantity : Int64} {kind : LossKind}
    {found : Entry .consumable Consumable × Entry .user User} {done : Committed ConsumableCustody}
    (sound : s.Sound) (reads : (reportLoss d ctx item quantity kind).read s = .ok found)
    (h : (reportLoss d ctx item quantity kind).commit found s = .ok (done, s')) :
    ConsumableStep d ctx s (.reportLoss item quantity kind) (done.map .consumableCustody) s' ∧
      s'.Sound := by
  simp only [reportLoss, Results.bind_ok, positive_ok, Store.named_ok, ownIssue_ok,
    Results.pure_ok] at reads
  obtain ⟨_, positive, e, item_named, _, _, u, caller_named, rfl⟩ := reads
  simp only [reportLoss, bind_ok, lock_ok, read_ok, ownIssue_ok, reload_ok, pure_ok] at h
  obtain ⟨_, _, ⟨locked, rfl⟩, i, _, ⟨own, rfl⟩, after, _, reduced, _, _, ⟨reloaded, rfl⟩,
    recipients, _, ⟨responsible, rfl⟩, rfl, rfl⟩ := h
  obtain rfl := Store.named_row sound.consumables item_named locked
  obtain ⟨row, _, by_caller, is_open⟩ := sound.openIssue own
  obtain ⟨enough, kept, _, event, record, _, _, rfl, appended, told, rfl⟩ :=
    reduceCustody_ok sound row is_open reduced
  -- the notice goes by the room in which the caller is now
  obtain rfl := Store.named_row sound.users caller_named reloaded
  exact ⟨.reportLoss positive item_named caller_named own enough rfl (by_caller ▸ appended) told
    responsible, kept⟩

theorem restockConsumable_ok {item : String} {quantity : Int64}
    {found : Entry .consumable Consumable} {done : Committed ConsumableCustody} (sound : s.Sound)
    (reads : (restockConsumable d ctx item quantity).read s = .ok found)
    (h : (restockConsumable d ctx item quantity).commit found s = .ok (done, s')) :
    ConsumableStep d ctx s (.restock item quantity) (done.map .consumableCustody) s' ∧
      s'.Sound := by
  simp only [restockConsumable, Results.bind_ok, positive_ok, findConsumable_ok] at reads
  obtain ⟨_, positive, item_named, _⟩ := reads
  simp only [restockConsumable, bind_ok, lockConsumable_ok, lock_ok, read_ok, addStock_ok,
    pure_ok] at h
  obtain ⟨e, _, ⟨⟨locked, over_item⟩, rfl⟩, _, _, ⟨⟨fits, rfl⟩, rfl⟩, _, _, changed, _, _, appended,
    stocked, _, ⟨relocked, rfl⟩, _, _, recorded, rfl, rfl⟩ := h
  obtain rfl := Store.named_row sound.consumables item_named locked
  obtain ⟨kept, _, _, record, _, _, rfl, event, told, rfl⟩ :=
    setStock_ok sound locked changed appended relocked recorded
  exact ⟨.restock positive item_named over_item fits rfl event told, kept⟩

end Custody

/-- An operation on consumables that is not refused takes a step. -/
theorem ConsumableOp.run_ok {d : Setting} {ctx : Context} {s : Store} {op : ConsumableOp}
    {answer : Answer} (sound : s.Sound) (h : (op.run d s ctx).answer = .ok answer) :
    ∃ done s', ConsumableStep d ctx s op done s' ∧ s'.Sound ∧
      op.run d s ctx = d.outcome done s' := by
  cases op with
  | get | list | history => exact ⟨{ answer }, s, .read rfl, sound, Setting.ofRead_ok h⟩
  | register input =>
    obtain ⟨done, s', ran, _, out⟩ := Setting.commit_mapOk h
    obtain ⟨step, kept⟩ := Custody.registerConsumable_ok sound ran
    exact ⟨_, s', step, kept, out⟩
  | issue item user quantity purpose =>
    obtain ⟨_, done, s', reads, ran, _, out⟩ := Setting.run_mapOk h
    obtain ⟨step, kept⟩ := Custody.issueConsumable_ok sound reads ran
    exact ⟨_, s', step, kept, out⟩
  | use item quantity =>
    obtain ⟨_, done, s', reads, ran, _, out⟩ := Setting.run_mapOk h
    obtain ⟨step, kept⟩ := Custody.useConsumable_ok sound reads ran
    exact ⟨_, s', step, kept, out⟩
  | takeBack issue quantity =>
    obtain ⟨_, done, s', reads, ran, _, out⟩ := Setting.run_mapOk h
    obtain ⟨step, kept⟩ := Custody.returnConsumable_ok sound reads ran
    exact ⟨_, s', step, kept, out⟩
  | recordLoss issue quantity kind =>
    obtain ⟨_, done, s', reads, ran, _, out⟩ := Setting.run_mapOk h
    obtain ⟨step, kept⟩ := Custody.recordLoss_ok sound reads ran
    exact ⟨_, s', step, kept, out⟩
  | reportLoss item quantity kind =>
    obtain ⟨_, done, s', reads, ran, _, out⟩ := Setting.run_mapOk h
    obtain ⟨step, kept⟩ := Custody.reportLoss_ok sound reads ran
    exact ⟨_, s', step, kept, out⟩
  | restock item quantity =>
    obtain ⟨_, done, s', reads, ran, _, out⟩ := Setting.run_mapOk h
    obtain ⟨step, kept⟩ := Custody.restockConsumable_ok sound reads ran
    exact ⟨_, s', step, kept, out⟩

end Quartermaster
