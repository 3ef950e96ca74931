import Quartermaster.Proofs.Views

/-!
# Answers say what is stored

An operation that changes custody answers with the asset, with who has it or how much is left, and
with the custody row that it wrote. Some of that is read before the write and some is reckoned by
hand. It is nevertheless what the store says right after: whoever may look the asset up next is told
the same, and the custody row is the one that was written, also where that has just been closed.

1. `Store.Touched`: the row that is answered is the stored one, and no other was written.
2. `EquipmentOp.Concerns` and its likes: the answer is about the asset that the operation names.
3. `Store.AnswersItem`, `Store.AnswersAccessory`, `Store.AnswersConsumable`: what an answer has to do
   with the store before and after; a lemma for each operation.
4. `EquipmentStep.answers`, `AccessoryStep.answers`, `ConsumableStep.answers`: every step answers so.
5. `Reachable.answers_stored`.
-/

namespace Quartermaster

/-! ## What is answered -/

/-- Whether the operation writes the row of the item. -/
def EquipmentOp.writesItem : EquipmentOp → Bool
  | .register _ | .changeStatus .. => true
  | _ => false

/-- Whether the operation writes the row of the accessory. -/
def AccessoryOp.writesItem : AccessoryOp → Bool
  | .register _ | .condemn .. | .restock .. => true
  | _ => false

/-- Whether the operation writes the row of the consumable. -/
def ConsumableOp.writesItem : ConsumableOp → Bool
  | .register _ | .issue .. | .takeBack .. | .restock .. => true
  | _ => false

/-- Whether the operation writes an assignment. -/
def EquipmentOp.movesCustody : EquipmentOp → Bool
  | .assign .. | .unassign .. | .reassign .. => true
  | _ => false

/-- Whether the operation writes an assignment. -/
def AccessoryOp.movesCustody : AccessoryOp → Bool
  | .assign .. | .takeBack .. => true
  | _ => false

/-- Whether the operation writes an issue. -/
def ConsumableOp.movesCustody : ConsumableOp → Bool
  | .issue .. | .use .. | .takeBack .. | .recordLoss .. | .reportLoss .. => true
  | _ => false

/-- What an operation that changes something answers with: an item that is new by itself, and
otherwise with its custody. -/
def EquipmentOp.answerOf (custody : EquipmentCustody) : EquipmentOp → Answer
  | .register _ => .equipment custody.item
  | _ => .equipmentCustody custody

def AccessoryOp.answerOf (custody : AccessoryCustody) : AccessoryOp → Answer
  | .register _ => .accessory custody.item
  | _ => .accessoryCustody custody

def ConsumableOp.answerOf (custody : ConsumableCustody) : ConsumableOp → Answer
  | .register _ => .consumable custody.item
  | _ => .consumableCustody custody

/-- The custody is that of the item which the operation names, or of the one that it makes. -/
def EquipmentOp.Concerns (s : Store) (custody : EquipmentCustody) : EquipmentOp → Prop
  | .register input =>
    custody.item.id = s.equipment.next ∧ s.roomOf input.room = .ok custody.item.val.room ∧
      input.Makes custody.item.val
  | .assign item _ _ | .unassign item _ _ | .reassign item _ _ _ | .changeStatus item _ _ =>
    (s.named? .equipment item).map (·.id) = some custody.item.id
  | .get _ | .list | .history _ => False

/-- The custody is that of the accessory which the operation names, itself or by an assignment, or of
the one that it makes. -/
def AccessoryOp.Concerns (s : Store) (custody : AccessoryCustody) : AccessoryOp → Prop
  | .register input =>
    custody.item.id = s.accessories.next ∧ s.roomOf input.room = .ok custody.item.val.room ∧
      input.Makes custody.item.val
  | .assign item _ _ | .condemn item _ | .restock item _ =>
    (s.named? .accessory item).map (·.id) = some custody.item.id
  | .takeBack assignment _ =>
    ∃ a, s.named? .accessoryAssignment assignment = some a ∧
      custody.assignment.map (·.id) = some a.id ∧ custody.item.id = a.val.accessory
  | .get _ | .list | .history _ => False

/-- The custody is that of the consumable which the operation names, itself or by an issue, or of the
one that it makes. -/
def ConsumableOp.Concerns (s : Store) (custody : ConsumableCustody) : ConsumableOp → Prop
  | .register input =>
    custody.item.id = s.consumables.next ∧ s.roomOf input.room = .ok custody.item.val.room ∧
      input.Makes custody.item.val
  | .issue item _ _ _ | .use item _ | .reportLoss item _ _ | .restock item _ =>
    (s.named? .consumable item).map (·.id) = some custody.item.id
  | .takeBack publicId _ | .recordLoss publicId _ _ =>
    ∃ i, s.named? .consumableIssue publicId = some i ∧ custody.issue.map (·.id) = some i.id ∧
      custody.item.id = i.val.consumable
  | .get _ | .list | .history _ => False

namespace Store

/-- The row that is answered, if any, is stored as it is answered. It is the only one of its table
that the operation may have written, and it was written if and only if the operation writes it. -/
structure Touched {c : Kind} {γ : Type} [Record c γ] (s s' : Store) (writes : Bool)
    (row : Option (Entry c γ)) : Prop where
  stored : ∀ a ∈ row, s'.row? a.id = some a
  others : ∀ id, row.map (·.id) ≠ some id → s'.row? id = s.row? id
  written : writes = true → ∃ a, row = some a ∧ s.row? a.id ≠ some a
  kept : writes = false → ∀ a ∈ row, s.row? a.id = some a

/-- The answer is about the item of the operation, and a look-up in the later store finds all that it
says. Of the assignment the look-up shows what is open, which is the assignment of an item that
somebody has, and not that of one that was given back. -/
structure AnswersItem (s s' : Store) (op : EquipmentOp) (custody : EquipmentCustody) : Prop where
  about : op.Concerns s custody
  item : s.Touched s' op.writesItem (some custody.item)
  found : ∀ viewer, s'.Permits viewer .roomViewer custody.item.val.room →
    Custody.getEquipment viewer custody.item.val.publicId s' =
      .ok { custody with assignment := custody.assignment.filter (·.val.isOpen) }
  row : s.Touched s' op.movesCustody custody.assignment
  subject : ∀ a ∈ custody.assignment, a.val.equipment = custody.item.id
  opened : ∀ a ∈ custody.assignment, a.val.isOpen = custody.isAssigned
  given_back : ∀ item user notes, op = .unassign item user notes → custody.isAssigned = false

/-- The answer is about the accessory of the operation, and a look-up in the later store finds it and
the units on the shelf. An assignment is closed once no units are left in it. -/
structure AnswersAccessory (s s' : Store) (op : AccessoryOp) (custody : AccessoryCustody) : Prop where
  about : op.Concerns s custody
  item : s.Touched s' op.writesItem (some custody.item)
  found : ∀ viewer, s'.Permits viewer .roomViewer custody.item.val.room →
    Custody.getAccessory viewer custody.item.val.publicId s' =
      .ok { custody with assignment := none }
  row : s.Touched s' op.movesCustody custody.assignment
  subject : ∀ a ∈ custody.assignment, a.val.accessory = custody.item.id
  closed : ∀ a ∈ custody.assignment, a.val.isOpen = true ↔ a.val.quantity ≠ 0

/-- The answer is about the consumable of the operation, and a look-up in the later store finds it,
and so the stock and whether it is low. An issue is closed once no units are left in it. -/
structure AnswersConsumable (s s' : Store) (op : ConsumableOp) (custody : ConsumableCustody) :
    Prop where
  about : op.Concerns s custody
  item : s.Touched s' op.writesItem (some custody.item)
  found : ∀ viewer, s'.Permits viewer .roomViewer custody.item.val.room →
    Custody.getConsumable viewer custody.item.val.publicId s' = .ok { custody with issue := none }
  row : s.Touched s' op.movesCustody custody.issue
  subject : ∀ i ∈ custody.issue, i.val.consumable = custody.item.id
  closed : ∀ i ∈ custody.issue, i.val.isOpen = true ↔ i.val.quantity ≠ 0

variable {s s' : Store}

/-! ## Rows -/

section Rows

variable {c : Kind} {γ : Type} [Record c γ] {a held : Entry c γ}

theorem Touched.insert (numbered : (Record.table s : Table c γ).Numbered)
    (added : a.id = (Record.table s : Table c γ).next)
    (table : Record.table s' = (Record.table s : Table c γ).insert a.val) :
    s.Touched s' true (some a) where
  stored := by
    rintro _ ⟨⟩
    unfold row?
    rw [table]
    exact numbered.get?_insert_self added
  others id other := by
    unfold row?
    rw [table]
    exact Table.get?_insert_of_ne fun same => other (congrArg some (added.trans same.symm))
  written _ := ⟨a, rfl, by
    unfold row?
    rw [numbered.get?_of_next added]
    nofun⟩
  kept := nofun

theorem Touched.put (found : s.row? held.id = some held) (same : a.id = held.id)
    (changed : a.val ≠ held.val)
    (table : Record.table s' = (Record.table s : Table c γ).put held.id a.val) :
    s.Touched s' true (some a) where
  stored := by
    rintro _ ⟨⟩
    unfold row?
    rw [table, same]
    exact (Table.get?_put_self found).trans (congrArg some (by rw [← same]))
  others id other := by
    unfold row?
    rw [table]
    exact Table.get?_put_of_ne fun held_id => other (congrArg some (same.trans held_id.symm))
  written _ := ⟨a, rfl, fun still => by
    rw [same, found] at still
    exact changed (congrArg Entry.val (Option.some.inj still).symm)⟩
  kept := nofun

theorem Touched.same {row : Option (Entry c γ)} (found : ∀ a ∈ row, s.row? a.id = some a)
    (table : (Record.table s' : Table c γ) = Record.table s) : s.Touched s' false row where
  stored a is_row := by
    unfold row?
    rw [table]
    exact found a is_row
  others id _ := by
    unfold row?
    rw [table]
  written := nofun
  kept _ := found

theorem Touched.one (found : s.row? a.id = some a)
    (table : (Record.table s' : Table c γ) = Record.table s) : s.Touched s' false (some a) :=
  .same (by rintro _ ⟨⟩; exact found) table

/-- Anything can be said of a row that is not there. -/
theorem of_no_row {α : Type} {P : α → Prop} : ∀ a ∈ (none : Option α), P a :=
  fun a absent => absurd absent (Option.not_mem_none a)

theorem Touched.nothing (table : (Record.table s' : Table c γ) = Record.table s) :
    s.Touched s' false (none : Option (Entry c γ)) :=
  .same of_no_row table

/-- A row that is called by its public id is the one that was found so. -/
theorem named_id [Named c] {publicId : String} (named : s.named? c publicId = some held)
    (same : a.id = held.id) : (s.named? c publicId).map (·.id) = some a.id := by
  rw [named, same]
  rfl

end Rows

/-! ## Equipment -/

section Equipment

variable {item user : String} {notes : Option String} {e : Entry .equipment Equipment}
  {u : Entry .user User} {a held : Entry .equipmentAssignment EquipmentAssignment}

/-- A look-up finds what agrees with the open assignment. -/
theorem Sound.found_item (sound : s.Sound) {custody : EquipmentCustody}
    {shown : Option (Entry .equipmentAssignment EquipmentAssignment)}
    (item : s.row? custody.item.id = some custody.item)
    (opened : custody.assignment.filter (·.val.isOpen) = shown)
    (found : s.openEquipmentAssignment custody.item.id = shown)
    (assigned : custody.isAssigned = shown.isSome)
    (holder : custody.holder = s.userPublicId (shown.map (·.val.holder))) (viewer : Context)
    (permitted : s.Permits viewer .roomViewer custody.item.val.room) :
    Custody.getEquipment viewer custody.item.val.publicId s =
      .ok { custody with assignment := custody.assignment.filter (·.val.isOpen) } := by
  rw [Custody.getEquipment_of_mem viewer sound (Table.mem_of_get? item).1,
    if_pos (permits_viewer_iff.1 permitted), found, opened, ← assigned, ← holder]

/-- Nobody has an item that is yet to come. -/
theorem Linked.open_next (linked : s.Linked) (sound : s.Sound) :
    s.openEquipmentAssignment s.equipment.next = none := by
  refine List.find?_eq_none.2 fun a member chosen => ?_
  obtain ⟨e, stored, same⟩ := Table.has_iff.1 (linked.ends_of_equipment member).1
  simp only [Bool.and_eq_true, beq_iff_eq] at chosen
  exact sound.equipment.numbered.ne_next stored (same.trans chosen.1)

/-- An answer is right that has the row, and for an item that somebody has the open assignment. -/
theorem AnswersItem.of_held {op : EquipmentOp} (sound' : s'.Sound)
    (about : op.Concerns s
      { item := e, isAssigned := true, holder := some u.val.publicId, assignment := some a })
    (item : s.Touched s' op.writesItem (some e)) (held : s'.openEquipmentAssignment e.id = some a)
    (holder : s'.row? a.val.holder = some u) (row : s.Touched s' op.movesCustody (some a))
    (kept : ∀ item user notes, op ≠ .unassign item user notes) :
    s.AnswersItem s' op
      { item := e, isAssigned := true, holder := some u.val.publicId, assignment := some a } := by
  obtain ⟨_, of_item, is_open⟩ := sound'.openEquipmentAssignment held
  exact {
    about, item, row
    found := sound'.found_item (item.stored e rfl) (Option.filter_some_pos is_open) held rfl
      (userPublicId_of_row holder).symm
    subject := by
      rintro _ ⟨⟩
      exact of_item
    opened := by
      rintro _ ⟨⟩
      exact is_open
    given_back := fun item user notes is_unassign => absurd is_unassign (kept item user notes) }

theorem AnswersItem.register {input : EquipmentInput} (sound : s.Sound) (linked : s.Linked)
    (sound' : s'.Sound) (placed : s.roomOf input.room = .ok e.val.room)
    (added : e.id = s.equipment.next) (made : input.Makes e.val)
    (items : s'.equipment = s.equipment.insert e.val)
    (rows : s'.equipmentAssignments = s.equipmentAssignments) :
    s.AnswersItem s' (.register input)
      { item := e, isAssigned := false, holder := none, assignment := none } := by
  have item := Touched.insert sound.equipment.numbered added items
  have nobody : s'.openEquipmentAssignment e.id = none := by
    rw [Store.openEquipmentAssignment, rows, added]
    exact linked.open_next sound
  exact {
    about := ⟨added, placed, made⟩
    item, row := .nothing rows
    found := sound'.found_item (item.stored e rfl) rfl nobody rfl rfl
    subject := of_no_row, opened := of_no_row, given_back := nofun }

theorem AnswersItem.assign (sound : s.Sound) (sound' : s'.Sound)
    (item_named : s.named? .equipment item = some e) (user_named : s.named? .user user = some u)
    (free : s.openEquipmentAssignment e.id = none) (added : a.id = s.equipmentAssignments.next)
    (of_item : a.val.equipment = e.id) (of_user : a.val.holder = u.id)
    (is_open : a.val.isOpen = true) (items : s'.equipment = s.equipment)
    (users : s'.users = s.users)
    (rows : s'.equipmentAssignments = s.equipmentAssignments.insert a.val) :
    s.AnswersItem s' (.assign item user notes)
      { item := e, isAssigned := true, holder := some u.val.publicId, assignment := some a } := by
  have held : s'.openEquipmentAssignment e.id = some a := by
    rw [Store.openEquipmentAssignment, rows, Table.find?_insert,
      show s.equipmentAssignments.find? _ = none from free]
    simp [of_item, is_open, ← added]
  have holder : s'.row? a.val.holder = some u := by
    show s'.users.get? a.val.holder = some u
    rw [users, of_user]
    exact sound.users.get?_of_find? user_named
  exact .of_held sound' (named_id item_named rfl)
    (.one (sound.equipment.get?_of_find? item_named) items) held holder
    (.insert sound.equipmentAssignments.numbered added rows) nofun

theorem AnswersItem.unassign (sound : s.Sound) (sound' : s'.Sound)
    (item_named : s.named? .equipment item = some e)
    (is_held : s.openEquipmentAssignment e.id = some held) (same : a.id = held.id)
    (of_item : a.val.equipment = held.val.equipment) (is_closed : a.val.isOpen = false)
    (items : s'.equipment = s.equipment)
    (rows : s'.equipmentAssignments = s.equipmentAssignments.put held.id a.val) :
    s.AnswersItem s' (.unassign item user notes)
      { item := e, isAssigned := false, holder := none, assignment := some a } := by
  obtain ⟨row, subject, was_open⟩ := sound.openEquipmentAssignment is_held
  have nobody : s'.openEquipmentAssignment e.id = none := by
    rw [Store.openEquipmentAssignment, rows, sound.find?_put_open is_held, is_closed,
      Bool.and_false, if_neg Bool.false_ne_true]
  have written : a.val ≠ held.val := fun same => by
    rw [same, was_open] at is_closed
    cases is_closed
  have item := Touched.one (sound.equipment.get?_of_find? item_named) items
  exact {
    about := named_id item_named rfl
    item, row := .put row same written rows
    found := sound'.found_item (item.stored e rfl) (Option.filter_some_neg (by simp [is_closed]))
      nobody rfl rfl
    subject := by
      rintro _ ⟨⟩
      exact of_item.trans subject
    opened := by
      rintro _ ⟨⟩
      exact is_closed
    given_back := fun _ _ _ _ => rfl }

/-- The giver and the receiver go by different names, so the assignment changes. -/
theorem AnswersItem.reassign {giver receiver : String} {g : Entry .user User} (sound : s.Sound)
    (sound' : s'.Sound) (different : giver ≠ receiver)
    (item_named : s.named? .equipment item = some e)
    (giver_named : s.named? .user giver = some g)
    (receiver_named : s.named? .user receiver = some u)
    (is_held : s.openEquipmentAssignment e.id = some held) (by_giver : held.val.holder = g.id)
    (same : a.id = held.id) (of_item : a.val.equipment = held.val.equipment)
    (of_user : a.val.holder = u.id) (is_open : a.val.isOpen = true)
    (items : s'.equipment = s.equipment) (users : s'.users = s.users)
    (rows : s'.equipmentAssignments = s.equipmentAssignments.put held.id a.val) :
    s.AnswersItem s' (.reassign item giver receiver notes)
      { item := e, isAssigned := true, holder := some u.val.publicId, assignment := some a } := by
  obtain ⟨row, subject, _⟩ := sound.openEquipmentAssignment is_held
  have custody : s'.openEquipmentAssignment e.id = some a := by
    rw [Store.openEquipmentAssignment, rows, sound.find?_put_open is_held, of_item, subject, is_open,
      beq_self_eq_true, Bool.and_true, if_pos rfl, ← same]
  have written : a.val ≠ held.val := fun unchanged => by
    have apart := Store.named_ne sound.users receiver_named giver_named different
    rw [← by_giver, ← of_user, unchanged] at apart
    exact apart rfl
  have holder : s'.row? a.val.holder = some u := by
    show s'.users.get? a.val.holder = some u
    rw [users, of_user]
    exact sound.users.get?_of_find? receiver_named
  exact .of_held sound' (named_id item_named rfl)
    (.one (sound.equipment.get?_of_find? item_named) items) custody holder
    (.put row same written rows) nofun

theorem AnswersItem.changeStatus {status : EquipmentStatus} {after : Entry .equipment Equipment}
    {held : Option (Entry .equipmentAssignment EquipmentAssignment)} (sound : s.Sound)
    (sound' : s'.Sound) (item_named : s.named? .equipment item = some e)
    (is_held : s.openEquipmentAssignment e.id = held) (same : after.id = e.id)
    (changed : after.val ≠ e.val) (items : s'.equipment = s.equipment.put e.id after.val)
    (users : s'.users = s.users) (rows : s'.equipmentAssignments = s.equipmentAssignments) :
    s.AnswersItem s' (.changeStatus item status notes)
      { item := after, isAssigned := held.isSome
        holder := s.userPublicId (held.map (·.val.holder)), assignment := held } := by
  have its (a : Entry .equipmentAssignment EquipmentAssignment) (is_row : a ∈ held) :=
    sound.openEquipmentAssignment (is_held.trans is_row)
  have still : held.filter (·.val.isOpen) = held := by
    cases held with
    | none => rfl
    | some a => exact Option.filter_some_pos (its a rfl).2.2
  have custody : s'.openEquipmentAssignment after.id = held := by
    rw [Store.openEquipmentAssignment, rows, same]
    exact is_held
  have people : s'.userPublicId = s.userPublicId := by
    funext user
    show (user.bind s'.users.get?).map _ = (user.bind s.users.get?).map _
    rw [users]
  have item := Touched.put (sound.equipment.get?_of_find? item_named) same changed items
  exact {
    about := named_id item_named same
    item, row := .same (fun a is_row => (its a is_row).1) rows
    found := sound'.found_item (item.stored after rfl) still custody rfl
      (by rw [people])
    subject := fun a is_row => (its a is_row).2.1.trans same.symm
    opened := fun a is_row => (its a is_row).2.2.trans (by cases is_row; rfl)
    given_back := nofun }

end Equipment

end Store

theorem EquipmentStep.answers {s s' : Store} {ctx : Context} {op : EquipmentOp}
    {done : Committed Answer} (step : EquipmentStep ctx s op done s') (reachable : Reachable s)
    (sound' : s'.Sound) (writes : op.isRead = false) :
    ∃ custody, done.answer = op.answerOf custody ∧ s.AnswersItem s' op custody := by
  have sound := reachable.sound
  cases step with
  | read is_read => cases is_read.symm.trans writes
  | register placed _ added in_room _ _ made =>
    exact ⟨_, rfl, .register sound reachable.linked sound' (in_room ▸ placed) added made rfl rfl⟩
  | assign item_named user_named _ _ _ free _ opened =>
    subst opened
    exact ⟨_, rfl, .assign sound sound' item_named user_named free rfl rfl rfl rfl rfl rfl rfl⟩
  | unassign item_named _ _ is_held _ returned =>
    subst returned
    exact ⟨_, rfl, .unassign sound sound' item_named is_held rfl rfl rfl rfl rfl⟩
  | reassign different item_named giver_named receiver_named _ _ _ is_held by_giver handed =>
    subst handed
    exact ⟨_, rfl, .reassign sound sound' different item_named giver_named receiver_named is_held
      by_giver rfl rfl rfl (sound.openEquipmentAssignment is_held).2.2 rfl rfl rfl⟩
  | changeStatus item_named _ _ different is_held _ changed =>
    subst changed
    exact ⟨_, rfl, .changeStatus sound sound' item_named is_held rfl
      (fun same => different (congrArg Equipment.status same).symm) rfl rfl rfl⟩

/-! ## Accessories -/

/-- Units that are taken from an assignment make it another one. -/
theorem AccessoryAssignment.less_ne {a : AccessoryAssignment} {units : Int} {until' : Stamp}
    (positive : 0 < units) : a.less units until' ≠ a := by
  intro same
  have := congrArg AccessoryAssignment.quantity same
  simp only [less] at this
  omega

namespace Store

section Accessories

variable {s s' : Store} {item user : String} {quantity : Int64} {units : Int}
  {e after : Entry .accessory Accessory}
  {a held : Entry .accessoryAssignment AccessoryAssignment}

/-- An answer is right that has the row, the units on the shelf and the assignment as they are. -/
theorem AnswersAccessory.of {op : AccessoryOp} {custody : AccessoryCustody}
    (reachable' : Reachable s') (about : op.Concerns s custody)
    (item : s.Touched s' op.writesItem (some custody.item))
    (shelf : custody.available =
      custody.item.val.quantity - unitsOut s'.accessoryAssignments custody.item.id)
    (row : s.Touched s' op.movesCustody custody.assignment)
    (subject : ∀ a ∈ custody.assignment, a.val.accessory = custody.item.id) :
    s.AnswersAccessory s' op custody where
  about := about
  item := item
  found viewer permitted := by
    rw [Custody.getAccessory_eq reachable' (Table.mem_of_get? (item.stored _ rfl)).1,
      if_pos (permits_viewer_iff.1 permitted), ← shelf]
  row := row
  subject := subject
  closed a is_row := AccessoryAssignment.isOpen_iff
    (reachable'.sound.accessoryAssignments.valid a (Table.mem_of_get? (row.stored a is_row)).1).2

theorem AnswersAccessory.register {input : AccessoryInput} (reachable : Reachable s)
    (reachable' : Reachable s') (placed : s.roomOf input.room = .ok e.val.room)
    (added : e.id = s.accessories.next) (made : input.Makes e.val)
    (items : s'.accessories = s.accessories.insert e.val)
    (rows : s'.accessoryAssignments = s.accessoryAssignments) :
    s.AnswersAccessory s' (.register input)
      { item := e, available := e.val.quantity, assignment := none } := by
  refine .of reachable' ⟨added, placed, made⟩
    (.insert reachable.sound.accessories.numbered added items) ?_ (.nothing rows) of_no_row
  show e.val.quantity = e.val.quantity - unitsOut s'.accessoryAssignments e.id
  rw [rows, added, reachable.backed.unitsOut_next, Int.sub_zero]

/-- The units that were handed out are off the shelf. -/
theorem AnswersAccessory.assign {custody : Table .accessoryAssignment AccessoryAssignment}
    (sound : s.Sound) (reachable' : Reachable s') (item_named : s.named? .accessory item = some e)
    (of_item : a.val.accessory = e.id)
    (out : unitsOut custody e.id = unitsOut s.accessoryAssignments e.id + units)
    (row : s.Touched s' true (some a)) (items : s'.accessories = s.accessories)
    (rows : s'.accessoryAssignments = custody) :
    s.AnswersAccessory s' (.assign item user quantity)
      { item := e
        available := e.val.quantity - unitsOut s.accessoryAssignments e.id - units
        assignment := some a } := by
  refine .of reachable' (named_id item_named rfl)
    (.one (sound.accessories.get?_of_find? item_named) items) ?_ row
    (by rintro _ ⟨⟩; exact of_item)
  show e.val.quantity - _ - units = e.val.quantity - unitsOut s'.accessoryAssignments e.id
  rw [rows, out]
  omega

theorem AnswersAccessory.assignMore (sound : s.Sound) (reachable' : Reachable s')
    (positive : 0 < units) (item_named : s.named? .accessory item = some e) {holder : UserId}
    (is_held : s.openAccessoryAssignment e.id holder = some held)
    (items : s'.accessories = s.accessories)
    (rows : s'.accessoryAssignments = s.accessoryAssignments.put held.id
      { held.val with quantity := held.val.quantity + units }) :
    s.AnswersAccessory s' (.assign item user quantity)
      { item := e
        available := e.val.quantity - unitsOut s.accessoryAssignments e.id - units
        assignment := some { held with val := { held.val with
          quantity := held.val.quantity + units } } } := by
  obtain ⟨found, subject, _, is_open⟩ := sound.openAccessoryAssignment is_held
  have less := AccessoryAssignment.unitsOf_of_open subject is_open
  have more : AccessoryAssignment.unitsOf
      { held.val with quantity := held.val.quantity + units } e.id = held.val.quantity + units :=
    AccessoryAssignment.unitsOf_of_open subject is_open
  refine .assign sound reachable' item_named subject ?_
    (.put found rfl (fun same => ?_) rows) items rows
  · rw [unitsOut_put sound.accessoryAssignments.numbered found, less, more]
    omega
  · have := congrArg AccessoryAssignment.quantity same
    simp only at this
    omega

theorem AnswersAccessory.assignNew (sound : s.Sound) (reachable' : Reachable s')
    (item_named : s.named? .accessory item = some e) (added : a.id = s.accessoryAssignments.next)
    (of_item : a.val.accessory = e.id) (is_open : a.val.isOpen = true)
    (items : s'.accessories = s.accessories)
    (rows : s'.accessoryAssignments = s.accessoryAssignments.insert a.val) :
    s.AnswersAccessory s' (.assign item user quantity)
      { item := e
        available := e.val.quantity - unitsOut s.accessoryAssignments e.id - a.val.quantity
        assignment := some a } := by
  refine .assign sound reachable' item_named of_item ?_
    (.insert sound.accessoryAssignments.numbered added rows) items rows
  rw [unitsOut_insert, AccessoryAssignment.unitsOf_of_open of_item is_open]

theorem AnswersAccessory.takeBack {assignment : String} {left : Int} {until' : Stamp}
    (sound : s.Sound) (reachable' : Reachable s') (positive : 0 < units)
    (custody_named : s.named? .accessoryAssignment assignment = some a)
    (item_found : s.row? a.val.accessory = some e)
    (shelf : left = e.val.quantity - unitsOut s'.accessoryAssignments e.id)
    (items : s'.accessories = s.accessories)
    (rows : s'.accessoryAssignments =
      s.accessoryAssignments.put a.id (a.val.less units until')) :
    s.AnswersAccessory s' (.takeBack assignment quantity)
      { item := e, available := left
        assignment := some { a with val := a.val.less units until' } } := by
  have found : s.row? a.id = some a := sound.accessoryAssignments.get?_of_find? custody_named
  have own : e.id = a.val.accessory := (Table.mem_of_get? item_found).2
  have item : s.row? e.id = some e := by rw [own, item_found]
  exact .of reachable' ⟨a, custody_named, rfl, own⟩ (.one item items) shelf
    (.put found rfl (AccessoryAssignment.less_ne positive) rows) (by rintro _ ⟨⟩; exact own.symm)

/-- An accessory with a new total is stored, and the shelf goes by it. -/
theorem AnswersAccessory.setTotal {op : AccessoryOp} {available : Int} (sound : s.Sound)
    (reachable' : Reachable s') (item_named : s.named? .accessory item = some e)
    (same : after.id = e.id) (changed : after.val.quantity ≠ e.val.quantity)
    (shelf : available = after.val.quantity - unitsOut s.accessoryAssignments e.id)
    (about : op.Concerns s { item := after, available, assignment := none })
    (writes : op.writesItem = true) (moves : op.movesCustody = false)
    (items : s'.accessories = s.accessories.put e.id after.val)
    (rows : s'.accessoryAssignments = s.accessoryAssignments) :
    s.AnswersAccessory s' op { item := after, available, assignment := none } := by
  have item := Touched.put (sound.accessories.get?_of_find? item_named) same
    (fun unchanged => changed (congrArg Accessory.quantity unchanged)) items
  refine .of reachable' about (writes ▸ item) ?_ (moves ▸ .nothing rows) of_no_row
  rw [shelf, rows, ← same]

end Accessories

end Store

theorem AccessoryStep.answers {s s' : Store} {ctx : Context} {op : AccessoryOp}
    {done : Committed Answer} (step : AccessoryStep ctx s op done s') (reachable : Reachable s)
    (reachable' : Reachable s') (writes : op.isRead = false) :
    ∃ custody, done.answer = op.answerOf custody ∧ s.AnswersAccessory s' op custody := by
  have sound := reachable.sound
  cases step with
  | read is_read => cases is_read.symm.trans writes
  | registerEmpty placed _ added in_room _ _ made
  | registerStocked placed _ added in_room _ _ _ made =>
    exact ⟨_, rfl, .register reachable reachable' (in_room ▸ placed) added made rfl rfl⟩
  | assignMore positive item_named _ _ shelf _ is_held grown =>
    obtain ⟨_, rfl⟩ := Store.available_ok.1 shelf
    subst grown
    exact ⟨_, rfl, .assignMore sound reachable' positive item_named is_held rfl rfl⟩
  | assignNew _ item_named _ _ shelf _ _ _ opened =>
    obtain ⟨_, rfl⟩ := Store.available_ok.1 shelf
    subst opened
    exact ⟨_, rfl, .assignNew sound reachable' item_named rfl rfl rfl rfl rfl⟩
  | takeBack positive custody_named item_found _ _ _ _ reduced shelf =>
    subst reduced
    exact ⟨_, rfl, .takeBack sound reachable' positive custody_named item_found
      (Store.available_ok.1 shelf).2 rfl rfl⟩
  | condemn positive item_named _ shelf _ changed =>
    obtain ⟨_, rfl⟩ := Store.available_ok.1 shelf
    subst changed
    exact ⟨_, rfl, .setTotal sound reachable' item_named rfl (by simp only; omega)
      (by simp only; omega) (Store.named_id item_named rfl) rfl rfl rfl rfl⟩
  | restock positive item_named _ _ changed shelf =>
    obtain ⟨_, rfl⟩ := Store.available_ok.1 shelf
    subst changed
    exact ⟨_, rfl, .setTotal sound reachable' item_named rfl (by simp only; omega) rfl
      (Store.named_id item_named rfl) rfl rfl rfl rfl⟩

/-! ## Consumables -/

/-- Units that are taken from an issue make it another one. -/
theorem ConsumableIssue.less_ne {i : ConsumableIssue} {units : Int} {until' : Stamp}
    (positive : 0 < units) : i.less units until' ≠ i := by
  intro same
  have := congrArg ConsumableIssue.quantity same
  simp only [less] at this
  omega

namespace Store

section Consumables

variable {s s' : Store} {item : String} {units : Int} {e after : Entry .consumable Consumable}
  {i : Entry .consumableIssue ConsumableIssue}

/-- An answer is right that has the row and the issue as they are. -/
theorem AnswersConsumable.of {op : ConsumableOp} {custody : ConsumableCustody} (sound' : s'.Sound)
    (about : op.Concerns s custody) (item : s.Touched s' op.writesItem (some custody.item))
    (row : s.Touched s' op.movesCustody custody.issue)
    (subject : ∀ i ∈ custody.issue, i.val.consumable = custody.item.id) :
    s.AnswersConsumable s' op custody where
  about := about
  item := item
  found viewer permitted := by
    rw [Custody.getConsumable_of_mem viewer sound' (Table.mem_of_get? (item.stored _ rfl)).1,
      if_pos (permits_viewer_iff.1 permitted)]
  row := row
  subject := subject
  closed i is_row := ConsumableIssue.isOpen_iff
    (sound'.consumableIssues.valid i (Table.mem_of_get? (row.stored i is_row)).1).2

theorem AnswersConsumable.alone {op : ConsumableOp} (sound' : s'.Sound)
    (about : op.Concerns s { item := e, issue := none })
    (item : s.Touched s' op.writesItem (some e)) (moves : op.movesCustody = false)
    (rows : s'.consumableIssues = s.consumableIssues) :
    s.AnswersConsumable s' op { item := e, issue := none } :=
  .of sound' about item (moves ▸ .nothing rows) of_no_row

/-- A consumable with a new stock is stored. -/
theorem Touched.setStock (found : s.row? e.id = some e) (same : after.id = e.id)
    (changed : after.val.quantity ≠ e.val.quantity)
    (items : s'.consumables = s.consumables.put e.id after.val) :
    s.Touched s' true (some after) :=
  .put found same (fun unchanged => changed (congrArg Consumable.quantity unchanged)) items

/-- Units that leave custody for good leave the stock as it is. -/
theorem AnswersConsumable.spend {op : ConsumableOp} {until' : Stamp} (sound' : s'.Sound)
    (positive : 0 < units)
    (about : op.Concerns s { item := e, issue := some { i with val := i.val.less units until' } })
    (writes : op.writesItem = false) (moves : op.movesCustody = true)
    (stored : s.row? e.id = some e) (found : s.row? i.id = some i) (own : i.val.consumable = e.id)
    (items : s'.consumables = s.consumables)
    (rows : s'.consumableIssues = s.consumableIssues.put i.id (i.val.less units until')) :
    s.AnswersConsumable s' op
      { item := e, issue := some { i with val := i.val.less units until' } } :=
  .of sound' about (writes ▸ .one stored items)
    (moves ▸ .put found rfl (ConsumableIssue.less_ne positive) rows)
    (by rintro _ ⟨⟩; exact own)

end Consumables

end Store

theorem ConsumableStep.answers {s s' : Store} {d : Setting} {ctx : Context} {op : ConsumableOp}
    {done : Committed Answer} (step : ConsumableStep d ctx s op done s') (sound : s.Sound)
    (sound' : s'.Sound) (writes : op.isRead = false) :
    ∃ custody, done.answer = op.answerOf custody ∧ s.AnswersConsumable s' op custody := by
  have items := sound.consumables.numbered
  have rows := sound.consumableIssues.numbered
  cases step with
  | read is_read => cases is_read.symm.trans writes
  | @registerEmpty _ _ e _ _ _ placed _ added in_room _ _ made
  | @registerStocked _ _ e _ _ _ _ placed _ added in_room _ _ _ made =>
    exact ⟨⟨e, none⟩, rfl, .alone sound' ⟨added, in_room ▸ placed, made⟩ (.insert items added rfl)
      rfl rfl⟩
  | issueMore positive item_named _ _ _ is_held grown changed =>
    obtain ⟨row, own, _⟩ := sound.openIssue is_held
    subst grown changed
    refine ⟨_, rfl, .of sound' (Store.named_id item_named rfl)
      (.setStock (sound.consumables.get?_of_find? item_named) rfl (by simp only; omega) rfl)
      (.put row rfl (fun same => ?_) rfl) (by rintro _ ⟨⟩; exact own)⟩
    have := congrArg ConsumableIssue.quantity same
    simp only at this
    omega
  | issueNew positive item_named _ _ _ _ _ opened changed =>
    subst opened changed
    exact ⟨_, rfl, .of sound' (Store.named_id item_named rfl)
      (.setStock (sound.consumables.get?_of_find? item_named) rfl (by simp only; omega) rfl)
      (.insert rows rfl rfl) (by rintro _ ⟨⟩; rfl)⟩
  | use positive item_named own _ reduced | reportLoss positive item_named _ own _ reduced =>
    obtain ⟨row, own, _⟩ := sound.openIssue own
    subst reduced
    exact ⟨_, rfl, .spend sound' positive (Store.named_id item_named rfl) rfl rfl
      (sound.consumables.get?_of_find? item_named) row own rfl rfl⟩
  | @takeBack _ _ e _ _ i _ _ _ _ _ _ _ positive issue_named item_found _ _ _ _ _ reduced changed =>
    have row : s.row? i.id = some i := sound.consumableIssues.get?_of_find? issue_named
    have own : e.id = i.val.consumable := (Table.mem_of_get? item_found).2
    have stored : s.row? e.id = some e := by rw [own, item_found]
    subst reduced changed
    exact ⟨_, rfl, .of sound' ⟨i, issue_named, rfl, own⟩
      (.setStock stored rfl (by simp only; omega) rfl)
      (.put row rfl (ConsumableIssue.less_ne positive) rfl) (by rintro _ ⟨⟩; exact own.symm)⟩
  | @recordLoss _ _ _ e _ i _ _ _ _ _ _ positive issue_named item_found _ _ _ _ reduced =>
    have row : s.row? i.id = some i := sound.consumableIssues.get?_of_find? issue_named
    have own : e.id = i.val.consumable := (Table.mem_of_get? item_found).2
    have stored : s.row? e.id = some e := by rw [own, item_found]
    subst reduced
    exact ⟨_, rfl, .spend sound' positive ⟨i, issue_named, rfl, own⟩ rfl rfl stored row
      own.symm rfl rfl⟩
  | restock positive item_named _ _ changed =>
    subst changed
    exact ⟨_, rfl, .alone sound' (Store.named_id item_named rfl)
      (.setStock (sound.consumables.get?_of_find? item_named) rfl (by simp only; omega) rfl)
      rfl rfl⟩

/-- In every reachable store, an operation that changes custody, or registers an asset, and is not
refused answers with what is stored after it. -/
theorem Reachable.answers_stored {s : Store} (reachable : Reachable s) (d : Setting) (ctx : Context)
    (answer : Answer) :
    (∀ op : EquipmentOp, op.isRead = false →
      ((Operation.caller ctx (.equipment op)).run d s).answer = .ok answer →
      ∃ custody, answer = op.answerOf custody ∧
        s.AnswersItem ((Operation.caller ctx (.equipment op)).run d s).store op custody) ∧
    (∀ op : AccessoryOp, op.isRead = false →
      ((Operation.caller ctx (.accessories op)).run d s).answer = .ok answer →
      ∃ custody, answer = op.answerOf custody ∧
        s.AnswersAccessory ((Operation.caller ctx (.accessories op)).run d s).store op custody) ∧
    ∀ op : ConsumableOp, op.isRead = false →
      ((Operation.caller ctx (.consumables op)).run d s).answer = .ok answer →
      ∃ custody, answer = op.answerOf custody ∧
        s.AnswersConsumable ((Operation.caller ctx (.consumables op)).run d s).store op custody := by
  have sound := reachable.sound
  refine ⟨fun op writes answered => ?_, fun op writes answered => ?_, fun op writes answered => ?_⟩
  · obtain ⟨done, s', step, sound', out⟩ := Operation.run_ok sound answered
    rw [out] at answered ⊢
    obtain _ | ⟨_ | _ | step⟩ := step
    obtain ⟨custody, told, answers⟩ := step.answers reachable sound' writes
    exact ⟨custody, (Except.ok.inj answered).symm.trans told, answers⟩
  · have after := reachable.run d (.caller ctx (.accessories op))
    obtain ⟨done, s', step, _, out⟩ := Operation.run_ok sound answered
    rw [out] at answered after ⊢
    obtain _ | ⟨_ | _ | _ | step⟩ := step
    obtain ⟨custody, told, answers⟩ := step.answers reachable after writes
    exact ⟨custody, (Except.ok.inj answered).symm.trans told, answers⟩
  · obtain ⟨done, s', step, sound', out⟩ := Operation.run_ok sound answered
    rw [out] at answered ⊢
    obtain _ | ⟨_ | _ | _ | _ | step⟩ := step
    obtain ⟨custody, told, answers⟩ := step.answers sound sound' writes
    exact ⟨custody, (Except.ok.inj answered).symm.trans told, answers⟩

/-- When bob gives the drill back, the answer has the assignment that was closed by that. When ann is
handed the bits that are left on the shelf, on top of those that she has, it has all that is hers. -/
theorem workshop_answers_stored :
    (∃ custody, workshop.AnswersItem
      ((Operation.caller workshop.root (.equipment (.unassign "drill" "bob" none))).run {}
        workshop).store (.unassign "drill" "bob" none) custody ∧ custody.isAssigned = false) ∧
    ∃ custody, workshop.AnswersAccessory
      ((Operation.caller workshop.root (.accessories (.assign "bits" "ann" 5))).run {}
        workshop).store (.assign "bits" "ann" 5) custody ∧
      custody.available = 0 ∧ custody.assignment.map (·.val.quantity) = some 8 := by
  have reachable : Reachable workshop := Reachable.serve (.seeded (.empty 0 0 0))
  have told (answer : Answer) := reachable.answers_stored {} workshop.root answer
  have given : ((Operation.caller workshop.root (.equipment (.unassign "drill" "bob" none))).run {}
      workshop).answer.isOk = true := by decide +kernel
  have units : (((Operation.caller workshop.root (.accessories (.assign "bits" "ann" 5))).run {}
      workshop).answer.map fun
        | .accessoryCustody c => some (c.available, c.assignment.map (·.val.quantity))
        | _ => none) = .ok (some (0, some 8)) := by decide +kernel
  -- the rest holds of any store in which this is answered
  generalize workshop = s at *
  obtain ⟨_, answered⟩ := Results.isOk_iff.1 given
  obtain ⟨_, answered', units⟩ := Results.map_ok.1 units
  obtain ⟨custody, _, answers⟩ := (told _).1 _ rfl answered
  obtain ⟨custody', rfl, answers'⟩ := (told _).2.1 _ rfl answered'
  obtain ⟨available, left⟩ := Prod.mk.inj (Option.some.inj units)
  exact ⟨⟨custody, answers, answers.given_back _ _ _ rfl⟩, custody', answers', available, left⟩

end Quartermaster
