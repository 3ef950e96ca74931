import Mathlib.Data.List.Forall2
import Quartermaster.Proofs.FailClosed
import Quartermaster.Proofs.Runs

/-!
# The audit log is complete

Every operation that changes something for a caller, but the choice of an own role, leaves one row in
the audit log; nothing else leaves any. What the row has to say is read off the operation and the store
that it meets (`CallerOp.subject`, `Store.NamesAlong`), not off the transaction that writes it.

1. `Store.Sound.namesAlong`: the names that are recorded are those along the chain of the room.
2. `CallerStep.audited`: a step adds the row of what it is about, or adds none.
3. `Turn.audited`: so does every operation on a sound store, refused ones included.
4. `LeadsBy.audit_complete`: the rows that a run adds are those of its turns, one by one.
-/

namespace Quartermaster

/-! ## Names along a chain -/

/-- The names of a room, of its location and of the location's department, each as far as the links
lead to a row. -/
structure Store.NamesAlong (s : Store) (place : Option RoomId) (names : ScopeNames) : Prop where
  room (name : String) : names.room = some name ↔
    ∃ r ∈ s.rooms.entries, place = some r.id ∧ r.val.name = name
  location (name : String) : names.location = some name ↔
    ∃ r ∈ s.rooms.entries, place = some r.id ∧
      ∃ l ∈ s.locations.entries, r.val.location = some l.id ∧ l.val.name = name
  department (name : String) : names.department = some name ↔
    ∃ r ∈ s.rooms.entries, place = some r.id ∧
      ∃ l ∈ s.locations.entries, r.val.location = some l.id ∧
        ∃ d ∈ s.departments.entries, l.val.department = some d.id ∧ d.val.name = name

namespace Table

variable {k : Kind} {α : Type} {t : Table k α} {row : α} {e : Entry k α}

/-- The row that a reference leads to. -/
theorem Numbered.bind_get? (h : t.Numbered) {reference : Option (Id k)} :
    reference.bind t.get? = some e ↔ e ∈ t.entries ∧ reference = some e.id := by
  rw [Option.bind_eq_some_iff]
  constructor
  · rintro ⟨id, rfl, found⟩
    obtain ⟨member, rfl⟩ := mem_of_get? found
    exact ⟨member, rfl⟩
  · rintro ⟨member, rfl⟩
    exact ⟨e.id, rfl, h.get?_of_mem member⟩

/-- The newest row is the one that was added. -/
theorem getLast?_insert (added : e.id = t.next) : (t.insert e.val).entries.getLast? = some e := by
  rw [entries_insert, List.getLast?_append, ← added]
  rfl

end Table

section Names

variable {s : Store} {room : Option RoomId}

theorem Store.scopeNames_eq : s.scopeNames room =
    { room := (room.bind s.rooms.get?).map (·.val.name)
      location := ((room.bind s.rooms.get?).bind fun r =>
        r.val.location.bind s.locations.get?).map (·.val.name)
      department := ((room.bind s.rooms.get?).bind fun r =>
        (r.val.location.bind s.locations.get?).bind fun l =>
          l.val.department.bind s.departments.get?).map (·.val.name) } := by
  unfold scopeNames
  rw [show room.bind s.row? = room.bind s.rooms.get? from rfl]
  cases room.bind s.rooms.get? <;> rfl

theorem Store.Sound.namesAlong (sound : s.Sound) : s.NamesAlong room (s.scopeNames room) := by
  have rooms := sound.rooms.numbered
  have locations := sound.locations.numbered
  have departments := sound.departments.numbered
  rw [Store.scopeNames_eq]
  refine ⟨fun name => ?_, fun name => ?_, fun name => ?_⟩
  · rw [Option.map_eq_some_iff]
    simp only [rooms.bind_get?, and_assoc]
  · rw [Option.map_eq_some_iff]
    constructor
    · rintro ⟨l, found, rfl⟩
      obtain ⟨r, at_room, at_location⟩ := Option.bind_eq_some_iff.1 found
      obtain ⟨r_there, is_room⟩ := rooms.bind_get?.1 at_room
      obtain ⟨l_there, is_location⟩ := locations.bind_get?.1 at_location
      exact ⟨r, r_there, is_room, l, l_there, is_location, rfl⟩
    · rintro ⟨r, r_there, is_room, l, l_there, is_location, rfl⟩
      refine ⟨l, Option.bind_eq_some_iff.2 ⟨r, rooms.bind_get?.2 ⟨r_there, is_room⟩, ?_⟩, rfl⟩
      exact locations.bind_get?.2 ⟨l_there, is_location⟩
  · rw [Option.map_eq_some_iff]
    constructor
    · rintro ⟨d, found, rfl⟩
      obtain ⟨r, at_room, found⟩ := Option.bind_eq_some_iff.1 found
      obtain ⟨l, at_location, at_department⟩ := Option.bind_eq_some_iff.1 found
      obtain ⟨r_there, is_room⟩ := rooms.bind_get?.1 at_room
      obtain ⟨l_there, is_location⟩ := locations.bind_get?.1 at_location
      obtain ⟨d_there, is_department⟩ := departments.bind_get?.1 at_department
      exact ⟨r, r_there, is_room, l, l_there, is_location, d, d_there, is_department, rfl⟩
    · rintro ⟨r, r_there, is_room, l, l_there, is_location, d, d_there, is_department, rfl⟩
      refine ⟨d, Option.bind_eq_some_iff.2 ⟨r, rooms.bind_get?.2 ⟨r_there, is_room⟩, ?_⟩, rfl⟩
      refine Option.bind_eq_some_iff.2 ⟨l, locations.bind_get?.2 ⟨l_there, is_location⟩, ?_⟩
      exact departments.bind_get?.2 ⟨d_there, is_department⟩

end Names

/-! ## What a row is about -/

/-- What an operation is about: a person or an asset, as it is called, and the room around it. -/
structure Subject where
  kind : Kind
  publicId : String
  name : String
  room : Option RoomId
  deriving DecidableEq

namespace Subject

def ofItem (e : Entry .equipment Equipment) : Subject :=
  ⟨.equipment, e.val.publicId, e.val.name, e.val.room⟩

def ofAccessory (e : Entry .accessory Accessory) : Subject :=
  ⟨.accessory, e.val.publicId, e.val.name, e.val.room⟩

def ofConsumable (e : Entry .consumable Consumable) : Subject :=
  ⟨.consumable, e.val.publicId, e.val.name, e.val.room⟩

/-- A person, with the room of a role at a room. -/
def ofUser (u : Entry .user User) (b : Binding) : Subject :=
  ⟨.user, u.val.publicId, u.val.displayName, Grants.roomOf b.scope⟩

end Subject

/-- The item that an operation names, or the new one. -/
def EquipmentOp.subject (s s' : Store) : EquipmentOp → Option Subject
  | .register _ => s'.equipment.entries.getLast?.map .ofItem
  | .assign item _ _ | .unassign item _ _ | .reassign item _ _ _ | .changeStatus item _ _ =>
    (s.named? .equipment item).map .ofItem
  | .get _ | .list | .history _ => none

/-- The accessory that an operation names, itself or by an assignment, or the new one. -/
def AccessoryOp.subject (s s' : Store) : AccessoryOp → Option Subject
  | .register _ => s'.accessories.entries.getLast?.map .ofAccessory
  | .assign item _ _ | .condemn item _ | .restock item _ =>
    (s.named? .accessory item).map .ofAccessory
  | .takeBack assignment _ =>
    ((s.named? .accessoryAssignment assignment).bind fun a => s.row? a.val.accessory).map
      .ofAccessory
  | .get _ | .list | .history _ => none

/-- The consumable that an operation names, itself or by an issue, or the new one. -/
def ConsumableOp.subject (s s' : Store) : ConsumableOp → Option Subject
  | .register _ => s'.consumables.entries.getLast?.map .ofConsumable
  | .issue item _ _ _ | .use item _ | .reportLoss item _ _ | .restock item _ =>
    (s.named? .consumable item).map .ofConsumable
  | .takeBack publicId _ | .recordLoss publicId _ _ =>
    ((s.named? .consumableIssue publicId).bind fun i => s.row? i.val.consumable).map .ofConsumable
  | .get _ | .list | .history _ => none

/-- Whoever is given a role, or loses one. -/
def RoleOp.subject (s : Store) : RoleOp → Option Subject
  | .grant input => do
    let u ← s.named? .user input.user
    let b ← (Grants.bindingOf input.role input.scope s).toOption
    return .ofUser u b
  | .revoke assignment => do
    let a ← s.named? .roleAssignment assignment
    let u ← s.row? a.val.user
    return .ofUser u a.val.binding
  | .list | .activate _ => none

/-- What an operation is about that leads from the store `s` to the store `s'`. -/
def CallerOp.subject (s s' : Store) : CallerOp → Option Subject
  | .holdings => none
  | .roles op => op.subject s
  | .equipment op => op.subject s s'
  | .accessories op => op.subject s s'
  | .consumables op => op.subject s s'

/-- The row is by the actor of the context and about the subject, with the names of the nodes around
it in the store. -/
structure AuditRow.Reports (row : AuditRow) (ctx : Context) (subject : Subject) (s : Store) :
    Prop where
  actorPublicId : row.actorPublicId = ctx.actor.publicId
  actorName : row.actorName = ctx.actor.displayName
  targetKind : row.targetKind = subject.kind
  targetPublicId : row.targetPublicId = subject.publicId
  targetName : row.targetName = subject.name
  scope : s.NamesAlong subject.room row.scope

section Steps

variable {d : Setting} {ctx : Context} {s s' : Store} {done : Committed Answer}

/-- One row is added to the audit log, and it is about the subject. -/
def Adds (s s' : Store) (ctx : Context) (subject : Option Subject) : Prop :=
  ∃ about row, subject = some about ∧ s'.audit = s.audit.insert row ∧ row.Reports ctx about s

theorem adds_of_tells {row : AuditRow} {action : String} {subject : Option Subject}
    (about : Subject) (is_about : subject = some about)
    (written : s'.audit = s.audit.insert row)
    (told : row.Tells ctx.actor action about.kind about.publicId about.name
      (s.scopeNames about.room)) (sound : s.Sound) : Adds s s' ctx subject := by
  refine ⟨about, row, is_about, written, told.actorPublicId, told.actorName, told.targetKind,
    told.targetPublicId, told.targetName, ?_⟩
  rw [told.scope]
  exact sound.namesAlong

theorem EquipmentStep.audited {op : EquipmentOp} (step : EquipmentStep ctx s op done s')
    (sound : s.Sound) :
    op.isRead = true ∧ s'.audit = s.audit ∨ op.isRead = false ∧ Adds s s' ctx (op.subject s s') := by
  have named {item : String} {e : Entry .equipment Equipment}
      (item_named : s.named? .equipment item = some e) :
      (s.named? .equipment item).map Subject.ofItem = some (.ofItem e) := by
    rw [item_named]
    rfl
  cases step with
  | read reads => exact .inl ⟨reads, rfl⟩
  | @register _ _ e _ _ _ _ _ added in_room _ told =>
    subst in_room
    have new : (s.equipment.insert e.val).entries.getLast?.map Subject.ofItem = some (.ofItem e) :=
      congrArg _ (Table.getLast?_insert added)
    exact .inr ⟨rfl, adds_of_tells _ new rfl told sound⟩
  | @assign _ _ _ e _ _ _ _ _ _ _ _ _ item_named _ _ _ _ _ _ _ _ told =>
    exact .inr ⟨rfl, adds_of_tells _ (named item_named) rfl told sound⟩
  | @unassign _ _ _ e _ _ _ _ _ _ _ _ _ item_named _ _ _ _ _ _ told =>
    exact .inr ⟨rfl, adds_of_tells _ (named item_named) rfl told sound⟩
  | @reassign _ _ _ _ e _ _ _ _ _ _ _ _ _ _ _ _ _ item_named _ _ _ _ _ _ _ _ _ _ told =>
    exact .inr ⟨rfl, adds_of_tells _ (named item_named) rfl told sound⟩
  | @changeStatus _ _ _ e _ _ _ _ _ _ _ _ item_named _ _ _ _ _ _ _ told =>
    exact .inr ⟨rfl, adds_of_tells _ (named item_named) rfl told sound⟩

theorem AccessoryStep.audited {op : AccessoryOp} (step : AccessoryStep ctx s op done s')
    (sound : s.Sound) :
    op.isRead = true ∧ s'.audit = s.audit ∨ op.isRead = false ∧ Adds s s' ctx (op.subject s s') := by
  have named {item : String} {e : Entry .accessory Accessory}
      (item_named : s.named? .accessory item = some e) :
      (s.named? .accessory item).map Subject.ofAccessory = some (.ofAccessory e) := by
    rw [item_named]
    rfl
  have new {e : Entry .accessory Accessory} (added : e.id = s.accessories.next) :
      (s.accessories.insert e.val).entries.getLast?.map Subject.ofAccessory =
        some (.ofAccessory e) :=
    congrArg _ (Table.getLast?_insert added)
  cases step with
  | read reads => exact .inl ⟨reads, rfl⟩
  | @registerEmpty _ _ e _ _ _ _ _ added in_room _ told =>
    subst in_room
    exact .inr ⟨rfl, adds_of_tells _ (new added) rfl told sound⟩
  | @registerStocked _ _ e _ _ _ _ _ _ added in_room _ _ told =>
    subst in_room
    exact .inr ⟨rfl, adds_of_tells _ (new added) rfl told sound⟩
  | assignMore _ item_named _ _ _ _ _ _ _ told =>
    exact .inr ⟨rfl, adds_of_tells _ (named item_named) rfl told sound⟩
  | assignNew _ item_named _ _ _ _ _ _ _ _ told =>
    exact .inr ⟨rfl, adds_of_tells _ (named item_named) rfl told sound⟩
  | @takeBack assignment _ _ e _ _ _ _ _ _ _ _ _ custody_named item_found _ _ _ _ _ _ _ told =>
    have found : ((s.named? .accessoryAssignment assignment).bind fun a =>
        s.row? a.val.accessory).map Subject.ofAccessory = some (.ofAccessory e) := by
      rw [custody_named, Option.bind_some, item_found]
      rfl
    exact .inr ⟨rfl, adds_of_tells _ found rfl told sound⟩
  | condemn _ item_named _ _ _ _ _ told =>
    exact .inr ⟨rfl, adds_of_tells _ (named item_named) rfl told sound⟩
  | restock _ item_named _ _ _ _ _ told =>
    exact .inr ⟨rfl, adds_of_tells _ (named item_named) rfl told sound⟩

theorem ConsumableStep.audited {op : ConsumableOp} (step : ConsumableStep d ctx s op done s')
    (sound : s.Sound) :
    op.isRead = true ∧ s'.audit = s.audit ∨ op.isRead = false ∧ Adds s s' ctx (op.subject s s') := by
  have named {item : String} {e : Entry .consumable Consumable}
      (item_named : s.named? .consumable item = some e) :
      (s.named? .consumable item).map Subject.ofConsumable = some (.ofConsumable e) := by
    rw [item_named]
    rfl
  have new {e : Entry .consumable Consumable} (added : e.id = s.consumables.next) :
      (s.consumables.insert e.val).entries.getLast?.map Subject.ofConsumable =
        some (.ofConsumable e) :=
    congrArg _ (Table.getLast?_insert added)
  have issued {issue : String} {i : Entry .consumableIssue ConsumableIssue}
      {e : Entry .consumable Consumable} (issue_named : s.named? .consumableIssue issue = some i)
      (item_found : s.row? i.val.consumable = some e) :
      ((s.named? .consumableIssue issue).bind fun i => s.row? i.val.consumable).map
        Subject.ofConsumable = some (.ofConsumable e) := by
    rw [issue_named, Option.bind_some, item_found]
    rfl
  cases step with
  | read reads => exact .inl ⟨reads, rfl⟩
  | @registerEmpty _ _ e _ _ _ _ _ added in_room _ told =>
    subst in_room
    exact .inr ⟨rfl, adds_of_tells _ (new added) rfl told sound⟩
  | @registerStocked _ _ e _ _ _ _ _ _ added in_room _ _ told =>
    subst in_room
    exact .inr ⟨rfl, adds_of_tells _ (new added) rfl told sound⟩
  | issueMore _ item_named _ _ _ _ _ _ _ told =>
    exact .inr ⟨rfl, adds_of_tells _ (named item_named) rfl told sound⟩
  | issueNew _ item_named _ _ _ _ _ _ _ _ told =>
    exact .inr ⟨rfl, adds_of_tells _ (named item_named) rfl told sound⟩
  | use _ item_named _ _ _ _ told =>
    exact .inr ⟨rfl, adds_of_tells _ (named item_named) rfl told sound⟩
  | takeBack _ issue_named item_found _ _ _ _ _ _ _ _ told =>
    exact .inr ⟨rfl, adds_of_tells _ (issued issue_named item_found) rfl told sound⟩
  | recordLoss _ issue_named item_found _ _ _ _ _ _ told =>
    exact .inr ⟨rfl, adds_of_tells _ (issued issue_named item_found) rfl told sound⟩
  | reportLoss _ item_named _ _ _ _ _ told =>
    exact .inr ⟨rfl, adds_of_tells _ (named item_named) rfl told sound⟩
  | restock _ item_named _ _ _ _ told =>
    exact .inr ⟨rfl, adds_of_tells _ (named item_named) rfl told sound⟩

theorem RoleStep.audited {op : RoleOp} (step : RoleStep ctx s op done s') (sound : s.Sound) :
    op.isGrant = false ∧ s'.audit = s.audit ∨ op.isGrant = true ∧ Adds s s' ctx (op.subject s) := by
  have granted {input : GrantInput} {b : Binding} {u : Entry .user User}
      (asked : Grants.bindingOf input.role input.scope s = .ok b)
      (user_named : s.named? .user input.user = some u) :
      (RoleOp.grant input).subject s = some (.ofUser u b) := by
    simp only [RoleOp.subject, user_named, Results.toOption_iff.2 asked]
    rfl
  cases step with
  | list | activate | activateUnknown => exact .inl ⟨rfl, rfl⟩
  | @grantFirst _ b u _ _ _ _ _ _ asked _ user_named _ _ _ told =>
    exact .inr ⟨rfl, adds_of_tells _ (granted asked user_named) rfl told sound⟩
  | @grantMore _ b u _ _ _ _ _ _ asked _ user_named _ _ _ told =>
    exact .inr ⟨rfl, adds_of_tells _ (granted asked user_named) rfl told sound⟩
  | @revoke assignment a u _ _ _ named _ user_found told =>
    have withdrawn : (RoleOp.revoke assignment).subject s = some (.ofUser u a.val.binding) := by
      simp only [RoleOp.subject, named, user_found, bind, Option.bind_some]
      rfl
    exact .inr ⟨rfl, adds_of_tells _ withdrawn rfl told sound⟩

theorem CallerStep.audited {op : CallerOp} (step : CallerStep d ctx s op done s')
    (sound : s.Sound) :
    op.isRecorded = false ∧ s'.audit = s.audit ∨
      op.isRecorded = true ∧ Adds s s' ctx (op.subject s s') := by
  -- what is read is not recorded
  have unread {reads : Bool} {kept adds : Prop} (h : reads = true ∧ kept ∨ reads = false ∧ adds) :
      (!reads) = false ∧ kept ∨ (!reads) = true ∧ adds := by
    simpa only [Bool.not_eq_false', Bool.not_eq_true'] using h
  cases step with
  | holdings => exact .inl ⟨rfl, rfl⟩
  | roles step => exact step.audited sound
  | equipment step => exact unread (step.audited sound)
  | accessories step => exact unread (step.audited sound)
  | consumables step => exact unread (step.audited sound)

/-- The nodes and their links are the same. -/
def Store.SameTree (s s' : Store) : Prop :=
  s'.departments = s.departments ∧ s'.locations = s.locations ∧ s'.rooms = s.rooms

theorem CallerStep.sameTree {op : CallerOp} (step : CallerStep d ctx s op done s') :
    s.SameTree s' := by
  cases step with
  | holdings => exact ⟨rfl, rfl, rfl⟩
  | roles step =>
    rw [step.frame]
    exact ⟨rfl, rfl, rfl⟩
  | equipment step =>
    rw [step.frame]
    exact ⟨rfl, rfl, rfl⟩
  | accessories step =>
    rw [step.frame]
    exact ⟨rfl, rfl, rfl⟩
  | consumables step =>
    rw [step.frame]
    exact ⟨rfl, rfl, rfl⟩

end Steps

/-! ## Turns and runs -/

/-- Whether the turn went through and is one of those that are recorded. -/
def Turn.recorded (t : Turn) : Bool :=
  match t.op with
  | .directory _ => false
  | .caller _ op => op.isRecorded && t.outcome.answer.isOk

/-- The row tells of the turn: by whom it was, what it was about, and where that was. -/
def Turn.ToldBy (t : Turn) (row : Entry .audit AuditRow) : Prop :=
  ∃ ctx op about, t.op = .caller ctx op ∧ op.subject t.before t.outcome.store = some about ∧
    row.val.Reports ctx about t.before

/-- The turn leaves one row that tells of it, in the tree that it met, if it is recorded, and none
otherwise. -/
structure Turn.Audited (t : Turn) : Prop where
  recorded : t.recorded = true → t.before.SameTree t.outcome.store ∧
    ∃ row, t.outcome.store.audit.entries = t.before.audit.entries ++ [row] ∧ t.ToldBy row
  unrecorded : t.recorded = false → t.outcome.store.audit = t.before.audit

theorem Turn.audited {t : Turn} (sound : t.before.Sound) : t.Audited := by
  obtain ⟨d, s, op⟩ := t
  cases answered : (op.run d s).answer with
  | error why =>
    have refused : Turn.recorded ⟨d, s, op⟩ = false := by
      cases op with
      | directory op => rfl
      | caller ctx op =>
        show (op.isRecorded && (Operation.run d s (.caller ctx op)).answer.isOk) = false
        rw [answered]
        exact Bool.and_false _
    refine ⟨fun recorded => ?_, fun _ => congrArg Store.audit (Operation.run_error answered).store⟩
    rw [refused] at recorded
    cases recorded
  | ok answer =>
    obtain ⟨done, s', step, _, out⟩ := Operation.run_ok sound answered
    have leaves : Turn.outcome ⟨d, s, op⟩ = d.outcome done s' := out
    cases step with
    | directory step =>
      refine ⟨fun recorded => absurd recorded Bool.false_ne_true, fun _ => ?_⟩
      rw [leaves]
      show s'.audit = s.audit
      rw [step.frame]
    | @caller ctx op _ _ step =>
      have recorded : Turn.recorded ⟨d, s, .caller ctx op⟩ = op.isRecorded := by
        show (op.isRecorded && (Operation.run d s (.caller ctx op)).answer.isOk) = op.isRecorded
        rw [answered]
        exact Bool.and_true _
      rcases step.audited sound with ⟨unrecorded, kept⟩ | ⟨is_recorded, about, row, is_about, adds, tells⟩
      · refine ⟨fun told => ?_, fun _ => ?_⟩
        · rw [recorded, unrecorded] at told
          cases told
        · rw [leaves]
          exact kept
      · refine ⟨fun _ => ?_, fun untold => ?_⟩
        · rw [leaves]
          refine ⟨step.sameTree, ⟨s.audit.next, row⟩, congrArg Table.entries adds, ?_⟩
          refine ⟨ctx, op, about, rfl, ?_, tells⟩
          rw [leaves]
          exact is_about
        · rw [recorded, is_recorded] at untold
          cases untold

/-- The rows that a turn leaves. -/
def Turn.auditRows : Turn → List (Entry .audit AuditRow) := Turn.added (·.audit.entries)

namespace Turn.Audited

variable {t : Turn}

theorem kept (h : t.Audited) (unrecorded : t.recorded = false) :
    t.outcome.store.audit.entries = t.before.audit.entries ++ [] := by
  rw [h.unrecorded unrecorded, List.append_nil]

theorem entries (h : t.Audited) :
    t.outcome.store.audit.entries = t.before.audit.entries ++ t.auditRows := by
  cases recorded : t.recorded with
  | true =>
    obtain ⟨_, row, added, _⟩ := h.recorded recorded
    rw [auditRows, added_eq added, added]
  | false => rw [auditRows, added_eq (h.kept recorded), h.kept recorded]

/-- The rows that turns leave tell of those of them that are recorded, in order. -/
theorem forall₂ {turns : List Turn} (each : ∀ t ∈ turns, t.Audited) :
    List.Forall₂ Turn.ToldBy (turns.filter Turn.recorded) (turns.flatMap Turn.auditRows) := by
  induction turns with
  | nil => exact .nil
  | cons t rest ih =>
    have first := each t (List.mem_cons_self ..)
    have others := ih fun u later => each u (List.mem_cons_of_mem _ later)
    rw [List.flatMap_cons]
    cases recorded : t.recorded with
    | true =>
      obtain ⟨_, row, added, told⟩ := first.recorded recorded
      rw [List.filter_cons_of_pos recorded, auditRows, added_eq added]
      exact .cons told others
    | false =>
      rw [List.filter_cons_of_neg (by rw [recorded]; exact Bool.false_ne_true), auditRows,
        added_eq (first.kept recorded)]
      exact others

end Turn.Audited

variable {s₀ s : Store} {turns : List Turn}

/-- Along every run each turn that is recorded leaves one row, and the rows that the run leaves are
those, in the order of the turns. -/
theorem LeadsBy.audit_complete (run : LeadsBy Anything s₀ turns s) (start : Reachable s₀) :
    (∀ t ∈ turns, t.Audited) ∧
      ∃ rows, s.audit.entries = s₀.audit.entries ++ rows ∧
        List.Forall₂ Turn.ToldBy (turns.filter Turn.recorded) rows := by
  have each : ∀ t ∈ turns, t.Audited := fun t among =>
    Turn.audited ((run.turn t among).1.sound start.sound)
  refine ⟨each, turns.flatMap Turn.auditRows, ?_, Turn.Audited.forall₂ each⟩
  exact run.collects (·.audit.entries) fun t among => (each t among).entries

/-- What happens in a laboratory whose department is deleted. -/
def labDays : List Operation :=
  [.directory (.bootstrap "root" "Root"),
   .directory (.createDepartment { publicId := some "physics", name := "Physics" }),
   .directory (.createLocation { publicId := some "tower", name := "Tower", parent := some "physics" }),
   .directory (.createRoom { publicId := some "lab", name := "Lab", parent := some "tower" }),
   .directory (.createUser { publicId := some "guest", displayName := "Guest" }),
   .caller root (.equipment (.register { publicId := some "lamp", name := "Lamp", room := some "lab" })),
   .directory (.deleteNode (.department "physics")),
   .caller root (.equipment (.assign "lamp" "guest" none)),
   .caller root (.equipment (.assign "lamp" "root" none)),
   .caller root (.equipment (.get "lamp")),
   .caller root (.roles (.grant
     { user := "guest", role := .roomViewer, scope := some (.room "lab") }))]
where
  root : Context := { actor := ⟨⟨1⟩, "root", "Root"⟩, binding := some .siteAdmin }

/-- Three of the eleven turns leave a row. The department is named by the first of them only, and the
refused assignment leaves none. -/
theorem labDays_audit_complete :
    (∀ t ∈ Store.turns {} {} labDays, t.Audited) ∧
      (∃ rows, (Store.serve {} {} labDays).audit.entries = rows ∧
        List.Forall₂ Turn.ToldBy ((Store.turns {} {} labDays).filter Turn.recorded) rows) ∧
      (Store.turns {} {} labDays).map Turn.recorded =
        [false, false, false, false, false, true, false, true, false, false, true] ∧
      (Store.serve {} {} labDays).audit.entries.map
          (fun row => (row.val.targetPublicId, row.val.scope)) =
        [("lamp", ⟨some "Lab", some "Tower", some "Physics"⟩),
         ("lamp", ⟨some "Lab", some "Tower", none⟩), ("guest", ⟨some "Lab", some "Tower", none⟩)] := by
  have run : LeadsBy Anything {} (Store.turns {} {} labDays) (Store.serve {} {} labDays) :=
    Store.leadsBy_turns fun _ _ => trivial
  obtain ⟨each, whole⟩ := run.audit_complete (.seeded (.empty 0 0 0))
  exact ⟨each, whole, by decide +kernel, by decide +kernel⟩

end Quartermaster
