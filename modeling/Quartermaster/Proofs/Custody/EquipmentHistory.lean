import Quartermaster.Proofs.Runs

/-!
# The history of an item

Read from its start, the ledger of an item says at each row what the status of the item is and who
has it under which assignment (`Standing`). Not every row can follow: an item is handed out only
while nobody has it, and given back only by whoever has it (`Standing.after`). A ledger is a
chronicle when each item's rows are such a history and end at the item's present standing.

Results:

1. `Chronicle.append`, `EquipmentStep.chronicle`: a row that may follow extends a chronicle, and
   every step appends only such rows.
2. `Reachable.equipment_history`: the ledger of a reachable store is a chronicle; an item that is
   handed on stays under its assignment; and what was given back cannot be given back again before
   it is handed out.
-/

namespace Quartermaster

/-- What is so of an item: its status, and under which assignment somebody has it. -/
structure Standing where
  status : EquipmentStatus := .ok
  held : Option (EquipmentAssignmentId × UserId) := none
  deriving DecidableEq, Repr

namespace Standing

/-- The standing after a row, if the row may follow. -/
def after (st : Standing) (r : EquipmentEvent) : Option Standing :=
  match r.type, r.assignment, r.holder, r.status with
  | .assigned, some a, some u, _ =>
    if st.held = none then some { st with held := some (a, u) } else none
  | .returned, some a, some u, _ =>
    if st.held = some (a, u) then some { st with held := none } else none
  | .statusChanged, _, _, some status => some { st with status }
  | _, _, _, _ => none

section After

variable {st : Standing} {r : EquipmentEvent} {a : EquipmentAssignmentId} {u : UserId}

theorem after_assigned (type : r.type = .assigned) (row : r.assignment = some a)
    (holder : r.holder = some u) (nobody : st.held = none) :
    st.after r = some { st with held := some (a, u) } := by
  simp [after, type, row, holder, nobody]

theorem after_returned (type : r.type = .returned) (row : r.assignment = some a)
    (holder : r.holder = some u) (has : st.held = some (a, u)) :
    st.after r = some { st with held := none } := by
  simp [after, type, row, holder, has]

theorem after_statusChanged {status : EquipmentStatus} (type : r.type = .statusChanged)
    (new : r.status = some status) : st.after r = some { st with status } := by
  simp only [after, type, new]

end After

/-- The standing that rows lead to, from a working item that nobody has. -/
def replay (rows : List (Entry .equipmentEvent EquipmentEvent)) : Option Standing :=
  rows.foldlM (fun st r => st.after r.val) {}

theorem replay_append {rows : List (Entry .equipmentEvent EquipmentEvent)}
    {r : Entry .equipmentEvent EquipmentEvent} :
    replay (rows ++ [r]) = (replay rows).bind (·.after r.val) := by
  simp only [replay, List.foldlM_append, List.foldlM_cons, List.foldlM_nil, bind_pure]
  rfl

end Standing

/-! ## Chronicles -/

/-- The rows of every item are a history, and lead to the standing of the item. -/
def Chronicle (rows : Table .equipmentEvent EquipmentEvent) (standing : EquipmentId → Standing) :
    Prop :=
  ∀ item, Standing.replay (rows.filter (·.equipment == item)) = some (standing item)

variable {rows : Table .equipmentEvent EquipmentEvent} {before after : EquipmentId → Standing}

theorem Chronicle.append {r : EquipmentEvent} {next : Standing} (h : Chronicle rows before)
    (item : EquipmentId) (subject : r.equipment = item) (follows : (before item).after r = some next)
    (own : after item = next) (others : ∀ x, x ≠ item → after x = before x) :
    Chronicle (rows.insert r) after := by
  intro x
  by_cases same : x = item
  · rw [Table.filter_insert, if_pos (by rw [same, subject, beq_self_eq_true]),
      Standing.replay_append, h x, same, own]
    exact follows
  · rw [Table.filter_insert_of_ne (subject ▸ Ne.symm same), others x same]
    exact h x

/-- Under which assignment of a table somebody has an item. -/
def heldIn (custody : Table .equipmentAssignment EquipmentAssignment) (item : EquipmentId) :
    Option (EquipmentAssignmentId × UserId) :=
  (custody.find? fun a => a.equipment == item && a.isOpen).map fun a => (a.id, a.val.holder)

/-- The status of an item of a table; one that is yet to come works. -/
def statusIn (items : Table .equipment Equipment) (item : EquipmentId) : EquipmentStatus :=
  (items.get? item).elim .ok (·.val.status)

/-- The standing of an item in a store. -/
def Store.standing (s : Store) (item : EquipmentId) : Standing :=
  ⟨statusIn s.equipment item, heldIn s.equipmentAssignments item⟩

theorem Store.standing_eq {s : Store} {item : EquipmentId} {status : EquipmentStatus}
    {held : Option (EquipmentAssignmentId × UserId)} (is_so : statusIn s.equipment item = status)
    (is_held : heldIn s.equipmentAssignments item = held) : s.standing item = ⟨status, held⟩ := by
  rw [standing, is_so, is_held]

section Custody

variable {custody : Table .equipmentAssignment EquipmentAssignment} {item : EquipmentId}
  {a : EquipmentAssignment} {held : Entry .equipmentAssignment EquipmentAssignment}

theorem heldIn_insert_self (free : custody.find? (fun a => a.equipment == item && a.isOpen) = none)
    (subject : a.equipment = item) (opened : a.isOpen = true) :
    heldIn (custody.insert a) item = some (custody.next, a.holder) := by
  simp [heldIn, Table.find?_insert, free, subject, opened]

theorem heldIn_insert_of_ne (other : a.equipment ≠ item) :
    heldIn (custody.insert a) item = heldIn custody item := by
  simp [heldIn, Table.find?_insert, other]

theorem heldIn_put_of_ne (numbered : custody.Numbered) (found : custody.get? held.id = some held)
    (before : held.val.equipment ≠ item) (after : a.equipment ≠ item) :
    heldIn (custody.put held.id a) item = heldIn custody item := by
  rw [heldIn, Table.find?_put_of_neg numbered found (by simp [before]) (by simp [after]), heldIn]

end Custody

section Steps

variable {s s' : Store}

/-- What becomes of who has an item when its open assignment is changed. -/
theorem Store.Sound.heldIn_put_self {item : EquipmentId} {v : EquipmentAssignment}
    {held : Entry .equipmentAssignment EquipmentAssignment} (sound : s.Sound)
    (is_held : s.openEquipmentAssignment item = some held) (subject : v.equipment = item) :
    heldIn (s.equipmentAssignments.put held.id v) item =
      if v.isOpen then some (held.id, v.holder) else none := by
  rw [heldIn, sound.find?_put_open is_held]
  cases opened : v.isOpen with
  | true => simp [subject]
  | false => simp

theorem Store.heldIn_of_open {item : EquipmentId}
    {held : Entry .equipmentAssignment EquipmentAssignment}
    (is_held : s.openEquipmentAssignment item = some held) :
    heldIn s.equipmentAssignments item = some (held.id, held.val.holder) := by
  unfold heldIn
  rw [show s.equipmentAssignments.find? _ = some held from is_held]
  rfl

theorem EquipmentStep.chronicle {ctx : Context} {op : EquipmentOp} {done : Committed Answer}
    (step : EquipmentStep ctx s op done s') (sound : s.Sound)
    (h : Chronicle s.equipmentEvents s.standing) : Chronicle s'.equipmentEvents s'.standing := by
  have items := sound.equipment.numbered
  have custody := sound.equipmentAssignments.numbered
  cases step with
  | read => exact h
  | @register _ _ e _ _ _ _ _ added _ working =>
    -- a working item that nobody has is what an id stands for before it is taken
    intro item
    have same : statusIn (s.equipment.insert e.val) item = statusIn s.equipment item := by
      by_cases new : item = e.id
      · rw [statusIn, statusIn, new, items.get?_insert_self added, items.get?_of_next added]
        exact working
      · rw [statusIn, Table.get?_insert_of_ne (added ▸ new), statusIn]
    rw [h item, Store.standing, Store.standing, same]
  | @assign _ _ _ e _ _ _ _ _ _ _ _ _ _ _ _ _ _ free _ opened appended =>
    subst opened appended
    have nobody : heldIn s.equipmentAssignments e.id = none := by
      rw [heldIn, show s.equipmentAssignments.find? _ = none from free, Option.map_none]
    refine h.append e.id rfl (Standing.after_assigned rfl rfl rfl nobody) ?_ fun x other => ?_
    · exact Store.standing_eq rfl (heldIn_insert_self free rfl rfl)
    · exact Store.standing_eq rfl (heldIn_insert_of_ne (Ne.symm other))
  | @unassign _ _ _ e u held _ _ _ _ _ _ _ _ _ _ is_held by_user returned appended =>
    obtain ⟨found, subject, _⟩ := sound.openEquipmentAssignment is_held
    subst returned appended
    have has : heldIn s.equipmentAssignments e.id = some (held.id, u.id) :=
      by_user ▸ Store.heldIn_of_open is_held
    refine h.append e.id rfl (Standing.after_returned rfl rfl rfl has) ?_ fun x other => ?_
    · exact Store.standing_eq rfl (sound.heldIn_put_self is_held subject)
    · exact Store.standing_eq rfl
        (heldIn_put_of_ne custody found (subject ▸ Ne.symm other) (subject ▸ Ne.symm other))
  | @reassign _ _ _ _ e g u held _ back _ _ _ _ _ _ _ _ _ _ _ _ _ _ is_held by_giver handed first
      second =>
    obtain ⟨found, subject, opened⟩ := sound.openEquipmentAssignment is_held
    have has : heldIn s.equipmentAssignments e.id = some (held.id, g.id) :=
      by_giver ▸ Store.heldIn_of_open is_held
    -- between its two rows nobody has the item
    have between : Chronicle (s.equipmentEvents.insert back) fun x =>
        if x = e.id then { s.standing e.id with held := none } else s.standing x := by
      subst first
      exact h.append e.id rfl (Standing.after_returned rfl rfl rfl has) (if_pos rfl)
        fun x other => if_neg other
    subst handed second
    refine between.append e.id rfl
      ((congrArg (Standing.after · _) (if_pos rfl)).trans (Standing.after_assigned rfl rfl rfl rfl))
      ?_ fun x other => ?_
    · refine Store.standing_eq rfl ((sound.heldIn_put_self is_held ?_).trans (if_pos ?_))
      · exact subject
      · exact opened
    · rw [if_neg other]
      exact Store.standing_eq rfl
        (heldIn_put_of_ne custody found (subject ▸ Ne.symm other) (subject ▸ Ne.symm other))
  | @changeStatus _ _ _ e _ _ _ _ _ _ _ _ item_named _ _ _ _ _ changed appended =>
    subst changed appended
    have found := sound.equipment.get?_of_find? item_named
    refine h.append e.id rfl (Standing.after_statusChanged rfl rfl) ?_ fun x other => ?_
    · refine Store.standing_eq ?_ rfl
      rw [statusIn, Table.get?_put_self found]
      rfl
    · refine Store.standing_eq ?_ rfl
      rw [statusIn, Table.get?_put_of_ne other, statusIn]

/-- Rooms are no part of the standing of an item. -/
theorem statusIn_map {items : Table .equipment Equipment} {item : EquipmentId}
    {room : Option RoomId → Option RoomId} :
    statusIn (items.map fun e => { e with room := room e.room }) item = statusIn items item := by
  rw [statusIn, statusIn, Table.get?_map]
  cases items.get? item <;> rfl

theorem OperationStep.chronicle {d : Setting} {op : Operation} {done : Committed Answer}
    (step : OperationStep d s op done s') (sound : s.Sound)
    (h : Chronicle s.equipmentEvents s.standing) : Chronicle s'.equipmentEvents s'.standing := by
  obtain ⟨_, _, _, step⟩ | ⟨⟨room, items⟩, custody, rows⟩ := step.equipment_cases
  · exact step.chronicle sound h
  · have same : s'.standing = s.standing := by
      funext item
      exact Store.standing_eq (by rw [items, statusIn_map]) (by rw [custody])
    rw [rows, same]
    exact h

end Steps

section Reach

variable {s s' : Store}

theorem Seeded.chronicle (h : Seeded s) : Chronicle s.equipmentEvents s.standing := by
  obtain ⟨⟨nobody, _, _⟩, ⟨no_rows, _, _⟩, _⟩ := h.unused
  intro item
  rw [no_rows]
  refine congrArg some (Store.standing_eq ?_ ?_).symm
  · rw [statusIn]
    cases found : s.equipment.get? item with
    | none => rfl
    | some e => exact h.working e (Table.mem_of_get? found).1
  · rw [nobody]
    rfl

theorem Reachable.chronicle (h : Reachable s) : Chronicle s.equipmentEvents s.standing :=
  h.invariant (fun _ seeded => seeded.chronicle) fun _ _ _ _ _ sound kept step =>
    step.chronicle sound kept

end Reach

/-! ## Handing on and giving back -/

/-- An item is handed on from one user to another: two rows, one right after the other, tell of it,
and the assignment that was open is so still. -/
structure HandedOn (s s' : Store) (item : EquipmentId) (giver receiver : UserId) : Prop where
  passed : ∃ held, heldIn s.equipmentAssignments item = some (held, giver) ∧
    heldIn s'.equipmentAssignments item = some (held, receiver) ∧
    ∃ back on : Entry .equipmentEvent EquipmentEvent,
      s'.equipmentEvents.entries = s.equipmentEvents.entries ++ [back, on] ∧
      (back.val.equipment = item ∧ back.val.type = .returned ∧
        back.val.assignment = some held ∧ back.val.holder = some giver) ∧
      (on.val.equipment = item ∧ on.val.type = .assigned ∧
        on.val.assignment = some held ∧ on.val.holder = some receiver)

/-- The item with a public id is there and nobody has it. -/
def Store.Spare (s : Store) (item : String) : Prop :=
  ∃ e, s.named? .equipment item = some e ∧ heldIn s.equipmentAssignments e.id = none

/-- The item is not handed out: whoever tries is refused. -/
def Unassigned (item : String) (d : Setting) (s : Store) (op : Operation) : Prop :=
  ∀ ctx user notes, op = .caller ctx (.equipment (.assign item user notes)) →
    (op.run d s).answer.isOk = false

section Passing

variable {s s' : Store} {ctx : Context} {done : Committed Answer} {item : String}

theorem EquipmentStep.handedOn {giver receiver : String} {notes : Option String}
    (step : EquipmentStep ctx s (.reassign item giver receiver notes) done s') (sound : s.Sound) :
    ∃ e g u, s.named? .equipment item = some e ∧ s.named? .user giver = some g ∧
      s.named? .user receiver = some u ∧ HandedOn s s' e.id g.id u.id := by
  cases step with
  | read never => cases never
  | @reassign _ _ _ _ e g u held _ back on _ _ _ _ _ _ _ item_named giver_named receiver_named _ _ _
      is_held by_giver handed first second =>
    obtain ⟨_, subject, opened⟩ := sound.openEquipmentAssignment is_held
    subst handed
    refine ⟨e, g, u, item_named, giver_named, receiver_named, held.id,
      by_giver ▸ Store.heldIn_of_open is_held,
      (sound.heldIn_put_self is_held ?_).trans (if_pos ?_), _, _, List.append_assoc .., ?_, ?_⟩
    · exact subject
    · exact opened
    · subst first
      exact ⟨rfl, rfl, rfl, rfl⟩
    · subst second
      exact ⟨rfl, rfl, rfl, rfl⟩

theorem EquipmentStep.spare {op : EquipmentOp} (step : EquipmentStep ctx s op done s')
    (sound : s.Sound) (other : ∀ user notes, op ≠ .assign item user notes) (h : s.Spare item) :
    s'.Spare item := by
  obtain ⟨x, named, nobody⟩ := h
  have custody := sound.equipmentAssignments.numbered
  -- whatever is held is another item, and what is written to it does not touch this one
  have elsewhere {e : Entry .equipment Equipment} {v : EquipmentAssignment}
      {held : Entry .equipmentAssignment EquipmentAssignment}
      (is_held : s.openEquipmentAssignment e.id = some held) (same : v.equipment = held.val.equipment) :
      heldIn (s.equipmentAssignments.put held.id v) x.id = none := by
    obtain ⟨found, subject, _⟩ := sound.openEquipmentAssignment is_held
    have ne : held.val.equipment ≠ x.id := by
      intro own
      rw [← own, subject, Store.heldIn_of_open is_held] at nobody
      cases nobody
    rw [heldIn_put_of_ne custody found ne (same ▸ ne)]
    exact nobody
  cases step with
  | read => exact ⟨x, named, nobody⟩
  | register =>
    refine ⟨x, Table.find?_insert.trans ?_, nobody⟩
    rw [show s.equipment.find? _ = some x from named]
    rfl
  | @assign name user notes e _ _ _ _ _ _ _ _ _ item_named _ _ _ _ _ _ opened =>
    have ne : name ≠ item := fun same => other user notes (by rw [same])
    subst opened
    exact ⟨x, named, (heldIn_insert_of_ne (Store.named_ne sound.equipment named item_named ne)).trans
      nobody⟩
  | unassign _ _ _ is_held _ returned =>
    subst returned
    exact ⟨x, named, elsewhere is_held rfl⟩
  | reassign _ _ _ _ _ _ _ is_held _ handed =>
    subst handed
    exact ⟨x, named, elsewhere is_held rfl⟩
  | changeStatus item_named _ _ _ _ _ changed =>
    subst changed
    have found := sound.equipment.get?_of_find? item_named
    refine ⟨_, (Table.find?_put_of_same sound.equipment.numbered found ?_).trans
      (congrArg _ named), ?_⟩
    · rfl
    · dsimp only
      split
      · exact nobody
      · exact nobody

theorem OperationStep.spare {d : Setting} {op : Operation} (step : OperationStep d s op done s')
    (sound : s.Sound)
    (other : ∀ ctx user notes, op ≠ .caller ctx (.equipment (.assign item user notes)))
    (h : s.Spare item) : s'.Spare item := by
  obtain ⟨ctx, _, rfl, taken⟩ | ⟨⟨room, items⟩, custody, _⟩ := step.equipment_cases
  · exact taken.spare sound (fun user notes same => other ctx user notes (by rw [same])) h
  · obtain ⟨x, named, nobody⟩ := h
    have kept : s'.named? .equipment item =
        some { x with val := { x.val with room := room x.val.room } } := by
      show s'.equipment.find? _ = _
      rw [items]
      refine (Table.find?_map ?_).trans (congrArg _ named)
      exact fun _ => rfl
    exact ⟨_, kept, custody ▸ nobody⟩

/-- What nobody has stays so while it is not handed out. -/
theorem Leads.spare (run : Leads (Unassigned item) s s') (sound : s.Sound) (h : s.Spare item) :
    s'.Spare item := by
  refine run.invariant (P := (·.Spare item)) sound h
    fun d t op done t' allowed answered here spare step => ?_
  refine step.spare here (fun ctx user notes same => ?_) spare
  have refused := allowed ctx user notes same
  rw [answered] at refused
  cases refused

/-- What was given back is spare. -/
theorem EquipmentStep.spare_of_unassign {user : String} {notes : Option String}
    (step : EquipmentStep ctx s (.unassign item user notes) done s') (sound : s.Sound) :
    s'.Spare item := by
  cases step with
  | read never => cases never
  | @unassign _ _ _ e _ _ _ _ _ _ _ _ _ item_named _ _ is_held _ returned =>
    obtain ⟨_, subject, _⟩ := sound.openEquipmentAssignment is_held
    subst returned
    refine ⟨e, item_named, (sound.heldIn_put_self is_held ?_).trans (if_neg ?_)⟩
    · exact subject
    · exact Bool.false_ne_true

/-- What nobody has cannot be given back. -/
theorem EquipmentStep.not_spare {user : String} {notes : Option String}
    (step : EquipmentStep ctx s (.unassign item user notes) done s') : ¬ s.Spare item := by
  rintro ⟨x, named, nobody⟩
  cases step with
  | read never => cases never
  | unassign item_named _ _ is_held =>
    obtain rfl := Option.some.inj (item_named.symm.trans named)
    rw [Store.heldIn_of_open is_held] at nobody
    cases nobody

end Passing

/-! ## The true history -/

/-- The ledger of an item is its history. -/
structure Store.TrueHistory (s : Store) (e : Entry .equipment Equipment) : Prop where
  ascending : ((s.equipmentEvents.filter (·.equipment == e.id)).map (·.id.row)).Pairwise (· < ·)
  replayed : Standing.replay (s.equipmentEvents.filter (·.equipment == e.id)) =
    some
      { status := e.val.status
        held := (s.openEquipmentAssignment e.id).map fun a => (a.id, a.val.holder) }

section True

variable {s : Store}

theorem Reachable.trueHistory (h : Reachable s) {e : Entry .equipment Equipment}
    (member : e ∈ s.equipment.entries) : s.TrueHistory e where
  ascending := h.sound.equipmentEvents.numbered.ascending.sublist
    (List.filter_sublist.map _)
  replayed := by
    refine (h.chronicle e.id).trans (congrArg some (Store.standing_eq ?_ rfl))
    rw [statusIn, h.sound.equipment.numbered.get?_of_mem member]
    rfl

/-- In a reachable store the ledger of every item replays to its status and to who has it. An item
that is handed on is given back and handed out under the assignment that stays open. An item that
was given back is not given back again before it was handed out. -/
theorem Reachable.equipment_history (h : Reachable s) :
    (∀ e ∈ s.equipment.entries, s.TrueHistory e) ∧
      (∀ d ctx item giver receiver notes,
        ((EquipmentOp.reassign item giver receiver notes).run d s ctx).answer.isOk = true →
          ∃ e g u, s.named? .equipment item = some e ∧ s.named? .user giver = some g ∧
            s.named? .user receiver = some u ∧
            HandedOn s ((EquipmentOp.reassign item giver receiver notes).run d s ctx).store e.id g.id
              u.id) ∧
      ∀ d ctx item user notes,
        ((EquipmentOp.unassign item user notes).run d s ctx).answer.isOk = true →
          ∀ t, Leads (Unassigned item) ((EquipmentOp.unassign item user notes).run d s ctx).store t →
            ∀ d' ctx' user' notes',
              ((EquipmentOp.unassign item user' notes').run d' t ctx').answer.isOk = false := by
  refine ⟨fun e member => h.trueHistory member, ?_, ?_⟩
  · intro d ctx item giver receiver notes succeeds
    obtain ⟨answer, answered⟩ := Results.isOk_iff.1 succeeds
    obtain ⟨done, s', step, _, out⟩ := EquipmentOp.run_ok h.sound answered
    rw [out]
    exact step.handedOn h.sound
  · intro d ctx item user notes succeeds t run d' ctx' user' notes'
    obtain ⟨answer, answered⟩ := Results.isOk_iff.1 succeeds
    obtain ⟨done, s', step, kept, out⟩ := EquipmentOp.run_ok h.sound answered
    rw [out] at run
    have spare : t.Spare item := run.spare kept (step.spare_of_unassign h.sound)
    refine Bool.eq_false_iff.2 fun again => ?_
    obtain ⟨_, answered'⟩ := Results.isOk_iff.1 again
    obtain ⟨_, _, step', _, _⟩ := EquipmentOp.run_ok (run.sound kept) answered'
    exact step'.not_spare spare

end True

/-- A lamp that root had, that broke, and that the guest has now. -/
def brokenLamp : Store :=
  Store.serve {} {}
    [.directory (.bootstrap "root" "Root"),
     .directory (.createUser { publicId := some "guest", displayName := "Guest" }),
     .caller root (.equipment (.register { publicId := some "lamp", name := "Lamp" })),
     .caller root (.equipment (.assign "lamp" "root" none)),
     .caller root (.equipment (.changeStatus "lamp" .damaged none)),
     .caller root (.equipment (.reassign "lamp" "root" "guest" none))]
where
  root : Context := { actor := ⟨⟨1⟩, "root", "Root"⟩, binding := some .siteAdmin }
  /-- The guest gives the lamp back. -/
  back : EquipmentOp := .unassign "lamp" "guest" none
  /-- The guest hands the lamp on. -/
  on : EquipmentOp := .reassign "lamp" "guest" "root" none

/-- The four rows of the lamp replay to its status and to the guest; the guest can hand it on, or give
it back, but not twice. -/
theorem brokenLamp_history :
    (∀ e ∈ brokenLamp.equipment.entries, brokenLamp.TrueHistory e) ∧
      Standing.replay brokenLamp.equipmentEvents.entries =
        some { status := .damaged, held := some (⟨1⟩, ⟨2⟩) } ∧
      (brokenLamp.on.run {} brokenLamp brokenLamp.root).answer.isOk = true ∧
      (∃ e g u, brokenLamp.named? .equipment "lamp" = some e ∧
        brokenLamp.named? .user "guest" = some g ∧ brokenLamp.named? .user "root" = some u ∧
        HandedOn brokenLamp (brokenLamp.on.run {} brokenLamp brokenLamp.root).store e.id g.id u.id) ∧
      (brokenLamp.back.run {} brokenLamp brokenLamp.root).answer.isOk = true ∧
      (brokenLamp.back.run {} (brokenLamp.back.run {} brokenLamp brokenLamp.root).store
        brokenLamp.root).answer.isOk = false := by
  have reachable : Reachable brokenLamp := Reachable.serve (.seeded (.empty 0 0 0))
  obtain ⟨replayed, passes, spent⟩ := reachable.equipment_history
  have handed : (brokenLamp.on.run {} brokenLamp brokenLamp.root).answer.isOk = true := by
    decide +kernel
  have given : (brokenLamp.back.run {} brokenLamp brokenLamp.root).answer.isOk = true := by
    decide +kernel
  exact ⟨replayed, by decide +kernel, handed, passes _ _ _ _ _ _ handed, given,
    spent _ _ _ _ _ given _ .refl _ _ _ _⟩

end Quartermaster
