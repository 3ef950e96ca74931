import Quartermaster.Proofs.Custody.EquipmentHistory
import Quartermaster.Proofs.Lasting

/-!
# The life cycle of an item

Whether an item may be handed out depends on its status, and whether it may enter a status depends on
whether somebody has it. Two operations look at the one and write the other, so neither rule is kept by
any of them alone.

1. `EquipmentStep.status_cases`, `EquipmentStep.held_cases`: what one step can do to the status of an
   item, and to who has it.
2. `OperationStep.retired_free`: nobody has what is retired or condemned, and every step keeps it so.
3. `Leads.condemned`: a condemned item stays condemned. `Leads.keeps_holder`: what may not be handed
   out stays with whoever has it until it is given back.
4. `Reachable.life_cycle`.
-/

namespace Quartermaster

namespace EquipmentStatus

/-- What can be entered only while nobody has the item cannot be handed out. -/
theorem not_assignable_of_requiresUnassigned {status : EquipmentStatus}
    (h : status.requiresUnassigned = true) : status.isAssignable = false := by
  cases status with
  | retired | condemned => rfl
  | ok | damaged | underRepair | lost => cases h

end EquipmentStatus

/-- The operation takes the item back. -/
def Returns (item : EquipmentId) (s : Store) (op : Operation) : Prop :=
  ∃ ctx name user notes e, op = .caller ctx (.equipment (.unassign name user notes)) ∧
    s.named? .equipment name = some e ∧ e.id = item

section Step

variable {d : Setting} {ctx : Context} {s s' : Store} {done : Committed Answer}

/-- A step leaves the status of an item, or changes it from one that is not final; then it leaves who
has the item, and nobody has it if the new status asks for that. -/
theorem EquipmentStep.status_cases {op : EquipmentOp} (step : EquipmentStep ctx s op done s')
    (sound : s.Sound) (item : EquipmentId) :
    statusIn s'.equipment item = statusIn s.equipment item ∨
      (statusIn s.equipment item).isTerminal = false ∧
        s'.equipmentAssignments = s.equipmentAssignments ∧
        ((statusIn s'.equipment item).requiresUnassigned = true →
          heldIn s.equipmentAssignments item = none) := by
  have items := sound.equipment.numbered
  cases step with
  | read | assign | unassign | reassign => exact .inl rfl
  | @register _ _ e _ _ _ _ _ added _ working =>
    left
    by_cases new : item = e.id
    · rw [statusIn, statusIn, new, items.get?_insert_self added, items.get?_of_next added]
      exact working
    · rw [statusIn, Table.get?_insert_of_ne (added ▸ new), statusIn]
  | @changeStatus _ _ _ e _ _ _ _ _ _ _ _ item_named _ not_final _ is_held given_back changed =>
    subst changed
    have found := sound.equipment.get?_of_find? item_named
    by_cases own : item = e.id
    · right
      subst own
      have before : statusIn s.equipment e.id = e.val.status := by
        rw [statusIn, found]
        rfl
      refine ⟨before ▸ not_final, rfl, fun needed => ?_⟩
      rw [statusIn, Table.get?_put_self found] at needed
      rw [heldIn, show s.equipmentAssignments.find? _ = _ from is_held, given_back needed]
      rfl
    · left
      rw [statusIn, Table.get?_put_of_ne own, statusIn]

/-- A step leaves who has an item, or hands it out or on while its status allows that, or takes it
back. -/
theorem EquipmentStep.held_cases {op : EquipmentOp} (step : EquipmentStep ctx s op done s')
    (sound : s.Sound) (item : EquipmentId) :
    heldIn s'.equipmentAssignments item = heldIn s.equipmentAssignments item ∨
      (statusIn s.equipment item).isAssignable = true ∨
      Returns item s (.caller ctx (.equipment op)) ∧
        heldIn s'.equipmentAssignments item = none := by
  have custody := sound.equipmentAssignments.numbered
  have status {name : String} {e : Entry .equipment Equipment}
      (named : s.named? .equipment name = some e) : statusIn s.equipment e.id = e.val.status := by
    rw [statusIn, show s.equipment.get? e.id = some e from sound.equipment.get?_of_find? named]
    rfl
  cases step with
  | read | register | changeStatus => exact .inl rfl
  | @assign _ _ _ e _ _ _ _ _ _ _ _ _ item_named _ _ _ assignable _ _ opened =>
    subst opened
    by_cases own : item = e.id
    · subst own
      exact .inr (.inl (status item_named ▸ assignable))
    · exact .inl (heldIn_insert_of_ne (Ne.symm own))
  | @unassign name user notes e _ held _ _ _ _ _ _ _ item_named _ _ is_held _ returned =>
    obtain ⟨found, subject, _⟩ := sound.openEquipmentAssignment is_held
    subst returned
    by_cases own : item = e.id
    · subst own
      refine .inr (.inr ⟨⟨ctx, name, user, notes, e, rfl, item_named, rfl⟩, ?_⟩)
      refine (sound.heldIn_put_self is_held ?_).trans (if_neg ?_)
      · exact subject
      · exact Bool.false_ne_true
    · exact .inl (heldIn_put_of_ne custody found (subject ▸ Ne.symm own) (subject ▸ Ne.symm own))
  | @reassign _ _ _ _ e _ _ held _ _ _ _ _ _ _ _ _ _ item_named _ _ _ _ assignable is_held _
      handed =>
    obtain ⟨found, subject, _⟩ := sound.openEquipmentAssignment is_held
    subst handed
    by_cases own : item = e.id
    · subst own
      exact .inr (.inl (status item_named ▸ assignable))
    · exact .inl (heldIn_put_of_ne custody found (subject ▸ Ne.symm own) (subject ▸ Ne.symm own))

theorem OperationStep.status_cases {op : Operation} (step : OperationStep d s op done s')
    (sound : s.Sound) (item : EquipmentId) :
    statusIn s'.equipment item = statusIn s.equipment item ∨
      (statusIn s.equipment item).isTerminal = false ∧
        s'.equipmentAssignments = s.equipmentAssignments ∧
        ((statusIn s'.equipment item).requiresUnassigned = true →
          heldIn s.equipmentAssignments item = none) := by
  obtain ⟨_, _, _, taken⟩ | ⟨⟨room, items⟩, _, _⟩ := step.equipment_cases
  · exact taken.status_cases sound item
  · left
    rw [items, statusIn_map]

theorem OperationStep.held_cases {op : Operation} (step : OperationStep d s op done s')
    (sound : s.Sound) (item : EquipmentId) :
    heldIn s'.equipmentAssignments item = heldIn s.equipmentAssignments item ∨
      (statusIn s.equipment item).isAssignable = true ∨
      Returns item s op ∧ heldIn s'.equipmentAssignments item = none := by
  obtain ⟨_, _, rfl, taken⟩ | ⟨_, custody, _⟩ := step.equipment_cases
  · exact taken.held_cases sound item
  · left
    rw [custody]

end Step

/-! ## What is retired is free -/

/-- Nobody has the item if its status asks for that. -/
def Store.RetiredFree (s : Store) (item : EquipmentId) : Prop :=
  (statusIn s.equipment item).requiresUnassigned = true →
    heldIn s.equipmentAssignments item = none

section Free

variable {d : Setting} {s s' : Store} {done : Committed Answer} {item : EquipmentId}

theorem OperationStep.retired_free {op : Operation} (step : OperationStep d s op done s')
    (sound : s.Sound) (h : s.RetiredFree item) : s'.RetiredFree item := by
  intro retired
  rcases step.status_cases sound item with same | ⟨_, custody, free⟩
  · -- the status is an old one, so the item was free and could not be handed out
    rw [same] at retired
    rcases step.held_cases sound item with kept | assignable | ⟨_, none⟩
    · rw [kept]
      exact h retired
    · rw [EquipmentStatus.not_assignable_of_requiresUnassigned retired] at assignable
      cases assignable
    · exact none
  · rw [custody]
    exact free retired

theorem Reachable.retired_free (h : Reachable s) (item : EquipmentId) : s.RetiredFree item := by
  refine h.invariant (P := (·.RetiredFree item)) (fun s seeded _ => ?_)
    fun _ _ _ _ _ sound kept step => step.retired_free sound kept
  rw [seeded.unused.1.1]
  rfl

end Free

/-! ## What is condemned, and what may not be handed out -/

/-- The operation meets the item while it may not be handed out, and does not take it back. -/
def Withheld (item : EquipmentId) (_ : Setting) (s : Store) (op : Operation) : Prop :=
  (statusIn s.equipment item).isAssignable = false ∧ ¬ Returns item s op

section Runs

variable {may : Setting → Store → Operation → Prop} {s t : Store} {item : EquipmentId}

theorem Leads.condemned (run : Leads may s t) (sound : s.Sound)
    (h : statusIn s.equipment item = .condemned) : statusIn t.equipment item = .condemned := by
  refine run.invariant (P := fun t => statusIn t.equipment item = .condemned) sound h
    fun _ _ _ _ _ _ _ here condemned step => ?_
  rcases step.status_cases here item with same | ⟨not_final, _, _⟩
  · exact same.trans condemned
  · rw [condemned] at not_final
    cases not_final

theorem Leads.keeps_holder (run : Leads (Withheld item) s t) (sound : s.Sound) :
    heldIn t.equipmentAssignments item = heldIn s.equipmentAssignments item := by
  refine run.invariant (P := fun t => heldIn t.equipmentAssignments item = _) sound rfl
    fun _ _ _ _ _ withheld _ here kept step => ?_
  rcases step.held_cases here item with same | assignable | ⟨returns, _⟩
  · exact same.trans kept
  · rw [withheld.1] at assignable
    cases assignable
  · exact absurd returns withheld.2

end Runs

/-! ## The life cycle -/

/-- Nobody has the item: none of its assignments is open. -/
def Store.Free (s : Store) (item : EquipmentId) : Prop :=
  ∀ a ∈ s.equipmentAssignments.entries, a.val.equipment = item → a.val.isOpen = false

/-- What the status of an item that is there means for who has it. Whoever has it is told by the
assignment that is open, and by its holder. -/
structure Store.LifeCycle (s : Store) (e : Entry .equipment Equipment) : Prop where
  free : e.val.status = .retired ∨ e.val.status = .condemned → s.Free e.id
  condemned : e.val.status = .condemned → ∀ t, Leads Anything s t →
    (∃ e', t.row? e.id = some e' ∧ e'.val.status = .condemned) ∧ t.Free e.id
  /-- An operation leaves it with whoever has it, or takes it back. -/
  withheld : e.val.status ∈ [.lost, .retired, .condemned] → ∀ (d : Setting) (op : Operation),
    heldIn (op.run d s).store.equipmentAssignments e.id = heldIn s.equipmentAssignments e.id ∨
      Returns e.id s op ∧ (op.run d s).store.Free e.id
  notHandedOut : e.val.status ∈ [.lost, .retired, .condemned] →
    ∀ (d : Setting) (ctx : Context) (user : String) (notes : Option String),
      ((EquipmentOp.assign e.val.publicId user notes).run d s ctx).answer.isOk = false
  notHandedOn : e.val.status ∈ [.lost, .retired, .condemned] →
    ∀ (d : Setting) (ctx : Context) (giver receiver : String) (notes : Option String),
      ((EquipmentOp.reassign e.val.publicId giver receiver notes).run d s ctx).answer.isOk = false
  /-- A change of status, to lost as to any other, leaves it with whoever has it. -/
  marked (d : Setting) (ctx : Context) (item : String) (status : EquipmentStatus)
    (notes : Option String) :
    heldIn ((EquipmentOp.changeStatus item status notes).run d s ctx).store.equipmentAssignments
      e.id = heldIn s.equipmentAssignments e.id
  /-- While it may not be handed out and is not taken back, it stays with whoever has it. -/
  kept (t : Store) : Leads (Withheld e.id) s t →
    heldIn t.equipmentAssignments e.id = heldIn s.equipmentAssignments e.id

section Cycle

variable {d : Setting} {ctx : Context} {s s' : Store} {done : Committed Answer} {item : EquipmentId}

theorem Store.free_iff : s.Free item ↔ heldIn s.equipmentAssignments item = none := by
  rw [heldIn, Option.map_eq_none_iff, Table.find?, List.find?_eq_none]
  constructor
  · intro free a member chosen
    rw [Bool.and_eq_true, beq_iff_eq] at chosen
    rw [free a member chosen.1] at chosen
    cases chosen.2
  · intro nobody a member subject
    have not_chosen := nobody a member
    rw [subject, beq_self_eq_true, Bool.true_and, Bool.not_eq_true] at not_chosen
    exact not_chosen

theorem statusIn_of_mem {items : Table .equipment Equipment} {e : Entry .equipment Equipment}
    (numbered : items.Numbered) (member : e ∈ items.entries) :
    statusIn items e.id = e.val.status := by
  rw [statusIn, numbered.get?_of_mem member]
  rfl

theorem EquipmentStatus.not_assignable {status : EquipmentStatus}
    (h : status ∈ [.lost, .retired, .condemned]) : status.isAssignable = false := by
  cases status with
  | lost | retired | condemned => rfl
  | ok | damaged | underRepair => simp at h

/-- Handing out, and handing on, ask for a status that allows it. -/
theorem EquipmentStep.assignable {op : EquipmentOp} {name : String}
    (step : EquipmentStep ctx s op done s')
    (hands : (∃ user notes, op = .assign name user notes) ∨
      ∃ giver receiver notes, op = .reassign name giver receiver notes) :
    ∃ e, s.named? .equipment name = some e ∧ e.val.status.isAssignable = true := by
  rcases hands with ⟨user, notes, rfl⟩ | ⟨giver, receiver, notes, rfl⟩
  · cases step with
    | read never => cases never
    | assign item_named _ _ _ assignable => exact ⟨_, item_named, assignable⟩
  · cases step with
    | read never => cases never
    | reassign _ item_named _ _ _ _ assignable => exact ⟨_, item_named, assignable⟩

/-- An item that may not be handed out is neither handed out nor handed on. -/
theorem EquipmentOp.not_handed {op : EquipmentOp} {e : Entry .equipment Equipment}
    (sound : s.Sound) (member : e ∈ s.equipment.entries)
    (withheld : e.val.status.isAssignable = false)
    (hands : (∃ user notes, op = .assign e.val.publicId user notes) ∨
      ∃ giver receiver notes, op = .reassign e.val.publicId giver receiver notes) :
    (op.run d s ctx).answer.isOk = false := by
  refine Bool.eq_false_iff.2 fun succeeds => ?_
  obtain ⟨_, answered⟩ := Results.isOk_iff.1 succeeds
  obtain ⟨_, _, step, _, _⟩ := EquipmentOp.run_ok sound answered
  obtain ⟨x, named, assignable⟩ := step.assignable hands
  obtain ⟨among, own⟩ := Table.mem_of_find? named
  -- the item that is named is this one
  have found : s.equipment.find? (·.publicId == e.val.publicId) = some e :=
    sound.equipment.find?_of_mem (fun a b ha hb => ?_) member (beq_self_eq_true _)
  · obtain rfl := Option.some.inj (found.symm.trans named)
    rw [withheld] at assignable
    cases assignable
  · rw [beq_iff_eq] at ha hb
    exact beq_iff_eq.2 (hb.trans ha.symm)

theorem EquipmentStep.marked {name : String} {status : EquipmentStatus} {notes : Option String}
    (step : EquipmentStep ctx s (.changeStatus name status notes) done s') :
    s'.equipmentAssignments = s.equipmentAssignments := by
  cases step with
  | read never => cases never
  | changeStatus => rfl

theorem EquipmentOp.marked {name : String} {status : EquipmentStatus} {notes : Option String}
    (sound : s.Sound) :
    heldIn ((EquipmentOp.changeStatus name status notes).run d s ctx).store.equipmentAssignments
      item = heldIn s.equipmentAssignments item := by
  cases answered : ((EquipmentOp.changeStatus name status notes).run d s ctx).answer with
  | ok answer =>
    obtain ⟨_, _, step, _, out⟩ := EquipmentOp.run_ok sound answered
    rw [out]
    exact congrArg (heldIn · item) step.marked
  | error why =>
    have untouched : ((Operation.caller ctx
        (.equipment (.changeStatus name status notes))).run d s).Void s :=
      Operation.run_error answered
    exact congrArg (fun s : Store => heldIn s.equipmentAssignments item) untouched.store

/-- An operation that is refused leaves who has an item, as one that takes a step may do. -/
theorem Operation.held_cases {op : Operation} (sound : s.Sound) :
    heldIn (op.run d s).store.equipmentAssignments item = heldIn s.equipmentAssignments item ∨
      (statusIn s.equipment item).isAssignable = true ∨
      Returns item s op ∧ heldIn (op.run d s).store.equipmentAssignments item = none := by
  cases answered : (op.run d s).answer with
  | ok answer =>
    obtain ⟨done, s', step, _, out⟩ := Operation.run_ok sound answered
    rw [out]
    exact step.held_cases sound item
  | error why =>
    rw [(Operation.run_error answered).store]
    exact .inl rfl

/-- In a reachable store every item goes through its life cycle. -/
theorem Reachable.life_cycle (h : Reachable s) {e : Entry .equipment Equipment}
    (member : e ∈ s.equipment.entries) : s.LifeCycle e where
  free out := by
    refine Store.free_iff.2 (h.retired_free e.id ?_)
    rw [statusIn_of_mem h.sound.equipment.numbered member]
    rcases out with retired | condemned
    · rw [retired]
      rfl
    · rw [condemned]
      rfl
  condemned condemned t run := by
    have is_so := statusIn_of_mem h.sound.equipment.numbered member
    have still : statusIn t.equipment e.id = .condemned :=
      run.condemned h.sound (is_so.trans condemned)
    obtain ⟨e', found, _⟩ := (run.lasting h.sound).equipment e.id e
      (h.sound.equipment.numbered.get?_of_mem member)
    have free := (run.reachable h).retired_free e.id (still ▸ rfl)
    rw [statusIn, found] at still
    exact ⟨⟨e', found, still⟩, Store.free_iff.2 free⟩
  withheld lost d op := by
    rcases Operation.held_cases h.sound with same | assignable | ⟨returns, nobody⟩
    · exact .inl same
    · rw [statusIn_of_mem h.sound.equipment.numbered member,
        EquipmentStatus.not_assignable lost] at assignable
      cases assignable
    · exact .inr ⟨returns, Store.free_iff.2 nobody⟩
  notHandedOut lost d ctx user notes :=
    EquipmentOp.not_handed h.sound member (EquipmentStatus.not_assignable lost)
      (.inl ⟨user, notes, rfl⟩)
  notHandedOn lost d ctx giver receiver notes :=
    EquipmentOp.not_handed h.sound member (EquipmentStatus.not_assignable lost)
      (.inr ⟨giver, receiver, notes, rfl⟩)
  marked d ctx name status notes := EquipmentOp.marked h.sound
  kept t run := run.keeps_holder h.sound

end Cycle

/-- A house with a lost lamp that the guest still has, and a condemned chair. -/
def oldHouse : Store :=
  Store.serve {} {}
    [.directory (.bootstrap "root" "Root"),
     .directory (.createUser { publicId := some "guest", displayName := "Guest" }),
     .caller root (.equipment (.register { publicId := some "lamp", name := "Lamp" })),
     .caller root (.equipment (.register { publicId := some "chair", name := "Chair" })),
     .caller root (.equipment (.assign "lamp" "guest" none)),
     .caller root (.equipment (.changeStatus "lamp" .lost none)),
     .caller root (.equipment (.changeStatus "chair" .condemned none))]
where
  root : Context := { actor := ⟨⟨1⟩, "root", "Root"⟩, binding := some .siteAdmin }
  lamp : Entry .equipment Equipment :=
    ⟨⟨1⟩, ⟨"lamp", "Lamp", none, .lost, none, ⟨3⟩, ⟨10⟩⟩⟩
  chair : Entry .equipment Equipment :=
    ⟨⟨2⟩, ⟨"chair", "Chair", none, .condemned, none, ⟨5⟩, ⟨13⟩⟩⟩
  /-- The guest hands the lamp on. -/
  on : EquipmentOp := .reassign "lamp" "guest" "root" none

/-- The guest keeps the lamp and cannot hand it on; and nobody will ever have the chair. -/
theorem oldHouse_life_cycle :
    oldHouse.LifeCycle oldHouse.lamp ∧ oldHouse.LifeCycle oldHouse.chair ∧
      heldIn oldHouse.equipmentAssignments oldHouse.lamp.id = some (⟨1⟩, ⟨2⟩) ∧
      (oldHouse.on.run {} oldHouse oldHouse.root).answer.isOk = false ∧
      ∀ t, Leads Anything oldHouse t → t.Free oldHouse.chair.id := by
  have reachable : Reachable oldHouse := Reachable.serve (.seeded (.empty 0 0 0))
  have lamp := reachable.life_cycle
    (show oldHouse.lamp ∈ oldHouse.equipment.entries by decide +kernel)
  have chair := reachable.life_cycle
    (show oldHouse.chair ∈ oldHouse.equipment.entries by decide +kernel)
  have lost : oldHouse.lamp.val.status ∈ [EquipmentStatus.lost, .retired, .condemned] := by
    decide +kernel
  exact ⟨lamp, chair, by decide +kernel, lamp.notHandedOn lost _ _ _ _ _,
    fun t run => (chair.condemned rfl t run).2⟩

end Quartermaster
