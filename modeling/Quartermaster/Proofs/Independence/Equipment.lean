import Quartermaster.Proofs.Independence.Outcomes

/-!
# Operations on one item in two stores

Each statement that is made about an item leaves twin stores twins (`Tx.related_*`), and what an item is
held under is read off its file. So each of the four operations ends alike in two stores that agree on
the item.

Results: `Custody.assignEquipment_twins` and its likes.
-/

namespace Quartermaster

variable {α β : Type} {b s t : Store} {item : EquipmentId}

/-- What an assignment of the item refers to is there in both stores, or in neither. -/
theorem Twins.assignment_refers {a a' : EquipmentAssignment}
    (h : Twins b Store.equipmentShelf item s t) (about : a.equipment = item)
    (about' : a'.equipment = item) (holder : a.holder = a'.holder)
    (assignedBy : a.assignedBy = a'.assignedBy) :
    Record.refers .equipmentAssignment s a = Record.refers .equipmentAssignment t a' := by
  have there : s.equipment.has item = t.equipment.has item := h.has
  simp only [Record.refers, about, about', holder, assignedBy, there, Store.users_congr h.around]

namespace Tx

theorem related_openEquipmentAssignment {holder assignedBy : UserId} {notes : Option String}
    (h : Twins b Store.equipmentShelf item s t) (free : s.openEquipmentAssignment item = none)
    (free' : t.openEquipmentAssignment item = none) :
    Related (Held b Store.equipmentShelf item)
      (openEquipmentAssignment item holder assignedBy notes s)
      (openEquipmentAssignment item holder assignedBy notes t) := by
  refine related_mint fun publicId minted publicId' minted' fresh fresh' => related_now ?_
  refine related_addCustody (h.ticked (Nat.le_succ _) (Nat.le_succ _)) ?_ rfl rfl ?_
  · exact Store.insertFault_congr rfl rfl (h.assignment_refers rfl rfl rfl rfl)
      (EquipmentAssignment.alone fresh free) (EquipmentAssignment.alone fresh' free')
  · simp only [Blurs.blur, Blurs.publicId, Bool.false_eq_true, if_false, h.stamp]

theorem related_closeEquipmentAssignment {a : Entry .equipmentAssignment EquipmentAssignment}
    {notes : Option String} (h : Twins b Store.equipmentShelf item s t)
    (shared : Shared b s.equipmentAssignments t.equipmentAssignments a)
    (about : a.val.equipment = item) (opened : a.val.isOpen = true) :
    Related (Held b Store.equipmentShelf item) (closeEquipmentAssignment a.id notes s)
      (closeEquipmentAssignment a.id notes t) := by
  unfold closeEquipmentAssignment
  rw [bind_of_ok (openEquipmentRow_ok.2 ⟨⟨shared.row, opened⟩, rfl⟩),
    bind_of_ok (openEquipmentRow_ok.2 ⟨⟨shared.row', opened⟩, rfl⟩)]
  refine related_now (related_bind (related_setCustody (h.ticked (Nat.le_succ _) (Nat.le_succ _))
    shared ?_ rfl rfl ?_) fun _ _ _ _ _ _ held => related_pure held)
  · exact Store.updateFault_congr rfl rfl (h.assignment_refers about about rfl rfl)
  · simp only [Blurs.blur, Option.map_some, h.stamp]

theorem related_transferEquipmentAssignment {a : Entry .equipmentAssignment EquipmentAssignment}
    {holder assignedBy : UserId} {notes : Option String}
    (h : Twins b Store.equipmentShelf item s t)
    (shared : Shared b s.equipmentAssignments t.equipmentAssignments a)
    (about : a.val.equipment = item) (opened : a.val.isOpen = true) :
    Related (Held b Store.equipmentShelf item)
      (transferEquipmentAssignment a.id holder assignedBy notes s)
      (transferEquipmentAssignment a.id holder assignedBy notes t) := by
  unfold transferEquipmentAssignment
  rw [bind_of_ok (openEquipmentRow_ok.2 ⟨⟨shared.row, opened⟩, rfl⟩),
    bind_of_ok (openEquipmentRow_ok.2 ⟨⟨shared.row', opened⟩, rfl⟩)]
  refine related_now (related_bind (related_setCustody (h.ticked (Nat.le_succ _) (Nat.le_succ _))
    shared ?_ rfl rfl ?_) fun _ _ _ _ _ _ held => related_pure held)
  · exact Store.updateFault_congr rfl rfl (h.assignment_refers about about rfl rfl)
  · simp only [Blurs.blur, h.stamp]

theorem related_setEquipmentStatus {status : EquipmentStatus}
    {e : Entry .equipment Equipment}
    (h : Twins b Store.equipmentShelf e.id s t) (row : s.row? e.id = some e)
    (row' : t.row? e.id = some e) :
    Related (fun r r' => Twins b Store.equipmentShelf e.id r.2 r'.2)
      (setEquipmentStatus e.id status s) (setEquipmentStatus e.id status t) := by
  refine related_now (related_get ?_)
  rw [show Store.row? { s with clock := s.clock + 1 } e.id = some e from row,
    show Store.row? { t with clock := t.clock + 1 } e.id = some e from row']
  refine related_setItem (h.ticked (Nat.le_succ _) (Nat.le_succ _)) ?_ ?_
  · exact Store.updateFault_congr rfl rfl
      (congrArg (Table.resolves · e.val.room) (congrArg Surroundings.rooms h.around))
  · simp only [Blurs.blur, h.stamp]

theorem related_appendEquipmentEvent {c c' : Option EquipmentAssignmentId} {type : EventType}
    {holder : Option UserId} {status : Option EquipmentStatus} {reportedBy : UserId}
    {notes : Option String} (h : Twins b Store.equipmentShelf item s t)
    (custody : SameReference b s.equipmentAssignments t.equipmentAssignments c c') :
    Related (fun r r' => Twins b Store.equipmentShelf item r.2 r'.2)
      (appendEquipmentEvent item c type holder status reportedBy notes s)
      (appendEquipmentEvent item c' type holder status reportedBy notes t) := by
  refine related_now (related_addEvent (h.ticked (Nat.le_succ _) (Nat.le_succ _)) ?_ rfl rfl ?_)
  · refine Store.insertFault_congr rfl rfl ?_ (fun _ _ => rfl) (fun _ _ => rfl)
    have there : s.equipment.has item = t.equipment.has item := h.has
    simp only [Record.refers, there, custody.there, custody.there', Store.users_congr h.around]
  · simp only [Blurs.blur, custody.same, h.stamp]

end Tx

/-- The open assignment of an item is in its file. -/
theorem Store.openEquipmentAssignment_eq : s.openEquipmentAssignment item =
    (s.equipmentFile item).custody.find? (·.val.isOpen) := by
  simp only [openEquipmentAssignment, equipmentFile, Table.find?, Table.filter, List.find?_filter,
    Bool.decide_and, Bool.decide_eq_true]

section Agrees

variable {name : String} {e : Entry .equipment Equipment}

theorem Agrees.item_held (h : Agrees Store.equipmentShelf name s t)
    (named : s.named? .equipment name = some e) :
    s.openEquipmentAssignment e.id = t.openEquipmentAssignment e.id := by
  rw [Store.openEquipmentAssignment_eq, Store.openEquipmentAssignment_eq]
  exact congrArg (fun f => f.custody.find? (·.val.isOpen)) (h.unmoved.file e named)

/-- The assignment that an item is held under is the same in both stores. -/
theorem Agrees.item_shared (h : Agrees Store.equipmentShelf name s t)
    (named : s.named? .equipment name = some e)
    {held : Entry .equipmentAssignment EquipmentAssignment}
    (is_held : s.openEquipmentAssignment e.id = some held) :
    Shared s s.equipmentAssignments t.equipmentAssignments held :=
  h.shared named h.sound.equipmentAssignments.numbered h.sound'.equipmentAssignments.numbered
    (Table.mem_of_find? is_held).1 (h.sound.openEquipmentAssignment is_held).2.1

end Agrees

namespace Custody

variable {d : Setting} {ctx : Context} {name user : String} {notes : Option String}

theorem findItem_agrees {required : Role} (h : Agrees Store.equipmentShelf name s t) :
    findItem ctx required name s = findItem ctx required name t := by
  unfold findItem Store.named
  simp only [h.unmoved.named, Store.authorize_congr h.around]

theorem related_handover {P : α × Store → β × Store → Prop} {e : Entry .equipment Equipment}
    {u : Entry .user User} {f : Unit → Tx α} {g : Unit → Tx β} (around : s.around = t.around)
    (rest : Related P (f () s) (g () t)) :
    Related P ((authorizeHandover ctx e u >>= f) s) ((authorizeHandover ctx e u >>= g) t) := by
  rw [authorizeHandover_eq]
  refine Tx.related_read ?_ fun _ _ => rest
  unfold handoverCheck
  rw [Store.authorize_congr around, Store.authorize_congr around]

theorem assignEquipment_twins (h : Agrees Store.equipmentShelf name s t) :
    ((d.run s (assignEquipment d ctx name user notes)).mapOk .equipmentCustody).Twins s
      Store.equipmentShelf name
      ((d.run t (assignEquipment d ctx name user notes)).mapOk .equipmentCustody) := by
  refine Setting.run_twins h ?_ fun found reads => ?_
  · simp only [assignEquipment, findItem_agrees h, Store.user_named_congr h.around,
      Store.authorize_congr h.around]
  simp only [assignEquipment, Results.bind_ok, findItem_ok, Store.named_ok, Results.pure_ok] at reads
  obtain ⟨e, ⟨named, _⟩, u, user_named, _, _, rfl⟩ := reads
  refine ⟨e, named, related_lock (h.rows named) (related_reload h.around fun holder => ?_)⟩
  refine related_handover h.around (Tx.related_require rfl fun assignable => Tx.related_get
    (Tx.related_require (congrArg Option.isNone (h.item_held named)) fun free => ?_))
  have free := Option.isNone_iff_eq_none.1 free
  refine Tx.related_bind (Tx.related_openEquipmentAssignment (h.twins named) free
    ((h.item_held named).symm.trans free)) fun a s₁ a' t₁ _ _ opened => ?_
  refine Tx.related_bind (Tx.related_appendEquipmentEvent opened.twins opened.reference)
    fun _ _ _ _ _ _ twins => ?_
  refine Tx.related_bind (Tx.related_record twins) fun _ _ _ _ _ _ twins => ?_
  refine Tx.related_pure ⟨?_, rfl, rfl, twins⟩
  exact congrArg (fun a => Answer.equipmentCustody
    { item := e.since s, isAssigned := true, holder := some holder.val.publicId
      assignment := some a }) opened.row

theorem unassignEquipment_twins (h : Agrees Store.equipmentShelf name s t) :
    ((d.run s (unassignEquipment d ctx name user notes)).mapOk .equipmentCustody).Twins s
      Store.equipmentShelf name
      ((d.run t (unassignEquipment d ctx name user notes)).mapOk .equipmentCustody) := by
  refine Setting.run_twins h ?_ fun found reads => ?_
  · simp only [unassignEquipment, findItem_agrees h, Store.user_named_congr h.around]
  simp only [unassignEquipment, Results.bind_ok, findItem_ok, Store.named_ok, Results.pure_ok]
    at reads
  obtain ⟨e, ⟨named, _⟩, u, user_named, rfl⟩ := reads
  refine ⟨e, named, related_lock (h.rows named) (related_authorize h.around (Tx.related_get
    (Tx.related_present (h.item_held named) fun held is_held => Tx.related_require rfl
      fun by_user => ?_)))⟩
  obtain ⟨_, about, opened⟩ := h.sound.openEquipmentAssignment is_held
  refine Tx.related_bind (Tx.related_closeEquipmentAssignment (h.twins named)
    (h.item_shared named is_held) about opened) fun a s₁ a' t₁ _ _ closed => ?_
  refine Tx.related_bind (Tx.related_appendEquipmentEvent closed.twins closed.reference)
    fun _ _ _ _ _ _ twins => ?_
  refine Tx.related_bind (Tx.related_record twins) fun _ _ _ _ _ _ twins => ?_
  refine Tx.related_pure ⟨?_, rfl, rfl, twins⟩
  exact congrArg (fun a => Answer.equipmentCustody
    { item := e.since s, isAssigned := false, holder := none, assignment := some a }) closed.row

theorem reassignEquipment_twins {giver receiver : String}
    (h : Agrees Store.equipmentShelf name s t) :
    ((d.run s (reassignEquipment d ctx name giver receiver notes)).mapOk .equipmentCustody).Twins s
      Store.equipmentShelf name
      ((d.run t (reassignEquipment d ctx name giver receiver notes)).mapOk .equipmentCustody) := by
  refine Setting.run_twins h ?_ fun found reads => ?_
  · simp only [reassignEquipment, findItem_agrees h, Store.user_named_congr h.around,
      Store.authorize_congr h.around]
  by_cases same : giver = receiver
  · simp only [reassignEquipment, if_pos same] at reads
    cases reads
  simp only [reassignEquipment, if_neg same, Results.bind_ok, findItem_ok, Store.named_ok,
    Results.pure_ok] at reads
  obtain ⟨e, ⟨named, _⟩, g, giver_named, u, receiver_named, _, _, rfl⟩ := reads
  refine ⟨e, named, related_lock (h.rows named) (related_reload h.around fun receiver =>
    related_handover h.around (Tx.related_require rfl fun assignable => Tx.related_get
    (Tx.related_present (h.item_held named) fun held is_held => Tx.related_require rfl
      fun by_giver => ?_)))⟩
  obtain ⟨_, about, opened⟩ := h.sound.openEquipmentAssignment is_held
  have shared := h.item_shared named is_held
  refine Tx.related_bind (Tx.related_appendEquipmentEvent (h.twins named) shared.reference)
    fun _ s₁ _ t₁ first first' twins => ?_
  -- the row is as it was while the return is in the ledger already
  obtain ⟨_, _, rfl⟩ := Tx.appendEquipmentEvent_ok first
  obtain ⟨_, _, rfl⟩ := Tx.appendEquipmentEvent_ok first'
  refine Tx.related_bind (Tx.related_transferEquipmentAssignment twins shared about opened)
    fun a s₂ a' t₂ _ _ moved => ?_
  refine Tx.related_bind (Tx.related_appendEquipmentEvent moved.twins moved.reference)
    fun _ _ _ _ _ _ twins => ?_
  refine Tx.related_bind (Tx.related_record twins) fun _ _ _ _ _ _ twins => ?_
  refine Tx.related_pure ⟨?_, rfl, rfl, twins⟩
  exact congrArg (fun a => Answer.equipmentCustody
    { item := e.since s, isAssigned := true, holder := some receiver.val.publicId
      assignment := some a }) moved.row

theorem changeEquipmentStatus_twins {status : EquipmentStatus}
    (h : Agrees Store.equipmentShelf name s t) :
    ((d.run s (changeEquipmentStatus d ctx name status notes)).mapOk .equipmentCustody).Twins s
      Store.equipmentShelf name
      ((d.run t (changeEquipmentStatus d ctx name status notes)).mapOk .equipmentCustody) := by
  refine Setting.run_twins h (findItem_agrees h) fun e reads => ?_
  obtain ⟨named, _⟩ := findItem_ok.1 reads
  obtain ⟨row, row'⟩ := h.rows named
  refine ⟨e, named, related_lock (h.rows named) (related_authorize h.around (Tx.related_require rfl
    fun not_final => Tx.related_require rfl fun different => Tx.related_get ?_))⟩
  rw [← h.item_held named]
  refine Tx.related_require rfl fun given_back => ?_
  refine Tx.related_bind (Tx.related_setEquipmentStatus (h.twins named) row row')
    fun _ s₁ _ t₁ changed changed' twins => ?_
  have custody : SameReference s s.equipmentAssignments t.equipmentAssignments
      ((s.openEquipmentAssignment e.id).map (·.id))
      ((s.openEquipmentAssignment e.id).map (·.id)) := by
    cases is_held : s.openEquipmentAssignment e.id with
    | none => exact ⟨rfl, rfl, rfl⟩
    | some held => exact (h.item_shared named is_held).reference
  obtain ⟨_, rfl⟩ := Tx.setEquipmentStatus_ok row changed
  obtain ⟨_, rfl⟩ := Tx.setEquipmentStatus_ok row' changed'
  refine Tx.related_bind (Tx.related_appendEquipmentEvent twins custody)
    fun _ _ _ _ _ _ twins => ?_
  refine Tx.related_look twins.related_numbered fun after after' _ _ same => ?_
  refine Tx.related_bind (Tx.related_record twins) fun _ s₃ _ t₃ _ _ twins => Tx.related_get ?_
  have publicId := congrArg (fun e : Entry .equipment Equipment => e.val.publicId) same.2.2
  have holder := Store.userPublicId_congr twins.around
    ((s.openEquipmentAssignment e.id).map (·.val.holder))
  refine Tx.related_pure ⟨?_, ?_, rfl, twins⟩
  · simp only [Answer.since, same.2.2, holder]
  · exact congrArg (fun p => [CustodyEvent.equipmentStatusChanged p status ctx.actor.publicId])
      publicId

end Custody

end Quartermaster
