import Quartermaster.Proofs.Independence.Outcomes

/-!
# Operations on one accessory in two stores

As for items of equipment. What is free on the shelf is counted in the file of the accessory as well, so
no sum over rows of others comes in (`Twins.available`).

Results: `Custody.assignAccessory_twins` and its likes.
-/

namespace Quartermaster

variable {b s t : Store} {item : AccessoryId}

/-! ## What is written -/

/-- What an assignment of the accessory refers to is there in both stores, or in neither. -/
theorem Twins.accessoryAssignment_refers {a a' : AccessoryAssignment}
    (h : Twins b Store.accessoryShelf item s t) (about : a.accessory = item)
    (about' : a'.accessory = item) (holder : a.holder = a'.holder)
    (assignedBy : a.assignedBy = a'.assignedBy) :
    Record.refers .accessoryAssignment s a = Record.refers .accessoryAssignment t a' := by
  have there : s.accessories.has item = t.accessories.has item := h.has
  simp only [Record.refers, about, about', holder, assignedBy, there, Store.users_congr h.around]

namespace Tx

theorem related_openAccessoryAssignment {holder assignedBy : UserId} {units : Int}
    (h : Twins b Store.accessoryShelf item s t)
    (free : s.openAccessoryAssignment item holder = none)
    (free' : t.openAccessoryAssignment item holder = none) :
    Related (Held b Store.accessoryShelf item)
      (openAccessoryAssignment item holder units assignedBy s)
      (openAccessoryAssignment item holder units assignedBy t) := by
  refine related_mint fun publicId minted publicId' minted' fresh fresh' => related_now ?_
  refine related_addCustody (h.ticked (Nat.le_succ _) (Nat.le_succ _)) ?_ rfl rfl ?_
  · exact Store.insertFault_congr rfl rfl (h.accessoryAssignment_refers rfl rfl rfl rfl)
      (AccessoryAssignment.alone fresh free) (AccessoryAssignment.alone fresh' free')
  · simp only [Blurs.blur, Blurs.publicId, Bool.false_eq_true, if_false, h.stamp]

theorem related_increaseAccessoryAssignment
    {a : Entry .accessoryAssignment AccessoryAssignment} {units : Int}
    (h : Twins b Store.accessoryShelf item s t)
    (shared : Shared b s.accessoryAssignments t.accessoryAssignments a)
    (about : a.val.accessory = item) (opened : a.val.isOpen = true) :
    Related (Held b Store.accessoryShelf item) (increaseAccessoryAssignment a.id units s)
      (increaseAccessoryAssignment a.id units t) := by
  unfold increaseAccessoryAssignment
  rw [bind_congr_left (addToAccessoryAssignment_eq units shared.row opened),
    bind_congr_left (addToAccessoryAssignment_eq units shared.row' opened)]
  exact related_writeCustody h shared
    (Store.ruleFault_congr rfl (h.accessoryAssignment_refers about about rfl rfl)) rfl rfl rfl rfl

theorem related_handAccessories {holder assignedBy : UserId} {units : Int}
    (h : Twins b Store.accessoryShelf item s t)
    (same : s.openAccessoryAssignment item holder = t.openAccessoryAssignment item holder)
    (shared : ∀ held, s.openAccessoryAssignment item holder = some held →
      held.val.accessory = item ∧ held.val.isOpen = true ∧
        Shared b s.accessoryAssignments t.accessoryAssignments held) :
    Related (Held b Store.accessoryShelf item) (handAccessories item holder units assignedBy s)
      (handAccessories item holder units assignedBy t) := by
  refine related_get ?_
  rw [← same]
  cases is_held : s.openAccessoryAssignment item holder with
  | none => exact related_openAccessoryAssignment h is_held (same.symm.trans is_held)
  | some held =>
    obtain ⟨about, opened, shared⟩ := shared held is_held
    exact related_increaseAccessoryAssignment h shared about opened

theorem related_reduceAccessoryAssignment
    {a : Entry .accessoryAssignment AccessoryAssignment} {units : Int}
    (h : Twins b Store.accessoryShelf item s t)
    (shared : Shared b s.accessoryAssignments t.accessoryAssignments a)
    (about : a.val.accessory = item) (opened : a.val.isOpen = true) :
    Related (Held b Store.accessoryShelf item) (reduceAccessoryAssignment a.id units s)
      (reduceAccessoryAssignment a.id units t) := by
  unfold reduceAccessoryAssignment
  rw [bind_congr_left (takeFromAccessoryAssignment_eq units shared.row opened rfl),
    bind_congr_left (takeFromAccessoryAssignment_eq units shared.row' opened rfl)]
  refine related_writeCustody (h.ticked (Nat.le_succ _) (Nat.le_succ _)) shared ?_ rfl rfl rfl ?_
  · refine Store.ruleFault_congr ?_ (h.accessoryAssignment_refers about about rfl rfl)
    by_cases rest : storedSum a.val.quantity (-units) = 0
    · simp only [Record.holds, if_pos rest, CustodyState.agrees_closed, Option.isSome_some]
      rfl
    · simp only [Record.holds, if_neg rest]
  · by_cases rest : storedSum a.val.quantity (-units) = 0
    · simp only [Blurs.blur, if_pos rest, Option.map_some, h.stamp]
    · simp only [Blurs.blur, if_neg rest]

theorem related_setAccessoryQuantity {quantity : Int} {e : Entry .accessory Accessory}
    (h : Twins b Store.accessoryShelf e.id s t)
    (rows : s.row? e.id = some e ∧ t.row? e.id = some e) :
    Related (fun r r' => Twins b Store.accessoryShelf e.id r.2 r'.2)
      (setAccessoryQuantity e.id quantity s) (setAccessoryQuantity e.id quantity t) := by
  refine related_now (related_get ?_)
  rw [show Store.row? { s with clock := s.clock + 1 } e.id = some e from rows.1,
    show Store.row? { t with clock := t.clock + 1 } e.id = some e from rows.2]
  refine related_setItem (h.ticked (Nat.le_succ _) (Nat.le_succ _)) ?_ ?_
  · exact Store.updateFault_congr rfl rfl
      (congrArg (Table.resolves · e.val.room) (congrArg Surroundings.rooms h.around))
  · simp only [Blurs.blur, h.stamp]

theorem related_appendAccessoryEvent {c c' : Option AccessoryAssignmentId} {type : EventType}
    {holder : Option UserId} {quantity quantityChange : Int} {reportedBy : UserId}
    {notes : Option String} (h : Twins b Store.accessoryShelf item s t)
    (custody : SameReference b s.accessoryAssignments t.accessoryAssignments c c') :
    Related (fun r r' => Twins b Store.accessoryShelf item r.2 r'.2)
      (appendAccessoryEvent item c type holder quantity quantityChange reportedBy notes s)
      (appendAccessoryEvent item c' type holder quantity quantityChange reportedBy notes t) := by
  refine related_now (related_addEvent (h.ticked (Nat.le_succ _) (Nat.le_succ _)) ?_ rfl rfl ?_)
  · refine Store.insertFault_congr rfl rfl ?_ (fun _ _ => rfl) (fun _ _ => rfl)
    have there : s.accessories.has item = t.accessories.has item := h.has
    simp only [Record.refers, there, custody.there, custody.there', Store.users_congr h.around]
  · simp only [Blurs.blur, custody.same, h.stamp]

end Tx

/-! ## What is found -/

/-- The open assignment to a holder is in the file of the accessory. -/
theorem Store.openAccessoryAssignment_eq {holder : UserId} :
    s.openAccessoryAssignment item holder = (s.accessoryFile item).custody.find? fun a =>
      a.val.holder == holder && a.val.isOpen := by
  simp only [openAccessoryAssignment, accessoryFile, Table.find?, Table.filter, List.find?_filter,
    Bool.decide_and, Bool.decide_eq_true, Bool.and_assoc]

/-- What is new in the rows does not count. -/
theorem Table.totalOf_since {rows : List (Entry .accessoryAssignment AccessoryAssignment)} :
    totalOf (·.quantity) (rows.filter (·.val.isOpen)) =
      totalOf (·.quantity) ((rows.map (Entry.since b)).filter (·.val.isOpen)) := by
  induction rows with
  | nil => rfl
  | cons a rest ih =>
    have same : (Entry.since b a).val.isOpen = a.val.isOpen := rfl
    rw [List.map_cons, List.filter_cons, List.filter_cons, same]
    cases a.val.isOpen with
    | true => exact congrArg (a.val.quantity + ·) ih
    | false => exact ih

/-- The units in open assignments are counted in the file of the accessory. -/
theorem Store.assignedUnits_eq : s.assignedUnits item = Table.totalOf (·.quantity)
    ((s.accessoryFile item).custody.filter (·.val.isOpen)) := by
  simp only [assignedUnits, accessoryFile, Table.filter, List.filter_filter, Bool.and_comm]

theorem Twins.available {e e' : Entry .accessory Accessory}
    (h : Twins b Store.accessoryShelf item s t) (here : e.id = item) (here' : e'.id = item)
    (quantity : e.val.quantity = e'.val.quantity) : s.available e = t.available e' := by
  have counted (u : Store) : u.assignedUnits item = Table.totalOf (·.quantity)
      (((u.accessoryFile item).custody.map (Entry.since b)).filter (·.val.isOpen)) :=
    Store.assignedUnits_eq.trans Table.totalOf_since
  have units : s.assignedUnits item = t.assignedUnits item := by
    rw [counted s, counted t]
    exact congrArg (fun rows => Table.totalOf (·.quantity) (rows.filter (·.val.isOpen)))
      h.shelves.custody
  unfold Store.available Store.assigned
  rw [here, here', units, quantity]

theorem Custody.accessoryEvent_congr {e e' : Entry .accessory Accessory} {type : EventType}
    {holder : Option String} {quantity change : Int} (same : e.since b = e'.since b) :
    accessoryEvent e type holder quantity change = accessoryEvent e' type holder quantity change := by
  have publicId : e.val.publicId = e'.val.publicId :=
    (congrArg (fun e : Entry .accessory Accessory => e.val.publicId) same :)
  unfold accessoryEvent
  rw [publicId]

section Agrees

variable {name : String} {e : Entry .accessory Accessory}

theorem Agrees.accessory_held {holder : UserId} (h : Agrees Store.accessoryShelf name s t)
    (named : s.named? .accessory name = some e) :
    s.openAccessoryAssignment e.id holder = t.openAccessoryAssignment e.id holder := by
  rw [Store.openAccessoryAssignment_eq, Store.openAccessoryAssignment_eq]
  exact congrArg (fun f => f.custody.find? fun a => a.val.holder == holder && a.val.isOpen)
    (h.unmoved.file e named)

theorem Agrees.accessory_shared {a : Entry .accessoryAssignment AccessoryAssignment}
    (h : Agrees Store.accessoryShelf name s t) (named : s.named? .accessory name = some e)
    (member : a ∈ s.accessoryAssignments.entries) (about : a.val.accessory = e.id) :
    Shared s s.accessoryAssignments t.accessoryAssignments a :=
  h.shared named h.sound.accessoryAssignments.numbered h.sound'.accessoryAssignments.numbered member
    about

end Agrees

/-! ## The operations -/

namespace Custody

variable {α β : Type} {d : Setting} {ctx : Context} {name user : String} {quantity : Int64}

theorem findAccessory_agrees {required : Role} (h : Agrees Store.accessoryShelf name s t) :
    findAccessory ctx required name s = findAccessory ctx required name t := by
  unfold findAccessory Store.named
  simp only [h.unmoved.named, Store.authorize_congr h.around]

theorem related_lockAccessory {P : α × Store → β × Store → Prop} {e : Entry .accessory Accessory}
    {f : Entry .accessory Accessory → Tx α} {g : Entry .accessory Accessory → Tx β}
    (rows : s.row? e.id = some e ∧ t.row? e.id = some e) (around : s.around = t.around)
    (rest : Related P (f e s) (g e t)) :
    Related P ((lockAccessory ctx e >>= f) s) ((lockAccessory ctx e >>= g) t) := by
  unfold lockAccessory
  rw [bind_assoc, bind_assoc]
  refine related_lock rows ?_
  rw [bind_assoc, bind_assoc]
  exact related_authorize around rest

theorem assignAccessory_twins (h : Agrees Store.accessoryShelf name s t) :
    ((d.run s (assignAccessory d ctx name user quantity)).mapOk .accessoryCustody).Twins s
      Store.accessoryShelf name
      ((d.run t (assignAccessory d ctx name user quantity)).mapOk .accessoryCustody) := by
  refine Setting.run_twins h ?_ fun found reads => ?_
  · simp only [assignAccessory, findAccessory_agrees h, Store.user_named_congr h.around]
  simp only [assignAccessory, Results.bind_ok, findAccessory_ok, Store.named_ok, Results.pure_ok]
    at reads
  obtain ⟨_, _, e, ⟨named, _⟩, u, user_named, rfl⟩ := reads
  have twins := h.twins named
  refine ⟨e, named, related_lockAccessory (h.rows named) h.around (Tx.related_read
    (twins.available rfl rfl rfl) fun available _ => Tx.related_require rfl fun enough => ?_)⟩
  refine Tx.related_bind (Tx.related_handAccessories twins (h.accessory_held named)
    fun held is_held => ?_) fun a s₁ a' t₁ _ _ handed => ?_
  · obtain ⟨row, about, _, opened⟩ := h.sound.openAccessoryAssignment is_held
    exact ⟨about, opened, h.accessory_shared named (Table.mem_of_get? row).1 about⟩
  refine Tx.related_bind (Tx.related_appendAccessoryEvent handed.twins handed.reference)
    fun _ _ _ _ _ _ twins => ?_
  refine Tx.related_bind (Tx.related_record twins) fun _ _ _ _ _ _ twins => ?_
  refine Tx.related_pure ⟨?_, rfl, rfl, twins⟩
  exact congrArg (fun a => Answer.accessoryCustody
    { item := e.since s, available := available - quantity.toInt, assignment := some a }) handed.row

/-- The total is written, the ledger says why, and the accessory is looked at again. -/
theorem related_setTotal {P : α × Store → β × Store → Prop} {e : Entry .accessory Accessory}
    {total units change : Int} {type : EventType} {action : String} {details : List (String × Json)}
    {f : Entry .accessory Accessory → Tx α} {g : Entry .accessory Accessory → Tx β}
    (h : Twins b Store.accessoryShelf e.id s t) (rows : s.row? e.id = some e ∧ t.row? e.id = some e)
    (rest : ∀ (after after' : Entry .accessory Accessory) (s' t' : Store),
      after.id = e.id ∧ after'.id = e.id ∧ after.since b = after'.since b →
      Twins b Store.accessoryShelf e.id s' t' → Related P (f after s') (g after' t')) :
    Related P
      ((do
        Tx.setAccessoryQuantity e.id total
        let _ ← Tx.appendAccessoryEvent e.id none type none units change ctx.actor.id none
        let e ← lock e
        recordAccessory d ctx action e details
        f e) s)
      ((do
        Tx.setAccessoryQuantity e.id total
        let _ ← Tx.appendAccessoryEvent e.id none type none units change ctx.actor.id none
        let e ← lock e
        recordAccessory d ctx action e details
        g e) t) := by
  refine Tx.related_bind (Tx.related_setAccessoryQuantity h rows) fun _ _ _ _ _ _ twins => ?_
  refine Tx.related_bind (Tx.related_appendAccessoryEvent twins ⟨rfl, rfl, rfl⟩)
    fun _ _ _ _ _ _ twins => ?_
  refine Tx.related_look twins.related_numbered fun after after' _ _ same => ?_
  exact Tx.related_bind (Tx.related_record twins) fun _ _ _ _ _ _ twins =>
    rest after after' _ _ same twins

theorem condemnAccessory_twins (h : Agrees Store.accessoryShelf name s t) :
    ((d.run s (condemnAccessory d ctx name quantity)).mapOk .accessoryCustody).Twins s
      Store.accessoryShelf name
      ((d.run t (condemnAccessory d ctx name quantity)).mapOk .accessoryCustody) := by
  refine Setting.run_twins h ?_ fun e reads => ?_
  · simp only [condemnAccessory, findAccessory_agrees h]
  simp only [condemnAccessory, Results.bind_ok, findAccessory_ok] at reads
  obtain ⟨_, _, named, _⟩ := reads
  have twins := h.twins named
  refine ⟨e, named, related_lockAccessory (h.rows named) h.around (Tx.related_read
    (twins.available rfl rfl rfl) fun available _ => Tx.related_require rfl fun enough => ?_)⟩
  refine related_setTotal twins (h.rows named) fun after after' s' t' same twins => ?_
  refine Tx.related_pure ⟨?_, ?_, rfl, twins⟩
  · simp only [Answer.since, same.2.2]
  · exact congrArg ([·]) (accessoryEvent_congr same.2.2)

theorem restockAccessory_twins (h : Agrees Store.accessoryShelf name s t) :
    ((d.run s (restockAccessory d ctx name quantity)).mapOk .accessoryCustody).Twins s
      Store.accessoryShelf name
      ((d.run t (restockAccessory d ctx name quantity)).mapOk .accessoryCustody) := by
  refine Setting.run_twins h ?_ fun e reads => ?_
  · simp only [restockAccessory, findAccessory_agrees h]
  simp only [restockAccessory, Results.bind_ok, findAccessory_ok] at reads
  obtain ⟨_, _, named, _⟩ := reads
  refine ⟨e, named, related_lockAccessory (h.rows named) h.around (Tx.related_read rfl
    fun total _ => ?_)⟩
  refine related_setTotal (h.twins named) (h.rows named) fun after after' s' t' same twins => ?_
  have total := congrArg (fun e : Entry .accessory Accessory => e.val.quantity) same.2.2
  refine Tx.related_read (twins.available same.1 same.2.1 total) fun available _ =>
    Tx.related_pure ⟨?_, ?_, rfl, twins⟩
  · simp only [Answer.since, same.2.2]
  · exact congrArg ([·]) (accessoryEvent_congr same.2.2)

/-- An assignment is taken back by its public id, so the asset is that of its row. -/
theorem returnAccessory_twins {assignment : String} {e : Entry .accessory Accessory}
    {a : Entry .accessoryAssignment AccessoryAssignment}
    (a_named : s.named? .accessoryAssignment assignment = some a)
    (about : s.row? a.val.accessory = some e)
    (h : Agrees Store.accessoryShelf e.val.publicId s t) :
    ((d.run s (returnAccessory d ctx assignment quantity)).mapOk .accessoryCustody).Twins s
      Store.accessoryShelf e.val.publicId
      ((d.run t (returnAccessory d ctx assignment quantity)).mapOk .accessoryCustody) := by
  obtain ⟨e_member, own⟩ := Table.mem_of_get? about
  have named : s.named? .accessory e.val.publicId = some e :=
    Store.named_ok.1 (Store.named_of_mem h.sound.accessories e_member)
  have shared := h.accessory_shared named (Table.mem_of_find? a_named).1 own.symm
  have rows := h.rows named
  have a_named' := shared.named h.sound' a_named
  refine Setting.run_twins h ?_ fun found reads => ?_
  · simp only [returnAccessory, Store.named_ok.2 a_named, Store.named_ok.2 a_named',
      Results.ok_bind, ← own, Store.numbered_ok.2 rows.1, Store.numbered_ok.2 rows.2,
      Store.authorize_congr h.around]
  simp only [returnAccessory, Store.named_ok.2 a_named, Results.ok_bind, ← own,
    Store.numbered_ok.2 rows.1, Results.bind_ok, Results.pure_ok] at reads
  obtain ⟨_, _, _, _, rfl⟩ := reads
  refine ⟨e, named, related_lock rows (related_lock ⟨shared.row, shared.row'⟩
    (related_authorize h.around (Tx.related_require rfl fun opened => Tx.related_require rfl
      fun enough => ?_)))⟩
  refine Tx.related_bind (Tx.related_reduceAccessoryAssignment (h.twins named) shared own.symm opened)
    fun a₁ s₁ a₁' t₁ _ _ reduced => ?_
  have holder : a₁.val.holder = a₁'.val.holder :=
    (congrArg (fun a : Entry .accessoryAssignment AccessoryAssignment => a.val.holder) reduced.row :)
  rw [← holder]
  refine Tx.related_bind (Tx.related_appendAccessoryEvent reduced.twins reduced.reference)
    fun _ _ _ _ _ _ twins => related_holderOf twins.around fun u => ?_
  refine Tx.related_bind (Tx.related_record twins) fun _ _ _ _ _ _ twins => ?_
  refine Tx.related_read (twins.available rfl rfl rfl) fun available _ =>
    Tx.related_pure ⟨?_, rfl, rfl, twins⟩
  exact congrArg (fun a => Answer.accessoryCustody
    { item := e.since s, available, assignment := some a }) reduced.row

end Custody

end Quartermaster
