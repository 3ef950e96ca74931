import Quartermaster.Proofs.Independence.Outcomes
import Quartermaster.Proofs.Refusals.Consumable

/-!
# Operations on one consumable in two stores

As for items of equipment. The issue that a holder draws on is one of the consumable, not one of the
holder alone (`Store.openIssue_eq`).

Results: `Custody.issueConsumable_twins` and its likes.
-/

namespace Quartermaster

variable {b s t : Store} {item : ConsumableId}

/-! ## What is written -/

/-- What an issue of the consumable refers to is there in both stores, or in neither. -/
theorem Twins.issue_refers {i i' : ConsumableIssue}
    (h : Twins b Store.consumableShelf item s t) (about : i.consumable = item)
    (about' : i'.consumable = item) (holder : i.holder = i'.holder)
    (assignedBy : i.assignedBy = i'.assignedBy) :
    Record.refers .consumableIssue s i = Record.refers .consumableIssue t i' := by
  have there : s.consumables.has item = t.consumables.has item := h.has
  simp only [Record.refers, about, about', holder, assignedBy, there, Store.users_congr h.around]

namespace Tx

theorem related_openIssue {holder assignedBy : UserId} {units : Int} {purpose : Option String}
    (h : Twins b Store.consumableShelf item s t)
    (free : s.openIssue item holder = none)
    (free' : t.openIssue item holder = none) :
    Related (Held b Store.consumableShelf item)
      (openIssue item holder units assignedBy purpose s)
      (openIssue item holder units assignedBy purpose t) := by
  refine related_mint fun publicId minted publicId' minted' fresh fresh' => related_now ?_
  refine related_addCustody (h.ticked (Nat.le_succ _) (Nat.le_succ _)) ?_ rfl rfl ?_
  · exact Store.insertFault_congr rfl rfl (h.issue_refers rfl rfl rfl rfl)
      (ConsumableIssue.alone fresh free) (ConsumableIssue.alone fresh' free')
  · simp only [Blurs.blur, Blurs.publicId, Bool.false_eq_true, if_false, h.stamp]

theorem related_increaseIssue
    {i : Entry .consumableIssue ConsumableIssue} {units : Int}
    (h : Twins b Store.consumableShelf item s t)
    (shared : Shared b s.consumableIssues t.consumableIssues i)
    (about : i.val.consumable = item) (opened : i.val.isOpen = true) :
    Related (Held b Store.consumableShelf item) (increaseIssue i.id units s)
      (increaseIssue i.id units t) := by
  unfold increaseIssue
  rw [bind_congr_left (addToIssue_eq units shared.row opened),
    bind_congr_left (addToIssue_eq units shared.row' opened)]
  exact related_writeCustody h shared
    (Store.ruleFault_congr rfl (h.issue_refers about about rfl rfl)) rfl rfl rfl rfl

theorem related_giveUnits {holder assignedBy : UserId} {units : Int} {purpose : Option String}
    (h : Twins b Store.consumableShelf item s t)
    (same : s.openIssue item holder = t.openIssue item holder)
    (shared : ∀ held, s.openIssue item holder = some held →
      held.val.consumable = item ∧ held.val.isOpen = true ∧
        Shared b s.consumableIssues t.consumableIssues held) :
    Related (Held b Store.consumableShelf item) (giveUnits item holder units assignedBy purpose s)
      (giveUnits item holder units assignedBy purpose t) := by
  refine related_get ?_
  rw [← same]
  cases is_held : s.openIssue item holder with
  | none => exact related_openIssue h is_held (same.symm.trans is_held)
  | some held =>
    obtain ⟨about, opened, shared⟩ := shared held is_held
    exact related_increaseIssue h shared about opened

theorem related_reduceIssue
    {i : Entry .consumableIssue ConsumableIssue} {units : Int}
    (h : Twins b Store.consumableShelf item s t)
    (shared : Shared b s.consumableIssues t.consumableIssues i)
    (about : i.val.consumable = item) (opened : i.val.isOpen = true) :
    Related (Held b Store.consumableShelf item) (reduceIssue i.id units s)
      (reduceIssue i.id units t) := by
  unfold reduceIssue
  rw [bind_congr_left (takeFromIssue_eq units shared.row opened rfl),
    bind_congr_left (takeFromIssue_eq units shared.row' opened rfl)]
  refine related_writeCustody (h.ticked (Nat.le_succ _) (Nat.le_succ _)) shared ?_ rfl rfl rfl ?_
  · refine Store.ruleFault_congr ?_ (h.issue_refers about about rfl rfl)
    by_cases rest : storedSum i.val.quantity (-units) = 0
    · simp only [Record.holds, if_pos rest, CustodyState.agrees_closed, Option.isSome_some]
      rfl
    · simp only [Record.holds, if_neg rest]
  · by_cases rest : storedSum i.val.quantity (-units) = 0
    · simp only [Blurs.blur, if_pos rest, Option.map_some, h.stamp]
    · simp only [Blurs.blur, if_neg rest]

theorem related_setConsumableQuantity {quantity : Int} {e : Entry .consumable Consumable}
    (h : Twins b Store.consumableShelf e.id s t)
    (rows : s.row? e.id = some e ∧ t.row? e.id = some e) :
    Related (fun r r' => Twins b Store.consumableShelf e.id r.2 r'.2)
      (setConsumableQuantity e.id quantity s) (setConsumableQuantity e.id quantity t) := by
  refine related_now (related_get ?_)
  rw [show Store.row? { s with clock := s.clock + 1 } e.id = some e from rows.1,
    show Store.row? { t with clock := t.clock + 1 } e.id = some e from rows.2]
  refine related_setItem (h.ticked (Nat.le_succ _) (Nat.le_succ _)) ?_ ?_
  · exact Store.updateFault_congr rfl rfl
      (congrArg (Table.resolves · e.val.room) (congrArg Surroundings.rooms h.around))
  · simp only [Blurs.blur, h.stamp]

theorem related_appendConsumableEvent {c c' : Option ConsumableIssueId} {type : EventType}
    {holder : Option UserId} {quantity quantityChange : Int} {reportedBy : UserId}
    {notes : Option String} (h : Twins b Store.consumableShelf item s t)
    (custody : SameReference b s.consumableIssues t.consumableIssues c c') :
    Related (fun r r' => Twins b Store.consumableShelf item r.2 r'.2)
      (appendConsumableEvent item c type holder quantity quantityChange reportedBy notes s)
      (appendConsumableEvent item c' type holder quantity quantityChange reportedBy notes t) := by
  refine related_now (related_addEvent (h.ticked (Nat.le_succ _) (Nat.le_succ _)) ?_ rfl rfl ?_)
  · refine Store.insertFault_congr rfl rfl ?_ (fun _ _ => rfl) (fun _ _ => rfl)
    have there : s.consumables.has item = t.consumables.has item := h.has
    simp only [Record.refers, there, custody.there, custody.there', Store.users_congr h.around]
  · simp only [Blurs.blur, custody.same, h.stamp]

end Tx

/-! ## What is found -/

/-- The open issue to a holder is in the file of the consumable. -/
theorem Store.openIssue_eq {holder : UserId} :
    s.openIssue item holder = (s.consumableFile item).custody.find? fun i =>
      i.val.holder == holder && i.val.isOpen := by
  simp only [openIssue, consumableFile, Table.find?, Table.filter, List.find?_filter,
    Bool.decide_and, Bool.decide_eq_true, Bool.and_assoc]

theorem Custody.consumableEvent_congr {e e' : Entry .consumable Consumable} {type : EventType}
    {holder : Option String} {quantity change : Int} (same : e.since b = e'.since b) :
    consumableEvent e type holder quantity change =
      consumableEvent e' type holder quantity change := by
  have publicId : e.val.publicId = e'.val.publicId :=
    (congrArg (fun e : Entry .consumable Consumable => e.val.publicId) same :)
  unfold consumableEvent
  rw [publicId]

section Agrees

variable {name : String} {e : Entry .consumable Consumable}

theorem Agrees.issue_held {holder : UserId} (h : Agrees Store.consumableShelf name s t)
    (named : s.named? .consumable name = some e) :
    s.openIssue e.id holder = t.openIssue e.id holder := by
  rw [Store.openIssue_eq, Store.openIssue_eq]
  exact congrArg (fun f => f.custody.find? fun i => i.val.holder == holder && i.val.isOpen)
    (h.unmoved.file e named)

theorem Agrees.issue_shared {i : Entry .consumableIssue ConsumableIssue}
    (h : Agrees Store.consumableShelf name s t) (named : s.named? .consumable name = some e)
    (member : i ∈ s.consumableIssues.entries) (about : i.val.consumable = e.id) :
    Shared s s.consumableIssues t.consumableIssues i :=
  h.shared named h.sound.consumableIssues.numbered h.sound'.consumableIssues.numbered member about

end Agrees

/-! ## The operations -/

namespace Custody

variable {α β : Type} {d : Setting} {ctx : Context} {name user issue : String} {quantity : Int64}
  {kind : LossKind}

theorem findConsumable_agrees {required : Role} (h : Agrees Store.consumableShelf name s t) :
    findConsumable ctx required name s = findConsumable ctx required name t := by
  unfold findConsumable Store.named
  simp only [h.unmoved.named, Store.authorize_congr h.around]

theorem related_lockConsumable {P : α × Store → β × Store → Prop} {e : Entry .consumable Consumable}
    {f : Entry .consumable Consumable → Tx α} {g : Entry .consumable Consumable → Tx β}
    (rows : s.row? e.id = some e ∧ t.row? e.id = some e) (around : s.around = t.around)
    (rest : Related P (f e s) (g e t)) :
    Related P ((lockConsumable ctx e >>= f) s) ((lockConsumable ctx e >>= g) t) := by
  unfold lockConsumable
  rw [bind_assoc, bind_assoc]
  refine related_lock rows ?_
  rw [bind_assoc, bind_assoc]
  exact related_authorize around rest

theorem ownIssue_agrees {e : Entry .consumable Consumable}
    (h : Agrees Store.consumableShelf name s t) (named : s.named? .consumable name = some e) :
    ownIssue ctx e s = ownIssue ctx e t := by
  unfold ownIssue
  rw [h.issue_held named]

/-- Whether the stock is low, and who is told, is the same of rows that differ in stamps. -/
theorem related_lowStockNotice {e e' : Entry .consumable Consumable}
    (around : s.around = t.around) (same : e.since b = e'.since b) :
    Related (fun r r' => r.1 = r'.1 ∧ r.2 = s ∧ r'.2 = t) (lowStockNotice d e s)
      (lowStockNotice d e' t) := by
  have publicId : e.val.publicId = e'.val.publicId :=
    (congrArg (fun e : Entry .consumable Consumable => e.val.publicId) same :)
  have stock : e.val.quantity = e'.val.quantity :=
    (congrArg (fun e : Entry .consumable Consumable => e.val.quantity) same :)
  have threshold : e.val.lowStockThreshold = e'.val.lowStockThreshold :=
    (congrArg (fun e : Entry .consumable Consumable => e.val.lowStockThreshold) same :)
  have room : e.val.room = e'.val.room :=
    (congrArg (fun e : Entry .consumable Consumable => e.val.room) same :)
  unfold lowStockNotice Consumable.isLowStock
  rw [publicId, stock, threshold, room]
  split
  · exact Tx.related_read (Store.responsible_congr around) fun _ _ =>
      Tx.related_pure ⟨rfl, rfl, rfl⟩
  · exact Tx.related_pure ⟨rfl, rfl, rfl⟩

/-- Units go out of an issue for good. -/
theorem related_reduceCustody {action : String} {e : Entry .consumable Consumable}
    {i : Entry .consumableIssue ConsumableIssue} {type : EventType} {units : Int}
    (h : Twins b Store.consumableShelf e.id s t)
    (shared : Shared b s.consumableIssues t.consumableIssues i)
    (about : i.val.consumable = e.id) (opened : i.val.isOpen = true) :
    Related (Held b Store.consumableShelf e.id) (reduceCustody d ctx action e i type units s)
      (reduceCustody d ctx action e i type units t) := by
  refine Tx.related_require rfl fun enough => ?_
  refine Tx.related_bind (Tx.related_reduceIssue h shared about opened)
    fun i₁ s₁ i₁' t₁ ran ran' reduced => ?_
  have holder : i₁.val.holder = i₁'.val.holder :=
    (congrArg (fun i : Entry .consumableIssue ConsumableIssue => i.val.holder) reduced.row :)
  rw [← holder]
  refine Tx.related_bind (Tx.related_appendConsumableEvent reduced.twins reduced.reference)
    fun _ s₂ _ t₂ appended appended' twins => ?_
  refine Tx.related_bind (Tx.related_record twins) fun _ s₃ _ t₃ recorded recorded' twins => ?_
  obtain ⟨_, _, rfl⟩ := Tx.appendConsumableEvent_ok appended
  obtain ⟨_, _, rfl⟩ := Tx.appendConsumableEvent_ok appended'
  obtain ⟨_, _, _, _, _, rfl⟩ := Tx.record_ok recorded
  obtain ⟨_, _, _, _, _, rfl⟩ := Tx.record_ok recorded'
  exact Tx.related_pure ⟨reduced.row, reduced.there, reduced.there', twins⟩

theorem useConsumable_twins (h : Agrees Store.consumableShelf name s t) :
    ((d.run s (useConsumable d ctx name quantity)).mapOk .consumableCustody).Twins s
      Store.consumableShelf name
      ((d.run t (useConsumable d ctx name quantity)).mapOk .consumableCustody) := by
  refine Setting.run_twins h ?_ fun found reads => ?_
  · unfold useConsumable Store.named
    simp only [← h.unmoved.named]
    cases named : s.named? .consumable name with
    | none => rfl
    | some e => simp only [Results.ok_bind, ownIssue_agrees h named]
  simp only [useConsumable, Results.bind_ok, Store.named_ok, Results.pure_ok] at reads
  obtain ⟨_, _, e, named, i, own, rfl⟩ := reads
  obtain ⟨row, about, _, opened⟩ := h.sound.openIssue (ownIssue_ok.1 own)
  refine ⟨found, named, related_lock (h.rows named) (Tx.related_read (ownIssue_agrees h named)
    fun again found_again => ?_)⟩
  obtain rfl := Except.ok.inj (own.symm.trans found_again)
  refine Tx.related_bind (related_reduceCustody (h.twins named)
    (h.issue_shared named (Table.mem_of_get? row).1 about) about opened)
    fun i₁ s₁ i₁' t₁ _ _ reduced => ?_
  refine Tx.related_pure ⟨?_, rfl, rfl, reduced.twins⟩
  exact congrArg (fun i => Answer.consumableCustody { item := found.since s, issue := some i })
    reduced.row

theorem reportLoss_twins (h : Agrees Store.consumableShelf name s t) :
    ((d.run s (reportLoss d ctx name quantity kind)).mapOk .consumableCustody).Twins s
      Store.consumableShelf name
      ((d.run t (reportLoss d ctx name quantity kind)).mapOk .consumableCustody) := by
  refine Setting.run_twins h ?_ fun found reads => ?_
  · simp only [reportLoss, Store.user_named_congr h.around]
    unfold Store.named
    simp only [← h.unmoved.named]
    cases named : s.named? .consumable name with
    | none => rfl
    | some e => simp only [Results.ok_bind, ownIssue_agrees h named]
  simp only [reportLoss, Results.bind_ok, Store.named_ok, Results.pure_ok] at reads
  obtain ⟨_, _, e, named, i, own, u, user_named, rfl⟩ := reads
  obtain ⟨row, about, _, opened⟩ := h.sound.openIssue (ownIssue_ok.1 own)
  refine ⟨e, named, related_lock (h.rows named) (Tx.related_read (ownIssue_agrees h named)
    fun again found_again => ?_)⟩
  obtain rfl := Except.ok.inj (own.symm.trans found_again)
  refine Tx.related_bind (related_reduceCustody (h.twins named)
    (h.issue_shared named (Table.mem_of_get? row).1 about) about opened)
    fun i₁ s₁ i₁' t₁ _ _ reduced => related_reload reduced.twins.around fun holder => ?_
  refine Tx.related_read (Store.responsible_congr reduced.twins.around) fun recipients _ =>
    Tx.related_pure ⟨?_, rfl, rfl, reduced.twins⟩
  exact congrArg (fun i => Answer.consumableCustody { item := e.since s, issue := some i })
    reduced.row

section ByIssue

variable {e : Entry .consumable Consumable} {i : Entry .consumableIssue ConsumableIssue}

/-- An issue with its consumable is found in both stores, or refused in both. -/
theorem findIssue_agrees (ctx : Context) (i_named : s.named? .consumableIssue issue = some i)
    (about : s.row? i.val.consumable = some e)
    (h : Agrees Store.consumableShelf e.val.publicId s t) :
    findIssue ctx issue s = findIssue ctx issue t ∧
      (∀ found, findIssue ctx issue s = .ok found → found = (e, i)) ∧
      s.named? .consumable e.val.publicId = some e ∧ i.val.consumable = e.id ∧
      Shared s s.consumableIssues t.consumableIssues i := by
  obtain ⟨e_member, own⟩ := Table.mem_of_get? about
  have named : s.named? .consumable e.val.publicId = some e :=
    Store.named_ok.1 (Store.named_of_mem h.sound.consumables e_member)
  have shared := h.issue_shared named (Table.mem_of_find? i_named).1 own.symm
  have rows := h.rows named
  have i_named' := shared.named h.sound' i_named
  refine ⟨?_, fun found reads => ?_, named, own.symm, shared⟩
  · simp only [findIssue, Store.named_ok.2 i_named, Store.named_ok.2 i_named', Results.ok_bind,
      ← own, Store.numbered_ok.2 rows.1, Store.numbered_ok.2 rows.2,
      Store.authorize_congr h.around]
  · simp only [findIssue, Store.named_ok.2 i_named, Results.ok_bind, ← own,
      Store.numbered_ok.2 rows.1, Results.bind_ok, Results.pure_ok] at reads
    obtain ⟨_, _, rfl⟩ := reads
    rfl

theorem recordLoss_twins (i_named : s.named? .consumableIssue issue = some i)
    (about : s.row? i.val.consumable = some e)
    (h : Agrees Store.consumableShelf e.val.publicId s t) :
    ((d.run s (recordLoss d ctx issue quantity kind)).mapOk .consumableCustody).Twins s
      Store.consumableShelf e.val.publicId
      ((d.run t (recordLoss d ctx issue quantity kind)).mapOk .consumableCustody) := by
  obtain ⟨same, only, named, own, shared⟩ := findIssue_agrees ctx i_named about h
  refine Setting.run_twins h ?_ fun found reads => ?_
  · simp only [recordLoss, same]
  simp only [recordLoss, Results.bind_ok] at reads
  obtain ⟨_, _, reads⟩ := reads
  obtain rfl := only found reads
  refine ⟨e, named, related_lock (h.rows named) (related_lock ⟨shared.row, shared.row'⟩
    (related_authorize h.around (Tx.related_require rfl fun opened => ?_)))⟩
  refine Tx.related_bind (related_reduceCustody (h.twins named) shared own opened)
    fun i₁ s₁ i₁' t₁ _ _ reduced => ?_
  have holder : i₁.val.holder = i₁'.val.holder :=
    (congrArg (fun i : Entry .consumableIssue ConsumableIssue => i.val.holder) reduced.row :)
  rw [← holder]
  refine related_holderOf reduced.twins.around fun u =>
    Tx.related_pure ⟨?_, rfl, rfl, reduced.twins⟩
  exact congrArg (fun i => Answer.consumableCustody { item := e.since s, issue := some i })
    reduced.row

end ByIssue

/-- The stock is written, the ledger says why, and the consumable is looked at again. -/
theorem related_setStock {P : α × Store → β × Store → Prop} {e : Entry .consumable Consumable}
    {c c' : Option ConsumableIssueId} {holder : Option UserId} {notes : Option String}
    {stock units change : Int} {type : EventType}
    {f : Entry .consumable Consumable → Tx α} {g : Entry .consumable Consumable → Tx β}
    (h : Twins b Store.consumableShelf e.id s t)
    (rows : s.row? e.id = some e ∧ t.row? e.id = some e)
    (custody : SameReference b s.consumableIssues t.consumableIssues c c')
    (rest : ∀ (after after' : Entry .consumable Consumable) (s' t' : Store),
      after.since b = after'.since b → Twins b Store.consumableShelf e.id s' t' →
      Related P (f after s') (g after' t')) :
    Related P
      ((do
        Tx.setConsumableQuantity e.id stock
        let _ ← Tx.appendConsumableEvent e.id c type holder units change ctx.actor.id notes
        let e ← lock e
        f e) s)
      ((do
        Tx.setConsumableQuantity e.id stock
        let _ ← Tx.appendConsumableEvent e.id c' type holder units change ctx.actor.id notes
        let e ← lock e
        g e) t) := by
  refine Tx.related_bind (Tx.related_setConsumableQuantity h rows)
    fun _ s₁ _ t₁ changed changed' twins => ?_
  obtain ⟨_, rfl⟩ := Tx.setConsumableQuantity_ok rows.1 changed
  obtain ⟨_, rfl⟩ := Tx.setConsumableQuantity_ok rows.2 changed'
  refine Tx.related_bind (Tx.related_appendConsumableEvent twins custody)
    fun _ _ _ _ _ _ twins => ?_
  exact Tx.related_look twins.related_numbered fun after after' _ _ same =>
    rest after after' _ _ same.2.2 twins

theorem restockConsumable_twins (h : Agrees Store.consumableShelf name s t) :
    ((d.run s (restockConsumable d ctx name quantity)).mapOk .consumableCustody).Twins s
      Store.consumableShelf name
      ((d.run t (restockConsumable d ctx name quantity)).mapOk .consumableCustody) := by
  refine Setting.run_twins h ?_ fun e reads => ?_
  · simp only [restockConsumable, findConsumable_agrees h]
  simp only [restockConsumable, Results.bind_ok, findConsumable_ok] at reads
  obtain ⟨_, _, named, _⟩ := reads
  refine ⟨e, named, related_lockConsumable (h.rows named) h.around (Tx.related_read rfl
    fun stock _ => ?_)⟩
  refine related_setStock (h.twins named) (h.rows named) ⟨rfl, rfl, rfl⟩
    fun after after' s' t' same twins => ?_
  refine Tx.related_bind (Tx.related_record twins) fun _ _ _ _ _ _ twins => ?_
  refine Tx.related_pure ⟨?_, ?_, rfl, twins⟩
  · simp only [Answer.since, same]
  · exact congrArg ([·]) (consumableEvent_congr same)

theorem returnConsumable_twins {e : Entry .consumable Consumable}
    {i : Entry .consumableIssue ConsumableIssue}
    (i_named : s.named? .consumableIssue issue = some i)
    (about : s.row? i.val.consumable = some e)
    (h : Agrees Store.consumableShelf e.val.publicId s t) :
    ((d.run s (returnConsumable d ctx issue quantity)).mapOk .consumableCustody).Twins s
      Store.consumableShelf e.val.publicId
      ((d.run t (returnConsumable d ctx issue quantity)).mapOk .consumableCustody) := by
  obtain ⟨same, only, named, own, shared⟩ := findIssue_agrees ctx i_named about h
  refine Setting.run_twins h ?_ fun found reads => ?_
  · simp only [returnConsumable, same]
  simp only [returnConsumable, Results.bind_ok] at reads
  obtain ⟨_, _, reads⟩ := reads
  obtain rfl := only found reads
  have rows := h.rows named
  refine ⟨e, named, related_lock rows (related_lock ⟨shared.row, shared.row'⟩
    (related_authorize h.around (Tx.related_require rfl fun opened => Tx.related_require rfl
      fun enough => ?_)))⟩
  refine Tx.related_bind (Tx.related_reduceIssue (h.twins named) shared own opened)
    fun i₁ s₁ i₁' t₁ ran ran' reduced => Tx.related_read rfl fun stock _ => ?_
  obtain ⟨_, _, rfl⟩ := Tx.reduceIssue_stored shared.row opened rfl ran
  obtain ⟨_, _, rfl⟩ := Tx.reduceIssue_stored shared.row' opened rfl ran'
  have holder : i₁.val.holder = i₁'.val.holder :=
    (congrArg (fun i : Entry .consumableIssue ConsumableIssue => i.val.holder) reduced.row :)
  rw [← holder]
  refine related_setStock reduced.twins rows reduced.reference
    fun after after' s' t' same twins => related_holderOf twins.around fun u => ?_
  refine Tx.related_bind (Tx.related_record twins) fun _ _ _ _ _ _ twins => ?_
  refine Tx.related_pure ⟨?_, ?_, rfl, twins⟩
  · simp only [Answer.since, same, Option.map_some, reduced.row]
  · exact congrArg ([·]) (consumableEvent_congr same)

theorem issueConsumable_twins {purpose : Option String}
    (h : Agrees Store.consumableShelf name s t) :
    ((d.run s (issueConsumable d ctx name user quantity purpose)).mapOk .consumableCustody).Twins s
      Store.consumableShelf name
      ((d.run t (issueConsumable d ctx name user quantity purpose)).mapOk .consumableCustody) := by
  refine Setting.run_twins h ?_ fun found reads => ?_
  · simp only [issueConsumable, findConsumable_agrees h, Store.user_named_congr h.around]
  simp only [issueConsumable, Results.bind_ok, findConsumable_ok, Store.named_ok, Results.pure_ok]
    at reads
  obtain ⟨_, _, e, ⟨named, _⟩, u, user_named, rfl⟩ := reads
  have rows := h.rows named
  refine ⟨e, named, related_lockConsumable rows h.around (Tx.related_require rfl fun enough => ?_)⟩
  refine Tx.related_bind (Tx.related_giveUnits (h.twins named) (h.issue_held named)
    fun held is_held => ?_) fun i s₁ i' t₁ ran ran' given => ?_
  · obtain ⟨row, about, _, opened⟩ := h.sound.openIssue is_held
    exact ⟨about, opened, h.issue_shared named (Table.mem_of_get? row).1 about⟩
  obtain ⟨_, _, _, _, rfl⟩ := giveUnits_frame h.sound ran
  obtain ⟨_, _, _, _, rfl⟩ := giveUnits_frame h.sound' ran'
  refine related_setStock given.twins rows given.reference fun after after' s' t' same twins => ?_
  refine Tx.related_bind (Tx.related_record twins) fun _ _ _ _ _ _ twins => ?_
  refine Tx.related_bind (related_lowStockNotice twins.around same) fun notice _ notice' _ _ _ told => ?_
  obtain ⟨rfl, rfl, rfl⟩ := told
  refine Tx.related_pure ⟨?_, ?_, rfl, twins⟩
  · simp only [Answer.since, same, Option.map_some, given.row]
  · exact congrArg ([·]) (consumableEvent_congr same)

end Custody

end Quartermaster
