import Quartermaster.Proofs.Refusals.Accessory

/-!
# Operations on consumables are refused ordinarily, but for one

Stocks are added up with a look at what fits, and what is taken away was there. What was ever given
in an open issue is added up without such a look: an issue to somebody who already has one is refused
by the storage once the sum does not fit (`ConsumableOp.overflow_refused`). That is the only refusal
by the storage (`ConsumableOp.ordinary`).
-/

namespace Quartermaster

open Results (Ordinary ordinary_ok ordinary_error)
open Tx (ordinary_pure ordinary_bind ordinary_look)
open Custody (lock_ok reload_ok holderOf_ok addStock_ok lockConsumable_ok ownIssue_ok findIssue_ok)

variable {d : Setting} {ctx : Context} {s : Store}

/-- The caller may issue units that are in stock, and the holder has an open issue in which they
would be more than fit. -/
inductive Store.Overflows (s : Store) (ctx : Context) : ConsumableOp → Prop
  | issue {item user : String} {quantity : Int64} {purpose : Option String}
      {e : Entry .consumable Consumable} {u : Entry .user User}
      {held : Entry .consumableIssue ConsumableIssue}
      (positive : 0 < quantity.toInt)
      (item_named : s.named? .consumable item = some e)
      (user_named : s.named? .user user = some u)
      (over_item : s.Permits ctx .roomAdmin e.val.room)
      (enough : quantity.toInt ≤ e.val.quantity)
      (is_held : s.openIssue e.id u.id = some held)
      (exceeds : fitsWord (held.val.issuedQuantity + quantity.toInt) = false) :
      Overflows s ctx (.issue item user quantity purpose)

namespace Custody

theorem findConsumable_ordinary {required : Role} {item : String} :
    Ordinary (findConsumable ctx required item s) :=
  s.named_ordinary.bind fun _ _ => s.demand_ordinary.bind fun _ _ => ordinary_ok

theorem findIssue_ordinary {issue : String} : Ordinary (findIssue ctx issue s) :=
  s.named_ordinary.bind fun _ _ => s.numbered_ordinary.bind fun _ _ =>
    s.demand_ordinary.bind fun _ _ => ordinary_ok

theorem registerConsumable_ordinary {input : ConsumableInput} (ready : s.Ready ctx)
    (logged : d.audit = .log) : Ordinary (registerConsumable d ctx input s) := by
  unfold registerConsumable
  refine ordinary_look fun _ _ => ordinary_look fun _ _ =>
    ordinary_bind Tx.createConsumable_ordinary fun e s₁ created => ?_
  obtain ⟨_, _, added, _, units, _, rfl⟩ := Tx.createConsumable_ok created
  have fits : fitsWord e.val.quantity = true := units ▸ fitsWord_toInt input.quantity
  by_cases stocked : 0 < e.val.quantity
  · simp only [if_pos stocked]
    refine ordinary_bind (Tx.Goes.ordinary <| Tx.appendConsumableEvent_goes (by decide) ⟨fits, fits⟩
      ?_ rfl rfl ready.caller) fun _ _ _ => ordinary_bind (Tx.record_ordinary logged) fun _ _ _ => ordinary_pure
    rw [added]
    exact Table.has_insert
  · simp only [if_neg stocked]
    exact ordinary_bind (Tx.record_ordinary logged) fun _ _ _ => ordinary_pure

/-- After units were given only the issues are others, and the row is in them. -/
theorem giveUnits_frame {item : ConsumableId} {holder assignedBy : UserId} {units : Int}
    {purpose : Option String} {i : Entry .consumableIssue ConsumableIssue} {s₁ : Store}
    (sound : s.Sound) (h : Tx.giveUnits item holder units assignedBy purpose s = .ok (i, s₁)) :
    ∃ issues clock minted, issues.has i.id = true ∧
      s₁ = { s with consumableIssues := issues, clock, minted } := by
  obtain ⟨held, among, grown⟩ | ⟨_, opened⟩ := Tx.giveUnits_ok h
  · obtain ⟨row, _, _, is_open⟩ := sound.openIssue among
    have there : s.consumableIssues.has held.id = true := Store.has_of_row row
    obtain ⟨rfl, _, rfl⟩ := Tx.increaseIssue_ok sound row is_open grown
    exact ⟨_, _, _, Table.within_put _ there, rfl⟩
  · obtain ⟨_, _, _, rfl, _, rfl⟩ := Tx.openIssue_ok opened
    exact ⟨_, _, _, Table.has_insert, rfl⟩

theorem recordConsumable_goes {action : String} {e : Entry .consumable Consumable}
    {details : List (String × Json)} (logged : d.audit = .log) :
    Tx.Goes (recordConsumable d ctx action e details) s :=
  ⟨(), Tx.record_goes logged⟩

theorem lowStockNotice_goes {e : Entry .consumable Consumable} : Tx.Goes (lowStockNotice d e) s := by
  unfold lowStockNotice
  split
  · exact .bind .responsible fun _ _ _ => .pure
  · exact .pure

/-- Writing a stock that can be kept, with the ledger row that goes with it, goes through if all that
comes after does. -/
theorem setStock_goes {β : Type} {e : Entry .consumable Consumable}
    {row : Option ConsumableIssueId} {type : EventType} {holder : Option UserId}
    {stock units change : Int} {notes : Option String}
    {rest : Entry .consumable Consumable → Tx β} (ready : s.Ready ctx)
    (found : s.row? e.id = some e) (kept : fitsWord stock = true ∧ 0 ≤ stock)
    (known : type ∈ EventType.consumable) (fits : fitsWord units = true ∧ fitsWord change = true)
    (row_there : s.consumableIssues.resolves row = true)
    (holder_there : s.users.resolves holder = true)
    (after : ∀ e' s', s'.users = s.users → Tx.Goes (rest e') s') :
    Tx.Goes (do
      Tx.setConsumableQuantity e.id stock
      let _ ← Tx.appendConsumableEvent e.id row type holder units change ctx.actor.id notes
      let e ← lock e
      rest e) s := by
  refine .bind (Tx.setConsumableQuantity_goes ready.sound ready.linked kept.1 kept.2)
    fun _ s₁ changed => ?_
  obtain ⟨_, rfl⟩ := Tx.setConsumableQuantity_ok found changed
  refine .bind (Tx.appendConsumableEvent_goes known fits
    (Table.within_put _ (Store.has_of_row found)) row_there holder_there ready.caller)
    fun event s₂ appended => ?_
  obtain ⟨_, _, rfl⟩ := Tx.appendConsumableEvent_ok appended
  exact .after (lock_ok.2 ⟨Table.get?_put_self found, rfl⟩) (after _ _ rfl)

/-- Units that are in stock are issued, unless they run over. -/
theorem issueConsumable_goesIf {item user : String} {quantity : Int64} {purpose : Option String}
    {found : Entry .consumable Consumable × Entry .user User} (ready : s.Ready ctx)
    (logged : d.audit = .log)
    (no_overflow : ¬ s.Overflows ctx (.issue item user quantity purpose))
    (reads : (issueConsumable d ctx item user quantity purpose).read s = .ok found) :
    Tx.GoesIf (quantity.toInt ≤ found.1.val.quantity)
      ((issueConsumable d ctx item user quantity purpose).commit found) s := by
  simp only [issueConsumable, Results.bind_ok, positive_ok, findConsumable_ok, Store.named_ok,
    Results.pure_ok] at reads
  obtain ⟨_, positive, e, ⟨item_named, over_item⟩, u, user_named, rfl⟩ := reads
  have row : s.row? e.id = some e := ready.sound.consumables.get?_of_find? item_named
  have holder_there : s.users.has u.id = true := Store.has_of_named user_named
  unfold issueConsumable
  refine .after (lockConsumable_ok.2 ⟨⟨row, over_item⟩, rfl⟩)
    (.require decide_eq_true fun enough => .of_goes ?_)
  have enough := of_decide_eq_true enough
  have valid := (ready.sound.consumables.valid e (Table.mem_of_get? row).1).1
  simp only [Record.fits, Bool.and_eq_true] at valid
  have bounds := fitsWord_iff.1 valid.1
  refine .bind (Tx.giveUnits_goes ready.sound ready.linked positive (fitsWord_toInt quantity)
    (fun held is_held => ?_) (Store.has_of_row row) holder_there ready.caller) fun i s₁ given => ?_
  · refine eq_true_of_ne_false fun exceeds => no_overflow ?_
    exact .issue positive item_named user_named over_item enough is_held exceeds
  · have sound := ready.sound.after given
    have linked : s₁.Linked := Tx.Composed.linked ready.linked given
    obtain ⟨_, _, _, row_there, rfl⟩ := giveUnits_frame ready.sound given
    refine setStock_goes (s := { s with consumableIssues := _, clock := _, minted := _ })
      ⟨sound, linked, ready.backed, ready.caller⟩ row ⟨fitsWord_iff.2 (by omega), by omega⟩
      (by decide) ⟨fitsWord_toInt quantity, fitsWord_neg positive⟩ row_there holder_there
      fun _ _ _ => ?_
    exact .bind (recordConsumable_goes logged) fun _ _ _ => .bind lowStockNotice_goes
      fun _ _ _ => .pure

/-- Units go out of custody for good if they are in it. -/
theorem reduceCustody_goesIf {action : String} {e : Entry .consumable Consumable}
    {type : EventType} {i : Entry .consumableIssue ConsumableIssue} {quantity : Int64}
    (ready : s.Ready ctx) (logged : d.audit = .log) (positive : 0 < quantity.toInt)
    (found : s.row? e.id = some e) (row : s.row? i.id = some i) (opened : i.val.isOpen = true)
    (known : type ∈ EventType.consumable) :
    Tx.GoesIf (quantity.toInt ≤ i.val.quantity)
      (reduceCustody d ctx action e i type quantity.toInt) s := by
  refine .require decide_eq_true fun enough => .of_goes ?_
  have enough := of_decide_eq_true enough
  have row_there : s.consumableIssues.has i.id = true := Store.has_of_row row
  have holder_there := (ready.linked.ends_of_issue (Table.mem_of_get? row).1).2
  refine .bind (Tx.reduceIssue_goes ready.sound ready.linked row opened positive enough)
    fun after s₁ reduced => ?_
  obtain ⟨rfl, _, rfl⟩ := Tx.reduceIssue_ok ready.sound row opened reduced
  exact .bind
    (Tx.appendConsumableEvent_goes known ⟨fitsWord_toInt quantity, fitsWord_neg positive⟩
      (Store.has_of_row found) (Table.within_put _ row_there) holder_there ready.caller)
    fun _ _ _ => .bind (recordConsumable_goes logged) fun _ _ _ => .pure

/-- Who is recorded as the holder of an issue is still there once units went out of it. -/
theorem reduceCustody_keeps_holder {action : String} {e : Entry .consumable Consumable}
    {type : EventType} {i after : Entry .consumableIssue ConsumableIssue} {units : Int} {s₁ : Store}
    (ready : s.Ready ctx) (row : s.row? i.id = some i) (opened : i.val.isOpen = true)
    (h : reduceCustody d ctx action e i type units s = .ok (after, s₁)) :
    ∃ u, s₁.row? after.val.holder = some u := by
  obtain ⟨_, _, _, _, _, _, _, rfl, _, _, rfl⟩ := reduceCustody_ok ready.sound row opened h
  exact Option.isSome_iff_exists.1 (ready.linked.ends_of_issue (Table.mem_of_get? row).1).2

/-- The caller uses units of an own issue that has them. -/
theorem useConsumable_goesIf {item : String} {quantity : Int64}
    {found : Entry .consumable Consumable} (ready : s.Ready ctx) (logged : d.audit = .log)
    (reads : (useConsumable d ctx item quantity).read s = .ok found) :
    Tx.GoesIf (∀ i, s.openIssue found.id ctx.actor.id = some i → quantity.toInt ≤ i.val.quantity)
      ((useConsumable d ctx item quantity).commit found) s := by
  simp only [useConsumable, Results.bind_ok, positive_ok, Store.named_ok, ownIssue_ok,
    Results.pure_ok] at reads
  obtain ⟨_, positive, _, item_named, i, own, rfl⟩ := reads
  have item_row : s.row? found.id = some found := ready.sound.consumables.get?_of_find? item_named
  obtain ⟨row, _, _, opened⟩ := ready.sound.openIssue own
  unfold useConsumable
  refine .after (lock_ok.2 ⟨item_row, rfl⟩) (.after (Tx.read_ok.2 ⟨ownIssue_ok.2 own, rfl⟩) ?_)
  refine .bind (.imp ?_ fun enough => enough i own) fun _ _ _ => .of_goes .pure
  exact reduceCustody_goesIf ready logged positive item_row row opened (by decide)

/-- Units come back from an issue that has them, as long as the stock fits. -/
theorem returnConsumable_goesIf {issue : String} {quantity : Int64}
    {found : Entry .consumable Consumable × Entry .consumableIssue ConsumableIssue}
    (ready : s.Ready ctx) (logged : d.audit = .log)
    (reads : (returnConsumable d ctx issue quantity).read s = .ok found) :
    Tx.GoesIf (quantity.toInt ≤ found.2.val.quantity ∧
        fitsWord (found.1.val.quantity + quantity.toInt) = true)
      ((returnConsumable d ctx issue quantity).commit found) s := by
  obtain ⟨e, i⟩ := found
  simp only [returnConsumable, Results.bind_ok, positive_ok, findIssue_ok] at reads
  obtain ⟨_, positive, issue_named, item_found, over_item⟩ := reads
  have row : s.row? i.id = some i := ready.sound.consumableIssues.get?_of_find? issue_named
  have locked : s.row? e.id = some e := Store.row_self item_found
  have holds := (ready.sound.consumableIssues.valid i (Table.mem_of_get? row).1).2
  unfold returnConsumable
  refine .after (lock_ok.2 ⟨locked, rfl⟩) (.after (lock_ok.2 ⟨row, rfl⟩)
    (.after (a := ()) (Tx.authorize_ok.2 ⟨over_item, rfl⟩) ?_))
  refine .require (fun can => (ConsumableIssue.isOpen_iff holds).2 ?_) fun opened =>
    .require (fun can => decide_eq_true can.1) fun enough => ?_
  · have enough : quantity.toInt ≤ i.val.quantity := can.1
    omega
  have enough := of_decide_eq_true enough
  have row_there : s.consumableIssues.has i.id = true := Store.has_of_row row
  have holder_there := (ready.linked.ends_of_issue (Table.mem_of_get? row).1).2
  refine .bind (.of_goes (Tx.reduceIssue_goes ready.sound ready.linked row opened positive enough))
    fun after s₁ reduced => .look (fun can => ⟨_, Tx.read_ok.2 ⟨addStock_ok.2 ⟨can.2, rfl⟩, rfl⟩⟩)
    fun stock added => .of_goes ?_
  obtain ⟨fits, rfl⟩ := addStock_ok.1 (Tx.read_ok.1 added).1
  have sound := ready.sound.after reduced
  have linked : s₁.Linked := Tx.Composed.linked ready.linked reduced
  obtain ⟨rfl, _, rfl⟩ := Tx.reduceIssue_ok ready.sound row opened reduced
  obtain ⟨u, holder_found⟩ := Option.isSome_iff_exists.1 holder_there
  have holds := (ready.sound.consumables.valid e (Table.mem_of_get? locked).1).2
  simp only [Record.holds, Bool.and_eq_true, decide_eq_true_eq] at holds
  refine setStock_goes (s := { s with consumableIssues := _, clock := _ })
    ⟨sound, linked, ready.backed, ready.caller⟩ locked ⟨fits, by omega⟩ (by decide)
    ⟨fitsWord_toInt quantity, fitsWord_toInt quantity⟩ (Table.within_put _ row_there) holder_there
    fun _ s₂ people => ?_
  have holder_found : s₂.row? i.val.holder = some u := by
    rw [← holder_found]
    exact congrArg (·.get? i.val.holder) people
  exact .after (holderOf_ok.2 ⟨holder_found, rfl⟩) (.bind (recordConsumable_goes logged)
    fun _ _ _ => .pure)

/-- A loss is recorded against an issue that has the units. -/
theorem recordLoss_goesIf {issue : String} {quantity : Int64} {kind : LossKind}
    {found : Entry .consumable Consumable × Entry .consumableIssue ConsumableIssue}
    (ready : s.Ready ctx) (logged : d.audit = .log)
    (reads : (recordLoss d ctx issue quantity kind).read s = .ok found) :
    Tx.GoesIf (quantity.toInt ≤ found.2.val.quantity)
      ((recordLoss d ctx issue quantity kind).commit found) s := by
  obtain ⟨e, i⟩ := found
  simp only [recordLoss, Results.bind_ok, positive_ok, findIssue_ok] at reads
  obtain ⟨_, positive, issue_named, item_found, over_item⟩ := reads
  have row : s.row? i.id = some i := ready.sound.consumableIssues.get?_of_find? issue_named
  have locked : s.row? e.id = some e := Store.row_self item_found
  have holds := (ready.sound.consumableIssues.valid i (Table.mem_of_get? row).1).2
  have known : kind.eventType ∈ EventType.consumable := by cases kind <;> decide
  unfold recordLoss
  refine .after (lock_ok.2 ⟨locked, rfl⟩) (.after (lock_ok.2 ⟨row, rfl⟩)
    (.after (a := ()) (Tx.authorize_ok.2 ⟨over_item, rfl⟩) ?_))
  refine .require (fun enough : quantity.toInt ≤ i.val.quantity => ?_) fun opened =>
    .bind (reduceCustody_goesIf ready logged positive locked row opened known)
      fun after s₁ taken => .of_goes ?_
  · exact (ConsumableIssue.isOpen_iff holds).2 (by omega)
  obtain ⟨u, holder_found⟩ := reduceCustody_keeps_holder ready row opened taken
  exact .after (holderOf_ok.2 ⟨holder_found, rfl⟩) .pure

/-- The caller reports a loss from an own issue that has the units. -/
theorem reportLoss_goesIf {item : String} {quantity : Int64} {kind : LossKind}
    {found : Entry .consumable Consumable × Entry .user User} (ready : s.Ready ctx)
    (logged : d.audit = .log)
    (reads : (reportLoss d ctx item quantity kind).read s = .ok found) :
    Tx.GoesIf (∀ i, s.openIssue found.1.id ctx.actor.id = some i → quantity.toInt ≤ i.val.quantity)
      ((reportLoss d ctx item quantity kind).commit found) s := by
  simp only [reportLoss, Results.bind_ok, positive_ok, Store.named_ok, ownIssue_ok,
    Results.pure_ok] at reads
  obtain ⟨_, positive, e, item_named, i, own, u, caller_named, rfl⟩ := reads
  have item_row : s.row? e.id = some e := ready.sound.consumables.get?_of_find? item_named
  have caller_row : s.row? u.id = some u := ready.sound.users.get?_of_find? caller_named
  obtain ⟨row, _, _, opened⟩ := ready.sound.openIssue own
  have known : kind.eventType ∈ EventType.consumable := by cases kind <;> decide
  unfold reportLoss
  refine .after (lock_ok.2 ⟨item_row, rfl⟩) (.after (Tx.read_ok.2 ⟨ownIssue_ok.2 own, rfl⟩) ?_)
  refine .bind (.imp ?_ fun enough => enough i own) fun after s₁ ran => .of_goes ?_
  · exact reduceCustody_goesIf ready logged positive item_row row opened known
  · obtain ⟨_, _, _, _, _, _, _, rfl, _, _, rfl⟩ := reduceCustody_ok ready.sound row opened ran
    exact .after (reload_ok.2 ⟨caller_row, rfl⟩) (.bind .responsible fun _ _ _ => .pure)

/-- Units are added to a stock as long as it fits. -/
theorem restockConsumable_goesIf {item : String} {quantity : Int64}
    {found : Entry .consumable Consumable} (ready : s.Ready ctx) (logged : d.audit = .log)
    (reads : (restockConsumable d ctx item quantity).read s = .ok found) :
    Tx.GoesIf (fitsWord (found.val.quantity + quantity.toInt) = true)
      ((restockConsumable d ctx item quantity).commit found) s := by
  simp only [restockConsumable, Results.bind_ok, positive_ok, findConsumable_ok] at reads
  obtain ⟨_, positive, item_named, over_item⟩ := reads
  have row : s.row? found.id = some found := ready.sound.consumables.get?_of_find? item_named
  unfold restockConsumable
  refine .after (lockConsumable_ok.2 ⟨⟨row, over_item⟩, rfl⟩) (.look (fun fits => ⟨_, Tx.read_ok.2
    ⟨addStock_ok.2 ⟨fits, rfl⟩, rfl⟩⟩) fun stock added => .of_goes ?_)
  obtain ⟨fits, rfl⟩ := addStock_ok.1 (Tx.read_ok.1 added).1
  have holds := (ready.sound.consumables.valid found (Table.mem_of_get? row).1).2
  simp only [Record.holds, Bool.and_eq_true, decide_eq_true_eq] at holds
  refine setStock_goes ready row ⟨fits, by omega⟩ (by decide)
    ⟨fitsWord_toInt quantity, fitsWord_toInt quantity⟩ rfl rfl fun _ _ _ => ?_
  exact .bind (recordConsumable_goes logged) fun _ _ _ => .pure

end Custody

/-- An operation on consumables that does not run over is refused ordinarily if at all. -/
theorem ConsumableOp.ordinary (op : ConsumableOp) (ready : s.Ready ctx) (logged : d.audit = .log)
    (no_overflow : ¬ s.Overflows ctx op) : Ordinary (op.run d s ctx).answer := by
  cases op with
  | get item => exact (Custody.findConsumable_ordinary.bind fun _ _ => ordinary_ok).map
  | list => exact ordinary_ok
  | history item => exact (Custody.findConsumable_ordinary.bind fun _ _ => ordinary_ok).map
  | register input =>
    exact Setting.commit_ordinary (Custody.registerConsumable_ordinary ready logged)
  | issue item user quantity purpose =>
    refine Setting.run_ordinary ?_ fun _ reads =>
      (Custody.issueConsumable_goesIf ready logged no_overflow reads).ordinary
    exact Custody.positive_ordinary.bind fun _ _ => Custody.findConsumable_ordinary.bind fun _ _ =>
      s.named_ordinary.bind fun _ _ => ordinary_ok
  | use item quantity =>
    refine Setting.run_ordinary ?_ fun _ reads => (Custody.useConsumable_goesIf ready logged reads).ordinary
    exact Custody.positive_ordinary.bind fun _ _ => s.named_ordinary.bind fun _ _ =>
      Custody.ownIssue_ordinary.bind fun _ _ => ordinary_ok
  | takeBack issue quantity =>
    refine Setting.run_ordinary ?_ fun _ reads =>
      (Custody.returnConsumable_goesIf ready logged reads).ordinary
    exact Custody.positive_ordinary.bind fun _ _ => Custody.findIssue_ordinary
  | recordLoss issue quantity kind =>
    refine Setting.run_ordinary ?_ fun _ reads => (Custody.recordLoss_goesIf ready logged reads).ordinary
    exact Custody.positive_ordinary.bind fun _ _ => Custody.findIssue_ordinary
  | reportLoss item quantity kind =>
    refine Setting.run_ordinary ?_ fun _ reads => (Custody.reportLoss_goesIf ready logged reads).ordinary
    exact Custody.positive_ordinary.bind fun _ _ => s.named_ordinary.bind fun _ _ =>
      Custody.ownIssue_ordinary.bind fun _ _ => s.named_ordinary.bind fun _ _ => ordinary_ok
  | restock item quantity =>
    refine Setting.run_ordinary ?_ fun _ reads =>
      (Custody.restockConsumable_goesIf ready logged reads).ordinary
    exact Custody.positive_ordinary.bind fun _ _ => Custody.findConsumable_ordinary

/-- What was ever given is added up by the storage. A sum that runs over breaks no rule, so it is
written; it is found when the issue is read again. -/
theorem Tx.giveUnits_overflow {item : ConsumableId} {holder assignedBy : UserId} {units : Int}
    {purpose : Option String} {held : Entry .consumableIssue ConsumableIssue} (sound : s.Sound)
    (linked : s.Linked) (is_held : s.openIssue item holder = some held) (positive : 0 < units)
    (exceeds : fitsWord (held.val.issuedQuantity + units) = false) :
    giveUnits item holder units assignedBy purpose s = .error (.storage .outOfRange) := by
  obtain ⟨row, _, _, opened⟩ := sound.openIssue is_held
  have member := (Table.mem_of_get? row).1
  obtain ⟨words, holds⟩ := sound.consumableIssues.valid held member
  obtain ⟨word, word'⟩ := Bool.and_eq_true_iff.1 words
  obtain ⟨given, within, some_held, returned⟩ := (ConsumableIssue.holds_opened opened).1 holds
  have large : 0x8000000000000000 ≤ held.val.issuedQuantity + units := by
    have bounds := fitsWord_iff.1 word'
    rw [Bool.eq_false_iff, ne_eq, fitsWord_iff] at exceeds
    omega
  have issued := le_storedSum given.le large word'
  have grown : held.val.quantity ≤ storedSum held.val.quantity units :=
    le_storedSum_self (by omega) positive.le word
  have fewer : storedSum held.val.quantity units ≤ storedSum held.val.issuedQuantity units :=
    storedSum_mono (by omega) within positive.le word word'
  have still : Record.holds .consumableIssue { held.val with
      quantity := storedSum held.val.quantity units
      issuedQuantity := storedSum held.val.issuedQuantity units } = true :=
    (ConsumableIssue.holds_opened (by exact opened)).2
      ⟨Int.lt_of_lt_of_le (by decide) issued, fewer, some_held.trans grown, returned⟩
  have unreadable : fitsWord (storedSum held.val.issuedQuantity units) = false := by
    rw [Bool.eq_false_iff, ne_eq, fitsWord_iff]
    omega
  unfold giveUnits
  rw [bind_of_ok (get_ok.2 ⟨rfl, rfl⟩)]
  simp only [is_held]
  have obeys := Store.ruleFault_eq_none.2 ⟨still, linked.consumableIssues held member⟩
  refine (bind_of_ok (a := ()) ((addToIssue_eq units row opened).trans (overwrite_ok.2 ⟨obeys, rfl⟩))).trans ?_
  exact reread_of_unreadable (Table.get?_put_self row) (Bool.and_eq_false_iff.2 (.inr unreadable))

/-- An issue that runs over is refused by the storage. -/
theorem ConsumableOp.overflow_refused {op : ConsumableOp} (sound : s.Sound) (linked : s.Linked)
    (overflows : s.Overflows ctx op) : (op.run d s ctx).answer = .error (.storage .outOfRange) := by
  cases overflows with
  | issue positive item_named user_named over_item enough is_held exceeds =>
    refine Setting.run_of_error (Results.bind_ok.2 ⟨(), Custody.positive_ok.2 positive,
      Results.bind_ok.2 ⟨_, Custody.findConsumable_ok.2 ⟨item_named, over_item⟩,
        Results.bind_ok.2 ⟨_, Store.named_ok.2 user_named, rfl⟩⟩⟩) ?_
    have found := sound.consumables.get?_of_find? item_named
    unfold Custody.issueConsumable
    refine (Tx.bind_of_ok (lockConsumable_ok.2 ⟨⟨found, over_item⟩, rfl⟩)).trans ?_
    refine (Tx.bind_of_ok (a := ()) (Tx.require_ok.2 ⟨decide_eq_true enough, rfl⟩)).trans ?_
    exact Tx.bind_of_error (Tx.giveUnits_overflow sound linked is_held positive exceeds)

end Quartermaster
