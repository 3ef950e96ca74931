import Quartermaster.Proofs.Refusals.Equipment

/-!
# Operations on accessories are refused ordinarily

Units that are handed out were on the shelf, so what a holder then has is no more than the total. For
the same reason the units in custody can always be summed.
-/

namespace Quartermaster

open Results (Ordinary ordinary_ok ordinary_error)
open Tx (ordinary_pure ordinary_bind ordinary_look)
open Custody (lock_ok holderOf_ok addStock_ok lockAccessory_ok)

variable {d : Setting} {ctx : Context} {s : Store}

/-- The units on the shelf can be told of an accessory, also after its row was written. -/
theorem Store.Sound.available_ordinary (sound : s.Sound)
    (backed : Backed s.accessories s.accessoryAssignments) {e e' : Entry .accessory Accessory}
    (member : e ∈ s.accessories.entries) (same : e'.id = e.id) : Ordinary (s.available e') := by
  obtain ⟨fits, _⟩ := Store.available_ok.1 (sound.available backed member)
  have told : s.available e' = .ok _ := Store.available_ok.2 ⟨same ▸ fits, rfl⟩
  rw [told]
  exact ordinary_ok

/-- A positive count can be taken away as well as added. -/
theorem fitsWord_neg {quantity : Int64} (positive : 0 < quantity.toInt) :
    fitsWord (-quantity.toInt) = true := by
  have bounds := fitsWord_iff.1 (fitsWord_toInt quantity)
  exact fitsWord_iff.2 (by omega)

namespace Custody

theorem findAccessory_ordinary {required : Role} {item : String} :
    Ordinary (findAccessory ctx required item s) :=
  s.named_ordinary.bind fun _ _ => s.demand_ordinary.bind fun _ _ => ordinary_ok

theorem registerAccessory_ordinary {input : AccessoryInput} (ready : s.Ready ctx)
    (logged : d.audit = .log) : Ordinary (registerAccessory d ctx input s) := by
  unfold registerAccessory
  refine ordinary_look fun _ _ => ordinary_look fun _ _ =>
    ordinary_bind Tx.createAccessory_ordinary fun e s₁ created => ?_
  obtain ⟨_, _, added, _, units, _, rfl⟩ := Tx.createAccessory_ok created
  have fits : fitsWord e.val.quantity = true := units ▸ fitsWord_toInt input.quantity
  by_cases stocked : 0 < e.val.quantity
  · simp only [if_pos stocked]
    refine ordinary_bind (Tx.Goes.ordinary <| Tx.appendAccessoryEvent_goes (by decide) ⟨fits, fits⟩
      ?_ rfl rfl ready.caller) fun _ _ _ => ordinary_bind (Tx.record_ordinary logged) fun _ _ _ => ordinary_pure
    rw [added]
    exact Table.has_insert
  · simp only [if_neg stocked]
    exact ordinary_bind (Tx.record_ordinary logged) fun _ _ _ => ordinary_pure

/-- After units were handed out only custody is another, and the row is in it. -/
theorem handAccessories_frame {item : AccessoryId} {holder assignedBy : UserId} {units : Int}
    {a : Entry .accessoryAssignment AccessoryAssignment} {s₁ : Store} (sound : s.Sound)
    (h : Tx.handAccessories item holder units assignedBy s = .ok (a, s₁)) :
    ∃ custody clock minted, custody.has a.id = true ∧
      s₁ = { s with accessoryAssignments := custody, clock, minted } := by
  obtain ⟨held, among, grown⟩ | ⟨_, opened⟩ := Tx.handAccessories_ok h
  · obtain ⟨row, _, _, is_open⟩ := sound.openAccessoryAssignment among
    have there : s.accessoryAssignments.has held.id = true := Store.has_of_row row
    obtain ⟨rfl, _, rfl⟩ := Tx.increaseAccessoryAssignment_ok sound row is_open grown
    exact ⟨_, _, _, Table.within_put _ there, rfl⟩
  · obtain ⟨_, _, _, rfl, _, rfl⟩ := Tx.openAccessoryAssignment_ok opened
    exact ⟨_, _, _, Table.has_insert, rfl⟩

theorem recordAccessory_goes {action : String} {e : Entry .accessory Accessory}
    {details : List (String × Json)} (logged : d.audit = .log) :
    Tx.Goes (recordAccessory d ctx action e details) s :=
  ⟨(), Tx.record_goes logged⟩

/-- Writing a total that can be kept, with the ledger row and the audit row that go with it, goes
through if all that comes after does. -/
theorem setTotal_goes {β : Type} {action : String} {details : List (String × Json)}
    {e : Entry .accessory Accessory} {type : EventType} {total units change : Int}
    {rest : Entry .accessory Accessory → Tx β} (ready : s.Ready ctx) (logged : d.audit = .log)
    (found : s.row? e.id = some e) (kept : fitsWord total = true) (not_negative : 0 ≤ total)
    (known : type ∈ EventType.accessory) (fits : fitsWord units = true ∧ fitsWord change = true)
    (after : ∀ (e' : Entry .accessory Accessory) (s' : Store), e'.id = e.id →
      s'.accessoryAssignments = s.accessoryAssignments → Tx.Goes (rest e') s') :
    Tx.Goes (do
      Tx.setAccessoryQuantity e.id total
      let _ ← Tx.appendAccessoryEvent e.id none type none units change ctx.actor.id none
      let e ← lock e
      recordAccessory d ctx action e details
      rest e) s := by
  refine .bind (Tx.setAccessoryQuantity_goes ready.linked kept not_negative) fun _ s₁ changed => ?_
  obtain ⟨_, rfl⟩ := Tx.setAccessoryQuantity_ok found changed
  refine .bind (Tx.appendAccessoryEvent_goes known fits (Table.within_put _ (Store.has_of_row found))
    rfl rfl ready.caller) fun _ s₂ appended => ?_
  obtain ⟨_, _, rfl⟩ := Tx.appendAccessoryEvent_ok appended
  refine .after (lock_ok.2 ⟨Table.get?_put_self found, rfl⟩) (.bind (recordAccessory_goes logged)
    fun _ s₃ recorded => ?_)
  obtain ⟨_, _, _, _, _, rfl⟩ := Tx.record_ok recorded
  exact after _ _ rfl rfl

/-- Units that are on the shelf are handed out. -/
theorem assignAccessory_goesIf {item user : String} {quantity : Int64}
    {found : Entry .accessory Accessory × Entry .user User} (ready : s.Ready ctx)
    (logged : d.audit = .log)
    (reads : (assignAccessory d ctx item user quantity).read s = .ok found) :
    Tx.GoesIf
      (quantity.toInt ≤ found.1.val.quantity - unitsOut s.accessoryAssignments found.1.id)
      ((assignAccessory d ctx item user quantity).commit found) s := by
  simp only [assignAccessory, Results.bind_ok, positive_ok, findAccessory_ok, Store.named_ok,
    Results.pure_ok] at reads
  obtain ⟨_, positive, e, ⟨item_named, over_item⟩, u, user_named, rfl⟩ := reads
  have row : s.row? e.id = some e := ready.sound.accessories.get?_of_find? item_named
  have member := (Table.mem_of_get? row).1
  unfold assignAccessory
  refine .after (lockAccessory_ok.2 ⟨⟨row, over_item⟩, rfl⟩) (.after (Tx.read_ok.2
    ⟨ready.sound.available ready.backed member, rfl⟩) (.require decide_eq_true fun enough => .of_goes ?_))
  have enough := of_decide_eq_true enough
  have total := fitsWord_iff.1 (ready.sound.accessories.valid e member).1
  refine .bind (Tx.handAccessories_goes ready.sound ready.linked positive (fitsWord_toInt quantity)
    (fun held among => ?_) (Store.has_of_row row) (Store.has_of_named user_named) ready.caller)
    fun a s₁ handed => ?_
  · -- what the holder has already is among the units that are out
    have out := ready.sound.quantity_le_unitsOut among
    obtain ⟨row, _, _, opened⟩ := ready.sound.openAccessoryAssignment among
    have holds := (AccessoryAssignment.holds_opened opened).1
      (ready.sound.accessoryAssignments.valid held (Table.mem_of_get? row).1).2
    exact fitsWord_iff.2 (by omega)
  · obtain ⟨_, _, _, row_there, rfl⟩ := handAccessories_frame ready.sound handed
    exact .bind (Tx.appendAccessoryEvent_goes (by decide) ⟨fitsWord_toInt quantity, rfl⟩
        (Store.has_of_row row) row_there (Store.has_of_named user_named) ready.caller)
      fun _ _ _ => .bind (recordAccessory_goes logged) fun _ _ _ => .pure

/-- Units come back from an assignment that has them. -/
theorem returnAccessory_goesIf {assignment : String} {quantity : Int64}
    {found : Entry .accessory Accessory × Entry .accessoryAssignment AccessoryAssignment}
    (ready : s.Ready ctx) (logged : d.audit = .log)
    (reads : (returnAccessory d ctx assignment quantity).read s = .ok found) :
    Tx.GoesIf (quantity.toInt ≤ found.2.val.quantity)
      ((returnAccessory d ctx assignment quantity).commit found) s := by
  simp only [returnAccessory, Results.bind_ok, positive_ok, Store.named_ok, Store.numbered_ok,
    Store.authorize_ok, Results.pure_ok] at reads
  obtain ⟨_, positive, a, custody_named, e, item_found, _, over_item, rfl⟩ := reads
  have row : s.row? a.id = some a := ready.sound.accessoryAssignments.get?_of_find? custody_named
  have holds := (ready.sound.accessoryAssignments.valid a (Table.mem_of_get? row).1).2
  obtain ⟨member, subject⟩ := Table.mem_of_get? item_found
  unfold returnAccessory
  refine .after (lock_ok.2 ⟨Store.row_self item_found, rfl⟩) (.after (lock_ok.2 ⟨row, rfl⟩)
    (.after (a := ()) (Tx.authorize_ok.2 ⟨over_item, rfl⟩) ?_))
  refine .require (fun enough : quantity.toInt ≤ a.val.quantity => ?_) fun opened =>
    .require decide_eq_true fun enough => .of_goes ?_
  · exact (AccessoryAssignment.isOpen_iff holds).2 (by omega)
  have enough := of_decide_eq_true enough
  refine .bind (Tx.reduceAccessoryAssignment_goes ready.sound ready.linked row opened positive enough)
    fun after s₁ reduced => ?_
  have sound := ready.sound.after reduced
  have row_there : s.accessoryAssignments.has a.id = true := Store.has_of_row row
  have holder_there := (ready.linked.ends_of_accessory (Table.mem_of_get? row).1).2
  have backed := ready.backed.takeBack ready.sound.accessories.numbered
    ready.sound.accessoryAssignments.numbered member row subject.symm opened positive ⟨s.clock⟩
  obtain ⟨u, holder_found⟩ := Option.isSome_iff_exists.1 holder_there
  obtain ⟨rfl, _, rfl⟩ := Tx.reduceAccessoryAssignment_ok ready.sound row opened reduced
  refine .bind (Tx.appendAccessoryEvent_goes (by decide) ⟨fitsWord_toInt quantity, rfl⟩
      (Store.has_of_row item_found) (Table.within_put _ row_there) holder_there ready.caller)
    fun _ s₂ appended => ?_
  -- the ledger and the audit log do not count
  obtain ⟨_, _, rfl⟩ := Tx.appendAccessoryEvent_ok appended
  refine .after (holderOf_ok.2 ⟨holder_found, rfl⟩) (.bind (recordAccessory_goes logged)
    fun _ s₃ recorded => ?_)
  obtain ⟨_, _, _, _, _, rfl⟩ := Tx.record_ok recorded
  exact .bind (.read (sound.available backed member)) fun _ _ _ => .pure

/-- Units that are on the shelf are written off. -/
theorem condemnAccessory_goesIf {item : String} {quantity : Int64}
    {found : Entry .accessory Accessory} (ready : s.Ready ctx) (logged : d.audit = .log)
    (reads : (condemnAccessory d ctx item quantity).read s = .ok found) :
    Tx.GoesIf (quantity.toInt ≤ found.val.quantity - unitsOut s.accessoryAssignments found.id)
      ((condemnAccessory d ctx item quantity).commit found) s := by
  simp only [condemnAccessory, Results.bind_ok, positive_ok, findAccessory_ok] at reads
  obtain ⟨_, positive, item_named, over_item⟩ := reads
  have row : s.row? found.id = some found := ready.sound.accessories.get?_of_find? item_named
  have member := (Table.mem_of_get? row).1
  unfold condemnAccessory
  refine .after (lockAccessory_ok.2 ⟨⟨row, over_item⟩, rfl⟩) (.after (Tx.read_ok.2
    ⟨ready.sound.available ready.backed member, rfl⟩) (.require decide_eq_true fun enough => .of_goes ?_))
  have enough := of_decide_eq_true enough
  have nonneg := ready.sound.unitsOut_nonneg found.id
  have total := fitsWord_iff.1 (ready.sound.accessories.valid found member).1
  exact setTotal_goes ready logged row (fitsWord_iff.2 (by omega)) (by omega) (by decide)
    ⟨fitsWord_toInt quantity, fitsWord_neg positive⟩ fun _ _ _ _ => .pure

/-- Units are added to a total as long as it fits. -/
theorem restockAccessory_goesIf {item : String} {quantity : Int64}
    {found : Entry .accessory Accessory} (ready : s.Ready ctx) (logged : d.audit = .log)
    (reads : (restockAccessory d ctx item quantity).read s = .ok found) :
    Tx.GoesIf (fitsWord (found.val.quantity + quantity.toInt) = true)
      ((restockAccessory d ctx item quantity).commit found) s := by
  simp only [restockAccessory, Results.bind_ok, positive_ok, findAccessory_ok] at reads
  obtain ⟨_, positive, item_named, over_item⟩ := reads
  have row : s.row? found.id = some found := ready.sound.accessories.get?_of_find? item_named
  have member := (Table.mem_of_get? row).1
  unfold restockAccessory
  refine .after (lockAccessory_ok.2 ⟨⟨row, over_item⟩, rfl⟩) (.look (fun fits => ⟨_, Tx.read_ok.2
    ⟨addStock_ok.2 ⟨fits, rfl⟩, rfl⟩⟩) fun total added => .of_goes ?_)
  obtain ⟨fits, rfl⟩ := addStock_ok.1 (Tx.read_ok.1 added).1
  have not_negative := of_decide_eq_true (ready.sound.accessories.valid found member).2
  refine setTotal_goes ready logged row fits (by omega) (by decide)
    ⟨fitsWord_toInt quantity, fitsWord_toInt quantity⟩ fun e s₁ same custody => ?_
  -- nothing of the total is asked, only whether the units that are out can be summed
  have summed := (Store.available_ok.1 (ready.sound.available ready.backed member)).1
  rw [← same, ← custody] at summed
  exact .bind (.read (Store.available_ok.2 ⟨summed, rfl⟩)) fun _ _ _ => .pure

end Custody

/-- An operation on accessories is refused ordinarily if at all. -/
theorem AccessoryOp.ordinary (op : AccessoryOp) (ready : s.Ready ctx) (logged : d.audit = .log) :
    Ordinary (op.run d s ctx).answer := by
  cases op with
  | get item =>
    refine (Custody.findAccessory_ordinary.bind fun e found => ?_).map
    have member := (Table.mem_of_find? (Custody.findAccessory_ok.1 found).1).1
    exact (ready.sound.available_ordinary ready.backed member rfl).bind fun _ _ => ordinary_ok
  | list =>
    refine (Ordinary.mapM fun e listed => ?_).map
    exact (ready.sound.available_ordinary ready.backed (Table.mem_filter.1 listed).1 rfl).map
  | history item => exact (Custody.findAccessory_ordinary.bind fun _ _ => ordinary_ok).map
  | register input => exact Setting.commit_ordinary (Custody.registerAccessory_ordinary ready logged)
  | assign item user quantity =>
    refine Setting.run_ordinary ?_ fun _ reads => (Custody.assignAccessory_goesIf ready logged reads).ordinary
    exact Custody.positive_ordinary.bind fun _ _ => Custody.findAccessory_ordinary.bind fun _ _ =>
      s.named_ordinary.bind fun _ _ => ordinary_ok
  | takeBack assignment quantity =>
    refine Setting.run_ordinary ?_ fun _ reads => (Custody.returnAccessory_goesIf ready logged reads).ordinary
    exact Custody.positive_ordinary.bind fun _ _ => s.named_ordinary.bind fun _ _ =>
      s.numbered_ordinary.bind fun _ _ => s.demand_ordinary.bind fun _ _ => ordinary_ok
  | condemn item quantity =>
    refine Setting.run_ordinary ?_ fun _ reads =>
      (Custody.condemnAccessory_goesIf ready logged reads).ordinary
    exact Custody.positive_ordinary.bind fun _ _ => Custody.findAccessory_ordinary
  | restock item quantity =>
    refine Setting.run_ordinary ?_ fun _ reads =>
      (Custody.restockAccessory_goesIf ready logged reads).ordinary
    exact Custody.positive_ordinary.bind fun _ _ => Custody.findAccessory_ordinary

end Quartermaster
