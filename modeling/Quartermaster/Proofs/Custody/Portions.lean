import Quartermaster.Proofs.Custody.Counts
import Quartermaster.Proofs.FailClosed
import Quartermaster.Proofs.Refusals.Operations

/-!
# Units in portions

An operation on units finds where they go and how many can go there at most; how many are asked for does
not come into that. So it can be done in portions.

1. `Store.Finds`: what an operation finds. It finds one thing (`Finds.unique`).
2. `Finds.goes`: the operation goes through if there are the units. There is one lemma for each.
3. `AccessoryStep.moves`, `ConsumableStep.moves`: what goes through moves the units, and the same
   operation then finds the same flow, with the units that are left to it. Only an issue of the caller's
   own is not found any more once it is used up.
4. `Reachable.in_portions`: units may be moved in two portions as well as at once.
-/

namespace Quartermaster

open Custody (positive_ok findAccessory_ok findConsumable_ok findIssue_ok ownIssue_ok)

/-! ## Operations on units -/

/-- An operation on units, up to how many of them. -/
inductive UnitOp where
  | assign (item user : String)
  | takeBackAccessory (row : String)
  | condemn (item : String)
  | restockAccessory (item : String)
  | issue (item user : String) (purpose : Option String)
  | use (item : String)
  | takeBackIssue (row : String)
  | recordLoss (row : String) (kind : LossKind)
  | reportLoss (item : String) (kind : LossKind)
  | restockConsumable (item : String)

/-- The operation on that many units. -/
def UnitOp.of (quantity : Int64) : UnitOp → CallerOp
  | .assign item user => .accessories (.assign item user quantity)
  | .takeBackAccessory row => .accessories (.takeBack row quantity)
  | .condemn item => .accessories (.condemn item quantity)
  | .restockAccessory item => .accessories (.restock item quantity)
  | .issue item user purpose => .consumables (.issue item user quantity purpose)
  | .use item => .consumables (.use item quantity)
  | .takeBackIssue row => .consumables (.takeBack row quantity)
  | .recordLoss row kind => .consumables (.recordLoss row quantity kind)
  | .reportLoss item kind => .consumables (.reportLoss item quantity kind)
  | .restockConsumable item => .consumables (.restock item quantity)

/-- The largest count that is kept. -/
def maxUnits : Int := 0x7fffffffffffffff

namespace Store

/-- The assignment that units for a holder go into: the open one, or else the next. -/
def assignmentFor (s : Store) (item : AccessoryId) (holder : UserId) : AccessoryAssignmentId :=
  (s.openAccessoryAssignment item holder).elim s.accessoryAssignments.next (·.id)

/-- The issue that units for a holder go into: the open one, or else the next. -/
def issueFor (s : Store) (item : ConsumableId) (holder : UserId) : ConsumableIssueId :=
  (s.openIssue item holder).elim s.consumableIssues.next (·.id)

/-- What can still be issued into the issue of a holder. -/
def issuable (s : Store) (item : ConsumableId) (holder : UserId) : Int :=
  (s.openIssue item holder).elim maxUnits (maxUnits - ·.val.issuedQuantity)

/-- Units go out of an issue for good, if there is one. -/
def drawn (issue : Option (Entry .consumableIssue ConsumableIssue)) : Flow :=
  issue.elim {} fun i => .issue (-1) 0 i.id i.val.holder

/-- What an operation on units finds: the flow along which they go, and how many can. -/
inductive Finds (s : Store) (ctx : Context) : UnitOp → Flow → Int → Prop
  | assign {item user : String} {e : Entry .accessory Accessory} {u : Entry .user User}
      (item_named : s.named? .accessory item = some e)
      (user_named : s.named? .user user = some u)
      (over_item : s.Permits ctx .roomAdmin e.val.room) :
      Finds s ctx (.assign item user) (.custody 1 e.id (s.assignmentFor e.id u.id) u.id)
        (e.val.quantity - unitsOut s.accessoryAssignments e.id)
  | takeBackAccessory {row : String} {e : Entry .accessory Accessory}
      {a : Entry .accessoryAssignment AccessoryAssignment}
      (custody_named : s.named? .accessoryAssignment row = some a)
      (item_found : s.row? a.val.accessory = some e)
      (over_item : s.Permits ctx .roomAdmin e.val.room) :
      Finds s ctx (.takeBackAccessory row)
        (.custody (-1) a.val.accessory a.id a.val.holder) a.val.quantity
  | condemn {item : String} {e : Entry .accessory Accessory}
      (item_named : s.named? .accessory item = some e)
      (over_item : s.Permits ctx .roomAdmin e.val.room) :
      Finds s ctx (.condemn item) (.total (-1) e.id)
        (e.val.quantity - unitsOut s.accessoryAssignments e.id)
  | restockAccessory {item : String} {e : Entry .accessory Accessory}
      (item_named : s.named? .accessory item = some e)
      (over_item : s.Permits ctx .roomAdmin e.val.room) :
      Finds s ctx (.restockAccessory item) (.total 1 e.id) (maxUnits - e.val.quantity)
  | issue {item user : String} {purpose : Option String} {e : Entry .consumable Consumable}
      {u : Entry .user User}
      (item_named : s.named? .consumable item = some e)
      (user_named : s.named? .user user = some u)
      (over_item : s.Permits ctx .roomAdmin e.val.room) :
      Finds s ctx (.issue item user purpose)
        ((Flow.stock (-1) e.id).beside (.issue 1 1 (s.issueFor e.id u.id) u.id))
        (min e.val.quantity (s.issuable e.id u.id))
  | use {item : String} {e : Entry .consumable Consumable}
      (item_named : s.named? .consumable item = some e) :
      Finds s ctx (.use item) (drawn (s.openIssue e.id ctx.actor.id))
        ((s.openIssue e.id ctx.actor.id).elim 0 (·.val.quantity))
  | takeBackIssue {row : String} {e : Entry .consumable Consumable}
      {i : Entry .consumableIssue ConsumableIssue}
      (issue_named : s.named? .consumableIssue row = some i)
      (item_found : s.row? i.val.consumable = some e)
      (over_item : s.Permits ctx .roomAdmin e.val.room) :
      Finds s ctx (.takeBackIssue row)
        ((Flow.stock 1 e.id).beside (.issue (-1) 0 i.id i.val.holder))
        (min i.val.quantity (maxUnits - e.val.quantity))
  | recordLoss {row : String} {kind : LossKind} {e : Entry .consumable Consumable}
      {i : Entry .consumableIssue ConsumableIssue}
      (issue_named : s.named? .consumableIssue row = some i)
      (item_found : s.row? i.val.consumable = some e)
      (over_item : s.Permits ctx .roomAdmin e.val.room) :
      Finds s ctx (.recordLoss row kind) (.issue (-1) 0 i.id i.val.holder) i.val.quantity
  | reportLoss {item : String} {kind : LossKind} {e : Entry .consumable Consumable}
      {u : Entry .user User}
      (item_named : s.named? .consumable item = some e)
      (caller_named : s.named? .user ctx.actor.publicId = some u) :
      Finds s ctx (.reportLoss item kind) (drawn (s.openIssue e.id ctx.actor.id))
        ((s.openIssue e.id ctx.actor.id).elim 0 (·.val.quantity))
  | restockConsumable {item : String} {e : Entry .consumable Consumable}
      (item_named : s.named? .consumable item = some e)
      (over_item : s.Permits ctx .roomAdmin e.val.room) :
      Finds s ctx (.restockConsumable item) (.stock 1 e.id) (maxUnits - e.val.quantity)

end Store

variable {d : Setting} {ctx : Context} {s t s' : Store} {m : UnitOp} {quantity : Int64} {x : Flow}
  {most : Int}

/-- An operation finds one thing. -/
theorem Store.Finds.unique {x' : Flow} {most' : Int} (h : s.Finds ctx m x most)
    (h' : s.Finds ctx m x' most') : x' = x ∧ most' = most := by
  -- all that is found is looked up by the names in the operation
  cases h <;> cases h' <;> simp_all

/-! ## An operation goes through if there are the units -/

namespace Store.Sound

/-- The total of an accessory is never below none. -/
theorem accessory_nonneg {id : AccessoryId} {e : Entry .accessory Accessory} (sound : s.Sound)
    (found : s.row? id = some e) : 0 ≤ e.val.quantity := by
  have holds := (sound.accessories.valid e (Table.mem_of_get? found).1).2
  simpa [Record.holds] using holds

theorem consumable_nonneg {id : ConsumableId} {e : Entry .consumable Consumable} (sound : s.Sound)
    (found : s.row? id = some e) : 0 ≤ e.val.quantity := by
  have holds := (sound.consumables.valid e (Table.mem_of_get? found).1).2
  simp only [Record.holds, Bool.and_eq_true, decide_eq_true_eq] at holds
  exact holds.1

theorem issued_nonneg {item : ConsumableId} {holder : UserId}
    {i : Entry .consumableIssue ConsumableIssue} (sound : s.Sound)
    (found : s.openIssue item holder = some i) : 0 ≤ i.val.issuedQuantity := by
  obtain ⟨row, _, _, opened⟩ := sound.openIssue found
  have holds := (sound.consumableIssues.valid i (Table.mem_of_get? row).1).2
  have := (ConsumableIssue.holds_opened opened).1 holds
  omega

end Store.Sound

theorem fitsWord_add {n : Int} (positive : 0 < quantity.toInt) (not_negative : 0 ≤ n) :
    fitsWord (n + quantity.toInt) = true ↔ quantity.toInt ≤ maxUnits - n := by
  rw [fitsWord_iff, maxUnits]
  omega

/-- Units can be drawn from no issue but one that is there. -/
theorem Store.exists_of_drawable {issue : Option (Entry .consumableIssue ConsumableIssue)} {n : Int}
    (positive : 0 < n) (enough : n ≤ issue.elim 0 (·.val.quantity)) :
    ∃ i, issue = some i ∧ n ≤ i.val.quantity := by
  cases issue with
  | none => exact absurd enough (Int.not_le.2 positive)
  | some i => exact ⟨i, rfl, enough⟩

section Goes

variable (ready : s.Ready ctx) (logged : d.audit = .log) (positive : 0 < quantity.toInt)

include ready logged positive

theorem UnitOp.assign_goes {item user : String} {e : Entry .accessory Accessory}
    {u : Entry .user User} (item_named : s.named? .accessory item = some e)
    (user_named : s.named? .user user = some u) (over_item : s.Permits ctx .roomAdmin e.val.room)
    (enough : quantity.toInt ≤ e.val.quantity - unitsOut s.accessoryAssignments e.id) :
    (((UnitOp.assign item user).of quantity).run d s ctx).answer.isOk = true := by
  have reads : (Custody.assignAccessory d ctx item user quantity).read s = .ok (e, u) := by
    simp only [Custody.assignAccessory, Results.bind_ok, findAccessory_ok, Store.named_ok]
    exact ⟨(), positive_ok.2 positive, e, ⟨item_named, over_item⟩, u, user_named, rfl⟩
  exact Setting.run_goes reads ((Custody.assignAccessory_goesIf ready logged reads).goes enough)

theorem UnitOp.takeBackAccessory_goes {row : String} {e : Entry .accessory Accessory}
    {a : Entry .accessoryAssignment AccessoryAssignment}
    (custody_named : s.named? .accessoryAssignment row = some a)
    (item_found : s.row? a.val.accessory = some e)
    (over_item : s.Permits ctx .roomAdmin e.val.room)
    (enough : quantity.toInt ≤ a.val.quantity) :
    (((UnitOp.takeBackAccessory row).of quantity).run d s ctx).answer.isOk = true := by
  have reads : (Custody.returnAccessory d ctx row quantity).read s = .ok (e, a) := by
    simp only [Custody.returnAccessory, Results.bind_ok, Store.named_ok, Store.numbered_ok,
      Store.authorize_ok]
    exact ⟨(), positive_ok.2 positive, a, custody_named, e, item_found, (), over_item, rfl⟩
  exact Setting.run_goes reads ((Custody.returnAccessory_goesIf ready logged reads).goes enough)

theorem UnitOp.condemn_goes {item : String} {e : Entry .accessory Accessory}
    (item_named : s.named? .accessory item = some e)
    (over_item : s.Permits ctx .roomAdmin e.val.room)
    (enough : quantity.toInt ≤ e.val.quantity - unitsOut s.accessoryAssignments e.id) :
    (((UnitOp.condemn item).of quantity).run d s ctx).answer.isOk = true := by
  have reads : (Custody.condemnAccessory d ctx item quantity).read s = .ok e :=
    Results.bind_ok.2 ⟨(), positive_ok.2 positive, findAccessory_ok.2 ⟨item_named, over_item⟩⟩
  exact Setting.run_goes reads ((Custody.condemnAccessory_goesIf ready logged reads).goes enough)

theorem UnitOp.restockAccessory_goes {item : String} {e : Entry .accessory Accessory}
    (item_named : s.named? .accessory item = some e)
    (over_item : s.Permits ctx .roomAdmin e.val.room)
    (enough : quantity.toInt ≤ maxUnits - e.val.quantity) :
    (((UnitOp.restockAccessory item).of quantity).run d s ctx).answer.isOk = true := by
  have reads : (Custody.restockAccessory d ctx item quantity).read s = .ok e :=
    Results.bind_ok.2 ⟨(), positive_ok.2 positive, findAccessory_ok.2 ⟨item_named, over_item⟩⟩
  have row := ready.sound.accessories.get?_of_find? item_named
  have fits := (fitsWord_add positive (ready.sound.accessory_nonneg row)).2 enough
  exact Setting.run_goes reads ((Custody.restockAccessory_goesIf ready logged reads).goes fits)

theorem UnitOp.issue_goes {item user : String} {purpose : Option String}
    {e : Entry .consumable Consumable} {u : Entry .user User}
    (item_named : s.named? .consumable item = some e) (user_named : s.named? .user user = some u)
    (over_item : s.Permits ctx .roomAdmin e.val.room)
    (enough : quantity.toInt ≤ min e.val.quantity (s.issuable e.id u.id)) :
    (((UnitOp.issue item user purpose).of quantity).run d s ctx).answer.isOk = true := by
  have reads : (Custody.issueConsumable d ctx item user quantity purpose).read s = .ok (e, u) := by
    simp only [Custody.issueConsumable, Results.bind_ok, findConsumable_ok, Store.named_ok]
    exact ⟨(), positive_ok.2 positive, e, ⟨item_named, over_item⟩, u, user_named, rfl⟩
  have no_overflow : ¬ s.Overflows ctx (.issue item user quantity purpose) := by
    rintro ⟨_, item_named', user_named', _, _, is_held, exceeds⟩
    cases item_named.symm.trans item_named'
    cases user_named.symm.trans user_named'
    rw [Store.issuable, is_held, Option.elim_some] at enough
    rw [(fitsWord_add positive (ready.sound.issued_nonneg is_held)).2 (by omega)] at exceeds
    cases exceeds
  exact Setting.run_goes reads
    ((Custody.issueConsumable_goesIf ready logged no_overflow reads).goes
      (Int.le_trans enough (Int.min_le_left ..)))

theorem UnitOp.use_goes {item : String} {e : Entry .consumable Consumable}
    (item_named : s.named? .consumable item = some e)
    (enough : quantity.toInt ≤ (s.openIssue e.id ctx.actor.id).elim 0 (·.val.quantity)) :
    (((UnitOp.use item).of quantity).run d s ctx).answer.isOk = true := by
  obtain ⟨i, own, enough⟩ := Store.exists_of_drawable positive enough
  have reads : (Custody.useConsumable d ctx item quantity).read s = .ok e := by
    simp only [Custody.useConsumable, Results.bind_ok, Store.named_ok, ownIssue_ok]
    exact ⟨(), positive_ok.2 positive, e, item_named, i, own, rfl⟩
  exact Setting.run_goes reads ((Custody.useConsumable_goesIf ready logged reads).goes
    fun j is_own => Option.some.inj (own.symm.trans is_own) ▸ enough)

theorem UnitOp.takeBackIssue_goes {row : String} {e : Entry .consumable Consumable}
    {i : Entry .consumableIssue ConsumableIssue}
    (issue_named : s.named? .consumableIssue row = some i)
    (item_found : s.row? i.val.consumable = some e)
    (over_item : s.Permits ctx .roomAdmin e.val.room)
    (enough : quantity.toInt ≤ min i.val.quantity (maxUnits - e.val.quantity)) :
    (((UnitOp.takeBackIssue row).of quantity).run d s ctx).answer.isOk = true := by
  have reads : (Custody.returnConsumable d ctx row quantity).read s = .ok (e, i) :=
    Results.bind_ok.2 ⟨(), positive_ok.2 positive,
      findIssue_ok.2 ⟨issue_named, item_found, over_item⟩⟩
  have fits := (fitsWord_add positive (ready.sound.consumable_nonneg item_found)).2 (by omega)
  exact Setting.run_goes reads
    ((Custody.returnConsumable_goesIf ready logged reads).goes
      ⟨Int.le_trans enough (Int.min_le_left ..), fits⟩)

theorem UnitOp.recordLoss_goes {row : String} {kind : LossKind} {e : Entry .consumable Consumable}
    {i : Entry .consumableIssue ConsumableIssue}
    (issue_named : s.named? .consumableIssue row = some i)
    (item_found : s.row? i.val.consumable = some e)
    (over_item : s.Permits ctx .roomAdmin e.val.room)
    (enough : quantity.toInt ≤ i.val.quantity) :
    (((UnitOp.recordLoss row kind).of quantity).run d s ctx).answer.isOk = true := by
  have reads : (Custody.recordLoss d ctx row quantity kind).read s = .ok (e, i) :=
    Results.bind_ok.2 ⟨(), positive_ok.2 positive,
      findIssue_ok.2 ⟨issue_named, item_found, over_item⟩⟩
  exact Setting.run_goes reads ((Custody.recordLoss_goesIf ready logged reads).goes enough)

theorem UnitOp.reportLoss_goes {item : String} {kind : LossKind} {e : Entry .consumable Consumable}
    {u : Entry .user User}
    (item_named : s.named? .consumable item = some e)
    (caller_named : s.named? .user ctx.actor.publicId = some u)
    (enough : quantity.toInt ≤ (s.openIssue e.id ctx.actor.id).elim 0 (·.val.quantity)) :
    (((UnitOp.reportLoss item kind).of quantity).run d s ctx).answer.isOk = true := by
  obtain ⟨i, own, enough⟩ := Store.exists_of_drawable positive enough
  have reads : (Custody.reportLoss d ctx item quantity kind).read s = .ok (e, u) := by
    simp only [Custody.reportLoss, Results.bind_ok, Store.named_ok, ownIssue_ok]
    exact ⟨(), positive_ok.2 positive, e, item_named, i, own, u, caller_named, rfl⟩
  exact Setting.run_goes reads ((Custody.reportLoss_goesIf ready logged reads).goes
    fun j is_own => Option.some.inj (own.symm.trans is_own) ▸ enough)

theorem UnitOp.restockConsumable_goes {item : String} {e : Entry .consumable Consumable}
    (item_named : s.named? .consumable item = some e)
    (over_item : s.Permits ctx .roomAdmin e.val.room)
    (enough : quantity.toInt ≤ maxUnits - e.val.quantity) :
    (((UnitOp.restockConsumable item).of quantity).run d s ctx).answer.isOk = true := by
  have reads : (Custody.restockConsumable d ctx item quantity).read s = .ok e :=
    Results.bind_ok.2 ⟨(), positive_ok.2 positive, findConsumable_ok.2 ⟨item_named, over_item⟩⟩
  have row := ready.sound.consumables.get?_of_find? item_named
  have fits := (fitsWord_add positive (ready.sound.consumable_nonneg row)).2 enough
  exact Setting.run_goes reads ((Custody.restockConsumable_goesIf ready logged reads).goes fits)

theorem Store.Finds.goes (found : s.Finds ctx m x most) (enough : quantity.toInt ≤ most) :
    ((m.of quantity).run d s ctx).answer.isOk = true := by
  cases found with
  | assign item_named user_named over_item =>
    exact UnitOp.assign_goes ready logged positive item_named user_named over_item enough
  | takeBackAccessory custody_named item_found over_item =>
    exact UnitOp.takeBackAccessory_goes ready logged positive custody_named item_found over_item
      enough
  | condemn item_named over_item =>
    exact UnitOp.condemn_goes ready logged positive item_named over_item enough
  | restockAccessory item_named over_item =>
    exact UnitOp.restockAccessory_goes ready logged positive item_named over_item enough
  | issue item_named user_named over_item =>
    exact UnitOp.issue_goes ready logged positive item_named user_named over_item enough
  | use item_named =>
    exact UnitOp.use_goes ready logged positive item_named enough
  | takeBackIssue issue_named item_found over_item =>
    exact UnitOp.takeBackIssue_goes ready logged positive issue_named item_found over_item enough
  | recordLoss issue_named item_found over_item =>
    exact UnitOp.recordLoss_goes ready logged positive issue_named item_found over_item enough
  | reportLoss item_named caller_named =>
    exact UnitOp.reportLoss_goes ready logged positive item_named caller_named enough
  | restockConsumable item_named over_item =>
    exact UnitOp.restockConsumable_goes ready logged positive item_named over_item enough

end Goes

/-! ## What an operation that goes through leaves -/

/-- The custody row that an answer shows. -/
def Answer.custodyRow : Answer → Option CustodyRow
  | .accessoryCustody custody => custody.assignment.map (.assignment ·.id)
  | .consumableCustody custody => custody.issue.map (.issue ·.id)
  | _ => none

/-- An operation on units went through: there were the units, they went where it found, and there are as
many less for it to find. -/
structure UnitOp.Moves (m : UnitOp) (quantity : Int64) (ctx : Context) (s : Store) (x : Flow)
    (most : Int) (answer : Answer) (s' : Store) : Prop where
  found : s.Finds ctx m x most
  positive : 0 < quantity.toInt
  enough : quantity.toInt ≤ most
  moved : s.Moved x quantity.toInt s'
  shown : answer.custodyRow = x.row.map (·.1)
  caller : s.users.has ctx.actor.id = true
  again : ∃ y, s'.Finds ctx m y (most - quantity.toInt) ∧ (quantity.toInt < most → y = x)

/-- What finds the same flow again with the units that are left. -/
theorem UnitOp.Moves.same {answer : Answer} (found : s.Finds ctx m x most)
    (positive : 0 < quantity.toInt) (enough : quantity.toInt ≤ most)
    (moved : s.Moved x quantity.toInt s') (shown : answer.custodyRow = x.row.map (·.1))
    (caller : s.users.has ctx.actor.id = true)
    (again : s.Moved x quantity.toInt s' → s'.Finds ctx m x (most - quantity.toInt)) :
    m.Moves quantity ctx s x most answer s' :=
  ⟨found, positive, enough, moved, shown, caller, x, again moved, fun _ => rfl⟩

theorem Store.Finds.left {units : Int} (found : s.Finds ctx m x units) (left : units = most) :
    s.Finds ctx m x most := left ▸ found

/-- A row that is named is named after it was written too. -/
theorem Store.named_put {k : Kind} {α : Type} [Record k α] [Named k] [Keyed k] {e : Entry k α}
    {row : α} {publicId : String} (sound : (Record.table s : Table k α).Sound)
    (sound' : (Record.table s' : Table k α).Sound)
    (written : Record.table s' = (Record.table s : Table k α).put e.id row)
    (named : s.named? k publicId = some e) (same : Named.publicId k row = Named.publicId k e.val) :
    s'.named? k publicId = some ⟨e.id, row⟩ := by
  obtain ⟨_, own⟩ := Table.mem_of_find? named
  have there : (⟨e.id, row⟩ : Entry k α) ∈ (Record.table s' : Table k α).entries :=
    written ▸ (Table.mem_of_get? (Table.get?_put_self (sound.get?_of_find? named))).1
  have told : s'.named k (Named.publicId k row) = .ok ⟨e.id, row⟩ := named_of_mem sound' there
  rw [same, beq_iff_eq.1 own] at told
  exact named_ok.1 told

/-- Units in the custody of somebody are out. -/
theorem Store.Moved.out {n units : Int} {item : AccessoryId} {row : AccessoryAssignmentId}
    {holder : UserId} (moved : s.Moved (.custody n item row holder) units s') :
    unitsOut s'.accessoryAssignments item = unitsOut s.accessoryAssignments item + n * units := by
  simpa [Store.count, Flow.custody, Flow.perUnit, Flow.perUnit.go] using moved.counts (.out item)

/-- Once units went to a holder, more of them go into the same assignment. -/
theorem Store.Finds.assign_again {item user : String} {e : Entry .accessory Accessory}
    {u : Entry .user User} {id : AccessoryAssignmentId} {v : AccessoryAssignment} {units : Int}
    (sound' : s'.Sound) (item_named : s'.named? .accessory item = some e)
    (user_named : s'.named? .user user = some u) (over_item : s'.Permits ctx .roomAdmin e.val.room)
    (row : s'.row? id = some ⟨id, v⟩) (opened : v.isOpen = true) (subject : v.accessory = e.id)
    (holder : v.holder = u.id) (moved : s.Moved (.custody 1 e.id id u.id) units s') :
    s'.Finds ctx (.assign item user) (.custody 1 e.id id u.id)
      (e.val.quantity - unitsOut s.accessoryAssignments e.id - units) := by
  have is_held := sound'.openAccessoryAssignment_of_mem (Table.mem_of_get? row).1 opened
  rw [subject, holder] at is_held
  have into : s'.assignmentFor e.id u.id = id := by rw [assignmentFor, is_held]; rfl
  have found := Finds.assign item_named user_named over_item
  rw [into, moved.out] at found
  exact found.left (by omega)

theorem sub_eq_flow (n units : Int) : n - units = n + -1 * units := by omega

theorem add_eq_flow (n units : Int) : n + units = n + 1 * units := by omega

theorem keep_eq_flow (n units : Int) : n = n + 0 * units := by omega

/-- Who an event was reported by is a user. -/
theorem Store.Linked.reporter_of_accessory {event : AccessoryEvent} {by' : UserId}
    (linked' : s'.Linked) (appended : s'.accessoryEvents = s.accessoryEvents.insert event)
    (reported : event.reportedBy = by') : s'.users.has by' = true := by
  have good := linked'.accessoryEvents _ (appended ▸ Table.mem_insert.2 (.inr rfl))
  simp only [Record.refers, Bool.and_eq_true] at good
  exact reported ▸ good.2

theorem Store.Linked.reporter_of_consumable {event : ConsumableEvent} {by' : UserId}
    (linked' : s'.Linked) (appended : s'.consumableEvents = s.consumableEvents.insert event)
    (reported : event.reportedBy = by') : s'.users.has by' = true := by
  have good := linked'.consumableEvents _ (appended ▸ Table.mem_insert.2 (.inr rfl))
  simp only [Record.refers, Bool.and_eq_true] at good
  exact reported ▸ good.2

theorem AccessoryStep.assign_moves {item user : String} {done : Committed Answer}
    (sound : s.Sound) (sound' : s'.Sound) (linked' : s'.Linked)
    (step : AccessoryStep ctx s (.assign item user quantity) done s') :
    ∃ x most, (UnitOp.assign item user).Moves quantity ctx s x most done.answer s' := by
  cases step with
  | read reads => cases reads
  | @assignMore _ _ _ _ e u held after _ _ _ _ positive item_named user_named over_item shelf enough
      is_held grown appended =>
    subst grown
    obtain ⟨_, rfl⟩ := Store.available_ok.1 shelf
    obtain ⟨row, subject, holder, opened⟩ := sound.openAccessoryAssignment is_held
    have into : s.assignmentFor e.id u.id = held.id := by rw [Store.assignmentFor, is_held]; rfl
    have found := Store.Finds.assign item_named user_named over_item
    rw [into] at found
    refine ⟨_, _, .same found positive enough ?_ rfl
      (linked'.reporter_of_accessory rfl appended.reportedBy) fun moved => ?_⟩
    · rw [← subject, ← holder]
      exact .custody sound.accessoryAssignments.numbered row opened rfl rfl rfl rfl rfl rfl rfl
        (add_eq_flow ..) (AccessoryAssignment.unitsOf_of_open rfl opened)
    · exact .assign_again sound' item_named user_named over_item (Table.get?_put_self row) opened
        subject holder moved
  | @assignNew _ _ _ _ e u a _ _ _ _ _ _ positive item_named user_named over_item shelf enough
      none_held _ opened appended =>
    obtain ⟨_, rfl⟩ := Store.available_ok.1 shelf
    obtain ⟨added, is_open, subject, holder, units⟩ : a.id = s.accessoryAssignments.next ∧
        a.val.isOpen = true ∧ a.val.accessory = e.id ∧ a.val.holder = u.id ∧
        a.val.quantity = quantity.toInt := by
      rw [opened]
      exact ⟨rfl, rfl, rfl, rfl, rfl⟩
    have into : s.assignmentFor e.id u.id = a.id := by
      rw [Store.assignmentFor, none_held, added]; rfl
    have found := Store.Finds.assign item_named user_named over_item
    rw [into] at found
    have numbered := sound.accessoryAssignments.numbered
    refine ⟨_, _, .same found positive enough ?_ rfl
      (linked'.reporter_of_accessory rfl appended.reportedBy) fun moved => ?_⟩
    · rw [← subject, ← holder, ← units]
      exact .opened numbered added is_open rfl rfl rfl rfl rfl
    · exact .assign_again sound' item_named user_named over_item
        (numbered.get?_insert_self added) is_open subject holder moved

theorem AccessoryStep.takeBack_moves {row : String} {done : Committed Answer}
    (sound : s.Sound) (sound' : s'.Sound) (linked' : s'.Linked)
    (step : AccessoryStep ctx s (.takeBack row quantity) done s') :
    ∃ x most, (UnitOp.takeBackAccessory row).Moves quantity ctx s x most done.answer s' := by
  cases step with
  | read reads => cases reads
  | takeBack positive custody_named item_found over_item opened enough _ reduced _ appended =>
    subst reduced
    have row := sound.accessoryAssignments.get?_of_find? custody_named
    refine ⟨_, _, .same (.takeBackAccessory custody_named item_found over_item) positive enough
      (.custody sound.accessoryAssignments.numbered row opened rfl rfl rfl rfl rfl rfl rfl
        (sub_eq_flow ..) (AccessoryAssignment.unitsOf_less rfl opened _ _)) rfl
      (linked'.reporter_of_accessory rfl appended.reportedBy) fun _ => ?_⟩
    exact .takeBackAccessory (Store.named_put sound.accessoryAssignments
      sound'.accessoryAssignments rfl custody_named rfl) item_found over_item

theorem AccessoryStep.condemn_moves {item : String} {done : Committed Answer}
    (sound : s.Sound) (sound' : s'.Sound) (linked' : s'.Linked)
    (step : AccessoryStep ctx s (.condemn item quantity) done s') :
    ∃ x most, (UnitOp.condemn item).Moves quantity ctx s x most done.answer s' := by
  cases step with
  | read reads => cases reads
  | @condemn _ _ _ e _ _ _ _ _ _ positive item_named over_item shelf enough changed appended =>
    subst changed
    obtain ⟨_, rfl⟩ := Store.available_ok.1 shelf
    have row := sound.accessories.get?_of_find? item_named
    refine ⟨_, _, .same (.condemn item_named over_item) positive enough
      (.total row rfl rfl rfl rfl rfl (sub_eq_flow ..)) rfl
      (linked'.reporter_of_accessory rfl appended.reportedBy) fun _ => ?_⟩
    refine (Store.Finds.condemn (Store.named_put sound.accessories sound'.accessories rfl item_named
      rfl) over_item).left ?_
    show e.val.quantity - quantity.toInt - unitsOut s.accessoryAssignments e.id = _
    omega

theorem AccessoryStep.restock_moves {item : String} {done : Committed Answer}
    (sound : s.Sound) (sound' : s'.Sound) (linked' : s'.Linked)
    (step : AccessoryStep ctx s (.restock item quantity) done s') :
    ∃ x most, (UnitOp.restockAccessory item).Moves quantity ctx s x most done.answer s' := by
  cases step with
  | read reads => cases reads
  | restock positive item_named over_item fits changed _ appended =>
    subst changed
    have row := sound.accessories.get?_of_find? item_named
    have enough := (fitsWord_add positive (sound.accessory_nonneg row)).1 fits
    refine ⟨_, _, .same (.restockAccessory item_named over_item) positive enough
      (.total row rfl rfl rfl rfl rfl (add_eq_flow ..)) rfl
      (linked'.reporter_of_accessory rfl appended.reportedBy) fun _ => ?_⟩
    exact (Store.Finds.restockAccessory (Store.named_put sound.accessories sound'.accessories rfl
      item_named rfl) over_item).left (Int.sub_sub ..).symm

theorem AccessoryStep.moves {op : AccessoryOp} {done : Committed Answer} (sound : s.Sound)
    (sound' : s'.Sound) (linked' : s'.Linked) (step : AccessoryStep ctx s op done s')
    (is : m.of quantity = .accessories op) :
    ∃ x most, m.Moves quantity ctx s x most done.answer s' := by
  cases m with
  | assign item user =>
    cases is
    exact step.assign_moves sound sound' linked'
  | takeBackAccessory row =>
    cases is
    exact step.takeBack_moves sound sound' linked'
  | condemn item =>
    cases is
    exact step.condemn_moves sound sound' linked'
  | restockAccessory item =>
    cases is
    exact step.restock_moves sound sound' linked'
  | issue | use | takeBackIssue | recordLoss | reportLoss | restockConsumable => cases is

/-- Units go into the open issue of the holder. -/
theorem Store.Finds.issue_held {item user : String} {purpose : Option String}
    {e : Entry .consumable Consumable} {u : Entry .user User}
    {held : Entry .consumableIssue ConsumableIssue} (item_named : s.named? .consumable item = some e)
    (user_named : s.named? .user user = some u) (over_item : s.Permits ctx .roomAdmin e.val.room)
    (is_held : s.openIssue e.id u.id = some held) :
    s.Finds ctx (.issue item user purpose)
      ((Flow.stock (-1) e.id).beside (.issue 1 1 held.id u.id))
      (min e.val.quantity (maxUnits - held.val.issuedQuantity)) := by
  have into : held.id = s.issueFor e.id u.id := by rw [issueFor, is_held]; rfl
  have room : maxUnits - held.val.issuedQuantity = s.issuable e.id u.id := by
    rw [issuable, is_held]; rfl
  rw [into, room]
  exact .issue item_named user_named over_item

/-- A holder without an open issue is given the next one. -/
theorem Store.Finds.issue_next {item user : String} {purpose : Option String}
    {e : Entry .consumable Consumable} {u : Entry .user User} {id : ConsumableIssueId}
    (item_named : s.named? .consumable item = some e) (user_named : s.named? .user user = some u)
    (over_item : s.Permits ctx .roomAdmin e.val.room) (none_held : s.openIssue e.id u.id = none)
    (next : id = s.consumableIssues.next) :
    s.Finds ctx (.issue item user purpose) ((Flow.stock (-1) e.id).beside (.issue 1 1 id u.id))
      (min e.val.quantity maxUnits) := by
  have into : id = s.issueFor e.id u.id := by rw [issueFor, none_held]; exact next
  have room : maxUnits = s.issuable e.id u.id := by rw [issuable, none_held]; rfl
  rw [into, room]
  exact .issue item_named user_named over_item

/-- Once units were issued to a holder, more of them go into the same issue. -/
theorem Store.Finds.issue_again {item user : String} {purpose : Option String}
    {e : Entry .consumable Consumable} {u : Entry .user User} {id : ConsumableIssueId}
    {v : ConsumableIssue} (sound' : s'.Sound) (item_named : s'.named? .consumable item = some e)
    (user_named : s'.named? .user user = some u) (over_item : s'.Permits ctx .roomAdmin e.val.room)
    (row : s'.row? id = some ⟨id, v⟩) (opened : v.isOpen = true) (subject : v.consumable = e.id)
    (holder : v.holder = u.id) :
    s'.Finds ctx (.issue item user purpose) ((Flow.stock (-1) e.id).beside (.issue 1 1 id u.id))
      (min e.val.quantity (maxUnits - v.issuedQuantity)) := by
  have is_held := sound'.openIssue_of_mem (Table.mem_of_get? row).1 opened
  rw [subject, holder] at is_held
  exact .issue_held item_named user_named over_item is_held

/-- What is left open of an issue that units went out of. -/
theorem Store.Sound.openIssue_less {item : ConsumableId} {holder : UserId} {units : Int}
    {until' : Stamp} {i : Entry .consumableIssue ConsumableIssue} (sound : s.Sound)
    (own : s.openIssue item holder = some i)
    (issues : s'.consumableIssues = s.consumableIssues.put i.id (i.val.less units until')) :
    s'.openIssue item holder =
      if i.val.quantity - units = 0 then none else some ⟨i.id, i.val.less units until'⟩ := by
  obtain ⟨row, subject, by_holder, opened⟩ := sound.openIssue own
  have row : s.consumableIssues.get? i.id = some i := row
  rw [Store.openIssue, issues, Table.find?_put_of_only row fun a member chosen => ?_]
  · have still : i.val.state = .opened := beq_iff_eq.1 opened
    by_cases rest : i.val.quantity - units = 0
    · simp [ConsumableIssue.less, ConsumableIssue.isOpen, rest]
    · simp [ConsumableIssue.less, ConsumableIssue.isOpen, rest, subject, by_holder, still]
  · simp only [Bool.and_eq_true, beq_iff_eq] at chosen
    have is_open := sound.openIssue_of_mem member chosen.2
    rw [chosen.1.1, chosen.1.2, own] at is_open
    rw [← Option.some.inj is_open]

/-- Units went out of an open issue for good: there are as many less of it, if any. -/
theorem Store.drawn_again {item : ConsumableId} {holder : UserId} {units : Int} {until' : Stamp}
    {i : Entry .consumableIssue ConsumableIssue} (sound : s.Sound)
    (own : s.openIssue item holder = some i)
    (issues : s'.consumableIssues = s.consumableIssues.put i.id (i.val.less units until')) :
    (s'.openIssue item holder).elim 0 (·.val.quantity) = i.val.quantity - units ∧
      (units < i.val.quantity → drawn (s'.openIssue item holder) = drawn (some i)) := by
  rw [sound.openIssue_less own issues]
  split
  · next rest => exact ⟨rest.symm, fun _ => by omega⟩
  · exact ⟨rfl, fun _ => rfl⟩

/-- The caller takes units out of the own issue for good. -/
theorem UnitOp.Moves.draw {item : ConsumableId} {i : Entry .consumableIssue ConsumableIssue}
    {until' : Stamp} {answer : Answer} (sound : s.Sound)
    (own : s.openIssue item ctx.actor.id = some i) (positive : 0 < quantity.toInt)
    (enough : quantity.toInt ≤ i.val.quantity) (items : s'.accessories = s.accessories)
    (custody : s'.accessoryAssignments = s.accessoryAssignments)
    (stocks : s'.consumables = s.consumables)
    (issues : s'.consumableIssues =
      s.consumableIssues.put i.id (i.val.less quantity.toInt until'))
    (equipment : s'.equipmentAssignments = s.equipmentAssignments)
    (found : s.Finds ctx m (Store.drawn (s.openIssue item ctx.actor.id))
      ((s.openIssue item ctx.actor.id).elim 0 (·.val.quantity)))
    (again : s'.Finds ctx m (Store.drawn (s'.openIssue item ctx.actor.id))
      ((s'.openIssue item ctx.actor.id).elim 0 (·.val.quantity)))
    (shown : answer.custodyRow = some (.issue i.id)) (caller : s.users.has ctx.actor.id = true) :
    m.Moves quantity ctx s (Store.drawn (some i)) i.val.quantity answer s' := by
  obtain ⟨row, _, _, _⟩ := sound.openIssue own
  obtain ⟨left, same⟩ := Store.drawn_again sound own issues
  rw [own] at found
  exact ⟨found, positive, enough, .issue row items custody stocks issues equipment rfl
    (sub_eq_flow ..) (keep_eq_flow ..), shown, caller, _, again.left left,
    same⟩

/-- What was ever issued into an issue can be kept. -/
theorem Store.Sound.issued_le {id : ConsumableIssueId} {i : Entry .consumableIssue ConsumableIssue}
    (sound : s.Sound) (row : s.row? id = some i) : i.val.issuedQuantity ≤ maxUnits := by
  have fits := (sound.consumableIssues.valid i (Table.mem_of_get? row).1).1
  simp only [Record.fits, Bool.and_eq_true, fitsWord_iff] at fits
  rw [maxUnits]
  omega

theorem ConsumableStep.issue_moves {item user : String} {purpose : Option String}
    {done : Committed Answer} (sound : s.Sound) (sound' : s'.Sound) (linked' : s'.Linked)
    (step : ConsumableStep d ctx s (.issue item user quantity purpose) done s') :
    ∃ x most, (UnitOp.issue item user purpose).Moves quantity ctx s x most done.answer s' := by
  cases step with
  | read reads => cases reads
  | @issueMore _ _ _ _ e stocked u held after _ _ _ _ _ _ positive item_named user_named over_item
      enough is_held grown changed appended =>
    subst grown changed
    have item_row := sound.consumables.get?_of_find? item_named
    obtain ⟨row, subject, holder, opened⟩ := sound.openIssue is_held
    have kept : held.val.issuedQuantity + quantity.toInt ≤ maxUnits :=
      sound'.issued_le (Table.get?_put_self row)
    refine ⟨_, _, .same (.issue_held item_named user_named over_item is_held) positive (by omega)
      ?_ rfl (linked'.reporter_of_consumable rfl appended.reportedBy) fun _ => ?_⟩
    · rw [← holder]
      exact .beside (t := { s with consumables := s.consumables.put e.id _ })
        (.stock item_row rfl rfl rfl rfl rfl (sub_eq_flow ..))
        (.issue row rfl rfl rfl rfl rfl rfl (add_eq_flow ..) (add_eq_flow ..)) rfl
    · refine (Store.Finds.issue_again sound' (Store.named_put sound.consumables sound'.consumables rfl
        item_named rfl) user_named over_item (Table.get?_put_self row) opened subject holder).left ?_
      show min (e.val.quantity - quantity.toInt)
        (maxUnits - (held.val.issuedQuantity + quantity.toInt)) = _
      omega
  | @issueNew _ _ _ _ e stocked u i _ _ _ _ _ _ _ _ positive item_named user_named over_item enough
      none_held _ opened changed appended =>
    subst changed
    have item_row := sound.consumables.get?_of_find? item_named
    obtain ⟨added, is_open, subject, holder, held, issued⟩ : i.id = s.consumableIssues.next ∧
        i.val.isOpen = true ∧ i.val.consumable = e.id ∧ i.val.holder = u.id ∧
        i.val.quantity = quantity.toInt ∧ i.val.issuedQuantity = quantity.toInt := by
      rw [opened]
      exact ⟨rfl, rfl, rfl, rfl, rfl, rfl⟩
    have numbered := sound.consumableIssues.numbered
    have kept := sound'.issued_le (numbered.get?_insert_self added)
    refine ⟨_, _, .same (.issue_next item_named user_named over_item none_held added) positive
      (by omega) ?_ rfl (linked'.reporter_of_consumable rfl appended.reportedBy) fun _ => ?_⟩
    · rw [← holder, ← held]
      exact .beside (t := { s with consumables := s.consumables.put e.id _ })
        (.stock item_row rfl rfl rfl rfl rfl (sub_eq_flow ..))
        (.issueOpened numbered added rfl rfl rfl rfl rfl (issued.trans held.symm)) rfl
    · refine (Store.Finds.issue_again sound' (Store.named_put sound.consumables sound'.consumables rfl
        item_named rfl) user_named over_item (numbered.get?_insert_self added) is_open subject
        holder).left ?_
      show min (e.val.quantity - quantity.toInt) (maxUnits - i.val.issuedQuantity) = _
      omega

theorem ConsumableStep.use_moves {item : String} {done : Committed Answer}
    (sound : s.Sound) (linked' : s'.Linked)
    (step : ConsumableStep d ctx s (.use item quantity) done s') :
    ∃ x most, (UnitOp.use item).Moves quantity ctx s x most done.answer s' := by
  cases step with
  | read reads => cases reads
  | use positive item_named own enough reduced appended =>
    subst reduced
    exact ⟨_, _, .draw sound own positive enough rfl rfl rfl rfl rfl (.use item_named)
      (.use item_named) rfl
      (linked'.reporter_of_consumable rfl appended.reportedBy)⟩

theorem ConsumableStep.takeBack_moves {row : String} {done : Committed Answer}
    (sound : s.Sound) (sound' : s'.Sound) (linked' : s'.Linked)
    (step : ConsumableStep d ctx s (.takeBack row quantity) done s') :
    ∃ x most, (UnitOp.takeBackIssue row).Moves quantity ctx s x most done.answer s' := by
  cases step with
  | read reads => cases reads
  | @takeBack _ _ e stocked u i _ _ _ _ _ _ _ positive issue_named item_found over_item opened
      enough _ fits reduced changed appended =>
    subst reduced changed
    have row := sound.consumableIssues.get?_of_find? issue_named
    have item_row : s.row? e.id = some e := Store.row_self item_found
    have same : i.val.consumable = e.id := (Table.mem_of_get? item_found).2.symm
    have room := (fitsWord_add positive (sound.consumable_nonneg item_found)).1 fits
    refine ⟨_, _, .same (.takeBackIssue issue_named item_found over_item) positive (by omega)
      ?_ rfl
      (linked'.reporter_of_consumable rfl appended.reportedBy) fun _ => ?_⟩
    · exact .beside (t := { s with consumables := s.consumables.put e.id _ })
        (.stock item_row rfl rfl rfl rfl rfl (add_eq_flow ..))
        (.issue row rfl rfl rfl rfl rfl rfl (sub_eq_flow ..) (keep_eq_flow ..)) rfl
    · refine (Store.Finds.takeBackIssue (Store.named_put sound.consumableIssues
        sound'.consumableIssues rfl issue_named rfl) ((congrArg _ same).trans
        (Table.get?_put_self item_row)) over_item).left ?_
      show min (i.val.quantity - quantity.toInt)
        (maxUnits - (e.val.quantity + quantity.toInt)) = _
      omega

theorem ConsumableStep.recordLoss_moves {row : String} {kind : LossKind} {done : Committed Answer}
    (sound : s.Sound) (sound' : s'.Sound) (linked' : s'.Linked)
    (step : ConsumableStep d ctx s (.recordLoss row quantity kind) done s') :
    ∃ x most, (UnitOp.recordLoss row kind).Moves quantity ctx s x most done.answer s' := by
  cases step with
  | read reads => cases reads
  | recordLoss positive issue_named item_found over_item opened enough _ reduced appended =>
    subst reduced
    have row := sound.consumableIssues.get?_of_find? issue_named
    exact ⟨_, _, .same (.recordLoss issue_named item_found over_item) positive enough
      (.issue row rfl rfl rfl rfl rfl rfl (sub_eq_flow ..) (keep_eq_flow ..)) rfl
      (linked'.reporter_of_consumable rfl appended.reportedBy) fun _ =>
      .recordLoss (Store.named_put sound.consumableIssues sound'.consumableIssues rfl issue_named rfl)
        item_found over_item⟩

theorem ConsumableStep.reportLoss_moves {item : String} {kind : LossKind} {done : Committed Answer}
    (sound : s.Sound) (linked' : s'.Linked)
    (step : ConsumableStep d ctx s (.reportLoss item quantity kind) done s') :
    ∃ x most, (UnitOp.reportLoss item kind).Moves quantity ctx s x most done.answer s' := by
  cases step with
  | read reads => cases reads
  | reportLoss positive item_named caller_named own enough reduced appended =>
    subst reduced
    exact ⟨_, _, .draw sound own positive enough rfl rfl rfl rfl rfl
      (.reportLoss item_named caller_named) (.reportLoss item_named caller_named) rfl
      (linked'.reporter_of_consumable rfl appended.reportedBy)⟩

theorem ConsumableStep.restock_moves {item : String} {done : Committed Answer}
    (sound : s.Sound) (sound' : s'.Sound) (linked' : s'.Linked)
    (step : ConsumableStep d ctx s (.restock item quantity) done s') :
    ∃ x most, (UnitOp.restockConsumable item).Moves quantity ctx s x most done.answer s' := by
  cases step with
  | read reads => cases reads
  | restock positive item_named over_item fits changed appended =>
    subst changed
    have row := sound.consumables.get?_of_find? item_named
    have enough := (fitsWord_add positive (sound.consumable_nonneg row)).1 fits
    refine ⟨_, _, .same (.restockConsumable item_named over_item) positive enough
      (.stock row rfl rfl rfl rfl rfl (add_eq_flow ..)) rfl
      (linked'.reporter_of_consumable rfl appended.reportedBy) fun _ => ?_⟩
    exact (Store.Finds.restockConsumable (Store.named_put sound.consumables sound'.consumables rfl
      item_named rfl) over_item).left (Int.sub_sub ..).symm

theorem ConsumableStep.moves {op : ConsumableOp} {done : Committed Answer} (sound : s.Sound)
    (sound' : s'.Sound) (linked' : s'.Linked) (step : ConsumableStep d ctx s op done s')
    (is : m.of quantity = .consumables op) :
    ∃ x most, m.Moves quantity ctx s x most done.answer s' := by
  cases m with
  | issue item user purpose =>
    cases is
    exact step.issue_moves sound sound' linked'
  | use item =>
    cases is
    exact step.use_moves sound linked'
  | takeBackIssue row =>
    cases is
    exact step.takeBack_moves sound sound' linked'
  | recordLoss row kind =>
    cases is
    exact step.recordLoss_moves sound sound' linked'
  | reportLoss item kind =>
    cases is
    exact step.reportLoss_moves sound linked'
  | restockConsumable item =>
    cases is
    exact step.restock_moves sound sound' linked'
  | assign | takeBackAccessory | condemn | restockAccessory => cases is

/-! ## Portions -/

/-- Carries the operation out on that many units. -/
def UnitOp.run (m : UnitOp) (d : Setting) (s : Store) (ctx : Context) (quantity : Int64) :
    Outcome (Except Refusal Answer) :=
  (m.of quantity).run d s ctx

theorem UnitOp.recorded : (m.of quantity).isRecorded = true := by cases m <;> rfl

/-- An operation on units that goes through moves them. -/
theorem UnitOp.run_ok (h : Reachable s) (ran : (m.run d s ctx quantity).answer.isOk = true) :
    ∃ answer x most, (m.run d s ctx quantity).answer = .ok answer ∧
      m.Moves quantity ctx s x most answer (m.run d s ctx quantity).store := by
  obtain ⟨answer, ran⟩ := Results.isOk_iff.1 ran
  have linked' := (h.run d (.caller ctx (m.of quantity))).linked
  unfold run at ran ⊢
  cases is : m.of quantity with
  | accessories op =>
    rw [is] at ran linked'
    obtain ⟨done, s', step, sound', out⟩ := AccessoryOp.run_ok h.sound ran
    have out : CallerOp.run d s ctx (.accessories op) = d.outcome done s' := out
    have after : (Operation.run d s (.caller ctx (.accessories op))).store = s' :=
      congrArg Outcome.store out
    obtain ⟨x, most, moves⟩ := step.moves h.sound sound' (after ▸ linked') is
    rw [out]
    exact ⟨done.answer, x, most, rfl, moves⟩
  | consumables op =>
    rw [is] at ran linked'
    obtain ⟨done, s', step, sound', out⟩ := ConsumableOp.run_ok h.sound ran
    have out : CallerOp.run d s ctx (.consumables op) = d.outcome done s' := out
    have after : (Operation.run d s (.caller ctx (.consumables op))).store = s' :=
      congrArg Outcome.store out
    obtain ⟨x, most, moves⟩ := step.moves h.sound sound' (after ▸ linked') is
    rw [out]
    exact ⟨done.answer, x, most, rfl, moves⟩
  | _ => cases m <;> cases is

/-- An operation on units goes through if there are those units where it finds them. -/
theorem Store.Finds.run_goes (found : s.Finds ctx m x most) (h : Reachable s)
    (caller : s.users.has ctx.actor.id = true) (logged : d.audit = .log)
    (positive : 0 < quantity.toInt) (enough : quantity.toInt ≤ most) :
    (m.run d s ctx quantity).answer.isOk = true :=
  found.goes ⟨h.sound, h.linked, h.backed, caller⟩ logged positive enough

/-- The answer is given, and shows this custody row or none. -/
def Outcome.Shows (o : Outcome (Except Refusal Answer)) (row : Option CustodyRow) : Prop :=
  ∃ answer, o.answer = .ok answer ∧ answer.custodyRow = row

/-- Some units and then some more, against all of them at once: the portions go through if and only if
the whole does. They are all of one custody row at most, no other is touched, and in the end there is
the same of everything. -/
structure Store.InPortions (s : Store) (first second once : Outcome (Except Refusal Answer)) :
    Prop where
  answered : (first.answer.isOk = true ∧ second.answer.isOk = true) ↔ once.answer.isOk = true
  same : once.answer.isOk = true → second.store.SameUnits once.store
  one_row : once.answer.isOk = true → ∃ row, first.Shows row ∧ second.Shows row ∧ once.Shows row ∧
    s.Spares row first.store ∧ first.store.Spares row second.store ∧ s.Spares row once.store

namespace UnitOp.Moves

variable {more : Int64} {y : Flow} {left : Int} {answer answer' : Answer}

/-- Two movements in a row are one along the same flow, and there were the units for both. -/
theorem trans (first : m.Moves quantity ctx s x most answer t)
    (second : m.Moves more ctx t y left answer' s') :
    y = x ∧ quantity.toInt + more.toInt ≤ most ∧
      s.Moved x (quantity.toInt + more.toInt) s' := by
  obtain ⟨z, again, same⟩ := first.again
  obtain ⟨rfl, rfl⟩ := again.unique second.found
  have positive := second.positive
  have enough := second.enough
  obtain rfl := same (by omega)
  exact ⟨rfl, by omega, first.moved.trans second.moved⟩

end UnitOp.Moves

section Portions

variable {more : Int64} (h : Reachable s)
include h

/-- What a portion leaves goes through too. -/
theorem UnitOp.Moves.goes_on {answer : Answer}
    (moves : m.Moves quantity ctx s x most answer (m.run d s ctx quantity).store)
    (logged : d.audit = .log) (positive : 0 < more.toInt)
    (enough : quantity.toInt + more.toInt ≤ most) :
    (m.run d (m.run d s ctx quantity).store ctx more).answer.isOk = true := by
  have then' : Reachable (m.run d s ctx quantity).store := h.run d (.caller ctx (m.of quantity))
  have run : Leads Anything s (m.run d s ctx quantity).store :=
    .run d (.caller ctx (m.of quantity)) .refl trivial
  obtain ⟨_, again, _⟩ := moves.again
  exact again.run_goes then' (run.keeps_users h.sound _ moves.caller) logged positive (by omega)

/-- The portions go through if and only if the whole does. -/
theorem Reachable.portions_iff {whole : Int64} (some' : 0 < quantity.toInt) (others : 0 < more.toInt)
    (adds_up : whole.toInt = quantity.toInt + more.toInt) :
    ((m.run d s ctx quantity).answer.isOk = true ∧
      (m.run d (m.run d s ctx quantity).store ctx more).answer.isOk = true) ↔
    (m.run d s ctx whole).answer.isOk = true := by
  have then' : Reachable (m.run d s ctx quantity).store := h.run d (.caller ctx (m.of quantity))
  constructor
  · rintro ⟨ran, ran'⟩
    obtain ⟨_, _, most, answered, moves⟩ := UnitOp.run_ok h ran
    obtain ⟨_, _, _, _, moves'⟩ := UnitOp.run_ok then' ran'
    have logged := CallerOp.logged UnitOp.recorded answered
    have enough : quantity.toInt + more.toInt ≤ most := (moves.trans moves').2.1
    exact moves.found.run_goes h moves.caller logged (by omega) (by omega)
  · intro ran
    obtain ⟨_, _, _, answered, moves⟩ := UnitOp.run_ok h ran
    have logged := CallerOp.logged UnitOp.recorded answered
    have enough := moves.enough
    have ran₁ := moves.found.run_goes h moves.caller logged some' (by omega)
    obtain ⟨_, _, _, _, moves₁⟩ := UnitOp.run_ok h ran₁
    obtain ⟨_, rfl⟩ := moves.found.unique moves₁.found
    exact ⟨ran₁, moves₁.goes_on h logged others (by omega)⟩

/-- The portions go along one flow, and the whole goes along it as well. -/
theorem Reachable.portions_move {whole : Int64} (some' : 0 < quantity.toInt)
    (others : 0 < more.toInt) (adds_up : whole.toInt = quantity.toInt + more.toInt)
    (ran : (m.run d s ctx whole).answer.isOk = true) :
    ∃ x : Flow,
      ((m.run d s ctx quantity).Shows (x.row.map (·.1)) ∧
        s.Moved x quantity.toInt (m.run d s ctx quantity).store) ∧
      ((m.run d (m.run d s ctx quantity).store ctx more).Shows (x.row.map (·.1)) ∧
        (m.run d s ctx quantity).store.Moved x more.toInt
          (m.run d (m.run d s ctx quantity).store ctx more).store) ∧
      (m.run d s ctx whole).Shows (x.row.map (·.1)) ∧
        s.Moved x whole.toInt (m.run d s ctx whole).store := by
  have then' : Reachable (m.run d s ctx quantity).store := h.run d (.caller ctx (m.of quantity))
  obtain ⟨ran₁, ran₂⟩ := (h.portions_iff some' others adds_up).2 ran
  obtain ⟨_, _, _, answered, moves⟩ := UnitOp.run_ok h ran
  obtain ⟨_, _, _, answered₁, moves₁⟩ := UnitOp.run_ok h ran₁
  obtain ⟨_, _, _, answered₂, moves₂⟩ := UnitOp.run_ok then' ran₂
  obtain ⟨rfl, rfl⟩ := moves.found.unique moves₁.found
  obtain ⟨rfl, _⟩ := moves₁.trans moves₂
  exact ⟨_, ⟨⟨_, answered₁, moves₁.shown⟩, moves₁.moved⟩, ⟨⟨_, answered₂, moves₂.shown⟩, moves₂.moved⟩,
    ⟨_, answered, moves.shown⟩, moves.moved⟩

end Portions

/-- Counts that can be kept together add up without running over. -/
theorem toInt_add_of_countable {first second : Int64} (some_first : 1 ≤ first.toInt)
    (some_second : 1 ≤ second.toInt)
    (countable : first.toInt + second.toInt ≤ Int64.maxValue.toInt) :
    (first + second).toInt = first.toInt + second.toInt := by
  rw [Int64.toInt_maxValue] at countable
  rw [Int64.toInt_add]
  exact Int.bmod_eq_of_le (by omega) (by omega)

/-- On a reachable store, units may be moved in two portions as well as at once. -/
theorem Reachable.in_portions (h : Reachable s) (d : Setting) (ctx : Context) (m : UnitOp)
    {first second : Int64} (some_first : 1 ≤ first.toInt) (some_second : 1 ≤ second.toInt)
    (countable : first.toInt + second.toInt ≤ Int64.maxValue.toInt) :
    s.InPortions (m.run d s ctx first) (m.run d (m.run d s ctx first).store ctx second)
      (m.run d s ctx (first + second)) := by
  have adds_up := toInt_add_of_countable some_first some_second countable
  have then' : Reachable (m.run d s ctx first).store := h.run d (.caller ctx (m.of first))
  refine ⟨h.portions_iff some_first some_second adds_up, fun ran => ?_, fun ran => ?_⟩
  · obtain ⟨x, ⟨_, moved₁⟩, ⟨_, moved₂⟩, _, moved⟩ :=
      h.portions_move some_first some_second adds_up ran
    have together := moved₁.trans moved₂
    rw [← adds_up] at together
    exact together.sameUnits moved (then'.run d (.caller ctx (m.of second))).sound
      (h.run d (.caller ctx (m.of (first + second)))).sound
  · obtain ⟨x, ⟨shown₁, moved₁⟩, ⟨shown₂, moved₂⟩, shown, moved⟩ :=
      h.portions_move some_first some_second adds_up ran
    exact ⟨_, shown₁, shown₂, shown, moved₁.others, moved₂.others, moved.others⟩

/-- Somebody has all the nails that there were. -/
def nailBox : Store :=
  Store.serve {} {}
    [.directory (.bootstrap "root" "Root"),
     .caller root (.consumables (.register
       { publicId := some "nails", name := "Nails", quantity := 5 })),
     .caller root (.consumables (.issue "nails" "root" 5 none))]
where
  root : Context := { actor := ⟨⟨1⟩, "root", "Root"⟩, binding := some .siteAdmin }

/-- Two nails are used up, and then the three that are left. With these the issue is closed, as it is
when all five are used up at once. -/
theorem nailBox_in_portions :
    ((UnitOp.use "nails").run {} nailBox nailBox.root 5).answer.isOk = true ∧
      nailBox.InPortions ((UnitOp.use "nails").run {} nailBox nailBox.root 2)
        ((UnitOp.use "nails").run {} ((UnitOp.use "nails").run {} nailBox nailBox.root 2).store
          nailBox.root 3)
        ((UnitOp.use "nails").run {} nailBox nailBox.root 5) :=
  ⟨by decide +kernel, Reachable.in_portions (.serve (.seeded (.empty 0 0 0))) {} nailBox.root
    (.use "nails") (by decide) (by decide) (by decide)⟩

end Quartermaster
