import Quartermaster.Proofs.Lasting

/-!
# The two phases of an operation

Fourteen operations read without a lock and then decide in one transaction. Between the phases
anything may happen: the item is handed out to somebody else, its room is deleted, the caller loses a
role. What the first phase found is old by then, but the second takes nothing from it but ids and
public ids, and those last. So the transaction does what the whole operation would do if it were only
begun now: the same refusal, or the same store, answer, events and notices.

1. `CallerOp.phases`: an operation by its phases, and `CallerOp.run_phases`: it is run by them.
2. `TwoPhase.Stands`: what was found stands for what would be found now.
3. `CallerOp.stands`: so it is for every operation in two phases, whatever happened in between.
-/

namespace Quartermaster

variable {α β γ : Type} {d : Setting} {ctx : Context} {s₀ s s' : Store} {why : Refusal}

/-! ## Operations by their phases -/

/-- The same phases under another form of the answer. -/
def TwoPhase.map (f : α → β) (p : TwoPhase γ α) : TwoPhase γ β where
  read := p.read
  commit found := (p.commit found).map (Committed.map f)

theorem Setting.commit_map {tx : Tx (Committed α)} {f : α → β} :
    d.commit s (tx.map (Committed.map f)) = (d.commit s tx).mapOk f := by
  have mapped : tx.map (Committed.map f) s = (tx s).map fun r => (r.1.map f, r.2) := by
    show (tx s >>= fun r => pure (r.1.map f, r.2)) = _
    cases tx s <;> rfl
  unfold commit Store.transact
  rw [mapped]
  cases tx s <;> rfl

theorem Setting.run_map {p : TwoPhase γ α} {f : α → β} :
    d.run s (p.map f) = (d.run s p).mapOk f := by
  unfold run
  rw [show (p.map f).read s = p.read s from rfl]
  cases p.read s with
  | ok found => exact commit_map
  | error why => rfl

/-- An operation in two phases, whatever its first phase finds. -/
structure Phased where
  {Found : Type}
  phases : TwoPhase Found Answer

/-- The phases of an operation that has two. -/
def CallerOp.phases (d : Setting) (ctx : Context) : CallerOp → Option Phased
  | .equipment (.assign item user notes) =>
    some ⟨(Custody.assignEquipment d ctx item user notes).map .equipmentCustody⟩
  | .equipment (.unassign item user notes) =>
    some ⟨(Custody.unassignEquipment d ctx item user notes).map .equipmentCustody⟩
  | .equipment (.reassign item fromUser toUser notes) =>
    some ⟨(Custody.reassignEquipment d ctx item fromUser toUser notes).map .equipmentCustody⟩
  | .equipment (.changeStatus item status notes) =>
    some ⟨(Custody.changeEquipmentStatus d ctx item status notes).map .equipmentCustody⟩
  | .accessories (.assign item user quantity) =>
    some ⟨(Custody.assignAccessory d ctx item user quantity).map .accessoryCustody⟩
  | .accessories (.takeBack assignment quantity) =>
    some ⟨(Custody.returnAccessory d ctx assignment quantity).map .accessoryCustody⟩
  | .accessories (.condemn item quantity) =>
    some ⟨(Custody.condemnAccessory d ctx item quantity).map .accessoryCustody⟩
  | .accessories (.restock item quantity) =>
    some ⟨(Custody.restockAccessory d ctx item quantity).map .accessoryCustody⟩
  | .consumables (.issue item user quantity purpose) =>
    some ⟨(Custody.issueConsumable d ctx item user quantity purpose).map .consumableCustody⟩
  | .consumables (.use item quantity) =>
    some ⟨(Custody.useConsumable d ctx item quantity).map .consumableCustody⟩
  | .consumables (.takeBack issue quantity) =>
    some ⟨(Custody.returnConsumable d ctx issue quantity).map .consumableCustody⟩
  | .consumables (.recordLoss issue quantity kind) =>
    some ⟨(Custody.recordLoss d ctx issue quantity kind).map .consumableCustody⟩
  | .consumables (.reportLoss item quantity kind) =>
    some ⟨(Custody.reportLoss d ctx item quantity kind).map .consumableCustody⟩
  | .consumables (.restock item quantity) =>
    some ⟨(Custody.restockConsumable d ctx item quantity).map .consumableCustody⟩
  | _ => none

theorem CallerOp.run_phases {op : CallerOp} {p : Phased} (phased : op.phases d ctx = some p) :
    op.run d s ctx = d.run s p.phases := by
  cases op with
  | holdings | roles => cases phased
  | equipment op =>
    cases op with
    | get | list | history | register => cases phased
    | assign | unassign | reassign | changeStatus =>
      cases phased
      exact Setting.run_map.symm
  | accessories op =>
    cases op with
    | get | list | history | register => cases phased
    | assign | takeBack | condemn | restock =>
      cases phased
      exact Setting.run_map.symm
  | consumables op =>
    cases op with
    | get | list | history | register => cases phased
    | issue | use | takeBack | recordLoss | reportLoss | restock =>
      cases phased
      exact Setting.run_map.symm

/-! ## What was found before -/

/-- What was found stands for what would be found now: the transaction for it does what finding and
deciding would do. -/
def TwoPhase.Stands (p : TwoPhase β α) (found : β) (s : Store) : Prop :=
  p.commit found s = p.read s >>= fun again => p.commit again s

namespace TwoPhase.Stands

variable {p : TwoPhase β α} {found again : β}

/-- The transaction for what was found is the whole operation. -/
theorem commit_eq_run (h : p.Stands found s) : d.commit s (p.commit found) = d.run s p := by
  unfold Setting.run Setting.commit Store.transact
  rw [show p.commit found s = _ from h]
  cases p.read s <;> rfl

theorem map {f : α → γ} (h : p.Stands found s) : (p.map f).Stands found s := by
  show (p.commit found s >>= fun r => pure (r.1.map f, r.2)) =
    p.read s >>= fun again => p.commit again s >>= fun r => pure (r.1.map f, r.2)
  rw [show p.commit found s = _ from h]
  cases p.read s <;> rfl

/-- The first phase would find the same again, unless a check of it fails by now; and then the second
phase fails at that check. -/
theorem of_check {check : Except Refusal γ} (alike : p.commit found = p.commit again)
    (reads : p.read s = check.map fun _ => again)
    (refused : ∀ why, check = .error why → p.commit again s = .error why) : p.Stands found s := by
  unfold TwoPhase.Stands
  rw [alike, reads]
  cases checked : check with
  | ok _ => rfl
  | error why => exact refused why checked

end TwoPhase.Stands

/-- The store `s` came later than `s₀`. -/
structure Store.Later (s₀ s : Store) : Prop where
  before : s₀.Sound
  sound : s.Sound
  lasting : s₀.Lasting s

/-- What a second phase takes from the row that it was given. -/
structure Alike {k : Kind} {α : Type} [Record k α] [Named k] (found again : Entry k α) : Prop where
  id : found.id = again.id
  publicId : Named.publicId k found.val = Named.publicId k again.val

/-- A row that was found by its public id is found again. -/
theorem Store.Later.named {k : Kind} {α : Type} [Record k α] [Named k] [Lasts k] {publicId : String}
    {e : Entry k α} (later : s₀.Later s) (named : s₀.named? k publicId = some e) :
    ∃ again, s.named k publicId = .ok again ∧ s.row? again.id = some again ∧ Alike e again := by
  obtain ⟨again, found, id, name⟩ := later.lasting.named later.before later.sound named
  exact ⟨again, Store.named_ok.2 found, (Lasts.sound later.sound).get?_of_find? found, id.symm,
    name.symm⟩

namespace Results

theorem ok_bind {a : α} {f : α → Except Refusal β} : (Except.ok a >>= f) = f a := rfl

theorem bind_pure {x : Except Refusal α} {b : β} :
    (x >>= fun _ => pure b) = x.map fun _ => b := by
  cases x <;> rfl

theorem map_bind_pure {x : Except Refusal α} {f : α → β} {g : β → γ} :
    (x.map f >>= fun b => pure (g b)) = x.map fun a => g (f a) := by
  cases x <;> rfl

end Results

theorem Tx.read_error {f : Store → Except Refusal α} (h : f s = .error why) :
    Tx.read f s = .error why := by
  rw [Tx.read, h]
  rfl

namespace Custody

section Lock

variable {k : Kind} [Record k α]

theorem lock_self {e : Entry k α} (here : s.row? e.id = some e) : lock e s = .ok (e, s) :=
  lock_ok.2 ⟨here, rfl⟩

theorem lock_alike [Named k] {found again : Entry k α} (alike : Alike found again) :
    lock found = lock again := by
  rw [lock, lock, alike.id]

/-- A transaction that looks up its row and then fails at a check of it. -/
theorem lock_error {e : Entry k α} {check : Entry k α → Store → Except Refusal β}
    {rest : Entry k α → β → Tx γ} (here : s.row? e.id = some e) (fails : check e s = .error why) :
    (lock e >>= fun e => Tx.read (check e) >>= rest e) s = .error why :=
  (Tx.bind_of_ok (lock_self here)).trans (Tx.bind_of_error (Tx.read_error fails))

end Lock

theorem positive_bind {quantity : Int64} {f : Unit → Except Refusal α}
    (positive_quantity : 0 < quantity.toInt) : (positive quantity >>= f) = f () := by
  rw [show positive quantity = .ok () from positive_ok.2 positive_quantity, Results.ok_bind]

/-! ## Equipment -/

theorem findItem_again {required : Role} {item : String} {e : Entry .equipment Equipment}
    (again : s.named .equipment item = .ok e) :
    findItem ctx required item s =
      (s.authorize ctx required e.val.room (itemLabel e)).map fun _ => e := by
  rw [findItem, again, Results.ok_bind, Results.bind_pure]

theorem changeEquipmentStatus_stands {item : String} {status : EquipmentStatus}
    {notes : Option String} {found : Entry .equipment Equipment} (later : s₀.Later s)
    (reads : (changeEquipmentStatus d ctx item status notes).read s₀ = .ok found) :
    (changeEquipmentStatus d ctx item status notes).Stands found s := by
  obtain ⟨named, _⟩ := findItem_ok.1 reads
  obtain ⟨e, again, here, alike⟩ := later.named named
  refine .of_check ?_ (findItem_again again) fun _ fails => lock_error here fails
  simp only [changeEquipmentStatus, lock_alike alike]

theorem unassignEquipment_stands {item user : String} {notes : Option String}
    {found : Entry .equipment Equipment × Entry .user User} (later : s₀.Later s)
    (reads : (unassignEquipment d ctx item user notes).read s₀ = .ok found) :
    (unassignEquipment d ctx item user notes).Stands found s := by
  simp only [unassignEquipment, Results.bind_ok, findItem_ok, Store.named_ok, Results.pure_ok]
    at reads
  obtain ⟨_, ⟨item_named, _⟩, v, user_named, rfl⟩ := reads
  obtain ⟨e, item_again, here, item_alike⟩ := later.named item_named
  obtain ⟨u, user_again, _, user_alike⟩ := later.named user_named
  have name : v.val.publicId = u.val.publicId := user_alike.publicId
  have now : (unassignEquipment d ctx item user notes).read s =
      (s.authorize ctx .roomClerk e.val.room (itemLabel e)).map fun _ => (e, u) := by
    simp only [unassignEquipment, findItem_again item_again, user_again, Results.ok_bind,
      Results.map_bind_pure]
  refine .of_check ?_ now fun _ fails => lock_error here fails
  simp only [unassignEquipment, lock_alike item_alike, user_alike.id, name]

/-- Both permissions of a handover, asked outside of the transaction. -/
def handoverCheck (ctx : Context) (e : Entry .equipment Equipment) (receiver : Entry .user User)
    (s : Store) : Except Refusal Unit := do
  s.authorize ctx .roomClerk e.val.room (itemLabel e)
  s.authorize ctx .roomClerk receiver.val.room (recipientLabel receiver)

theorem authorizeHandover_eq {e : Entry .equipment Equipment} {receiver : Entry .user User} :
    authorizeHandover ctx e receiver = Tx.read (handoverCheck ctx e receiver) := by
  funext s
  show ((s.authorize ctx .roomClerk e.val.room (itemLabel e)).map (·, s) >>= fun r =>
    (r.2.authorize ctx .roomClerk receiver.val.room (recipientLabel receiver)).map (·, r.2)) = _
  unfold Tx.read handoverCheck
  cases s.authorize ctx .roomClerk e.val.room (itemLabel e) <;> rfl

/-- A transaction that looks up an item and its receiver and then fails at a permission. -/
theorem handover_error {e : Entry .equipment Equipment} {receiver : Entry .user User}
    {rest : Entry .equipment Equipment → Entry .user User → Unit → Tx β}
    (here : s.row? e.id = some e) (there : s.row? receiver.id = some receiver)
    (fails : handoverCheck ctx e receiver s = .error why) :
    (lock e >>= fun e => reload receiver >>= fun u => authorizeHandover ctx e u >>= rest e u) s =
      .error why := by
  refine (Tx.bind_of_ok (lock_self here)).trans ?_
  refine (Tx.bind_of_ok (reload_ok.2 ⟨there, rfl⟩)).trans ?_
  rw [authorizeHandover_eq]
  exact Tx.bind_of_error (Tx.read_error fails)

theorem reload_alike {found again : Entry .user User} (alike : Alike found again) :
    reload found = reload again := by
  have name : found.val.publicId = again.val.publicId := alike.publicId
  unfold reload
  rw [alike.id, name]

theorem assignEquipment_stands {item user : String} {notes : Option String}
    {found : Entry .equipment Equipment × Entry .user User} (later : s₀.Later s)
    (reads : (assignEquipment d ctx item user notes).read s₀ = .ok found) :
    (assignEquipment d ctx item user notes).Stands found s := by
  simp only [assignEquipment, Results.bind_ok, findItem_ok, Store.named_ok, Results.pure_ok]
    at reads
  obtain ⟨_, ⟨item_named, _⟩, _, user_named, _, _, rfl⟩ := reads
  obtain ⟨e, item_again, here, item_alike⟩ := later.named item_named
  obtain ⟨u, user_again, there, user_alike⟩ := later.named user_named
  have now : (assignEquipment d ctx item user notes).read s =
      (handoverCheck ctx e u s).map fun _ => (e, u) := by
    simp only [assignEquipment, findItem_again item_again, user_again, Results.ok_bind,
      handoverCheck]
    cases s.authorize ctx .roomClerk e.val.room (itemLabel e) with
    | error why => rfl
    | ok _ => exact Results.bind_pure
  refine .of_check ?_ now fun _ fails => handover_error here there fails
  simp only [assignEquipment, lock_alike item_alike, reload_alike user_alike]

theorem reassignEquipment_stands {item giver receiver : String} {notes : Option String}
    {found : Entry .equipment Equipment × Entry .user User × Entry .user User}
    (later : s₀.Later s)
    (reads : (reassignEquipment d ctx item giver receiver notes).read s₀ = .ok found) :
    (reassignEquipment d ctx item giver receiver notes).Stands found s := by
  by_cases same : giver = receiver
  · simp only [reassignEquipment, if_pos same] at reads
    cases reads
  simp only [reassignEquipment, if_neg same, Results.bind_ok, findItem_ok, Store.named_ok,
    Results.pure_ok] at reads
  obtain ⟨_, ⟨item_named, _⟩, v, giver_named, _, receiver_named, _, _, rfl⟩ := reads
  obtain ⟨e, item_again, here, item_alike⟩ := later.named item_named
  obtain ⟨g, giver_again, _, giver_alike⟩ := later.named giver_named
  obtain ⟨u, receiver_again, there, receiver_alike⟩ := later.named receiver_named
  have name : v.val.publicId = g.val.publicId := giver_alike.publicId
  have now : (reassignEquipment d ctx item giver receiver notes).read s =
      (handoverCheck ctx e u s).map fun _ => (e, g, u) := by
    simp only [reassignEquipment, if_neg same, findItem_again item_again, giver_again,
      receiver_again, Results.ok_bind, handoverCheck]
    cases s.authorize ctx .roomClerk e.val.room (itemLabel e) with
    | error why => rfl
    | ok _ => exact Results.bind_pure
  refine .of_check ?_ now fun _ fails => handover_error here there fails
  simp only [reassignEquipment, lock_alike item_alike, reload_alike receiver_alike, giver_alike.id,
    name]

/-! ## Accessories -/

theorem findAccessory_again {required : Role} {item : String} {e : Entry .accessory Accessory}
    (again : s.named .accessory item = .ok e) :
    findAccessory ctx required item s =
      (s.authorize ctx required e.val.room (accessoryLabel e)).map fun _ => e := by
  rw [findAccessory, again, Results.ok_bind, Results.bind_pure]

theorem lockAccessory_alike {found again : Entry .accessory Accessory}
    (alike : Alike found again) : lockAccessory ctx found = lockAccessory ctx again := by
  rw [lockAccessory, lockAccessory, lock_alike alike]

theorem lockAccessory_error {e : Entry .accessory Accessory}
    {rest : Entry .accessory Accessory → Tx β} (here : s.row? e.id = some e)
    (fails : s.authorize ctx .roomAdmin e.val.room (accessoryLabel e) = .error why) :
    (lockAccessory ctx e >>= rest) s = .error why :=
  Tx.bind_of_error (lock_error here fails)

theorem assignAccessory_stands {item user : String} {quantity : Int64}
    {found : Entry .accessory Accessory × Entry .user User} (later : s₀.Later s)
    (reads : (assignAccessory d ctx item user quantity).read s₀ = .ok found) :
    (assignAccessory d ctx item user quantity).Stands found s := by
  simp only [assignAccessory, Results.bind_ok, positive_ok, findAccessory_ok, Store.named_ok,
    Results.pure_ok] at reads
  obtain ⟨_, positive, _, ⟨item_named, _⟩, v, user_named, rfl⟩ := reads
  obtain ⟨e, item_again, here, item_alike⟩ := later.named item_named
  obtain ⟨u, user_again, _, user_alike⟩ := later.named user_named
  have name : v.val.publicId = u.val.publicId := user_alike.publicId
  have now : (assignAccessory d ctx item user quantity).read s =
      (s.authorize ctx .roomAdmin e.val.room (accessoryLabel e)).map fun _ => (e, u) := by
    simp only [assignAccessory, positive_bind positive, findAccessory_again item_again, user_again,
      Results.ok_bind, Results.map_bind_pure]
  refine .of_check ?_ now fun _ fails => lockAccessory_error here fails
  simp only [assignAccessory, lockAccessory_alike item_alike, user_alike.id, name]

theorem condemnAccessory_stands {item : String} {quantity : Int64}
    {found : Entry .accessory Accessory} (later : s₀.Later s)
    (reads : (condemnAccessory d ctx item quantity).read s₀ = .ok found) :
    (condemnAccessory d ctx item quantity).Stands found s := by
  simp only [condemnAccessory, Results.bind_ok, positive_ok, findAccessory_ok] at reads
  obtain ⟨_, positive, named, _⟩ := reads
  obtain ⟨e, again, here, alike⟩ := later.named named
  have now : (condemnAccessory d ctx item quantity).read s =
      (s.authorize ctx .roomAdmin e.val.room (accessoryLabel e)).map fun _ => e := by
    simp only [condemnAccessory, positive_bind positive, findAccessory_again again]
  refine .of_check ?_ now fun _ fails => lockAccessory_error here fails
  simp only [condemnAccessory, lockAccessory_alike alike]

theorem restockAccessory_stands {item : String} {quantity : Int64}
    {found : Entry .accessory Accessory} (later : s₀.Later s)
    (reads : (restockAccessory d ctx item quantity).read s₀ = .ok found) :
    (restockAccessory d ctx item quantity).Stands found s := by
  simp only [restockAccessory, Results.bind_ok, positive_ok, findAccessory_ok] at reads
  obtain ⟨_, positive, named, _⟩ := reads
  obtain ⟨e, again, here, alike⟩ := later.named named
  have now : (restockAccessory d ctx item quantity).read s =
      (s.authorize ctx .roomAdmin e.val.room (accessoryLabel e)).map fun _ => e := by
    simp only [restockAccessory, positive_bind positive, findAccessory_again again]
  refine .of_check ?_ now fun _ fails => lockAccessory_error here fails
  simp only [restockAccessory, lockAccessory_alike alike]

/-- A transaction that looks up an asset and its custody row and then fails at a permission over the
asset. -/
theorem lock_both_error {k k' : Kind} {α α' : Type} [Record k α] [Record k' α'] {e : Entry k α}
    {a : Entry k' α'} {check : Entry k α → Store → Except Refusal β}
    {rest : Entry k α → Entry k' α' → β → Tx γ} (here : s.row? e.id = some e)
    (there : s.row? a.id = some a) (fails : check e s = .error why) :
    (lock e >>= fun e => lock a >>= fun a => Tx.read (check e) >>= rest e a) s = .error why := by
  refine (Tx.bind_of_ok (lock_self here)).trans ?_
  exact (Tx.bind_of_ok (lock_self there)).trans (Tx.bind_of_error (Tx.read_error fails))

/-- A row that a reference names is named by it again. -/
theorem referred_again {k : Kind} {α : Type} [Record k α] [Named k] [Lasts k] {e : Entry k α}
    {id : Id k} (later : s₀.Later s) (found : s₀.row? id = some e) :
    ∃ again, s.numbered id = .ok again ∧ s.row? again.id = some again ∧ Alike e again := by
  obtain ⟨again, here, name⟩ := Lasts.keeps later.lasting id e found
  obtain ⟨_, rfl⟩ := Table.mem_of_get? here
  exact ⟨again, Store.numbered_ok.2 here, here, (Table.mem_of_get? found).2, name.symm⟩

/-- An assignment that was found by its public id is found again, and is one of the same accessory. -/
theorem assignment_again {assignment : String} {b : Entry .accessoryAssignment AccessoryAssignment}
    (later : s₀.Later s) (named : s₀.named? .accessoryAssignment assignment = some b) :
    ∃ a, s.named .accessoryAssignment assignment = .ok a ∧ s.row? a.id = some a ∧ Alike b a ∧
      a.val.accessory = b.val.accessory := by
  obtain ⟨a, again, there, alike⟩ := later.named named
  obtain ⟨a', here, kept⟩ := later.lasting.accessoryAssignments b.id b
    (later.before.accessoryAssignments.get?_of_find? named)
  obtain rfl : a' = a := Option.some.inj ((alike.id ▸ here).symm.trans there)
  exact ⟨a', again, there, alike, (Prod.mk.inj kept).2⟩

theorem returnAccessory_stands {assignment : String} {quantity : Int64}
    {found : Entry .accessory Accessory × Entry .accessoryAssignment AccessoryAssignment}
    (later : s₀.Later s)
    (reads : (returnAccessory d ctx assignment quantity).read s₀ = .ok found) :
    (returnAccessory d ctx assignment quantity).Stands found s := by
  simp only [returnAccessory, Results.bind_ok, positive_ok, Store.named_ok, Store.numbered_ok,
    Store.authorize_ok, Results.pure_ok] at reads
  obtain ⟨_, positive, b, named, _, item_found, _, _, rfl⟩ := reads
  obtain ⟨a, again, there, alike, of_item⟩ := assignment_again later named
  obtain ⟨e, item_again, here, item_alike⟩ := referred_again later item_found
  have now : (returnAccessory d ctx assignment quantity).read s =
      (s.authorize ctx .roomAdmin e.val.room (accessoryLabel e)).map fun _ => (e, a) := by
    simp only [returnAccessory, positive_bind positive, again, Results.ok_bind, of_item, item_again,
      Results.bind_pure]
  refine .of_check ?_ now fun _ fails => lock_both_error here there fails
  simp only [returnAccessory, lock_alike item_alike, lock_alike alike]

/-! ## Consumables -/

theorem findConsumable_again {required : Role} {item : String} {e : Entry .consumable Consumable}
    (again : s.named .consumable item = .ok e) :
    findConsumable ctx required item s =
      (s.authorize ctx required e.val.room (consumableLabel e)).map fun _ => e := by
  rw [findConsumable, again, Results.ok_bind, Results.bind_pure]

theorem lockConsumable_alike {found again : Entry .consumable Consumable}
    (alike : Alike found again) : lockConsumable ctx found = lockConsumable ctx again := by
  rw [lockConsumable, lockConsumable, lock_alike alike]

theorem lockConsumable_error {e : Entry .consumable Consumable}
    {rest : Entry .consumable Consumable → Tx β} (here : s.row? e.id = some e)
    (fails : s.authorize ctx .roomAdmin e.val.room (consumableLabel e) = .error why) :
    (lockConsumable ctx e >>= rest) s = .error why :=
  Tx.bind_of_error (lock_error here fails)

theorem issueConsumable_stands {item user : String} {quantity : Int64} {purpose : Option String}
    {found : Entry .consumable Consumable × Entry .user User} (later : s₀.Later s)
    (reads : (issueConsumable d ctx item user quantity purpose).read s₀ = .ok found) :
    (issueConsumable d ctx item user quantity purpose).Stands found s := by
  simp only [issueConsumable, Results.bind_ok, positive_ok, findConsumable_ok, Store.named_ok,
    Results.pure_ok] at reads
  obtain ⟨_, positive, _, ⟨item_named, _⟩, v, user_named, rfl⟩ := reads
  obtain ⟨e, item_again, here, item_alike⟩ := later.named item_named
  obtain ⟨u, user_again, _, user_alike⟩ := later.named user_named
  have name : v.val.publicId = u.val.publicId := user_alike.publicId
  have now : (issueConsumable d ctx item user quantity purpose).read s =
      (s.authorize ctx .roomAdmin e.val.room (consumableLabel e)).map fun _ => (e, u) := by
    simp only [issueConsumable, positive_bind positive, findConsumable_again item_again, user_again,
      Results.ok_bind, Results.map_bind_pure]
  refine .of_check ?_ now fun _ fails => lockConsumable_error here fails
  simp only [issueConsumable, lockConsumable_alike item_alike, user_alike.id, name]

theorem restockConsumable_stands {item : String} {quantity : Int64}
    {found : Entry .consumable Consumable} (later : s₀.Later s)
    (reads : (restockConsumable d ctx item quantity).read s₀ = .ok found) :
    (restockConsumable d ctx item quantity).Stands found s := by
  simp only [restockConsumable, Results.bind_ok, positive_ok, findConsumable_ok] at reads
  obtain ⟨_, positive, named, _⟩ := reads
  obtain ⟨e, again, here, alike⟩ := later.named named
  have now : (restockConsumable d ctx item quantity).read s =
      (s.authorize ctx .roomAdmin e.val.room (consumableLabel e)).map fun _ => e := by
    simp only [restockConsumable, positive_bind positive, findConsumable_again again]
  refine .of_check ?_ now fun _ fails => lockConsumable_error here fails
  simp only [restockConsumable, lockConsumable_alike alike]

theorem useConsumable_stands {item : String} {quantity : Int64}
    {found : Entry .consumable Consumable} (later : s₀.Later s)
    (reads : (useConsumable d ctx item quantity).read s₀ = .ok found) :
    (useConsumable d ctx item quantity).Stands found s := by
  simp only [useConsumable, Results.bind_ok, positive_ok, Store.named_ok, Results.pure_ok] at reads
  obtain ⟨_, positive, _, named, _, _, rfl⟩ := reads
  obtain ⟨e, again, here, alike⟩ := later.named named
  have now : (useConsumable d ctx item quantity).read s = (ownIssue ctx e s).map fun _ => e := by
    simp only [useConsumable, positive_bind positive, again, Results.ok_bind, Results.bind_pure]
  refine .of_check ?_ now fun _ fails => lock_error here fails
  simp only [useConsumable, lock_alike alike]

theorem reportLoss_stands {item : String} {quantity : Int64} {kind : LossKind}
    {found : Entry .consumable Consumable × Entry .user User} (later : s₀.Later s)
    (reads : (reportLoss d ctx item quantity kind).read s₀ = .ok found) :
    (reportLoss d ctx item quantity kind).Stands found s := by
  simp only [reportLoss, Results.bind_ok, positive_ok, Store.named_ok, Results.pure_ok] at reads
  obtain ⟨_, positive, _, named, _, _, _, caller_named, rfl⟩ := reads
  obtain ⟨e, again, here, alike⟩ := later.named named
  obtain ⟨u, caller_again, _, caller_alike⟩ := later.named caller_named
  have now : (reportLoss d ctx item quantity kind).read s =
      (ownIssue ctx e s).map fun _ => (e, u) := by
    simp only [reportLoss, positive_bind positive, again, caller_again, Results.ok_bind,
      Results.bind_pure]
  refine .of_check ?_ now fun _ fails => lock_error here fails
  simp only [reportLoss, lock_alike alike, reload_alike caller_alike]

/-- An issue that was found by its public id is found again, and is one of the same consumable. -/
theorem issue_again {issue : String} {j : Entry .consumableIssue ConsumableIssue}
    (later : s₀.Later s) (named : s₀.named? .consumableIssue issue = some j) :
    ∃ i, s.named .consumableIssue issue = .ok i ∧ s.row? i.id = some i ∧ Alike j i ∧
      i.val.consumable = j.val.consumable := by
  obtain ⟨i, again, there, alike⟩ := later.named named
  obtain ⟨i', here, kept⟩ := later.lasting.consumableIssues j.id j
    (later.before.consumableIssues.get?_of_find? named)
  obtain rfl : i' = i := Option.some.inj ((alike.id ▸ here).symm.trans there)
  exact ⟨i', again, there, alike, (Prod.mk.inj kept).2⟩

/-- An issue that was found with its consumable is found with it again. -/
theorem findIssue_again {issue : String}
    {found : Entry .consumable Consumable × Entry .consumableIssue ConsumableIssue}
    (later : s₀.Later s) (reads : findIssue ctx issue s₀ = .ok found) :
    ∃ e i, s.row? e.id = some e ∧ s.row? i.id = some i ∧ Alike found.1 e ∧ Alike found.2 i ∧
      findIssue ctx issue s =
        (s.authorize ctx .roomAdmin e.val.room (consumableLabel e)).map fun _ => (e, i) := by
  obtain ⟨named, item_found, _⟩ := findIssue_ok.1 reads
  obtain ⟨i, again, there, alike, of_item⟩ := issue_again later named
  obtain ⟨e, item_again, here, item_alike⟩ := referred_again later item_found
  refine ⟨e, i, here, there, item_alike, alike, ?_⟩
  simp only [findIssue, again, Results.ok_bind, of_item, item_again, Results.bind_pure]

theorem returnConsumable_stands {issue : String} {quantity : Int64}
    {found : Entry .consumable Consumable × Entry .consumableIssue ConsumableIssue}
    (later : s₀.Later s) (reads : (returnConsumable d ctx issue quantity).read s₀ = .ok found) :
    (returnConsumable d ctx issue quantity).Stands found s := by
  simp only [returnConsumable, Results.bind_ok, positive_ok] at reads
  obtain ⟨_, positive, reads⟩ := reads
  obtain ⟨e, i, here, there, item_alike, alike, again⟩ := findIssue_again later reads
  have now : (returnConsumable d ctx issue quantity).read s =
      (s.authorize ctx .roomAdmin e.val.room (consumableLabel e)).map fun _ => (e, i) := by
    simp only [returnConsumable, positive_bind positive, again]
  refine .of_check ?_ now fun _ fails => lock_both_error here there fails
  simp only [returnConsumable, lock_alike item_alike, lock_alike alike]

theorem recordLoss_stands {issue : String} {quantity : Int64} {kind : LossKind}
    {found : Entry .consumable Consumable × Entry .consumableIssue ConsumableIssue}
    (later : s₀.Later s) (reads : (recordLoss d ctx issue quantity kind).read s₀ = .ok found) :
    (recordLoss d ctx issue quantity kind).Stands found s := by
  simp only [recordLoss, Results.bind_ok, positive_ok] at reads
  obtain ⟨_, positive, reads⟩ := reads
  obtain ⟨e, i, here, there, item_alike, alike, again⟩ := findIssue_again later reads
  have now : (recordLoss d ctx issue quantity kind).read s =
      (s.authorize ctx .roomAdmin e.val.room (consumableLabel e)).map fun _ => (e, i) := by
    simp only [recordLoss, positive_bind positive, again]
  refine .of_check ?_ now fun _ fails => lock_both_error here there fails
  simp only [recordLoss, lock_alike item_alike, lock_alike alike]

end Custody

/-! ## All of them -/

/-- What an operation in two phases found stands for what it would find now, whatever happened since
then. -/
theorem CallerOp.stands {op : CallerOp} {p : Phased} {found : p.Found} (later : s₀.Later s)
    (phased : op.phases d ctx = some p) (reads : p.phases.read s₀ = .ok found) :
    p.phases.Stands found s := by
  cases op with
  | holdings | roles => cases phased
  | equipment op =>
    cases op with
    | get | list | history | register => cases phased
    | assign =>
      cases phased
      exact (Custody.assignEquipment_stands later reads).map
    | unassign =>
      cases phased
      exact (Custody.unassignEquipment_stands later reads).map
    | reassign =>
      cases phased
      exact (Custody.reassignEquipment_stands later reads).map
    | changeStatus =>
      cases phased
      exact (Custody.changeEquipmentStatus_stands later reads).map
  | accessories op =>
    cases op with
    | get | list | history | register => cases phased
    | assign =>
      cases phased
      exact (Custody.assignAccessory_stands later reads).map
    | takeBack =>
      cases phased
      exact (Custody.returnAccessory_stands later reads).map
    | condemn =>
      cases phased
      exact (Custody.condemnAccessory_stands later reads).map
    | restock =>
      cases phased
      exact (Custody.restockAccessory_stands later reads).map
  | consumables op =>
    cases op with
    | get | list | history | register => cases phased
    | issue =>
      cases phased
      exact (Custody.issueConsumable_stands later reads).map
    | use =>
      cases phased
      exact (Custody.useConsumable_stands later reads).map
    | takeBack =>
      cases phased
      exact (Custody.returnConsumable_stands later reads).map
    | recordLoss =>
      cases phased
      exact (Custody.recordLoss_stands later reads).map
    | reportLoss =>
      cases phased
      exact (Custody.reportLoss_stands later reads).map
    | restock =>
      cases phased
      exact (Custody.restockConsumable_stands later reads).map

end Quartermaster
