import Quartermaster.Proofs.Independence.Equipment
import Quartermaster.Proofs.Independence.Accessory
import Quartermaster.Proofs.Independence.Consumable

/-!
# The one asset of an operation

An operation on custody is about one asset (`CallerOp.asset`), and about the same one later
(`CallerOp.asset_lasts`).

1. `CallerOp.same_but`: all it changes is the file of that asset.
2. `CallerOp.run_twins`: what comes of it depends on that asset and on what is around, and on nothing
   else.
3. `Asset.agrees`: the two fit together. What is about one asset leaves all that an operation about
   another depends on.
-/

namespace Quartermaster

/-- An asset, by its kind and its public id. -/
structure Asset where
  kind : AssetKind
  publicId : String
  deriving DecidableEq

/-- The asset that an operation on custody is about. Units that are given back or lost are of the
asset of their custody row. -/
def CallerOp.asset (s : Store) : CallerOp → Option Asset
  | .equipment op => op.item.map (⟨.equipment, ·⟩)
  | .accessories op => (op.item s).map (⟨.accessory, ·⟩)
  | .consumables op => (op.item s).map (⟨.consumable, ·⟩)
  | .holdings | .roles _ => none

/-- The row under the id is the asset. -/
def Asset.Is (a : Asset) (kind : AssetKind) (s : Store) {k : Kind} {α : Type} [Record k α] [Named k]
    (id : Id k) : Prop :=
  a.kind = kind ∧ s.Calls id a.publicId

/-- Everything is as it was, but for the file of one asset. -/
structure Store.SameBut (a : Asset) (s s' : Store) : Prop where
  around : s'.around = s.around
  equipment : ∀ id, ¬ a.Is .equipment s id → s'.equipmentFile id = s.equipmentFile id
  accessories : ∀ id, ¬ a.Is .accessory s id → s'.accessoryFile id = s.accessoryFile id
  consumables : ∀ id, ¬ a.Is .consumable s id → s'.consumableFile id = s.consumableFile id

/-- One store came about after the other. -/
structure Store.Before (s s' : Store) : Prop where
  equipment : After Store.equipmentShelf s s'
  accessories : After Store.accessoryShelf s s'
  consumables : After Store.consumableShelf s s'

namespace Asset

/-- Two stores agree on all that an operation about the asset depends on. -/
def Agrees (a : Asset) (s t : Store) : Prop :=
  match a.kind with
  | .equipment => Quartermaster.Agrees Store.equipmentShelf a.publicId s t
  | .accessory => Quartermaster.Agrees Store.accessoryShelf a.publicId s t
  | .consumable => Quartermaster.Agrees Store.consumableShelf a.publicId s t

/-- Two outcomes of an operation about the asset. -/
def Twins (a : Asset) (b : Store) (o o' : Outcome (Except Refusal Answer)) : Prop :=
  match a.kind with
  | .equipment => o.Twins b Store.equipmentShelf a.publicId o'
  | .accessory => o.Twins b Store.accessoryShelf a.publicId o'
  | .consumable => o.Twins b Store.consumableShelf a.publicId o'

end Asset

variable {d : Setting} {ctx : Context} {s s' t : Store} {a : Asset}

/-! ## What is left alone -/

theorem Store.sameBut_refl : Store.SameBut a s s :=
  ⟨rfl, fun _ _ => rfl, fun _ _ => rfl, fun _ _ => rfl⟩

/-- What is the same for all but one row is the same for all that are not the asset. -/
theorem Asset.same_of_others {k : Kind} {α β : Type} [Record k α] [Named k] [Lasts k]
    {kind : AssetKind} {item : String} {before after : Id k → β} {id : Id k} (sound : s.Sound)
    (others : ∃ e, s.named? k item = some e ∧ ∀ other, other ≠ e.id → after other = before other)
    (elsewhere : ¬ Asset.Is ⟨kind, item⟩ kind s id) : after id = before id := by
  obtain ⟨e, named, others⟩ := others
  refine others id fun same => elsewhere ⟨rfl, ?_⟩
  rw [same]
  exact Store.calls_of_named sound named

theorem EquipmentStep.same_but {op : EquipmentOp} {done : Committed Answer} {item : String}
    (step : EquipmentStep ctx s op done s') (sound : s.Sound) (about : op.item = some item) :
    Store.SameBut ⟨.equipment, item⟩ s s' where
  around := by rw [step.frame]; rfl
  equipment _ := Asset.same_of_others sound (step.others sound about)
  accessories _ _ := by rw [step.frame]; rfl
  consumables _ _ := by rw [step.frame]; rfl

theorem AccessoryStep.same_but {op : AccessoryOp} {done : Committed Answer} {item : String}
    (step : AccessoryStep ctx s op done s') (sound : s.Sound) (about : op.item s = some item) :
    Store.SameBut ⟨.accessory, item⟩ s s' where
  around := by rw [step.frame]; rfl
  equipment _ _ := by rw [step.frame]; rfl
  accessories _ := Asset.same_of_others sound (step.others sound about)
  consumables _ _ := by rw [step.frame]; rfl

theorem ConsumableStep.same_but {op : ConsumableOp} {done : Committed Answer} {item : String}
    (step : ConsumableStep d ctx s op done s') (sound : s.Sound) (about : op.item s = some item) :
    Store.SameBut ⟨.consumable, item⟩ s s' where
  around := by rw [step.frame]; rfl
  equipment _ _ := by rw [step.frame]; rfl
  accessories _ _ := by rw [step.frame]; rfl
  consumables _ := Asset.same_of_others sound (step.others sound about)

/-- An operation on custody, whether it is refused or not, changes at most the file of its asset. -/
theorem CallerOp.same_but {op : CallerOp} (sound : s.Sound) (about : op.asset s = some a) :
    Store.SameBut a s (op.run d s ctx).store := by
  cases answered : (op.run d s ctx).answer with
  | error why =>
    have refused : (Operation.run d s (.caller ctx op)).Void s := Operation.run_error answered
    have untouched : (op.run d s ctx).store = s := refused.store
    rw [untouched]
    exact Store.sameBut_refl
  | ok answer =>
    obtain ⟨done, s', step, _, out⟩ := CallerOp.run_ok sound answered
    rw [out]
    cases step with
    | holdings | roles => cases about
    | equipment step =>
      obtain ⟨item, named, rfl⟩ := Option.map_eq_some_iff.1 about
      exact step.same_but sound named
    | accessories step =>
      obtain ⟨item, named, rfl⟩ := Option.map_eq_some_iff.1 about
      exact step.same_but sound named
    | consumables step =>
      obtain ⟨item, named, rfl⟩ := Option.map_eq_some_iff.1 about
      exact step.same_but sound named

/-! ## What it depends on -/

theorem EquipmentOp.run_twins {op : EquipmentOp} {item : String} (about : op.item = some item)
    (h : Agrees Store.equipmentShelf item s t) :
    (op.run d s ctx).Twins s Store.equipmentShelf item (op.run d t ctx) := by
  cases op with
  | get | list | history | register => cases about
  | assign =>
    cases about
    exact Custody.assignEquipment_twins h
  | unassign =>
    cases about
    exact Custody.unassignEquipment_twins h
  | reassign =>
    cases about
    exact Custody.reassignEquipment_twins h
  | changeStatus =>
    cases about
    exact Custody.changeEquipmentStatus_twins h

theorem AccessoryOp.run_twins {op : AccessoryOp} {item : String} (about : op.item s = some item)
    (h : Agrees Store.accessoryShelf item s t) :
    (op.run d s ctx).Twins s Store.accessoryShelf item (op.run d t ctx) := by
  cases op with
  | get | list | history | register => cases about
  | assign =>
    cases about
    exact Custody.assignAccessory_twins h
  | takeBack =>
    obtain ⟨a, a_named, about⟩ := Option.bind_eq_some_iff.1 about
    obtain ⟨e, found, about⟩ := Option.bind_eq_some_iff.1 about
    cases about
    exact Custody.returnAccessory_twins a_named found h
  | condemn =>
    cases about
    exact Custody.condemnAccessory_twins h
  | restock =>
    cases about
    exact Custody.restockAccessory_twins h

theorem ConsumableOp.run_twins {op : ConsumableOp} {item : String} (about : op.item s = some item)
    (h : Agrees Store.consumableShelf item s t) :
    (op.run d s ctx).Twins s Store.consumableShelf item (op.run d t ctx) := by
  cases op with
  | get | list | history | register => cases about
  | issue =>
    cases about
    exact Custody.issueConsumable_twins h
  | use =>
    cases about
    exact Custody.useConsumable_twins h
  | takeBack =>
    obtain ⟨i, i_named, about⟩ := Option.bind_eq_some_iff.1 about
    obtain ⟨e, found, about⟩ := Option.bind_eq_some_iff.1 about
    cases about
    exact Custody.returnConsumable_twins i_named found h
  | recordLoss =>
    obtain ⟨i, i_named, about⟩ := Option.bind_eq_some_iff.1 about
    obtain ⟨e, found, about⟩ := Option.bind_eq_some_iff.1 about
    cases about
    exact Custody.recordLoss_twins i_named found h
  | reportLoss =>
    cases about
    exact Custody.reportLoss_twins h
  | restock =>
    cases about
    exact Custody.restockConsumable_twins h

/-- An operation on custody comes to the same in two stores that agree on its asset. -/
theorem CallerOp.run_twins {op : CallerOp} (about : op.asset s = some a) (h : a.Agrees s t) :
    a.Twins s (op.run d s ctx) (op.run d t ctx) := by
  cases op with
  | holdings | roles => cases about
  | equipment op =>
    obtain ⟨item, named, rfl⟩ := Option.map_eq_some_iff.1 about
    exact EquipmentOp.run_twins named h
  | accessories op =>
    obtain ⟨item, named, rfl⟩ := Option.map_eq_some_iff.1 about
    exact AccessoryOp.run_twins named h
  | consumables op =>
    obtain ⟨item, named, rfl⟩ := Option.map_eq_some_iff.1 about
    exact ConsumableOp.run_twins named h

/-! ## Later -/

section Shelves

variable {k kc ke : Kind} {α β γ : Type} {shelf : Store → Shelf k kc ke α β γ} {name : String}

variable [About k β] [About k γ] [Record k α] [Record kc β] [Record ke γ] [Named k]

/-- An asset is as it was where only another one was changed. -/
theorem Unmoved.of_files [Lasts k] [kept : Kept shelf] {kind : AssetKind} (later : s.Later t)
    (files : ∀ id, ¬ a.Is kind s id → (shelf t).file id = (shelf s).file id)
    (different : a ≠ ⟨kind, name⟩) : Unmoved shelf name s t := by
  have spared {id : Id k} (called : t.Calls id name) : (shelf t).file id = (shelf s).file id := by
    refine files id fun ⟨same_kind, is_asset⟩ => different ?_
    rw [← same_kind, ← (later.lasting.calls is_asset).unique called]
  have row {id : Id k} (called : t.Calls id name) : t.row? id = s.row? id := by
    have same := congrArg AssetFile.row (spared called)
    simp only [Shelf.file, kept.items] at same
    exact same
  refine ⟨Option.ext fun e => ⟨fun named => ?_, fun named => ?_⟩, fun e named => ?_⟩
  · have called := later.lasting.calls (Store.calls_of_named later.before named)
    refine Store.named_of_calls later.sound ?_ called
    rw [row called]
    exact Store.row_of_named later.before named
  · have called := Store.calls_of_named later.sound named
    have here := Store.row_of_named later.sound named
    rw [row called] at here
    have own : Named.publicId k e.val = name := beq_iff_eq.1 (Table.mem_of_find? named).2
    exact Store.named_of_calls later.before here ⟨e, here, own⟩
  · exact (spared (later.lasting.calls (Store.calls_of_named later.before named))).symm

end Shelves

theorem Asset.agrees_refl (sound : s.Sound) : a.Agrees s s := by
  obtain ⟨kind, publicId⟩ := a
  cases kind with
  | equipment => exact Agrees.refl sound
  | accessory => exact Agrees.refl sound
  | consumable => exact Agrees.refl sound

/-- What changes one asset leaves all that an operation about another depends on. -/
theorem Asset.agrees {other : Asset} (later : s.Later t) (before : s.Before t)
    (left : Store.SameBut other s t) (different : other ≠ a) : a.Agrees s t := by
  obtain ⟨kind, publicId⟩ := a
  cases kind with
  | equipment =>
    exact ⟨later.before, later.sound, left.around.symm, before.equipment,
      .of_files later left.equipment different⟩
  | accessory =>
    exact ⟨later.before, later.sound, left.around.symm, before.accessories,
      .of_files later left.accessories different⟩
  | consumable =>
    exact ⟨later.before, later.sound, left.around.symm, before.consumables,
      .of_files later left.consumables different⟩

theorem CallerOp.before {op : CallerOp} (sound : s.Sound) (about : op.asset s = some a) :
    s.Before (op.run d s ctx).store := by
  have own : a.Twins s (op.run d s ctx) (op.run d s ctx) :=
    CallerOp.run_twins about (Asset.agrees_refl sound)
  cases answered : (op.run d s ctx).answer with
  | error why =>
    have refused : (Operation.run d s (.caller ctx op)).Void s := Operation.run_error answered
    have untouched : (op.run d s ctx).store = s := refused.store
    rw [untouched]
    exact ⟨.refl, .refl, .refl⟩
  | ok answer =>
    obtain ⟨done, s', step, _, out⟩ := CallerOp.run_ok sound answered
    rw [out] at own ⊢
    cases step with
    | holdings | roles => cases about
    | equipment step =>
      obtain ⟨item, _, rfl⟩ := Option.map_eq_some_iff.1 about
      have own : After Store.equipmentShelf s s' := Outcome.Twins.after own
      exact ⟨own, .of_same own.clock (by rw [step.frame]; rfl),
        .of_same own.clock (by rw [step.frame]; rfl)⟩
    | accessories step =>
      obtain ⟨item, _, rfl⟩ := Option.map_eq_some_iff.1 about
      have own : After Store.accessoryShelf s s' := Outcome.Twins.after own
      exact ⟨.of_same own.clock (by rw [step.frame]; rfl), own,
        .of_same own.clock (by rw [step.frame]; rfl)⟩
    | consumables step =>
      obtain ⟨item, _, rfl⟩ := Option.map_eq_some_iff.1 about
      have own : After Store.consumableShelf s s' := Outcome.Twins.after own
      exact ⟨.of_same own.clock (by rw [step.frame]; rfl),
        .of_same own.clock (by rw [step.frame]; rfl), own⟩

/-- Units that are given back are of the accessory that they were of. -/
theorem AccessoryOp.item_lasts {op : AccessoryOp} {item : String} (later : s.Later s')
    (about : op.item s = some item) : op.item s' = some item := by
  cases op with
  | get | list | history | register | assign | condemn | restock => exact about
  | takeBack =>
    obtain ⟨a, a_named, about⟩ := Option.bind_eq_some_iff.1 about
    obtain ⟨e, found, about⟩ := Option.bind_eq_some_iff.1 about
    cases about
    obtain ⟨a', again, _, _, of_item⟩ := Custody.assignment_again later a_named
    obtain ⟨e', here, called⟩ := later.lasting.accessories _ e found
    rw [AccessoryOp.item_takeBack (Store.named_ok.1 again) (of_item ▸ here)]
    exact congrArg some called

theorem ConsumableOp.item_lasts {op : ConsumableOp} {item : String} (later : s.Later s')
    (about : op.item s = some item) : op.item s' = some item := by
  cases op with
  | get | list | history | register | issue | use | reportLoss | restock => exact about
  | takeBack =>
    obtain ⟨i, i_named, about⟩ := Option.bind_eq_some_iff.1 about
    obtain ⟨e, found, about⟩ := Option.bind_eq_some_iff.1 about
    cases about
    obtain ⟨i', again, _, _, of_item⟩ := Custody.issue_again later i_named
    obtain ⟨e', here, called⟩ := later.lasting.consumables _ e found
    rw [ConsumableOp.item_takeBack (Store.named_ok.1 again) (of_item ▸ here)]
    exact congrArg some called
  | recordLoss =>
    obtain ⟨i, i_named, about⟩ := Option.bind_eq_some_iff.1 about
    obtain ⟨e, found, about⟩ := Option.bind_eq_some_iff.1 about
    cases about
    obtain ⟨i', again, _, _, of_item⟩ := Custody.issue_again later i_named
    obtain ⟨e', here, called⟩ := later.lasting.consumables _ e found
    rw [ConsumableOp.item_recordLoss (Store.named_ok.1 again) (of_item ▸ here)]
    exact congrArg some called

/-- An operation is about the asset that it was about. -/
theorem CallerOp.asset_lasts {op : CallerOp} (later : s.Later s') (about : op.asset s = some a) :
    op.asset s' = some a := by
  cases op with
  | holdings | roles => cases about
  | equipment op => exact about
  | accessories op =>
    obtain ⟨item, named, rfl⟩ := Option.map_eq_some_iff.1 about
    exact Option.map_eq_some_iff.2 ⟨item, AccessoryOp.item_lasts later named, rfl⟩
  | consumables op =>
    obtain ⟨item, named, rfl⟩ := Option.map_eq_some_iff.1 about
    exact Option.map_eq_some_iff.2 ⟨item, ConsumableOp.item_lasts later named, rfl⟩


end Quartermaster
