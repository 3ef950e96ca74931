import Quartermaster.Proofs.Independence.Frame
import Quartermaster.Proofs.Traffic

/-!
# Operations on different assets

Two operations on custody that are about different assets may be carried out in either order. Each of
them leaves the other's asset as it is, and each comes to the same whether the other came first or not:
the same answer or refusal, the same events and deliveries, the same row of its asset, custody rows and
ledger. Only what is new may be called otherwise, under another id or public id, at another time.

1. `Call.indifferent`: a call is indifferent to one that came first, if that was about another asset.
2. `Store.files_commute`: the files that two such calls leave are the same in either order.
3. `Reachable.calls_commute`.
-/

namespace Quartermaster

namespace Call

/-- The store after the call. -/
def leaves (c : Call) (s : Store) : Store := (c.run s).store

/-- The asset that the call is about. -/
def asset (c : Call) (s : Store) : Option Asset :=
  match c.op with
  | .directory _ => none
  | .caller _ op => op.asset s

/-- The call leaves all but its own asset, and comes to the same, whether the other call came first or
not. -/
structure Indifferent (c other : Call) (a : Asset) (s : Store) : Prop where
  alone : Store.SameBut a s (c.leaves s)
  second : Store.SameBut a (other.leaves s) (c.leaves (other.leaves s))
  outcome : (c.run s).Alike s (c.run (other.leaves s))

end Call

/-- The same tree and people, and the same file of every asset, but for what is new since `b`. -/
structure Store.SameFiles (b s t : Store) : Prop where
  around : s.around = t.around
  equipment : ∀ id, (s.equipmentFile id).since b = (t.equipmentFile id).since b
  accessories : ∀ id, (s.accessoryFile id).since b = (t.accessoryFile id).since b
  consumables : ∀ id, (s.consumableFile id).since b = (t.consumableFile id).since b

/-- The two calls may be made in either order. -/
structure Store.Commute (s : Store) (c₁ c₂ : Call) (a₁ a₂ : Asset) : Prop where
  first : c₁.Indifferent c₂ a₁ s
  second : c₂.Indifferent c₁ a₂ s
  files : Store.SameFiles s (c₂.leaves (c₁.leaves s)) (c₁.leaves (c₂.leaves s))

variable {s t : Store} {a a₁ a₂ : Asset} {c c₁ c₂ : Call}

/-! ## One call -/

namespace Call

theorem later (sound : s.Sound) : s.Later (c.leaves s) := by
  have run : Leads Anything s (c.leaves s) := .run c.setting c.op .refl trivial
  exact ⟨sound, run.sound sound, run.lasting sound⟩

theorem same_but (sound : s.Sound) (about : c.asset s = some a) :
    Store.SameBut a s (c.leaves s) := by
  obtain ⟨d, op⟩ := c
  cases op with
  | directory => cases about
  | caller ctx op => exact CallerOp.same_but sound about

theorem before (sound : s.Sound) (about : c.asset s = some a) : s.Before (c.leaves s) := by
  obtain ⟨d, op⟩ := c
  cases op with
  | directory => cases about
  | caller ctx op => exact CallerOp.before sound about

theorem asset_lasts (later : s.Later t) (about : c.asset s = some a) : c.asset t = some a := by
  obtain ⟨d, op⟩ := c
  cases op with
  | directory => cases about
  | caller ctx op => exact CallerOp.asset_lasts later about

/-- A call comes to the same after one that was about another asset. -/
theorem run_twins (sound : s.Sound) (about : c.asset s = some a) (about₁ : c₁.asset s = some a₁)
    (different : a₁ ≠ a) : a.Twins s (c.run s) (c.run (c₁.leaves s)) := by
  have agrees := Asset.agrees (later sound) (before sound about₁) (same_but sound about₁) different
  obtain ⟨d, op⟩ := c
  cases op with
  | directory => cases about
  | caller ctx op => exact CallerOp.run_twins about agrees

end Call

/-- The outcomes of an operation about an asset are alike. -/
theorem Asset.Twins.alike {o o' : Outcome (Except Refusal Answer)} (h : a.Twins s o o') :
    o.Alike s o' := by
  obtain ⟨kind, publicId⟩ := a
  cases kind with
  | equipment => exact Outcome.Twins.alike h
  | accessory => exact Outcome.Twins.alike h
  | consumable => exact Outcome.Twins.alike h

theorem Call.indifferent (sound : s.Sound) (about : c.asset s = some a)
    (about₁ : c₁.asset s = some a₁) (different : a₁ ≠ a) : c.Indifferent c₁ a s where
  alone := same_but sound about
  second := same_but (later sound).sound (asset_lasts (later sound) about)
  outcome := (run_twins sound about about₁ different).alike

/-! ## The files of both assets -/

namespace Asset

variable {k : Kind} {α : Type} [Record k α] [Named k] {kind : AssetKind} {id : Id k}

theorem Is.lasts [Lasts k] (h : a.Is kind s id) (later : s.Later t) : a.Is kind t id :=
  ⟨h.1, later.lasting.calls h.2⟩

theorem Is.unique {a' : Asset} (h : a.Is kind s id) (h' : a'.Is kind s id) : a = a' := by
  obtain ⟨kind, publicId⟩ := a
  obtain ⟨kind', publicId'⟩ := a'
  obtain ⟨rfl, called⟩ := h
  obtain ⟨rfl, called'⟩ := h'
  exact congrArg (Asset.mk _) (called.unique called')

end Asset

section Files

variable {k kc ke : Kind} {α β γ : Type} [About k β] [About k γ] [Record k α] [Record kc β]
  [Record ke γ] [Named k] [Lasts k] {shelf : Store → Shelf k kc ke α β γ} [kept : Kept shelf]
  {kind : AssetKind} {id : Id k}

/-- No row becomes an asset that it was not, where only another asset was changed. -/
theorem Asset.Is.was (later : s.Later t) (different : a ≠ a₁)
    (left : ∀ id, ¬ a.Is kind s id → (shelf t).file id = (shelf s).file id)
    (h : a₁.Is kind t id) : a₁.Is kind s id := by
  by_cases own : a.Is kind s id
  · exact absurd ((own.lasts later).unique h) different
  · have same := congrArg AssetFile.row (left id own)
    simp only [Shelf.file, kept.items] at same
    obtain ⟨same_kind, e, found, called⟩ := h
    exact ⟨same_kind, e, same.symm.trans found, called⟩

variable [Blurs α] [Blurs β] [Blurs γ]

variable (shelf) in
/-- The files of the assets of a shelf do not depend on which of two assets was changed first. -/
theorem Store.files_commute {s₁ s₂ s₁₂ s₂₁ : Store} (later₁ : s.Later s₁) (later₂ : s.Later s₂)
    (different : a₁ ≠ a₂)
    (left₁ : ∀ id, ¬ a₁.Is kind s id → (shelf s₁).file id = (shelf s).file id)
    (left₂ : ∀ id, ¬ a₂.Is kind s id → (shelf s₂).file id = (shelf s).file id)
    (left₁₂ : ∀ id, ¬ a₂.Is kind s₁ id → (shelf s₁₂).file id = (shelf s₁).file id)
    (left₂₁ : ∀ id, ¬ a₁.Is kind s₂ id → (shelf s₂₁).file id = (shelf s₂).file id)
    (same₁ : ∀ id, a₁.Is kind s id →
      ((shelf s₁).file id).since s = ((shelf s₂₁).file id).since s)
    (same₂ : ∀ id, a₂.Is kind s id →
      ((shelf s₂).file id).since s = ((shelf s₁₂).file id).since s) (id : Id k) :
    ((shelf s₁₂).file id).since s = ((shelf s₂₁).file id).since s := by
  have kept₂ (other : ¬ a₂.Is kind s id) : (shelf s₁₂).file id = (shelf s₁).file id :=
    left₁₂ id fun is_now => other (is_now.was later₁ different left₁)
  have kept₁ (other : ¬ a₁.Is kind s id) : (shelf s₂₁).file id = (shelf s₂).file id :=
    left₂₁ id fun is_now => other (is_now.was later₂ different.symm left₂)
  by_cases own₁ : a₁.Is kind s id
  · rw [kept₂ fun own₂ => different (own₁.unique own₂)]
    exact same₁ id own₁
  · by_cases own₂ : a₂.Is kind s id
    · rw [kept₁ own₁]
      exact (same₂ id own₂).symm
    · rw [kept₁ own₁, kept₂ own₂, left₁ id own₁, left₂ id own₂]

end Files

namespace Asset.Twins

variable {o o' : Outcome (Except Refusal Answer)}

theorem equipment (h : a.Twins s o o') (sound : s.Sound) (id : EquipmentId)
    (is_asset : a.Is .equipment s id) :
    (o.store.equipmentFile id).since s = (o'.store.equipmentFile id).since s := by
  obtain ⟨kind, publicId⟩ := a
  cases is_asset.1
  exact Outcome.Twins.file h sound is_asset.2

theorem accessories (h : a.Twins s o o') (sound : s.Sound) (id : AccessoryId)
    (is_asset : a.Is .accessory s id) :
    (o.store.accessoryFile id).since s = (o'.store.accessoryFile id).since s := by
  obtain ⟨kind, publicId⟩ := a
  cases is_asset.1
  exact Outcome.Twins.file h sound is_asset.2

theorem consumables (h : a.Twins s o o') (sound : s.Sound) (id : ConsumableId)
    (is_asset : a.Is .consumable s id) :
    (o.store.consumableFile id).since s = (o'.store.consumableFile id).since s := by
  obtain ⟨kind, publicId⟩ := a
  cases is_asset.1
  exact Outcome.Twins.file h sound is_asset.2

end Asset.Twins

/-- Calls about different assets may be made in either order. -/
theorem Reachable.calls_commute (h : Reachable s) (about₁ : c₁.asset s = some a₁)
    (about₂ : c₂.asset s = some a₂) (different : a₁ ≠ a₂) : s.Commute c₁ c₂ a₁ a₂ where
  first := Call.indifferent h.sound about₁ about₂ different.symm
  second := Call.indifferent h.sound about₂ about₁ different
  files := by
    have later₁ := Call.later (c := c₁) h.sound
    have later₂ := Call.later (c := c₂) h.sound
    have left₁ := Call.same_but h.sound about₁
    have left₂ := Call.same_but h.sound about₂
    have left₁₂ := Call.same_but later₁.sound (Call.asset_lasts later₁ about₂)
    have left₂₁ := Call.same_but later₂.sound (Call.asset_lasts later₂ about₁)
    have twins₁ := Call.run_twins h.sound about₁ about₂ different.symm
    have twins₂ := Call.run_twins h.sound about₂ about₁ different
    refine ⟨?_, ?_, ?_, ?_⟩
    · rw [left₁₂.around, left₁.around, left₂₁.around, left₂.around]
    · exact Store.files_commute Store.equipmentShelf later₁ later₂ different left₁.equipment
        left₂.equipment left₁₂.equipment left₂₁.equipment (twins₁.equipment h.sound)
        (twins₂.equipment h.sound)
    · exact Store.files_commute Store.accessoryShelf later₁ later₂ different left₁.accessories
        left₂.accessories left₁₂.accessories left₂₁.accessories (twins₁.accessories h.sound)
        (twins₂.accessories h.sound)
    · exact Store.files_commute Store.consumableShelf later₁ later₂ different left₁.consumables
        left₂.consumables left₁₂.consumables left₂₁.consumables (twins₁.consumables h.sound)
        (twins₂.consumables h.sound)

/-- Pens and clips, of which nobody has any. -/
def stationery : Store :=
  Store.serve {} {}
    [.directory (.bootstrap "root" "Root"),
     .caller root (.accessories (.register
       { publicId := some "pens", name := "Pens", quantity := 10 })),
     .caller root (.accessories (.register
       { publicId := some "clips", name := "Clips", quantity := 50 }))]
where
  root : Context := { actor := ⟨⟨1⟩, "root", "Root"⟩, binding := some .siteAdmin }
  /-- Both are handed to the same user. -/
  pens : Call := ⟨{}, .caller root (.accessories (.assign "pens" "root" 4))⟩
  clips : Call := ⟨{}, .caller root (.accessories (.assign "clips" "root" 20))⟩

/-- The custody rows change places with the order, and neither call can tell which came first. -/
theorem stationery_calls_commute :
    (stationery.clips.leaves (stationery.pens.leaves stationery)).accessoryAssignments.entries.map
        (fun a => (a.id.row, a.val.accessory.row)) = [(1, 1), (2, 2)] ∧
      (stationery.pens.leaves (stationery.clips.leaves stationery)).accessoryAssignments.entries.map
        (fun a => (a.id.row, a.val.accessory.row)) = [(1, 2), (2, 1)] ∧
      stationery.Commute stationery.pens stationery.clips ⟨.accessory, "pens"⟩
        ⟨.accessory, "clips"⟩ := by
  have reachable : Reachable stationery := Reachable.serve (.seeded (.empty 0 0 0))
  exact ⟨by decide +kernel, by decide +kernel, reachable.calls_commute rfl rfl (by decide)⟩

end Quartermaster
