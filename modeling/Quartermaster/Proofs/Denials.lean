import Quartermaster.Proofs.Phases
import Quartermaster.Report

/-!
# Denied callers learn nothing

Fifteen operations on an asset ask for a rank over the asset's room before they look at anything
else: before the other arguments, the users they name, and what the store says of custody, status
and stock. A caller who lacks the rank is told the rank and the asset, and nothing that depends on
more.

1. `CallerOp.gate`: what an operation asks for first.
2. `CallerOp.denied`: who lacks that is told so, and nothing happens.
3. `CallerOp.denials_alike`: in two stores, two callers, with different arguments, are told the
   same.
-/

namespace Quartermaster

/-- A rank that is asked for over the room of an asset. -/
structure Gate where
  kind : AssetKind
  item : String
  required : Role
  deriving DecidableEq

namespace Gate

/-- What the asset is called. -/
def label (g : Gate) : String :=
  match g.kind with
  | .equipment => s!"equipment {g.item}"
  | .accessory => s!"accessory {g.item}"
  | .consumable => s!"consumable {g.item}"

/-- What somebody without the rank is told. -/
def refusal (g : Gate) : Refusal := .forbidden g.required g.label

/-- The room of the asset, if the asset is there; it may be in no room. -/
def room? (g : Gate) (s : Store) : Option (Option RoomId) :=
  match g.kind with
  | .equipment => (s.named? .equipment g.item).map (·.val.room)
  | .accessory => (s.named? .accessory g.item).map (·.val.room)
  | .consumable => (s.named? .consumable g.item).map (·.val.room)

/-- The asset is there, and the context lacks the rank over its room. -/
def Denies (g : Gate) (s : Store) (ctx : Context) : Prop :=
  ∃ room, g.room? s = some room ∧ s.links.permits ctx g.required (.inRoom room) = .ok false

end Gate

/-- What an operation asks for first. Handing an item to its own giver and counts that are not
positive are refused to everybody, before that. -/
def CallerOp.gate : CallerOp → Option Gate
  | .equipment (.get item) | .equipment (.history item) => some ⟨.equipment, item, .roomViewer⟩
  | .equipment (.assign item _ _) | .equipment (.unassign item _ _) =>
    some ⟨.equipment, item, .roomClerk⟩
  | .equipment (.reassign item fromUser toUser _) =>
    if fromUser = toUser then none else some ⟨.equipment, item, .roomClerk⟩
  | .equipment (.changeStatus item _ _) => some ⟨.equipment, item, .roomAdmin⟩
  | .accessories (.get item) | .accessories (.history item) => some ⟨.accessory, item, .roomViewer⟩
  | .accessories (.assign item _ quantity) | .accessories (.condemn item quantity)
  | .accessories (.restock item quantity) =>
    if 0 < quantity.toInt then some ⟨.accessory, item, .roomAdmin⟩ else none
  | .consumables (.get item) | .consumables (.history item) => some ⟨.consumable, item, .roomViewer⟩
  | .consumables (.issue item _ quantity _) | .consumables (.restock item quantity) =>
    if 0 < quantity.toInt then some ⟨.consumable, item, .roomAdmin⟩ else none
  | _ => none

section Denied

variable {d : Setting} {s : Store} {ctx : Context} {g : Gate}

/-! ## Looking for an asset -/

/-- Who lacks the rank over the room of a row is told so. -/
theorem Store.named_denied {k : Kind} {α : Type} [Record k α] [Named k] {item : String}
    {required : Role} {room : α → Option RoomId} {e : Entry k α} (label : String → String)
    (named : s.named? k item = some e)
    (denied : s.links.permits ctx required (.inRoom (room e.val)) = .ok false) :
    (do let e ← s.named k item
        s.authorize ctx required (room e.val) (label (Named.publicId k e.val))
        return e : Except Refusal (Entry k α)) = .error (.forbidden required (label item)) := by
  have spelled : Named.publicId k e.val = item := beq_iff_eq.1 (Table.mem_of_find? named).2
  have demanded : s.authorize ctx required (room e.val) (label item) =
      .error (.forbidden required (label item)) := by
    rw [Store.authorize, Ancestry.demand, denied]
    rfl
  rw [Store.named_ok.2 named, Results.ok_bind, spelled, demanded]
  rfl

namespace Gate.Denies

variable {required : Role} {item : String}

theorem findItem (h : Denies ⟨.equipment, item, required⟩ s ctx) :
    Custody.findItem ctx required item s = .error (refusal ⟨.equipment, item, required⟩) := by
  obtain ⟨_, there, denied⟩ := h
  obtain ⟨e, named, rfl⟩ := Option.map_eq_some_iff.1 there
  exact Store.named_denied (fun item => s!"equipment {item}") named denied

theorem findAccessory (h : Denies ⟨.accessory, item, required⟩ s ctx) :
    Custody.findAccessory ctx required item s = .error (refusal ⟨.accessory, item, required⟩) := by
  obtain ⟨_, there, denied⟩ := h
  obtain ⟨e, named, rfl⟩ := Option.map_eq_some_iff.1 there
  exact Store.named_denied (fun item => s!"accessory {item}") named denied

theorem findConsumable (h : Denies ⟨.consumable, item, required⟩ s ctx) :
    Custody.findConsumable ctx required item s =
      .error (refusal ⟨.consumable, item, required⟩) := by
  obtain ⟨_, there, denied⟩ := h
  obtain ⟨e, named, rfl⟩ := Option.map_eq_some_iff.1 there
  exact Store.named_denied (fun item => s!"consumable {item}") named denied

end Gate.Denies

/-! ## Operations -/

section Refused

variable {α β : Type} {why : Refusal}

theorem Results.bind_of_error {x : Except Refusal α} {f : α → Except Refusal β}
    (h : x = .error why) : (x >>= f) = .error why := by
  rw [h]
  rfl

/-- A read that is refused is the whole of an operation that only reads. -/
theorem Outcome.ofRead_refused {x : Except Refusal α} {f : α → Answer} (h : x = .error why) :
    Outcome.ofRead s (x.map f) = { answer := .error why, store := s } := by
  rw [h]
  rfl

/-- An operation that is refused in its first phase has no second. -/
theorem Setting.run_refused {p : TwoPhase β α} {f : α → Answer} (h : p.read s = .error why) :
    (d.run s p).mapOk f = { answer := .error why, store := s } := by
  rw [Setting.run, h]
  rfl

end Refused

theorem EquipmentOp.denied {op : EquipmentOp} (gated : (CallerOp.equipment op).gate = some g)
    (denied : g.Denies s ctx) : op.run d s ctx = { answer := .error g.refusal, store := s } := by
  cases op with
  | list | register => cases gated
  | get | history =>
    obtain rfl := Option.some.inj gated
    exact Outcome.ofRead_refused (Results.bind_of_error denied.findItem)
  | assign | unassign =>
    obtain rfl := Option.some.inj gated
    exact Setting.run_refused (Results.bind_of_error denied.findItem)
  | changeStatus =>
    obtain rfl := Option.some.inj gated
    exact Setting.run_refused denied.findItem
  | reassign item fromUser toUser notes =>
    simp only [CallerOp.gate] at gated
    split at gated
    · cases gated
    · next differ =>
      obtain rfl := Option.some.inj gated
      refine Setting.run_refused ?_
      simp only [Custody.reassignEquipment, if_neg differ]
      exact Results.bind_of_error denied.findItem

/-- A count that is positive is let through, and the rank is asked for next. -/
theorem CallerOp.gate_counted {quantity : Int64} {g' : Gate}
    (gated : (if 0 < quantity.toInt then some g' else none) = some g) :
    0 < quantity.toInt ∧ g' = g := by
  split at gated
  · next positive => exact ⟨positive, Option.some.inj gated⟩
  · cases gated

theorem AccessoryOp.denied {op : AccessoryOp} (gated : (CallerOp.accessories op).gate = some g)
    (denied : g.Denies s ctx) : op.run d s ctx = { answer := .error g.refusal, store := s } := by
  cases op with
  | list | register | takeBack => cases gated
  | get | history =>
    obtain rfl := Option.some.inj gated
    exact Outcome.ofRead_refused (Results.bind_of_error denied.findAccessory)
  | assign =>
    obtain ⟨positive, rfl⟩ := CallerOp.gate_counted gated
    exact Setting.run_refused <| (Custody.positive_bind positive).trans <|
      Results.bind_of_error denied.findAccessory
  | condemn | restock =>
    obtain ⟨positive, rfl⟩ := CallerOp.gate_counted gated
    exact Setting.run_refused ((Custody.positive_bind positive).trans denied.findAccessory)

theorem ConsumableOp.denied {op : ConsumableOp} (gated : (CallerOp.consumables op).gate = some g)
    (denied : g.Denies s ctx) : op.run d s ctx = { answer := .error g.refusal, store := s } := by
  cases op with
  | list | register | use | takeBack | recordLoss | reportLoss => cases gated
  | get | history =>
    obtain rfl := Option.some.inj gated
    exact Outcome.ofRead_refused (Results.bind_of_error denied.findConsumable)
  | issue =>
    obtain ⟨positive, rfl⟩ := CallerOp.gate_counted gated
    exact Setting.run_refused <| (Custody.positive_bind positive).trans <|
      Results.bind_of_error denied.findConsumable
  | restock =>
    obtain ⟨positive, rfl⟩ := CallerOp.gate_counted gated
    exact Setting.run_refused ((Custody.positive_bind positive).trans denied.findConsumable)

/-- Who lacks the rank that is asked for first is told so, and nothing happens. -/
theorem CallerOp.denied {op : CallerOp} (gated : op.gate = some g) (denied : g.Denies s ctx) :
    op.run d s ctx = { answer := .error g.refusal, store := s } := by
  cases op with
  | holdings | roles => cases gated
  | equipment op => exact EquipmentOp.denied gated denied
  | accessories op => exact AccessoryOp.denied gated denied
  | consumables op => exact ConsumableOp.denied gated denied

end Denied

/-! ## Two callers, two stores -/

/-- Two callers who lack the rank that is asked for first are told the same, in whatever stores,
under whatever bindings, and with whatever other arguments: the rank and the asset, and nothing
else. -/
theorem CallerOp.denials_alike {d d' : Setting} {s s' : Store} {ctx ctx' : Context}
    {op op' : CallerOp} {g : Gate} (gated : op.gate = some g) (gated' : op'.gate = some g)
    (denied : g.Denies s ctx) (denied' : g.Denies s' ctx') :
    op.run d s ctx = { answer := .error g.refusal, store := s } ∧
      op'.run d' s' ctx' = { answer := .error g.refusal, store := s' } ∧
      g.refusal.report.text = s!"Forbidden: requires {g.required.name} for {g.label}" :=
  ⟨CallerOp.denied gated denied, CallerOp.denied gated' denied', rfl⟩

/-- A vault with a lamp in it, and whatever is done there. -/
def vault (done : List Operation) : Store :=
  Store.serve {} {} <|
    [.directory (.bootstrap "root" "Root"),
     .directory (.createDepartment { publicId := some "bank", name := "Bank" }),
     .directory (.createLocation
       { publicId := some "cellar", name := "Cellar", parent := some "bank" }),
     .directory (.createRoom { publicId := some "vault", name := "Vault", parent := some "cellar" }),
     .directory (.createRoom { publicId := some "hall", name := "Hall", parent := some "cellar" }),
     .caller root (.equipment (.register
       { publicId := some "lamp", name := "Lamp", room := some "vault" }))] ++ done
where
  root : Context := { actor := ⟨⟨1⟩, "root", "Root"⟩, binding := some .siteAdmin }
  /-- Nobody that the store knows. -/
  stranger : Context := { actor := ⟨⟨7⟩, "eve", "Eve"⟩, binding := none }
  /-- A clerk of the other room. -/
  porter : Context :=
    { actor := ⟨⟨2⟩, "bob", "Bob"⟩, binding := some ⟨.roomClerk, .room ⟨2⟩, .inl rfl⟩ }
  quiet : Store := vault []
  /-- The lamp is with bob, and then in repair. -/
  busy : Store := vault
    [.directory (.createUser { publicId := some "bob", displayName := "Bob", room := some "vault" }),
     .caller root (.equipment (.assign "lamp" "bob" none)),
     .caller root (.equipment (.changeStatus "lamp" .underRepair none))]

/-- A stranger who asks to hand the lamp to an unknown user, and a porter who asks to hand on what
he has already, are told the same. -/
theorem vault_denials_alike :
    vault.quiet.users.entries.length = 1 ∧ vault.busy.users.entries.length = 2 ∧
      ∃ why : Refusal, why.report.text = "Forbidden: requires ROOM_CLERK for equipment lamp" ∧
        (EquipmentOp.assign "lamp" "nobody" none).run {} vault.quiet vault.stranger =
          { answer := .error why, store := vault.quiet } ∧
        (EquipmentOp.reassign "lamp" "bob" "root" (some "urgent")).run {} vault.busy vault.porter =
          { answer := .error why, store := vault.busy } := by
  have denies (s : Store) (ctx : Context)
      (denied : (Gate.room? ⟨.equipment, "lamp", .roomClerk⟩ s).map
        (fun room => (s.links.permits ctx .roomClerk (.inRoom room)).toOption) =
          some (some false)) : Gate.Denies ⟨.equipment, "lamp", .roomClerk⟩ s ctx := by
    obtain ⟨room, there, denied⟩ := Option.map_eq_some_iff.1 denied
    exact ⟨room, there, Results.toOption_iff.1 denied⟩
  have by_stranger : (CallerOp.equipment (.assign "lamp" "nobody" none)).gate =
      some ⟨.equipment, "lamp", .roomClerk⟩ := rfl
  have by_porter : (CallerOp.equipment (.reassign "lamp" "bob" "root" (some "urgent"))).gate =
      some ⟨.equipment, "lamp", .roomClerk⟩ := by decide
  obtain ⟨quiet, busy, words⟩ := CallerOp.denials_alike by_stranger by_porter
    (denies vault.quiet vault.stranger (by decide +kernel))
    (denies vault.busy vault.porter (by decide +kernel))
  exact ⟨by decide +kernel, by decide +kernel, _, words, quiet, busy⟩

end Quartermaster
