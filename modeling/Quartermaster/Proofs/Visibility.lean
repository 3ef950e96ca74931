import Quartermaster.Proofs.Custody.Backed
import Quartermaster.Proofs.Selection

/-!
# Listing and looking up show the same

A listing keeps what a condition on the room admits; a look-up asks for the viewer's rank over the
room. The two are decided in different ways, and agree on every asset of a reachable store, whoever
asks and under whatever binding: one that is resolved afresh, one that was kept from an earlier
state, or none.

1. `Store.authorize_viewer`: the viewer's rank is refused just where the condition admits nothing.
2. `Custody.listEquipment_items`, `Custody.listAccessories_ok`, `Custody.listConsumables_items`: a
   listing is the rows that the condition admits. That it shows no item twice beside its
   assignments takes that an item has at most one open assignment; that it does not fail, that the
   units in custody are backed.
3. `Reachable.listings_agree`.
-/

namespace Quartermaster

/-- The rows of a kind that are listed are those that a look-up by public id finds, each once and in
ascending order of ids. Of all other rows a look-up says that they are forbidden. -/
structure Agree {k : Kind} {α : Type} [Record k α] [Named k] (s : Store)
    (label : Entry k α → String) (listed : List (Entry k α))
    (find : String → Except Refusal (Entry k α)) : Prop where
  stored : ∀ e ∈ listed, e ∈ (Record.table s : Table k α).entries
  ascending : (listed.map (·.id.row)).Pairwise (· < ·)
  shown : ∀ e ∈ (Record.table s : Table k α).entries, e ∈ listed →
    find (Named.publicId k e.val) = .ok e
  hidden : ∀ e ∈ (Record.table s : Table k α).entries, e ∉ listed →
    find (Named.publicId k e.val) = .error (.forbidden .roomViewer (label e))

variable {s : Store} {ctx : Context}

/-- The viewer's rank is refused just where the condition for listings admits nothing. -/
theorem Store.authorize_viewer {room : Option RoomId} {label : String} :
    s.authorize ctx .roomViewer room label =
      if ctx.condition.admits s room then .ok () else .error (.forbidden .roomViewer label) := by
  unfold authorize Ancestry.demand
  rw [permits_listed]
  rfl

/-- A listing of what the condition admits agrees with a look-up that asks for the viewer's rank. -/
theorem Agree.of_condition {k : Kind} {α : Type} [Record k α] [Named k]
    {label : Entry k α → String} {find : String → Except Refusal (Entry k α)}
    (room : α → Option RoomId) (sound : (Record.table s : Table k α).Sound)
    (answers : ∀ e ∈ (Record.table s : Table k α).entries, find (Named.publicId k e.val) =
      if ctx.condition.admits s (room e.val) then .ok e
      else .error (.forbidden .roomViewer (label e))) :
    Agree s label ((Record.table s : Table k α).filter fun a => ctx.condition.admits s (room a))
      find where
  stored e listed := (Table.mem_filter.1 listed).1
  ascending := sound.numbered.ascending.sublist (List.filter_sublist.map _)
  shown e member listed := by
    rw [answers e member, if_pos (Table.mem_filter.1 listed).2]
  hidden e member unlisted := by
    rw [answers e member, if_neg fun admitted => unlisted (Table.mem_filter.2 ⟨member, admitted⟩)]

/-- What is answered to somebody who looks for a row as a viewer. -/
theorem Store.named_viewer {k : Kind} {α : Type} [Record k α] [Named k] {publicId : String}
    {e : Entry k α} (room : α → Option RoomId) (label : Entry k α → String)
    (named : s.named k publicId = .ok e) :
    (do let e ← s.named k publicId
        s.authorize ctx .roomViewer (room e.val) (label e)
        return e : Except Refusal (Entry k α)) =
      if ctx.condition.admits s (room e.val) then .ok e
      else .error (.forbidden .roomViewer (label e)) := by
  rw [named]
  show (s.authorize ctx .roomViewer (room e.val) (label e) >>= fun _ => .ok e) = _
  rw [authorize_viewer]
  split <;> rfl

namespace Store

/-- Rows that are selected by what they are of are the rows of what is selected. -/
theorem filter_flatMap_of {α β : Type} {f : α → List β} {p : α → Bool} {q : β → Bool}
    (rows : ∀ a, ∀ b ∈ f a, q b = p a) (l : List α) :
    (l.flatMap f).filter q = (l.filter p).flatMap f := by
  induction l with
  | nil => rfl
  | cons a rest ih =>
    rw [List.flatMap_cons, List.filter_append, ih, List.filter_cons]
    cases chosen : p a with
    | true =>
      rw [List.filter_eq_self.2 fun b among => (rows a b among).trans chosen]
      rfl
    | false =>
      rw [List.filter_eq_nil_iff.2 fun b among => by rw [rows a b among, chosen]; nofun]
      rfl

theorem item_of_mem_equipmentListings {e : Entry .equipment Equipment} {row : EquipmentListing}
    (among : row ∈ s.equipmentListings e) : row.item = e := by
  unfold equipmentListings at among
  split at among
  · rw [List.mem_singleton.1 among]
  · obtain ⟨_, _, rfl⟩ := List.mem_map.1 among
    rfl

theorem openEquipmentAssignments_eq (sound : s.Sound) (item : EquipmentId) :
    s.openEquipmentAssignments item = (s.openEquipmentAssignment item).toList := by
  -- two open assignments of one item would share a unique key
  have alone : (s.openEquipmentAssignments item).length ≤ 1 :=
    sound.equipmentAssignments.filter_subsingleton fun a _ b _ ha hb => by
      simp only [Bool.and_eq_true, beq_iff_eq] at ha hb
      simp only [Record.clashes, ha, hb, beq_self_eq_true, Bool.and_true, Bool.or_true]
  have first : s.openEquipmentAssignment item = (s.openEquipmentAssignments item).head? :=
    Table.find?_eq_head?
  rw [first]
  match held : s.openEquipmentAssignments item with
  | [] => rfl
  | [_] => rfl
  | _ :: _ :: _ => simp [held] at alone

/-- An item has one row in the listing, whether somebody has it or not. -/
theorem equipmentListings_eq (sound : s.Sound) (e : Entry .equipment Equipment) :
    s.equipmentListings e =
      [{ item := e, room := s.roomPublicId e.val.room
         holder := s.userPublicId ((s.openEquipmentAssignment e.id).map (·.val.holder)) }] := by
  unfold equipmentListings
  rw [openEquipmentAssignments_eq sound]
  cases s.openEquipmentAssignment e.id <;> rfl

end Store

namespace Custody

/-! ## Equipment -/

theorem getEquipment_item {item : String} :
    (getEquipment ctx item s).map (·.item) = findItem ctx .roomViewer item s := by
  unfold getEquipment
  cases findItem ctx .roomViewer item s <;> rfl

theorem findItem_of_mem {e : Entry .equipment Equipment} (sound : s.Sound)
    (member : e ∈ s.equipment.entries) : findItem ctx .roomViewer e.val.publicId s =
      if ctx.condition.admits s e.val.room then .ok e
      else .error (.forbidden .roomViewer (itemLabel e)) :=
  Store.named_viewer Equipment.room itemLabel
    (Store.named_of_mem sound.equipment member)

theorem listEquipment_items (sound : s.Sound) :
    (listEquipment ctx s).map (·.item) =
      s.equipment.filter fun e => ctx.condition.admits s e.room := by
  unfold listEquipment Store.listEquipment
  rw [List.map_flatMap]
  simp only [Store.equipmentListings_eq sound, List.map_singleton]
  exact List.flatMap_singleton' _

/-! ## Accessories -/

/-- The units on the shelf can be told, so a look-up of an accessory fails for want of rank alone. -/
theorem getAccessory_eq {e : Entry .accessory Accessory} (reachable : Reachable s)
    (member : e ∈ s.accessories.entries) : getAccessory ctx e.val.publicId s =
      if ctx.condition.admits s e.val.room then .ok {
        item := e, available := e.val.quantity - unitsOut s.accessoryAssignments e.id
        assignment := none }
      else .error (.forbidden .roomViewer (accessoryLabel e)) := by
  have found : findAccessory ctx .roomViewer e.val.publicId s = _ :=
    Store.named_viewer Accessory.room accessoryLabel
      (Store.named_of_mem reachable.sound.accessories member)
  unfold getAccessory
  rw [found]
  split
  · show (s.available e >>= _) = _
    rw [reachable.available member]
    rfl
  · rfl

theorem getAccessory_of_mem {e : Entry .accessory Accessory} (reachable : Reachable s)
    (member : e ∈ s.accessories.entries) :
    (getAccessory ctx e.val.publicId s).map (·.item) =
      if ctx.condition.admits s e.val.room then .ok e
      else .error (.forbidden .roomViewer (accessoryLabel e)) := by
  rw [getAccessory_eq reachable member]
  split <;> rfl

/-- The row of an accessory in a listing. -/
def accessoryListing (s : Store) (item : Entry .accessory Accessory) : AccessoryListing :=
  { item, room := s.roomPublicId item.val.room
    available := item.val.quantity - unitsOut s.accessoryAssignments item.id }

/-- Every condition has its listing. -/
theorem listAccessories_eq (reachable : Reachable s) (c : Condition) :
    s.listAccessories c =
      .ok ((s.accessories.filter fun e => c.admits s e.room).map (accessoryListing s)) := by
  refine Results.mapM_ok fun e admitted => ?_
  rw [reachable.available (Table.mem_filter.1 admitted).1]
  rfl

theorem listAccessories_ok (reachable : Reachable s) (ctx : Context) :
    ∃ rows, listAccessories ctx s = .ok rows ∧
      rows.map (·.item) = s.accessories.filter fun e => ctx.condition.admits s e.room := by
  refine ⟨_, listAccessories_eq reachable _, ?_⟩
  rw [List.map_map]
  exact List.map_id _

/-! ## Consumables -/

theorem getConsumable_item {item : String} :
    (getConsumable ctx item s).map (·.item) = findConsumable ctx .roomViewer item s := by
  unfold getConsumable
  cases findConsumable ctx .roomViewer item s <;> rfl

theorem findConsumable_of_mem {e : Entry .consumable Consumable} (sound : s.Sound)
    (member : e ∈ s.consumables.entries) : findConsumable ctx .roomViewer e.val.publicId s =
      if ctx.condition.admits s e.val.room then .ok e
      else .error (.forbidden .roomViewer (consumableLabel e)) :=
  Store.named_viewer Consumable.room consumableLabel
    (Store.named_of_mem sound.consumables member)

theorem listConsumables_items :
    (listConsumables ctx s).map (·.item) =
      s.consumables.filter fun e => ctx.condition.admits s e.room := by
  unfold listConsumables Store.listConsumables
  rw [List.map_map]
  exact List.map_id _

end Custody

/-- For each kind of asset, whoever asks is shown in a listing just what a look-up would find, once
and in order; and what the condition for listings says is what the check of the rank says. -/
theorem Reachable.listings_agree (reachable : Reachable s) (ctx : Context) :
    Agree s Custody.itemLabel ((Custody.listEquipment ctx s).map (·.item))
      (fun item => (Custody.getEquipment ctx item s).map (·.item)) ∧
    (∃ rows, Custody.listAccessories ctx s = .ok rows ∧
      Agree s Custody.accessoryLabel (rows.map (·.item))
        fun item => (Custody.getAccessory ctx item s).map (·.item)) ∧
    Agree s Custody.consumableLabel ((Custody.listConsumables ctx s).map (·.item))
      (fun item => (Custody.getConsumable ctx item s).map (·.item)) ∧
    ∀ room, s.links.permits ctx .roomViewer (.inRoom room) =
      .ok (ctx.condition.truth s room == some true) := by
  have sound := reachable.sound
  refine ⟨?_, ?_, ?_, fun room => ?_⟩
  · rw [Custody.listEquipment_items sound]
    refine Agree.of_condition Equipment.room sound.equipment fun e member => ?_
    rw [Custody.getEquipment_item]
    exact Custody.findItem_of_mem sound member
  · obtain ⟨rows, listed, items⟩ := Custody.listAccessories_ok reachable ctx
    refine ⟨rows, listed, ?_⟩
    rw [items]
    exact Agree.of_condition Accessory.room sound.accessories fun e member =>
      Custody.getAccessory_of_mem reachable member
  · rw [Custody.listConsumables_items]
    refine Agree.of_condition Consumable.room sound.consumables fun e member => ?_
    rw [Custody.getConsumable_item]
    exact Custody.findConsumable_of_mem sound member
  · rw [Store.permits_listed]
    congr 1
    rw [Bool.eq_iff_iff, beq_iff_eq]
    exact (Condition.truth_iff sound).symm

/-- A lamp in a room of the physics department, lent to somebody, and a desk in no room. The barn
names no department, so it is refused, and with it the loft and the crate. -/
def scattered : Store :=
  Store.serve {} {}
    [.directory (.createDepartment { publicId := some "physics", name := "Physics" }),
     .directory (.createLocation
       { publicId := some "lab", name := "Lab", parent := some "physics" }),
     .directory (.createLocation { publicId := some "barn", name := "Barn" }),
     .directory (.createRoom { publicId := some "dark", name := "Dark room", parent := some "lab" }),
     .directory (.createRoom { publicId := some "loft", name := "Loft", parent := some "barn" }),
     .directory (.bootstrap "root" "Root"),
     .caller root (.equipment (.register
       { publicId := some "crate", name := "Crate", room := some "loft" })),
     .caller root (.equipment (.register
       { publicId := some "lamp", name := "Lamp", room := some "dark" })),
     .caller root (.equipment (.register { publicId := some "desk", name := "Desk" })),
     .directory (.moveUser "root" (some "dark")),
     .caller root (.equipment (.assign "lamp" "root" none))]
where
  root : Context := { actor := ⟨⟨1⟩, "root", "Root"⟩, binding := some .siteAdmin }
  guest : Context :=
    { actor := ⟨⟨2⟩, "guest", "Guest"⟩
      binding := some ⟨.departmentViewer, .department ⟨1⟩, .inl rfl⟩ }

/-- A viewer of the physics department is shown the lamp, once although it is lent, and not the
desk. -/
theorem scattered_listings_agree :
    ((Custody.listEquipment scattered.guest scattered).map (·.item)).map (·.val.publicId) =
        ["lamp"] ∧
      ∀ e ∈ scattered.equipment.entries, e.val.publicId ≠ "lamp" →
        (Custody.getEquipment scattered.guest e.val.publicId scattered).map (·.item) =
          .error (.forbidden .roomViewer (Custody.itemLabel e)) := by
  have reachable : Reachable scattered := Reachable.serve (.seeded (.empty 0 0 0))
  have agree := (reachable.listings_agree scattered.guest).1
  have names : ((Custody.listEquipment scattered.guest scattered).map (·.item)).map
      (·.val.publicId) = ["lamp"] := by decide +kernel
  -- what is left holds of any store, and this one would be computed at each step
  generalize scattered = s at agree names ⊢
  refine ⟨names, fun e member other => agree.hidden e member fun shown => other ?_⟩
  have named := List.mem_map_of_mem (f := (·.val.publicId)) shown
  rw [names] at named
  exact List.mem_singleton.1 named

end Quartermaster
