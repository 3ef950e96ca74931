import Mathlib.Algebra.BigOperators.Group.List.Basic
import Mathlib.Algebra.Ring.Int.Defs
import Mathlib.Data.List.Nodup
import Quartermaster.Proofs.Linked
import Quartermaster.Proofs.Visibility

/-!
# All views tell one story

Who has an item is told in three ways. A look-up takes the open assignment and then its holder, a
listing joins the items with the open assignments and these with the users, and what somebody is
shown of their own is gathered from the assignments to them. The units on the shelf are told by a
look-up and by a listing, and the units off the shelf by the holdings of all users together.

1. `Store.held_ok`: holdings can be told, and of an asset they show the open custody rows of the
   user. It takes that every custody row is of an asset that is there.
2. `Table.totalOf_fibers`: the units of all rows are those of each holder, summed. It takes that
   every row has a holder who is there.
3. `Reachable.views_agree`.
-/

namespace Quartermaster

/-- What is shown of one asset among what somebody holds. -/
def shownOf {Asset Custody : Type} [DecidableEq Asset] (asset : Asset)
    (held : List (Asset × Custody)) : List Custody :=
  (held.filter (·.1 = asset)).map (·.2)

/-- The answer to a look-up of an asset, and its rows in a listing. Who is no viewer of its room is
told of it by neither. For a viewer it has one row, which says the same as the answer. -/
structure Viewed (s : Store) (ctx : Context) (room : Option RoomId) (label : String)
    {Custody Row : Type} (looked : Except Refusal Custody) (listed : List Row)
    (same : Custody → Row → Prop) : Prop where
  shown : s.Permits ctx .roomViewer room →
    ∃ custody row, looked = .ok custody ∧ listed = [row] ∧ same custody row
  hidden : ¬s.Permits ctx .roomViewer room →
    looked = .error (.forbidden .roomViewer label) ∧ listed = []

namespace Store

/-- What a user is shown of their own: of every asset the open custody rows of the user, and nothing
of what is no asset. -/
structure Shows (s : Store) (u : UserId) (held : Holdings) : Prop where
  answered : s.holdings u = .ok held
  items : ∀ shown ∈ held.equipment, shown.1 ∈ s.equipment.entries
  accessories : ∀ shown ∈ held.accessories, shown.1 ∈ s.accessories.entries
  consumables : ∀ shown ∈ held.consumables, shown.1 ∈ s.consumables.entries
  ofItem : ∀ e ∈ s.equipment.entries, shownOf e held.equipment =
    (s.equipmentAssignments.filter fun a => a.equipment == e.id && a.isOpen).filter
      (·.val.holder == u)
  ofAccessory : ∀ e ∈ s.accessories.entries, shownOf e held.accessories =
    (s.accessoryAssignments.filter fun a => a.accessory == e.id && a.isOpen).filter
      (·.val.holder == u)
  ofConsumable : ∀ e ∈ s.consumables.entries, shownOf e held.consumables =
    (s.consumableIssues.filter fun i => i.consumable == e.id && i.isOpen).filter
      (·.val.holder == u)

/-- The look-up and the listing say of an item that it has the given holder, or none, and it is
shown to that user alone, once. -/
structure TellsItem (s : Store) (held : UserId → Holdings) (e : Entry .equipment Equipment)
    (holder : Option String) : Prop where
  viewed : ∀ ctx, Viewed s ctx e.val.room (Custody.itemLabel e)
    (Custody.getEquipment ctx e.val.publicId s)
    ((Custody.listEquipment ctx s).filter (·.item = e)) fun custody row =>
      custody.item = e ∧ row.item = e ∧ custody.holder = holder ∧ row.holder = holder ∧
        custody.isAssigned = row.holder.isSome
  own : ∀ u ∈ s.users.entries, (shownOf e (held u.id).equipment).length =
    if holder = some u.val.publicId then 1 else 0
  alone : holder.isSome → ∃! u, u ∈ s.users.entries ∧ shownOf e (held u.id).equipment ≠ []

/-- The look-up and the listing say of an accessory that the given units are on the shelf, and the
others are shown to users, to each in one row at most. -/
structure TellsAccessory (s : Store) (held : UserId → Holdings) (e : Entry .accessory Accessory)
    (available : Int) : Prop where
  viewed : ∀ ctx, ∃ listed, Custody.listAccessories ctx s = .ok listed ∧
    Viewed s ctx e.val.room (Custody.accessoryLabel e)
      (Custody.getAccessory ctx e.val.publicId s) (listed.filter (·.item = e)) fun custody row =>
        custody.item = e ∧ row.item = e ∧ custody.available = available ∧ row.available = available
  own : ∀ u ∈ s.users.entries, (shownOf e (held u.id).accessories).length ≤ 1
  total : e.val.quantity = available +
    (s.users.entries.map fun u =>
      Table.totalOf (·.quantity) (shownOf e (held u.id).accessories)).sum

/-- The look-up and the listing show the row of a consumable, from which both take its stock and
whether that is low. A user is shown one issue of it at most, with units left and no more of them
than were issued. -/
structure TellsConsumable (s : Store) (held : UserId → Holdings)
    (e : Entry .consumable Consumable) : Prop where
  viewed : ∀ ctx, Viewed s ctx e.val.room (Custody.consumableLabel e)
    (Custody.getConsumable ctx e.val.publicId s)
    ((Custody.listConsumables ctx s).filter (·.item = e)) fun custody row =>
      custody.item = e ∧ row.item = e ∧ custody.item.val.quantity = row.item.val.quantity ∧
        custody.item.val.isLowStock = row.item.val.isLowStock
  own : ∀ u ∈ s.users.entries, (shownOf e (held u.id).consumables).length ≤ 1 ∧
    ∀ i ∈ shownOf e (held u.id).consumables,
      1 ≤ i.val.quantity ∧ i.val.quantity ≤ i.val.issuedQuantity

variable {s : Store} {ctx : Context}

theorem userPublicId_of_row {id : UserId} {u : Entry .user User} (found : s.row? id = some u) :
    s.userPublicId (some id) = some u.val.publicId := by
  unfold userPublicId
  rw [Option.bind_some, found]
  rfl

/-! ## Look-ups and listings -/

theorem permits_viewer_iff {room : Option RoomId} :
    s.Permits ctx .roomViewer room ↔ ctx.condition.admits s room = true := by
  rw [Permits, permits_listed, Except.ok.injEq]

end Store

open Store

variable {s : Store} {ctx : Context}

theorem Viewed.of_condition {room : Option RoomId} {label : String} {Custody Row : Type}
    {looked : Except Refusal Custody} {listed : List Row} {same : Custody → Row → Prop}
    {custody : Custody} {row : Row}
    (looks : looked = if ctx.condition.admits s room then .ok custody
      else .error (.forbidden .roomViewer label))
    (lists : listed = if ctx.condition.admits s room then [row] else [])
    (agree : same custody row) : Viewed s ctx room label looked listed same where
  shown permitted := by
    rw [permits_viewer_iff] at permitted
    rw [if_pos permitted] at looks lists
    exact ⟨custody, row, looks, lists, agree⟩
  hidden denied := by
    rw [permits_viewer_iff] at denied
    rw [if_neg denied] at looks lists
    exact ⟨looks, lists⟩

/-- A row that is selected is there once. -/
theorem Table.Numbered.filter_alone {k : Kind} {α : Type} [DecidableEq α] {t : Table k α}
    (numbered : t.Numbered) {e : Entry k α} (member : e ∈ t.entries) (p : α → Bool) :
    (t.filter p).filter (· = e) = if p e.val then [e] else [] := by
  have once : t.entries.count e = 1 := by
    refine List.count_eq_one_of_mem ?_ member
    exact List.Nodup.of_map (fun x : Entry k α => x.id.row) (numbered.ascending.imp Int.ne_of_lt)
  rw [Table.filter, List.filter_comm, List.filter_eq, once]
  cases chosen : p e.val <;> simp [chosen]

namespace Custody

variable (ctx)

theorem getEquipment_of_mem {e : Entry .equipment Equipment} (sound : s.Sound)
    (member : e ∈ s.equipment.entries) : getEquipment ctx e.val.publicId s =
      if ctx.condition.admits s e.val.room then .ok {
        item := e
        isAssigned := (s.openEquipmentAssignment e.id).isSome
        holder := s.userPublicId ((s.openEquipmentAssignment e.id).map (·.val.holder))
        assignment := s.openEquipmentAssignment e.id }
      else .error (.forbidden .roomViewer (itemLabel e)) := by
  unfold getEquipment
  rw [findItem_of_mem sound member]
  split <;> rfl

theorem listEquipment_of_mem {e : Entry .equipment Equipment} (sound : s.Sound)
    (member : e ∈ s.equipment.entries) : (listEquipment ctx s).filter (·.item = e) =
      if ctx.condition.admits s e.val.room then [{
        item := e, room := s.roomPublicId e.val.room
        holder := s.userPublicId ((s.openEquipmentAssignment e.id).map (·.val.holder)) }]
      else [] := by
  unfold listEquipment Store.listEquipment
  rw [filter_flatMap_of (p := (· = e)) fun x row among => by
      rw [item_of_mem_equipmentListings among],
    sound.equipment.numbered.filter_alone member]
  split
  · rw [List.flatMap_singleton, equipmentListings_eq sound]
  · rfl

theorem listAccessories_of_mem {e : Entry .accessory Accessory} (reachable : Reachable s)
    (member : e ∈ s.accessories.entries) : ∃ listed, listAccessories ctx s = .ok listed ∧
      listed.filter (·.item = e) =
        if ctx.condition.admits s e.val.room then [accessoryListing s e] else [] := by
  refine ⟨_, listAccessories_eq reachable _, ?_⟩
  rw [List.filter_map]
  show ((s.accessories.filter fun a => ctx.condition.admits s a.room).filter (· = e)).map _ = _
  rw [reachable.sound.accessories.numbered.filter_alone member]
  split <;> rfl

theorem getConsumable_of_mem {e : Entry .consumable Consumable} (sound : s.Sound)
    (member : e ∈ s.consumables.entries) : getConsumable ctx e.val.publicId s =
      if ctx.condition.admits s e.val.room then .ok { item := e, issue := none }
      else .error (.forbidden .roomViewer (consumableLabel e)) := by
  unfold getConsumable
  rw [findConsumable_of_mem sound member]
  split <;> rfl

theorem listConsumables_of_mem {e : Entry .consumable Consumable} (sound : s.Sound)
    (member : e ∈ s.consumables.entries) : (listConsumables ctx s).filter (·.item = e) =
      if ctx.condition.admits s e.val.room
      then [{ item := e, room := s.roomPublicId e.val.room }] else [] := by
  unfold listConsumables Store.listConsumables
  rw [List.filter_map]
  show ((s.consumables.filter fun a => ctx.condition.admits s a.room).filter (· = e)).map _ = _
  rw [sound.consumables.numbered.filter_alone member]
  split <;> rfl

end Custody

/-! ## Holdings -/

namespace Store

/-- The open rows of a user that are of an asset are the open rows of the asset that are of the
user. -/
theorem filter_swap {c : Kind} {γ : Type} {t : Table c γ} (ofUser opened ofAsset : γ → Bool) :
    (t.filter fun a => ofUser a && opened a).filter (fun a => ofAsset a.val) =
      (t.filter fun a => ofAsset a && opened a).filter fun a => ofUser a.val := by
  unfold Table.filter
  rw [List.filter_filter, List.filter_filter]
  refine List.filter_congr fun a _ => ?_
  dsimp only
  ac_rfl

/-- Custody rows whose assets are there can be told with them, and of an asset are told those that
refer to it. -/
theorem held_ok {k c : Kind} {α γ : Type} [Record k α] [DecidableEq α]
    (numbered : (Record.table s : Table k α).Numbered) (asset : γ → Id k) (rows : List (Entry c γ))
    (there : ∀ a ∈ rows, (Record.table s : Table k α).has (asset a.val) = true) :
    ∃ held, (rows.mapM fun a => (s.numbered (asset a.val)).map (·, a)) = .ok held ∧
      (∀ shown ∈ held, shown.1 ∈ (Record.table s : Table k α).entries) ∧
      ∀ e ∈ (Record.table s : Table k α).entries,
        shownOf e held = rows.filter fun a => asset a.val == e.id := by
  induction rows with
  | nil => exact ⟨[], rfl, nofun, fun _ _ => rfl⟩
  | cons a rest ih =>
    obtain ⟨held, answered, stored, shown⟩ := ih fun b later => there b (List.mem_cons_of_mem _ later)
    obtain ⟨e, member, id⟩ := Table.has_iff.1 (there a (List.mem_cons_self ..))
    have found : s.numbered (asset a.val) = .ok e :=
      numbered_ok.2 (id ▸ numbered.get?_of_mem member)
    refine ⟨(e, a) :: held, ?_, ?_, fun x among => ?_⟩
    · rw [List.mapM_cons, found, answered]
      rfl
    · exact List.forall_mem_cons.2 ⟨member, stored⟩
    · have same : asset a.val = x.id ↔ e = x := by
        rw [← id]
        exact ⟨numbered.eq_of_id member among, fun eq => eq ▸ rfl⟩
      unfold shownOf at shown ⊢
      rw [List.filter_cons, List.filter_cons, ← shown x among]
      by_cases its : e = x
      · simp [its, same.2 its]
      · simp [its, mt same.1 its]

/-- The holdings of every user can be told. -/
theorem Linked.shows (linked : s.Linked) (sound : s.Sound) (u : UserId) :
    ∃ held, s.Shows u held := by
  obtain ⟨equipment, told, items, ofItem⟩ :=
    held_ok sound.equipment.numbered EquipmentAssignment.equipment
      (s.equipmentAssignments.filter fun a => a.holder == u && a.isOpen) fun _ among =>
        (linked.ends_of_equipment (Table.mem_filter.1 among).1).1
  obtain ⟨units, told', accessories, ofAccessory⟩ :=
    held_ok sound.accessories.numbered AccessoryAssignment.accessory
      (s.accessoryAssignments.filter fun a => a.holder == u && a.isOpen) fun _ among =>
        (linked.ends_of_accessory (Table.mem_filter.1 among).1).1
  obtain ⟨issues, told'', consumables, ofConsumable⟩ :=
    held_ok sound.consumables.numbered ConsumableIssue.consumable
      (s.consumableIssues.filter fun i => i.holder == u && i.isOpen) fun _ among =>
        (linked.ends_of_issue (Table.mem_filter.1 among).1).1
  refine ⟨⟨equipment, units, issues⟩, ?_, items, accessories, consumables, fun e member => ?_,
    fun e member => ?_, fun e member => ?_⟩
  · unfold holdings heldEquipment heldAccessories heldConsumables
    rw [told, told', told'']
    rfl
  · rw [ofItem e member]
    exact filter_swap (·.holder == u) EquipmentAssignment.isOpen (·.equipment == e.id)
  · rw [ofAccessory e member]
    exact filter_swap (·.holder == u) AccessoryAssignment.isOpen (·.accessory == e.id)
  · rw [ofConsumable e member]
    exact filter_swap (·.holder == u) ConsumableIssue.isOpen (·.consumable == e.id)

end Store

/-- The units of rows, whose holders are among the people, are those of each holder summed. -/
theorem Table.totalOf_fibers {k c : Kind} {α γ : Type} {people : List (Entry k α)}
    {f : γ → Int} (holder : γ → Id k) (apart : (people.map (·.id)).Nodup) (rows : List (Entry c γ))
    (known : ∀ a ∈ rows, holder a.val ∈ people.map (·.id)) :
    (people.map fun u => totalOf f (rows.filter (holder ·.val == u.id))).sum = totalOf f rows := by
  induction rows with
  | nil => simp [totalOf]
  | cons a rest ih =>
    have split (u : Entry k α) : totalOf f ((a :: rest).filter (holder ·.val == u.id)) =
        (if u.id = holder a.val then f a.val else 0) +
          totalOf f (rest.filter (holder ·.val == u.id)) := by
      rw [List.filter_cons]
      by_cases his : u.id = holder a.val
      · simp [his, totalOf]
      · simp [his, Ne.symm his]
    -- the first row is counted once, for its holder
    have once : (people.map fun u => if u.id = holder a.val then f a.val else 0).sum = f a.val := by
      have sums := List.sum_map_ite_eq (people.map (·.id)) (fun _ => f a.val) (fun _ => 0)
        (holder a.val)
      rw [List.map_map, List.count_eq_one_of_mem apart (known a (List.mem_cons_self ..))] at sums
      simpa [Function.comp_def] using sums
    simp only [split]
    rw [List.sum_map_add, once, ih fun b later => known b (List.mem_cons_of_mem _ later)]
    rfl

/-- Among the open custody rows of an asset, those of one user would share a unique key. -/
theorem Table.Sound.filter_filter_subsingleton {c : Kind} {γ : Type} [Record c γ] {t : Table c γ}
    {p : γ → Bool} (sound : t.Sound) (ofUser : γ → Bool)
    (keyed : ∀ a b, (p a && ofUser a) = true → (p b && ofUser b) = true →
      Record.clashes c b a = true) : ((t.filter p).filter (ofUser ·.val)).length ≤ 1 := by
  unfold Table.filter
  rw [List.filter_filter]
  exact sound.filter_subsingleton (p := fun a => ofUser a && p a) fun a _ b _ ha hb =>
    keyed a.val b.val (Bool.and_comm .. ▸ ha) (Bool.and_comm .. ▸ hb)

variable {held : UserId → Holdings}

theorem Reachable.tellsItem (reachable : Reachable s) (shows : ∀ u, s.Shows u (held u))
    {e : Entry .equipment Equipment} (member : e ∈ s.equipment.entries) :
    ∃ holder, s.TellsItem held e holder := by
  have sound := reachable.sound
  have own u : shownOf e (held u).equipment =
      (s.openEquipmentAssignment e.id).toList.filter (·.val.holder == u) := by
    rw [← openEquipmentAssignments_eq sound]
    exact (shows u).ofItem e member
  have looks ctx := Custody.getEquipment_of_mem ctx sound member
  have lists ctx := Custody.listEquipment_of_mem ctx sound member
  cases custody : s.openEquipmentAssignment e.id with
  | none =>
    simp only [custody] at own looks lists
    exact ⟨none, {
      viewed ctx := .of_condition (looks ctx) (lists ctx) ⟨rfl, rfl, rfl, rfl, rfl⟩
      own u _ := by
        rw [own]
        rfl
      alone := nofun }⟩
  | some a =>
    simp only [custody] at own looks lists
    have among := (Table.mem_of_find? custody).1
    obtain ⟨h, stored, same⟩ := Table.has_iff.1 (reachable.linked.ends_of_equipment among).2
    have told : s.userPublicId (some a.val.holder) = some h.val.publicId :=
      userPublicId_of_row (same ▸ sound.users.numbered.get?_of_mem stored)
    have his (u : Entry .user User) (member : u ∈ s.users.entries) :
        a.val.holder = u.id ↔ h = u := by
      rw [← same]
      exact ⟨sound.users.numbered.eq_of_id stored member, fun eq => eq ▸ rfl⟩
    refine ⟨some h.val.publicId, {
      viewed ctx := .of_condition (looks ctx) (lists ctx) ⟨rfl, rfl, told, told, ?_⟩
      own u member := ?_
      alone _ := ⟨h, ⟨stored, ?_⟩, fun u ⟨member, shown⟩ => ?_⟩ }⟩
    · show true = (s.userPublicId (some a.val.holder)).isSome
      rw [told]
      rfl
    · rw [own]
      by_cases is_holder : h = u
      · simp [is_holder, (his u member).2 is_holder]
      · have other : h.val.publicId ≠ u.val.publicId :=
          mt (eq_of_publicId (k := .user) sound.users stored member) is_holder
        simp [mt (his u member).1 is_holder, other]
    · rw [own]
      simp [same]
    · by_contra other
      rw [own] at shown
      simp [mt (his u member).1 (Ne.symm other)] at shown

theorem Reachable.tellsAccessory (reachable : Reachable s) (shows : ∀ u, s.Shows u (held u))
    {e : Entry .accessory Accessory} (member : e ∈ s.accessories.entries) :
    s.TellsAccessory held e (e.val.quantity - unitsOut s.accessoryAssignments e.id) where
  viewed ctx := by
    obtain ⟨listed, answered, lists⟩ := Custody.listAccessories_of_mem ctx reachable member
    exact ⟨listed, answered,
      .of_condition (Custody.getAccessory_eq reachable member) lists ⟨rfl, rfl, rfl, rfl⟩⟩
  own u _ := by
    rw [(shows u.id).ofAccessory e member]
    refine reachable.sound.accessoryAssignments.filter_filter_subsingleton (·.holder == u.id)
      fun a b ha hb => ?_
    simp only [Bool.and_eq_true, beq_iff_eq] at ha hb
    simp [Record.clashes, ha, hb]
  total := by
    have apart : (s.users.entries.map (·.id)).Nodup :=
      List.Nodup.of_map Id.row (by
        rw [List.map_map]
        exact reachable.sound.users.numbered.ascending.imp Int.ne_of_lt)
    have fibers := Table.totalOf_fibers (f := (·.quantity)) AccessoryAssignment.holder apart
      (s.accessoryAssignments.filter fun a => a.accessory == e.id && a.isOpen) fun a among => by
        obtain ⟨h, stored, same⟩ :=
          Table.has_iff.1 (reachable.linked.ends_of_accessory (Table.mem_filter.1 among).1).2
        exact List.mem_map.2 ⟨h, stored, same⟩
    simp only [(shows _).ofAccessory e member]
    rw [fibers]
    exact (Int.sub_add_cancel _ _).symm

theorem Reachable.tellsConsumable (reachable : Reachable s) (shows : ∀ u, s.Shows u (held u))
    {e : Entry .consumable Consumable} (member : e ∈ s.consumables.entries) :
    s.TellsConsumable held e where
  viewed ctx :=
    .of_condition (Custody.getConsumable_of_mem ctx reachable.sound member)
      (Custody.listConsumables_of_mem ctx reachable.sound member) ⟨rfl, rfl, rfl, rfl⟩
  own u _ := by
    have issues := reachable.sound.consumableIssues
    rw [(shows u.id).ofConsumable e member]
    refine ⟨issues.filter_filter_subsingleton (·.holder == u.id) fun a b ha hb => ?_,
      fun i among => ?_⟩
    · simp only [Bool.and_eq_true, beq_iff_eq] at ha hb
      simp [Record.clashes, ha, hb]
    · obtain ⟨stored, chosen⟩ := Table.mem_filter.1 (List.mem_filter.1 among).1
      simp only [Bool.and_eq_true] at chosen
      obtain ⟨_, at_most, at_least, _⟩ :=
        (ConsumableIssue.holds_opened chosen.2).1 (issues.valid i stored).2
      exact ⟨at_least, at_most⟩

/-- In every reachable store, a look-up, the listing and what users are shown of their own tell of
every item one holder at most, of every accessory where its units are, and of every consumable one
stock. -/
theorem Reachable.views_agree (reachable : Reachable s) :
    ∃ held : UserId → Holdings, (∀ u, s.Shows u (held u)) ∧
      (∀ e ∈ s.equipment.entries, ∃ holder, s.TellsItem held e holder) ∧
      (∀ e ∈ s.accessories.entries, ∃ available, s.TellsAccessory held e available) ∧
      ∀ e ∈ s.consumables.entries, s.TellsConsumable held e := by
  choose held shows using reachable.linked.shows reachable.sound
  exact ⟨held, shows, fun _ => reachable.tellsItem shows,
    fun _ member => ⟨_, reachable.tellsAccessory shows member⟩,
    fun _ => reachable.tellsConsumable shows⟩

/-- A workshop where ann gave the drill back and bob has it now, and both have some of ten bits. -/
def workshop : Store :=
  Store.serve {} {}
    [.directory (.bootstrap "root" "Root"),
     .directory (.createUser { publicId := some "ann", displayName := "Ann" }),
     .directory (.createUser { publicId := some "bob", displayName := "Bob" }),
     .caller root (.equipment (.register { publicId := some "drill", name := "Drill" })),
     .caller root (.equipment (.assign "drill" "ann" none)),
     .caller root (.equipment (.unassign "drill" "ann" none)),
     .caller root (.equipment (.assign "drill" "bob" none)),
     .caller root (.accessories (.register
       { publicId := some "bits", name := "Bits", quantity := 10 })),
     .caller root (.accessories (.assign "bits" "ann" 3)),
     .caller root (.accessories (.assign "bits" "bob" 1)),
     .caller root (.accessories (.assign "bits" "bob" 1))]
where
  root : Context := { actor := ⟨⟨1⟩, "root", "Root"⟩, binding := some .siteAdmin }

/-- All that is told of the drill is that bob has it, and of the bits that five are on the shelf. -/
theorem workshop_views_agree : ∃ held : UserId → Holdings, (∀ u, workshop.Shows u (held u)) ∧
    (∃ drill ∈ workshop.equipment.entries, workshop.TellsItem held drill (some "bob")) ∧
    ∃ bits ∈ workshop.accessories.entries, workshop.TellsAccessory held bits 5 := by
  have reachable : Reachable workshop := Reachable.serve (.seeded (.empty 0 0 0))
  obtain ⟨held, shows, items, accessories, _⟩ := reachable.views_agree
  obtain ⟨one_item, one_accessory, drills, bits⟩ :
      workshop.equipment.entries ≠ [] ∧ workshop.accessories.entries ≠ [] ∧
        (Custody.listEquipment workshop.root workshop).map (·.holder) = [some "bob"] ∧
        (Custody.listAccessories workshop.root workshop).map (·.map (·.available)) = .ok [5] := by
    decide +kernel
  -- the rest holds of any store in which this is listed
  generalize workshop = s at *
  obtain ⟨drill, stored⟩ := List.exists_mem_of_ne_nil _ one_item
  obtain ⟨bit, stored'⟩ := List.exists_mem_of_ne_nil _ one_accessory
  refine ⟨held, shows, ⟨drill, stored, ?_⟩, bit, stored', ?_⟩
  · obtain ⟨holder, tells⟩ := items drill stored
    obtain ⟨_, row, _, alone, _, _, _, told, _⟩ :=
      (tells.viewed workshop.root).shown (permits_viewer_iff.2 rfl)
    have listed := List.mem_map_of_mem (f := EquipmentListing.holder)
      (List.mem_filter.1 (alone ▸ List.mem_singleton_self row)).1
    rw [drills, told, List.mem_singleton] at listed
    exact listed ▸ tells
  · obtain ⟨available, tells⟩ := accessories bit stored'
    obtain ⟨rows, answered, viewed⟩ := tells.viewed workshop.root
    obtain ⟨_, row, _, alone, _, _, _, told⟩ := viewed.shown (permits_viewer_iff.2 rfl)
    have listed := List.mem_map_of_mem (f := AccessoryListing.available)
      (List.mem_filter.1 (alone ▸ List.mem_singleton_self row)).1
    rw [answered] at bits
    have all : rows.map (·.available) = [5] := Except.ok.inj bits
    rw [all, told, List.mem_singleton] at listed
    exact listed ▸ tells

end Quartermaster
