import Mathlib.Data.List.Basic
import Quartermaster.Proofs.DeadBindings
import Quartermaster.Proofs.Visibility

/-!
# Deleting a node

A node can always be deleted. It is taken out of its table, every reference to it is cleared, and
nothing else changes (`Store.pruned` says this in one formula for nodes of every tier). What the
tree has then is less than it had, so nobody covers more than before.

1. `Store.without_eq_pruned`: deletion comes to that formula.
2. `Store.Sound.unblocked`: every row that is changed meets the rules of the storage beside every
   other row, as that one was and as it becomes. So no rule stands in the way, in whatever order the
   references are cleared.
3. `Store.covers_pruned`: coverage in the tree that is left is coverage in the tree that was.
4. `Store.showsLess`: no listing gains an asset.
5. `Reachable.deletes_node`.
-/

namespace Quartermaster

/-! ## What deletion leaves -/

/-- What is left of a reference to a kind of node when one is gone. -/
def Scope.clears {k : Kind} (gone : Scope) (node : Id k → Scope) (reference : Option (Id k)) :
    Option (Id k) :=
  reference.filter fun id => node id != gone

/-- The table of a kind of node when one is gone. -/
def Scope.drops {k : Kind} {α : Type} (gone : Scope) (node : Id k → Scope) (t : Table k α) :
    Table k α :=
  { t with entries := t.entries.filter fun e => node e.id != gone }

/-! Every row that may refer to a node, without the references to one. -/

def Location.pruned (l : Location) (gone : Scope) : Location :=
  { l with department := gone.clears .department l.department }

def Room.pruned (r : Room) (gone : Scope) : Room :=
  { r with location := gone.clears .location r.location }

def User.pruned (u : User) (gone : Scope) : User := { u with room := gone.clears .room u.room }

def RoleAssignment.pruned (a : RoleAssignment) (gone : Scope) : RoleAssignment :=
  { a with columns :=
    { department := gone.clears .department a.columns.department
      location := gone.clears .location a.columns.location
      room := gone.clears .room a.columns.room } }

def Equipment.pruned (e : Equipment) (gone : Scope) : Equipment :=
  { e with room := gone.clears .room e.room }

def Accessory.pruned (a : Accessory) (gone : Scope) : Accessory :=
  { a with room := gone.clears .room a.room }

def Consumable.pruned (c : Consumable) (gone : Scope) : Consumable :=
  { c with room := gone.clears .room c.room }

/-- The store when a node is gone: its row is missing, and so is every reference to it. -/
def Store.pruned (s : Store) (gone : Scope) : Store :=
  { s with
    departments := gone.drops .department s.departments
    locations := (gone.drops .location s.locations).map (·.pruned gone)
    rooms := (gone.drops .room s.rooms).map (·.pruned gone)
    users := s.users.map (·.pruned gone)
    roleAssignments := s.roleAssignments.map (·.pruned gone)
    equipment := s.equipment.map (·.pruned gone)
    accessories := s.accessories.map (·.pruned gone)
    consumables := s.consumables.map (·.pruned gone) }

section Pruned

variable {s : Store} {k : Kind} {α : Type}

namespace Scope

theorem clears_of_ne (gone : Scope) (node : Id k → Scope) (other : ∀ id, node id ≠ gone)
    (reference : Option (Id k)) : gone.clears node reference = reference := by
  cases reference with
  | none => rfl
  | some id => simp [clears, other id]

theorem clears_self {node : Id k → Scope} {id : Id k} {reference : Option (Id k)}
    (same : ∀ other, node other = node id → other = id) :
    (node id).clears node reference = Store.cleared id reference := by
  cases reference with
  | none => rfl
  | some other =>
    by_cases here : other = id
    · simp [clears, Store.cleared, here]
    · have apart : node other ≠ node id := fun h => here (same other h)
      simp [clears, Store.cleared, here, apart]

theorem drops_of_ne (gone : Scope) (node : Id k → Scope) (other : ∀ id, node id ≠ gone)
    (t : Table k α) : gone.drops node t = t := by
  have all : (t.entries.filter fun e => node e.id != gone) = t.entries :=
    List.filter_eq_self.2 fun e _ => by simp [other e.id]
  rw [drops, all]

theorem drops_self {node : Id k → Scope} {t : Table k α} {id : Id k}
    (same : ∀ other, node other = node id → other = id) : (node id).drops node t = t.erase id := by
  unfold drops Table.erase
  congr 1
  refine List.filter_congr fun e _ => ?_
  by_cases here : e.id = id
  · simp [here]
  · have apart : node e.id ≠ node id := fun h => here (same e.id h)
    rw [bne_iff_ne.2 apart, bne_iff_ne.2 here]

/-! A node refers to nothing but its own tier, and is referred to by nothing else. -/

section Tiers

variable {department : DepartmentId} {location : LocationId} {room : RoomId}

@[simp] theorem clears_department {reference : Option DepartmentId} :
    (Scope.department department).clears .department reference = Store.cleared department reference :=
  clears_self fun _ same => Scope.department.inj same

@[simp] theorem clears_location {reference : Option LocationId} :
    (Scope.location location).clears .location reference = Store.cleared location reference :=
  clears_self fun _ same => Scope.location.inj same

@[simp] theorem clears_room {reference : Option RoomId} :
    (Scope.room room).clears .room reference = Store.cleared room reference :=
  clears_self fun _ same => Scope.room.inj same

@[simp] theorem drops_departments {t : Table .department Department} :
    (Scope.department department).drops .department t = t.erase department :=
  drops_self fun _ same => Scope.department.inj same

@[simp] theorem drops_locations {t : Table .location Location} :
    (Scope.location location).drops .location t = t.erase location :=
  drops_self fun _ same => Scope.location.inj same

@[simp] theorem drops_rooms {t : Table .room Room} :
    (Scope.room room).drops .room t = t.erase room :=
  drops_self fun _ same => Scope.room.inj same

end Tiers

end Scope

theorem RoleAssignment.pruned_eq {gone : Scope} {a : RoleAssignment} :
    a.pruned gone = Store.detached gone a := by
  cases gone <;> simp [pruned, Store.detached, ScopeColumns.without, Scope.clears_of_ne]

/-- What is deleted is the node and every reference to it. -/
theorem Store.without_eq_pruned {gone : Scope} (site : gone ≠ .site) (attached : gone ≠ .detached) :
    s.without gone = s.pruned gone := by
  have kept {k : Kind} {α : Type} (t : Table k α) : t.map (fun a => a) = t := Table.map_id
  cases gone with
  | site => exact absurd rfl site
  | detached => exact absurd rfl attached
  | department | location | room =>
    simp [without, withoutDepartment, withoutLocation, withoutRoom, pruned, Location.pruned,
      Room.pruned, User.pruned, Equipment.pruned, Accessory.pruned, Consumable.pruned,
      RoleAssignment.pruned_eq, Scope.clears_of_ne, Scope.drops_of_ne, kept]

theorem Store.run_deleteNode {d : Setting} {node : Locator} {gone : Scope}
    (there : s.resolve node = .ok gone) :
    (DirectoryOp.deleteNode node).run d s = { answer := .ok .nothing, store := s.pruned gone } := by
  obtain ⟨_, site, attached⟩ := Store.resolve_ok there
  rw [DirectoryOp.deleteNode_goes there, without_eq_pruned site attached]

end Pruned

/-! ## No rule is in the way -/

/-- Whichever rows of a table are changed, each of them meets its own rules, and no two share a
unique key. -/
structure Table.Amends {k : Kind} {α : Type} [Record k α] (t : Table k α) (f : α → α) : Prop where
  valid : ∀ e ∈ t.entries, Record.fits k (f e.val) = true ∧ Record.holds k (f e.val) = true
  distinct : t.entries.Pairwise fun a b =>
    ∀ a' ∈ [a.val, f a.val], ∀ b' ∈ [b.val, f b.val], Record.clashes k b' a' = false

/-- The references to a node can be cleared in any order. -/
structure Store.Unblocked (s : Store) (gone : Scope) : Prop where
  locations : s.locations.Amends (·.pruned gone)
  rooms : s.rooms.Amends (·.pruned gone)
  users : s.users.Amends (·.pruned gone)
  roleAssignments : s.roleAssignments.Amends (·.pruned gone)
  equipment : s.equipment.Amends (·.pruned gone)
  accessories : s.accessories.Amends (·.pruned gone)
  consumables : s.consumables.Amends (·.pruned gone)

section Unblocked

variable {k : Kind} {α : Type} [Record k α] {t : Table k α} {f : α → α}

/-- A change that brings in no unique key can be made row by row. -/
theorem Table.Sound.amends (h : t.Sound)
    (fits : ∀ a, Record.fits k a = true → Record.fits k (f a) = true)
    (holds : ∀ a, Record.holds k a = true → Record.holds k (f a) = true)
    (keys : ∀ a b, Record.holds k a = true → Record.holds k b = true →
      ∀ a' ∈ [a, f a], ∀ b' ∈ [b, f b],
        Record.clashes k b' a' = true → Record.clashes k b a = true) : t.Amends f where
  valid e member := (h.valid e member).imp (fits _) (holds _)
  distinct := by
    refine h.distinct.imp_of_mem fun {a b} ha hb apart a' changed_a b' changed_b => ?_
    rw [Bool.eq_false_iff] at apart ⊢
    exact fun clash =>
      apart (keys _ _ (h.valid a ha).2 (h.valid b hb).2 a' changed_a b' changed_b clash)

/-- Rows that have no unique key but one that is not changed. -/
theorem Table.Sound.amends_keyed {β : Type} [BEq β] (h : t.Sound) (key : α → β)
    (keyed : ∀ a b, Record.clashes k b a = (key b == key a)) (same : ∀ a, key (f a) = key a)
    (fits : ∀ a, Record.fits k (f a) = Record.fits k a)
    (holds : ∀ a, Record.holds k (f a) = Record.holds k a) : t.Amends f := by
  have kept : ∀ a, ∀ a' ∈ [a, f a], key a' = key a := by simp [same]
  refine h.amends (fun a good => (fits a).trans good) (fun a good => (holds a).trans good) ?_
  intro a b _ _ a' changed_a b' changed_b clash
  rwa [keyed, kept a a' changed_a, kept b b' changed_b, ← keyed] at clash

/-- An assignment whose node may be gone is for the same user and role, and as it was if it still has
a column. -/
theorem RoleAssignment.of_pruned {gone : Scope} {a a' : RoleAssignment}
    (good : Record.holds .roleAssignment a = true) (changed : a' ∈ [a, a.pruned gone]) :
    (a'.publicId = a.publicId ∧ a'.user = a.user ∧ a'.role = a.role) ∧
      (a'.columns.count ≠ 0 → a'.columns = a.columns) := by
  have one : a.columns.count ≤ 1 := of_decide_eq_true (Bool.and_eq_true_iff.1 good).1
  rcases List.mem_cons.1 changed with rfl | changed
  · exact ⟨⟨rfl, rfl, rfl⟩, fun _ => rfl⟩
  · obtain rfl := List.mem_singleton.1 changed
    rw [pruned_eq]
    exact ⟨⟨rfl, rfl, rfl⟩, ScopeColumns.without_of_left one⟩

/-- Assignments that lost their nodes share no key, neither with each other nor with the rest. -/
theorem RoleAssignment.pruned_clashes {gone : Scope} {a b : RoleAssignment}
    (one : Record.holds .roleAssignment a = true) (other : Record.holds .roleAssignment b = true) :
    ∀ a' ∈ [a, a.pruned gone], ∀ b' ∈ [b, b.pruned gone],
      Record.clashes .roleAssignment b' a' = true → Record.clashes .roleAssignment b a = true := by
  intro a' changed_a b' changed_b clash
  obtain ⟨⟨id_a, user_a, role_a⟩, left_a⟩ := of_pruned one changed_a
  obtain ⟨⟨id_b, user_b, role_b⟩, left_b⟩ := of_pruned other changed_b
  simp only [Record.clashes, Bool.and_eq_true, Bool.or_eq_true, beq_iff_eq, bne_iff_ne, id_a, id_b,
    user_a, user_b, role_a, role_b] at clash ⊢
  refine clash.imp_right fun ⟨same, key⟩ => ⟨same, key.imp_right fun ⟨columns, left⟩ => ?_⟩
  -- a column is left, so that none was cleared in either row
  have kept_b := left_b left
  have kept_a := left_a (columns ▸ left)
  exact ⟨kept_b.symm.trans (columns.trans kept_a), kept_b ▸ left⟩

end Unblocked

theorem Store.Sound.unblocked {s : Store} (sound : s.Sound) (gone : Scope) : s.Unblocked gone where
  locations := sound.locations.amends_keyed Location.publicId (fun _ _ => rfl) (fun _ => rfl)
    (fun _ => rfl) fun _ => rfl
  rooms := sound.rooms.amends_keyed Room.publicId (fun _ _ => rfl) (fun _ => rfl) (fun _ => rfl)
    fun _ => rfl
  users := sound.users.amends_keyed User.publicId (fun _ _ => rfl) (fun _ => rfl) (fun _ => rfl)
    fun _ => rfl
  roleAssignments := by
    refine sound.roleAssignments.amends (fun _ good => good) (fun a good => ?_) fun _ _ =>
      RoleAssignment.pruned_clashes
    rw [RoleAssignment.pruned_eq]
    exact detached_holds good
  equipment := sound.equipment.amends_keyed Equipment.publicId (fun _ _ => rfl) (fun _ => rfl)
    (fun _ => rfl) fun _ => rfl
  accessories := sound.accessories.amends_keyed Accessory.publicId (fun _ _ => rfl) (fun _ => rfl)
    (fun _ => rfl) fun _ => rfl
  consumables := sound.consumables.amends_keyed Consumable.publicId (fun _ _ => rfl) (fun _ => rfl)
    (fun _ => rfl) fun _ => rfl

/-! ## Nobody covers more -/

/-- A binding as it was, or without its node. -/
def Binding.Fades (b b' : Binding) : Prop := b' = b ∨ b' = b.detach

section Covered

variable {s : Store} {gone : Scope} {b b' : Binding} {t : Target}

theorem Scope.get?_drops {k : Kind} {α : Type} {node : Id k → Scope} {table : Table k α} {id : Id k} :
    (gone.drops node table).get? id = if node id = gone then none else table.get? id := by
  unfold drops Table.get?
  rw [List.find?_filter]
  by_cases here : node id = gone
  · rw [if_pos here, List.find?_eq_none]
    intro e _
    by_cases same : e.id = id
    · simp [same, here]
    · simp [same]
  · rw [if_neg here]
    congr 1
    funext e
    by_cases same : e.id = id
    · simp [same, here]
    · simp [same]

/-- A row that is left was there before. -/
theorem Scope.of_get?_drops {k : Kind} {α : Type} {node : Id k → Scope} {f : α → α}
    {table : Table k α} {id : Id k} {e : Entry k α}
    (found : ((gone.drops node table).map f).get? id = some e) :
    ∃ old, table.get? id = some old ∧ e = { old with val := f old.val } := by
  rw [Table.get?_map, Option.map_eq_some_iff] at found
  obtain ⟨old, left, rfl⟩ := found
  rw [get?_drops] at left
  split at left
  · cases left
  · exact ⟨old, left, rfl⟩

theorem Scope.of_clears {k : Kind} {node : Id k → Scope} {reference : Option (Id k)} {id : Id k}
    (left : gone.clears node reference = some id) : reference = some id :=
  (Option.filter_eq_some_iff.1 left).1

/-- Every link of the tree that is left was there before. -/
theorem Store.up_pruned {n m : Scope} (up : (s.pruned gone).parents.Up n m) : s.parents.Up n m := by
  cases up with
  | ofRoom above =>
    obtain ⟨r, found, parent⟩ := Option.bind_eq_some_iff.1 above
    obtain ⟨old, was, rfl⟩ := Scope.of_get?_drops found
    exact .ofRoom (Option.bind_eq_some_iff.2 ⟨old, was, Scope.of_clears parent⟩)
  | ofLocation above =>
    obtain ⟨l, found, parent⟩ := Option.bind_eq_some_iff.1 above
    obtain ⟨old, was, rfl⟩ := Scope.of_get?_drops found
    exact .ofLocation (Option.bind_eq_some_iff.2 ⟨old, was, Scope.of_clears parent⟩)

/-- What is covered in the tree that is left was covered before. -/
theorem Store.covers_pruned (fades : b.Fades b')
    (covers : (s.pruned gone).links.covers b' t = .ok true) : s.links.covers b t = .ok true := by
  rw [links_eq, ParentLinks.covers_iff_reaches] at covers ⊢
  rcases fades with rfl | rfl
  · exact covers.imp_right fun ⟨n, among, reaches⟩ => ⟨n, among, reaches.mono up_pruned⟩
  · rcases covers with site | ⟨n, among, reaches⟩
    · cases site
    · exact absurd rfl (reaches.attached (ParentLinks.node_of_mem among).2)

/-- What is covered in the room that is left of its own was covered before. -/
theorem Store.covers_pruned_room {room : Option RoomId} (fades : b.Fades b')
    (covers : (s.pruned gone).links.covers b' (.inRoom (gone.clears .room room)) = .ok true) :
    s.links.covers b (.inRoom room) = .ok true := by
  cases left : gone.clears .room room with
  | some id =>
    rw [left] at covers
    rw [Scope.of_clears left]
    exact covers_pruned fades covers
  | none =>
    -- in no room there is only what is at the site
    rw [left, covers_nowhere, Except.ok.injEq, beq_iff_eq] at covers
    rcases fades with rfl | rfl
    · rw [links_eq]
      exact ParentLinks.covers_site covers
    · cases covers

/-- The role of an assignment whose node may be gone. -/
theorem Store.binding_pruned {a : RoleAssignment} (readable : a.Readable) (site : gone ≠ .site) :
    a.binding.Fades (a.pruned gone).binding := by
  rw [RoleAssignment.pruned_eq, detached_binding readable site]
  split
  · exact .inr rfl
  · exact .inl rfl

end Covered

/-- What a binding covers in the later store, it covered in the earlier one: nodes of all tiers, and
the rooms of assets. -/
structure Store.CoversLess (s s' : Store) (b b' : Binding) : Prop where
  targets (t : Target) : s'.links.covers b' t = .ok true → s.links.covers b t = .ok true
  equipment : ∀ e ∈ s.equipment.entries, ∀ e' ∈ s'.equipment.entries, e'.id = e.id →
    s'.links.covers b' (.inRoom e'.val.room) = .ok true →
      s.links.covers b (.inRoom e.val.room) = .ok true
  accessories : ∀ e ∈ s.accessories.entries, ∀ e' ∈ s'.accessories.entries, e'.id = e.id →
    s'.links.covers b' (.inRoom e'.val.room) = .ok true →
      s.links.covers b (.inRoom e.val.room) = .ok true
  consumables : ∀ e ∈ s.consumables.entries, ∀ e' ∈ s'.consumables.entries, e'.id = e.id →
    s'.links.covers b' (.inRoom e'.val.room) = .ok true →
      s.links.covers b (.inRoom e.val.room) = .ok true

/-- What the later context may do and is shown in the later store, the earlier one was allowed and
shown in the earlier store. -/
structure Store.ShowsLess (s s' : Store) (ctx ctx' : Context) : Prop where
  permits (required : Role) (t : Target) :
    s'.links.permits ctx' required t = .ok true → s.links.permits ctx required t = .ok true
  equipment : ((Custody.listEquipment ctx' s').map (·.item.id)).Sublist
    ((Custody.listEquipment ctx s).map (·.item.id))
  accessories : ∃ rows rows', Custody.listAccessories ctx s = .ok rows ∧
    Custody.listAccessories ctx' s' = .ok rows' ∧
      (rows'.map (·.item.id)).Sublist (rows.map (·.item.id))
  consumables : ((Custody.listConsumables ctx' s').map (·.item.id)).Sublist
    ((Custody.listConsumables ctx s).map (·.item.id))

/-- The same caller, under a binding that may have lost its node. -/
structure Context.Fades (ctx ctx' : Context) : Prop where
  actor : ctx'.actor = ctx.actor
  binding : ∀ b', ctx'.binding = some b' → ∃ b, ctx.binding = some b ∧ b.Fades b'

section Shown

variable {s : Store} {gone : Scope} {ctx ctx' : Context} {b b' : Binding}

/-- An asset that is left with what is left of its room. -/
theorem Table.covers_of_pruned {k : Kind} {α : Type} {t : Table k α} {room : α → Option RoomId}
    {f : α → α} (numbered : t.Numbered) (left : ∀ a, room (f a) = gone.clears .room (room a))
    (fades : b.Fades b') : ∀ e ∈ t.entries, ∀ e' ∈ (t.map f).entries, e'.id = e.id →
      (s.pruned gone).links.covers b' (.inRoom (room e'.val)) = .ok true →
        s.links.covers b (.inRoom (room e.val)) = .ok true := by
  intro e here e' here' same covers
  obtain ⟨old, member, rfl⟩ := Table.mem_map.1 here'
  obtain rfl := numbered.eq_of_id member here same
  rw [left] at covers
  exact Store.covers_pruned_room fades covers

theorem Store.Sound.coversLess (sound : s.Sound) (fades : b.Fades b') :
    s.CoversLess (s.pruned gone) b b' where
  targets _ := covers_pruned fades
  equipment := Table.covers_of_pruned sound.equipment.numbered (fun _ => rfl) fades
  accessories := Table.covers_of_pruned sound.accessories.numbered (fun _ => rfl) fades
  consumables := Table.covers_of_pruned sound.consumables.numbered (fun _ => rfl) fades

/-- What the later context may do was allowed to the earlier one, if coverage was. -/
theorem Store.permits_of_fades {s' : Store} {required : Role} {t t' : Target}
    (fades : ctx.Fades ctx')
    (covers : ∀ {b b'}, b.Fades b' → s'.links.covers b' t' = .ok true →
      s.links.covers b t = .ok true)
    (permits : s'.links.permits ctx' required t' = .ok true) :
    s.links.permits ctx required t = .ok true := by
  unfold Ancestry.permits at permits ⊢
  cases bound' : ctx'.binding with
  | none => simp [bound'] at permits
  | some b' =>
    obtain ⟨b, bound, faded⟩ := fades.binding b' bound'
    have role : b'.role = b.role := by
      rcases faded with rfl | rfl <;> rfl
    simp only [bound, bound', role] at permits ⊢
    split at permits
    · next rank =>
      rw [if_pos rank]
      exact covers faded permits
    · cases permits

/-- What a listing shows of the assets that are left, it showed before. -/
theorem Table.listed_of_pruned {k : Kind} {α : Type} {t : Table k α} {room : α → Option RoomId}
    {f : α → α} (left : ∀ a, room (f a) = gone.clears .room (room a)) (fades : ctx.Fades ctx') :
    (((t.map f).filter fun a => ctx'.condition.admits (s.pruned gone) (room a)).map (·.id)).Sublist
      ((t.filter fun a => ctx.condition.admits s (room a)).map (·.id)) := by
  have shown : ∀ e : Entry k α,
      ctx'.condition.admits (s.pruned gone) (room (f e.val)) = true →
        ctx.condition.admits s (room e.val) = true := by
    intro e admitted
    have permits : (s.pruned gone).links.permits ctx' .roomViewer
        (.inRoom (gone.clears .room (room e.val))) = .ok true := by
      rw [Store.permits_listed, ← left, admitted]
    have before := Store.permits_of_fades (s := s) (t := .inRoom (room e.val)) fades
      Store.covers_pruned_room permits
    rwa [Store.permits_listed, Except.ok.injEq] at before
  unfold Table.map Table.filter
  rw [List.filter_map, List.map_map]
  exact (List.monotone_filter_right _ shown).map _

theorem Reachable.showsLess (h : Reachable s) (left : Reachable (s.pruned gone))
    (fades : ctx.Fades ctx') : s.ShowsLess (s.pruned gone) ctx ctx' where
  permits _ _ := Store.permits_of_fades fades Store.covers_pruned
  equipment := by
    have ids {s : Store} {ctx : Context} (sound : s.Sound) :
        (Custody.listEquipment ctx s).map (·.item.id) =
          (s.equipment.filter fun e => ctx.condition.admits s e.room).map (·.id) := by
      rw [← Custody.listEquipment_items sound, List.map_map]
      rfl
    rw [ids left.sound, ids h.sound]
    exact Table.listed_of_pruned (fun _ => rfl) fades
  accessories := by
    obtain ⟨rows, listed, items⟩ := Custody.listAccessories_ok h ctx
    obtain ⟨rows', listed', items'⟩ := Custody.listAccessories_ok left ctx'
    have ids (rows : List AccessoryListing) : rows.map (·.item.id) = (rows.map (·.item)).map (·.id) :=
      List.map_map.symm
    refine ⟨rows, rows', listed, listed', ?_⟩
    rw [ids, ids, items, items']
    exact Table.listed_of_pruned (fun _ => rfl) fades
  consumables := by
    have ids (s : Store) (ctx : Context) : (Custody.listConsumables ctx s).map (·.item.id) =
        (s.consumables.filter fun e => ctx.condition.admits s e.room).map (·.id) := by
      rw [← Custody.listConsumables_items, List.map_map]
      rfl
    rw [ids, ids]
    exact Table.listed_of_pruned (fun _ => rfl) fades

/-- The context that a caller gets after the deletion is the one of before, but for the node. -/
theorem Store.Sound.context_pruned (sound : s.Sound) (site : gone ≠ .site) {user : String}
    {chosen : Option String} (resolved : (s.pruned gone).context user chosen = .ok ctx') :
    ∃ ctx, s.context user chosen = .ok ctx ∧ ctx.Fades ctx' := by
  have users : (s.pruned gone).named? .user user =
      (s.named? .user user).map fun u => { u with val := u.val.pruned gone } :=
    Table.find?_map (f := fun u : User => u.pruned gone) fun _ => rfl
  have roles (id : RoleAssignmentId) : (s.pruned gone).row? id =
      (s.row? id).map fun a => { a with val := a.val.pruned gone } := Table.get?_map
  have called (publicId : String) : (s.pruned gone).named? .roleAssignment publicId =
      (s.named? .roleAssignment publicId).map fun a => { a with val := a.val.pruned gone } :=
    Table.find?_map (f := fun a : RoleAssignment => a.pruned gone) fun _ => rfl
  have fades {a : Entry .roleAssignment RoleAssignment} (member : a ∈ s.roleAssignments.entries) :=
    Store.binding_pruned (sound.readable a member) site
  cases named : s.named? .user user with
  | none => simp [context, users, named] at resolved
  | some u =>
    cases chosen with
    | some publicId =>
      cases held : s.named? .roleAssignment publicId with
      | none => simp [context, users, named, called, held] at resolved
      | some a =>
        cases own : a.val.user == u.id with
        | false =>
          have own' : ((a.val.pruned gone).user == u.id) = false := own
          simp [context, users, named, called, held, Option.filter_some, own'] at resolved
        | true =>
          have own' : ((a.val.pruned gone).user == u.id) = true := own
          simp only [context, users, named, called, held, Option.map_some, Option.filter_some, own',
            if_true, Except.ok.injEq] at resolved
          subst resolved
          refine ⟨{ actor := ⟨u.id, u.val.publicId, u.val.displayName⟩
                    binding := some a.val.binding }, ?_, rfl, fun b' bound => ?_⟩
          · simp [context, named, held, Option.filter_some, own]
          · cases bound
            exact ⟨_, rfl, fades (Table.mem_of_find? held).1⟩
    | none =>
      simp only [context, users, named, Option.map_some, Except.ok.injEq] at resolved
      subst resolved
      refine ⟨{ actor := ⟨u.id, u.val.publicId, u.val.displayName⟩
                binding := (u.val.active.bind s.row?).map (·.val.binding) }, ?_, rfl,
        fun b' bound => ?_⟩
      · simp [context, named]
      · obtain ⟨a', active, rfl⟩ := Option.map_eq_some_iff.1 bound
        obtain ⟨id, points, row⟩ := Option.bind_eq_some_iff.1 active
        rw [roles, Option.map_eq_some_iff] at row
        obtain ⟨a, found, rfl⟩ := row
        have pointed : u.val.active = some id := points
        refine ⟨a.val.binding, ?_, fades (Table.mem_of_get? found).1⟩
        simp [pointed, found]

end Shown

/-- What it is to delete a node. -/
structure Store.DeletesNode (d : Setting) (s : Store) (node : Locator) (gone : Scope) : Prop where
  /-- It succeeds, and leaves the store without the row of the node and without the references to
  it. All else is as it was. -/
  goes : (DirectoryOp.deleteNode node).run d s = { answer := .ok .nothing, store := s.pruned gone }
  unblocked : s.Unblocked gone
  /-- No reference is left without its row. -/
  linked : (s.pruned gone).Linked
  /-- No role covers what it did not cover before. -/
  roles : ∀ a ∈ s.roleAssignments.entries, ∀ a' ∈ (s.pruned gone).roleAssignments.entries,
    a'.id = a.id → s.CoversLess (s.pruned gone) a.val.binding a'.val.binding
  /-- Nobody is allowed or shown more, who acts under a context from before. -/
  earlier (ctx : Context) : s.ShowsLess (s.pruned gone) ctx ctx
  /-- Nor who gets a new one, which could be got before as well. -/
  anew (user : String) (chosen : Option String) (ctx' : Context) :
    (s.pruned gone).context user chosen = .ok ctx' →
      ∃ ctx, s.context user chosen = .ok ctx ∧ s.ShowsLess (s.pruned gone) ctx ctx'

/-- Every node of a store that can come about can be deleted: that takes away the node and the
references to it and nothing else, and widens nobody's authority. -/
theorem Reachable.deletes_node {s : Store} (h : Reachable s) {node : Locator} {gone : Scope}
    (there : s.resolve node = .ok gone) (d : Setting) : s.DeletesNode d node gone := by
  have goes := Store.run_deleteNode (d := d) there
  obtain ⟨_, site, attached⟩ := Store.resolve_ok there
  have left : Reachable (s.pruned gone) := by
    have after := h.run d (.directory (.deleteNode node))
    rwa [Operation.run, goes] at after
  exact {
    goes
    unblocked := h.sound.unblocked gone
    linked := left.linked
    roles := fun a here a' here' same => by
      obtain ⟨old, member, rfl⟩ := Table.mem_map.1 here'
      obtain rfl := h.sound.roleAssignments.numbered.eq_of_id member here same
      exact h.sound.coversLess (Store.binding_pruned (h.sound.readable old member) site)
    earlier := fun ctx => h.showsLess left ⟨rfl, fun b bound => ⟨b, bound, .inl rfl⟩⟩
    anew := fun user chosen ctx' resolved => by
      obtain ⟨ctx, before, fades⟩ := h.sound.context_pruned site resolved
      exact ⟨ctx, before, h.showsLess left fades⟩ }

/-- A mill with a store-room, in which there is a sack that somebody may see as a viewer of the
mill. -/
def mill : Store :=
  Store.serve {} {}
    [.directory (.createDepartment { publicId := some "farm", name := "Farm" }),
     .directory (.createLocation { publicId := some "mill", name := "Mill", parent := some "farm" }),
     .directory (.createRoom { publicId := some "stock", name := "Stock", parent := some "mill" }),
     .directory (.bootstrap "root" "Root"),
     .directory (.createUser { publicId := some "ada", displayName := "Ada", room := some "stock" }),
     .caller root (.roles (.grant
       { publicId := some "post", user := "ada", role := .locationViewer
         scope := some (.location "mill") })),
     .caller root (.accessories (.register
       { publicId := some "sacks", name := "Sacks", quantity := 3, room := some "stock" }))]
where
  root : Context := { actor := ⟨⟨1⟩, "root", "Root"⟩, binding := some .siteAdmin }
  /-- Ada as she was, while there was a mill. -/
  ada : Context :=
    { actor := ⟨⟨2⟩, "ada", "Ada"⟩
      binding := some ⟨.locationViewer, .location ⟨1⟩, .inl rfl⟩ }

/-- The mill is deleted although a room and a role are at it. The role stays active, and shows ada the
sacks no longer. -/
theorem mill_deletes_node :
    mill.resolve (.location "mill") = .ok (.location ⟨1⟩) ∧
      mill.context "ada" none = .ok mill.ada ∧
      (mill.links.covers ⟨.locationViewer, .location ⟨1⟩, .inl rfl⟩ (.inRoom (some ⟨1⟩))) = .ok true ∧
      ((mill.pruned (.location ⟨1⟩)).context "ada" none).toOption.bind (·.binding) =
        some ⟨.locationViewer, .detached, .inr rfl⟩ ∧
      mill.DeletesNode {} (.location "mill") (.location ⟨1⟩) := by
  have reachable : Reachable mill := Reachable.serve (.seeded (.empty 0 0 0))
  have there : mill.resolve (.location "mill") = .ok (.location ⟨1⟩) := by decide +kernel
  exact ⟨there, by decide +kernel, by decide +kernel, by decide +kernel,
    reachable.deletes_node there {}⟩

end Quartermaster
