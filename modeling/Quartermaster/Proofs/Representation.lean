import Quartermaster.Proofs.Bindings
import Quartermaster.Proofs.Store.Sessions

/-!
# What is stored is well formed

Calls of the repository may ask for anything: units below zero or too many to be counted, rows that
are not there, custody that is closed. Whatever they ask for, and however they are put together in
sessions, what is stored is orderly: rows keep their rules, stand beside each other and refer to
rows. If no refusal is caught in a transaction, it is well formed: all its numbers are words, too.

A session that catches refusals may leave a number of a custody row that is not a word, since the
storage adds up first, and what it made of it is looked at after that (`barn_overcounted`).

1. `EquipmentAssignment.consistent_iff` and its likes: what the rules of a row come to.
2. `Store.KeepsApart`: which rows do not stand beside each other; `Store.Sound.keepsApart`.
3. `Store.Orderly`, `Store.WellFormed`, `Store.Remains.stays_orderly`.
-/

namespace Quartermaster

/-! ## Rows -/

/-- Custody has ended when the item was returned. -/
structure EquipmentAssignment.Consistent (a : EquipmentAssignment) : Prop where
  ended : a.state = .closed ↔ a.returnedAt.isSome = true

structure AccessoryAssignment.Consistent (a : AccessoryAssignment) : Prop where
  ended : a.state = .closed ↔ a.returnedAt.isSome = true
  opened : a.state = .opened → 1 ≤ a.quantity
  closed : a.state = .closed → a.quantity = 0

structure ConsumableIssue.Consistent (i : ConsumableIssue) : Prop where
  ended : i.state = .closed ↔ i.returnedAt.isSome = true
  opened : i.state = .opened → 1 ≤ i.quantity
  closed : i.state = .closed → i.quantity = 0
  issued : 0 < i.issuedQuantity
  nonneg : 0 ≤ i.quantity
  within : i.quantity ≤ i.issuedQuantity

structure Accessory.Consistent (a : Accessory) : Prop where
  nonneg : 0 ≤ a.quantity
  word : fitsWord a.quantity = true

structure Consumable.Consistent (c : Consumable) : Prop where
  nonneg : 0 ≤ c.quantity
  threshold : 0 ≤ c.lowStockThreshold
  words : fitsWord c.quantity = true ∧ fitsWord c.lowStockThreshold = true

structure UnitEvent.Consistent {asset custody : Kind} (e : UnitEvent asset custody) : Prop where
  words : fitsWord e.quantity = true ∧ fitsWord e.quantityChange = true

/-- A role is at one node at most, and the highest role at none. -/
structure RoleAssignment.Consistent (a : RoleAssignment) : Prop where
  one : a.columns.count ≤ 1
  highest : a.role = .siteAdmin → a.columns = {}

theorem CustodyState.agrees_iff {state : CustodyState} {returnedAt : Option Stamp} :
    state.agrees returnedAt = true ↔ (state = .closed ↔ returnedAt.isSome = true) := by
  cases state <;> cases returnedAt <;> simp

/-! The rules of a row say that much, and no more. -/

theorem EquipmentAssignment.consistent_iff {a : EquipmentAssignment} :
    a.Consistent ↔ Record.holds .equipmentAssignment a = true :=
  ⟨fun h => CustodyState.agrees_iff.2 h.ended, fun h => ⟨CustodyState.agrees_iff.1 h⟩⟩

theorem AccessoryAssignment.consistent_iff {a : AccessoryAssignment} :
    a.Consistent ↔ Record.holds .accessoryAssignment a = true := by
  have parts : Record.holds .accessoryAssignment a = true ↔
      ((a.state = .opened → 1 ≤ a.quantity) ∧ (a.state = .closed → a.quantity = 0)) ∧
        a.state.agrees a.returnedAt = true := by
    cases state : a.state <;> simp [Record.holds, isOpen, state]
  rw [parts, CustodyState.agrees_iff]
  constructor
  · intro h
    exact ⟨⟨h.opened, h.closed⟩, h.ended⟩
  · rintro ⟨⟨opened, closed⟩, ended⟩
    exact ⟨ended, opened, closed⟩

theorem ConsumableIssue.consistent_iff {i : ConsumableIssue} :
    i.Consistent ↔ Record.holds .consumableIssue i = true := by
  have parts : Record.holds .consumableIssue i = true ↔
      (0 < i.issuedQuantity ∧ i.quantity ≤ i.issuedQuantity) ∧
        ((i.state = .opened → 1 ≤ i.quantity) ∧ (i.state = .closed → i.quantity = 0)) ∧
        i.state.agrees i.returnedAt = true := by
    cases state : i.state <;> simp [Record.holds, isOpen, state, and_assoc]
  constructor
  · intro h
    exact parts.2 ⟨⟨h.issued, h.within⟩, ⟨h.opened, h.closed⟩, CustodyState.agrees_iff.2 h.ended⟩
  · intro holds
    obtain ⟨⟨issued, within⟩, ⟨opened, closed⟩, ended⟩ := parts.1 holds
    exact ⟨CustodyState.agrees_iff.1 ended, opened, closed, issued, quantity_nonneg holds, within⟩

theorem Accessory.consistent_iff {a : Accessory} :
    a.Consistent ↔ Record.fits .accessory a = true ∧ Record.holds .accessory a = true :=
  ⟨fun h => ⟨h.word, decide_eq_true h.nonneg⟩, fun h => ⟨of_decide_eq_true h.2, h.1⟩⟩

theorem Consumable.consistent_iff {c : Consumable} :
    c.Consistent ↔ Record.fits .consumable c = true ∧ Record.holds .consumable c = true := by
  simp only [Record.fits, Record.holds, Bool.and_eq_true, decide_eq_true_eq]
  constructor
  · intro h
    exact ⟨h.words, h.nonneg, h.threshold⟩
  · rintro ⟨words, nonneg, threshold⟩
    exact ⟨nonneg, threshold, words⟩

theorem RoleAssignment.consistent_iff {a : RoleAssignment} :
    a.Consistent ↔ Record.holds .roleAssignment a = true := by
  simp only [Record.holds, Bool.and_eq_true, decide_eq_true_eq, Bool.or_eq_true, bne_iff_ne,
    beq_iff_eq, ScopeColumns.count_eq_zero]
  constructor
  · intro h
    by_cases highest : a.role = .siteAdmin
    · exact ⟨h.one, .inr (h.highest highest)⟩
    · exact ⟨h.one, .inl highest⟩
  · rintro ⟨one, empty⟩
    exact ⟨one, fun highest => empty.resolve_left fun lower => lower highest⟩

theorem AccessoryEvent.consistent_of {e : AccessoryEvent}
    (fits : Record.fits .accessoryEvent e = true) : UnitEvent.Consistent e :=
  ⟨Bool.and_eq_true_iff.1 fits⟩

theorem ConsumableEvent.consistent_of {e : ConsumableEvent}
    (fits : Record.fits .consumableEvent e = true) : UnitEvent.Consistent e :=
  ⟨Bool.and_eq_true_iff.1 fits⟩

/-! ## Rows beside each other -/

/-- At most one row of the table has the property. -/
def Table.AtMostOne {k : Kind} {α : Type} (t : Table k α) (p : α → Bool) : Prop :=
  (t.filter p).length ≤ 1

/-- Rows that do not stand beside each other. -/
structure Store.KeepsApart (s : Store) : Prop where
  /-- An item is in one hand. -/
  equipment (item : EquipmentId) :
    s.equipmentAssignments.AtMostOne fun a => a.equipment == item && a.isOpen
  /-- What somebody has of an accessory is in one row. -/
  accessories (item : AccessoryId) (holder : UserId) :
    s.accessoryAssignments.AtMostOne fun a => a.accessory == item && a.holder == holder && a.isOpen
  /-- What somebody has of a consumable is in one row. -/
  consumables (item : ConsumableId) (holder : UserId) :
    s.consumableIssues.AtMostOne fun i => i.consumable == item && i.holder == holder && i.isOpen
  /-- Nobody has the highest role twice. -/
  highest (user : UserId) :
    s.roleAssignments.AtMostOne fun a => a.user == user && a.role == .siteAdmin
  /-- Nobody has a role twice at a node. -/
  roles (user : UserId) (role : Role) (node : Scope) : node ≠ .detached →
    s.roleAssignments.AtMostOne fun a => a.user == user && a.role == role && a.binding.scope == node

theorem Store.Sound.keepsApart {s : Store} (sound : s.Sound) : s.KeepsApart where
  equipment item := sound.equipmentAssignments.filter_subsingleton fun a _ b _ ha hb => by
    simp only [Bool.and_eq_true, beq_iff_eq] at ha hb
    simp [Record.clashes, ha, hb]
  accessories item holder := sound.accessoryAssignments.filter_subsingleton fun a _ b _ ha hb => by
    simp only [Bool.and_eq_true, beq_iff_eq] at ha hb
    simp [Record.clashes, ha, hb]
  consumables item holder := sound.consumableIssues.filter_subsingleton fun a _ b _ ha hb => by
    simp only [Bool.and_eq_true, beq_iff_eq] at ha hb
    simp [Record.clashes, ha, hb]
  highest user := sound.roleAssignments.filter_subsingleton fun a _ b _ ha hb => by
    simp only [Bool.and_eq_true, beq_iff_eq] at ha hb
    simp [Record.clashes, ha, hb]
  roles user role node attached :=
    sound.roleAssignments.filter_subsingleton fun a mem_a b mem_b ha hb => by
      simp only [Bool.and_eq_true, beq_iff_eq] at ha hb
      obtain ⟨⟨user_a, role_a⟩, rfl⟩ := ha
      obtain ⟨⟨user_b, role_b⟩, node⟩ := hb
      have same : b.val.binding = a.val.binding :=
        Binding.ext (by rw [b.val.binding_role, a.val.binding_role, role_a, role_b]) node
      obtain ⟨_, key⟩ := (Store.binding_eq_iff (sound.readable b mem_b) (sound.readable a mem_a)
        (node ▸ attached)).1 same
      simp only [Record.clashes, Bool.or_eq_true, Bool.and_eq_true, beq_iff_eq, bne_iff_ne]
      exact .inr ⟨⟨user_b.trans user_a.symm, role_b.trans role_a.symm⟩, key⟩

/-- No two rows of a kind have one public id. -/
structure Store.TellsApart (s : Store) : Prop where
  departments : (s.idsOf .department).Nodup
  locations : (s.idsOf .location).Nodup
  rooms : (s.idsOf .room).Nodup
  users : (s.idsOf .user).Nodup
  roleAssignments : (s.idsOf .roleAssignment).Nodup
  equipment : (s.idsOf .equipment).Nodup
  equipmentAssignments : (s.idsOf .equipmentAssignment).Nodup
  accessories : (s.idsOf .accessory).Nodup
  accessoryAssignments : (s.idsOf .accessoryAssignment).Nodup
  consumables : (s.idsOf .consumable).Nodup
  consumableIssues : (s.idsOf .consumableIssue).Nodup
  audit : (s.idsOf .audit).Nodup

theorem Store.Sound.tellsApart {s : Store} (sound : s.Sound) : s.TellsApart where
  departments := Store.publicIds_differ sound.departments
  locations := Store.publicIds_differ sound.locations
  rooms := Store.publicIds_differ sound.rooms
  users := Store.publicIds_differ sound.users
  roleAssignments := Store.publicIds_differ sound.roleAssignments
  equipment := Store.publicIds_differ sound.equipment
  equipmentAssignments := Store.publicIds_differ sound.equipmentAssignments
  accessories := Store.publicIds_differ sound.accessories
  accessoryAssignments := Store.publicIds_differ sound.accessoryAssignments
  consumables := Store.publicIds_differ sound.consumables
  consumableIssues := Store.publicIds_differ sound.consumableIssues
  audit := Store.publicIds_differ sound.audit

/-! ## Numbers that are cut

Neither which rows stand beside each other nor how they are named depends on their numbers. -/

theorem Table.AtMostOne.of_map {k : Kind} {α : Type} {t : Table k α} {f : α → α} {p : α → Bool}
    (h : (t.map f).AtMostOne p) : t.AtMostOne fun a => p (f a) := by
  unfold AtMostOne Table.filter Table.map at h
  rw [List.filter_map, List.length_map] at h
  exact h

theorem Store.keepsApart_of_cut {s : Store} (h : s.cut.KeepsApart) : s.KeepsApart where
  equipment := h.equipment
  accessories item holder := (h.accessories item holder).of_map
  consumables item holder := (h.consumables item holder).of_map
  highest := h.highest
  roles := h.roles

theorem Table.nodup_of_map {k : Kind} {α : Type} {t : Table k α} (f : α → α) {name : α → String}
    (same : ∀ a, name (f a) = name a)
    (h : ((t.map f).entries.map fun e => name e.val).Nodup) :
    (t.entries.map fun e => name e.val).Nodup := by
  simpa [map, Function.comp_def, same] using h

theorem Store.tellsApart_of_cut {s : Store} (h : s.cut.TellsApart) : s.TellsApart :=
  { h with
    accessoryAssignments :=
      Table.nodup_of_map AccessoryAssignment.cut (fun _ => rfl) h.accessoryAssignments
    consumableIssues :=
      Table.nodup_of_map ConsumableIssue.cut (fun _ => rfl) h.consumableIssues }

/-! ## Stores -/

/-- Rows are consistent, each for itself and beside each other, and refer to rows. -/
structure Store.Orderly (s : Store) : Prop where
  equipmentAssignments : ∀ a ∈ s.equipmentAssignments.entries, a.val.Consistent
  accessories : ∀ a ∈ s.accessories.entries, a.val.Consistent
  accessoryAssignments : ∀ a ∈ s.accessoryAssignments.entries, a.val.Consistent
  accessoryEvents : ∀ e ∈ s.accessoryEvents.entries, e.val.Consistent
  consumables : ∀ c ∈ s.consumables.entries, c.val.Consistent
  consumableIssues : ∀ i ∈ s.consumableIssues.entries, i.val.Consistent
  consumableEvents : ∀ e ∈ s.consumableEvents.entries, e.val.Consistent
  roleAssignments : ∀ a ∈ s.roleAssignments.entries, a.val.Consistent
  apart : s.KeepsApart
  named : s.TellsApart
  linked : s.Linked

/-- In an orderly store, the numbers of custody rows are words as all others are. -/
structure Store.WellFormed (s : Store) : Prop extends s.Orderly where
  held : ∀ a ∈ s.accessoryAssignments.entries, fitsWord a.val.quantity = true
  issued : ∀ i ∈ s.consumableIssues.entries,
    fitsWord i.val.quantity = true ∧ fitsWord i.val.issuedQuantity = true

theorem Store.Settled.orderly {s : Store} (h : s.Settled) : s.Orderly where
  equipmentAssignments a member :=
    EquipmentAssignment.consistent_iff.2 (h.sound.equipmentAssignments.valid a member).2
  accessories a member := Accessory.consistent_iff.2 (h.sound.accessories.valid a member)
  accessoryAssignments a member :=
    AccessoryAssignment.consistent_iff.2 (h.holds.accessories a member)
  accessoryEvents e member :=
    AccessoryEvent.consistent_of (h.sound.accessoryEvents.valid e member).1
  consumables c member := Consumable.consistent_iff.2 (h.sound.consumables.valid c member)
  consumableIssues i member := ConsumableIssue.consistent_iff.2 (h.holds.issues i member)
  consumableEvents e member :=
    ConsumableEvent.consistent_of (h.sound.consumableEvents.valid e member).1
  roleAssignments a member :=
    RoleAssignment.consistent_iff.2 (h.sound.roleAssignments.valid a member).2
  apart := keepsApart_of_cut h.sound.keepsApart
  named := tellsApart_of_cut h.sound.tellsApart
  linked := h.linked

/-- Whatever calls of the repository ask for, what is stored is orderly. Where no transaction catches
a refusal, it is well formed. -/
theorem Store.Remains.stays_orderly {s : Store} (h : s.Remains) :
    s.Orderly ∧ (s.Arises → s.WellFormed) := by
  have orderly := h.settled.orderly
  exact ⟨orderly, fun arises =>
    { orderly with
      held := fun a member => (arises.sound.accessoryAssignments.valid a member).1
      issued := fun i member =>
        Bool.and_eq_true_iff.1 (arises.sound.consumableIssues.valid i member).1 }⟩

/-- A barn in which ada was lent two tarps. -/
def barn : Store :=
  Store.serve {} {}
    [.directory (.bootstrap "root" "Root"),
     .directory (.createUser { publicId := some "ada", displayName := "Ada" }),
     .caller root (.accessories
       (.register { publicId := some "tarps", name := "Tarps", quantity := 3 })),
     .caller root (.accessories (.assign "tarps" "ada" 2))]
where
  root : Context := { actor := ⟨⟨1⟩, "root", "Root"⟩, binding := some .siteAdmin }
  /-- Minus four tarps are taken back, and more are lent than can be counted. -/
  overflowing : List Statement :=
    [.accessories (.reduce ⟨1⟩ (-4)), .accessories (.increase ⟨1⟩ Int64.maxValue)]
  /-- Minus four tarps are taken back, then all six. What is lent after that finds no open row, and
  what is written to a row that is not there is lost. -/
  emptied : List Statement :=
    [.accessories (.reduce ⟨1⟩ (-4)), .accessories (.reduce ⟨1⟩ 6),
     .accessories (.increase ⟨1⟩ Int64.maxValue), .accessories (.setQuantity ⟨9⟩ (-1))]
  /-- More tarps are lent than can be counted, and if that is refused, so be it. -/
  overcounted : Session Unit :=
    Session.transaction (tryCatch
      (Session.increaseAccessoryAssignment ⟨1⟩ Int64.maxValue.toInt >>= fun _ =>
        Session.call (pure ()))
      fun _ => Session.call (pure ()))

theorem barn_arises : barn.Arises := Reachable.arises (.serve (.seeded (.empty 0 0 0)))

theorem barn_remains : (barn.overcounted barn).2.Remains := by
  have idle : (Session.call (pure ())).Composed := .call _ inferInstance
  exact barn_arises.remains.serves ⟨Unit, barn.overcounted,
    .transaction (.tryCatch (.bind (.increaseAccessoryAssignment _ _) fun _ => idle) fun _ => idle),
    rfl⟩

/-- Units that cannot be counted are refused together with what came before them, and what was emptied
stays closed. What is lent beyond all numbers leaves the store orderly if nobody minds the refusal. -/
theorem barn_orderly :
    (barn.runBatch barn.overflowing).2 = barn ∧
      (barn.runBatch barn.emptied).2.WellFormed ∧
      (barn.runBatch barn.emptied).2.accessoryAssignments.entries.map
        (fun a => (a.val.state, a.val.quantity)) = [(.closed, 0)] ∧
      (barn.overcounted barn).2.Orderly := by
  have arises := barn_arises.evolves (.single (barn.runBatch_commits barn.emptied))
  obtain ⟨why, refused⟩ : ∃ why, (barn.runBatch barn.overflowing).1 = .error why :=
    Results.isOk_eq_false_iff.1 (by decide +kernel)
  exact ⟨Store.transact_error refused, (Store.Remains.stays_orderly arises.remains).2 arises,
    by decide +kernel, barn_remains.stays_orderly.1⟩

/-- The call is refused because what it stored is not a word. A transaction that goes on after that
stores it for good. -/
theorem barn_overcounted :
    (Session.increaseAccessoryAssignment ⟨1⟩ Int64.maxValue.toInt barn).1 =
        .error (.ofFault .outOfRange) ∧
      (barn.overcounted barn).2.accessoryAssignments.entries.map
        (fun a => (a.val.state, a.val.quantity)) = [(.opened, 0x8000000000000000)] ∧
      ¬∀ s : Store, s.Remains → s.WellFormed := by
  have stored : (barn.overcounted barn).2.accessoryAssignments.entries.map
      (fun a => (a.val.state, a.val.quantity)) = [(.opened, 0x8000000000000000)] := by
    decide +kernel
  refine ⟨by decide +kernel, stored, fun always => ?_⟩
  have words := (always _ barn_remains).held
  obtain ⟨a, member, row⟩ := List.mem_map.1 (stored ▸ List.mem_singleton_self _)
  have word := words a member
  rw [(Prod.mk.inj row).2] at word
  exact absurd word (by decide)

end Quartermaster
