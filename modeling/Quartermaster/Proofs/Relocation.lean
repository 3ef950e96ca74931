import Quartermaster.Proofs.Coverage
import Quartermaster.Proofs.Recipients
import Quartermaster.Proofs.Visibility

/-!
# Moving a node

A room is moved to another location, a location to another department, and all that is below it goes
along. Three readers look at the tree: the evaluator, the condition of listings, and the query for
administrators. All of them see the move at once, and see it only below the node that was moved.

1. `ParentLinks.Relinked`: what is reached when one node gets another parent. Nothing changes for
   nodes that are not below it (`reaches_outside`); what is below it reaches what it reached there
   (`reaches_low`), and above it what the new parent reaches (`reaches_high`).
2. `Store.Relinked.relocated`: what the three readers tell after the move, in the words of the store
   before it (`Store.CoversMoved`).
3. `Reachable.relocations`.
-/

namespace Quartermaster

/-! ## One link -/

/-- How high a tier is. What is no node is above all of them. -/
def Scope.height : Scope → Nat
  | .room _ => 0
  | .location _ => 1
  | .department _ => 2
  | .site | .detached => 3

namespace ParentLinks

variable {p p' : ParentLinks} {a c m n moved parent : Scope}

theorem Up.height_lt (h : p.Up a c) : a.height < c.height := by
  cases h with
  | ofRoom => exact Nat.zero_lt_one
  | ofLocation => exact Nat.lt_succ_self 1

theorem Reaches.height_le (h : p.Reaches n m) : n.height ≤ m.height := by
  induction h with
  | refl => exact Nat.le_refl _
  | tail _ up ih => exact Nat.le_trans ih (Nat.le_of_lt up.height_lt)

/-- A node has one parent at most. -/
theorem Up.unique (h : p.Up a c) (h' : p.Up a m) : c = m := by
  cases h with
  | ofRoom known =>
    cases h' with
    | ofRoom again => rw [Option.some.inj (known.symm.trans again)]
  | ofLocation known =>
    cases h' with
    | ofLocation again => rw [Option.some.inj (known.symm.trans again)]

/-- The links of one node are replaced by one link to a parent. -/
structure Relinked (p p' : ParentLinks) (moved parent : Scope) : Prop where
  others : ∀ {a c}, a ≠ moved → (p'.Up a c ↔ p.Up a c)
  here : ∀ {c}, p'.Up moved c ↔ c = parent

/-- Links that are the same below a node lead to the same there. -/
theorem Reaches.carry_low (others : ∀ {a c}, a ≠ moved → p.Up a c → p'.Up a c)
    (low : m.height ≤ moved.height) (h : p.Reaches n m) : p'.Reaches n m := by
  induction h using Relation.ReflTransGen.head_induction_on with
  | refl => exact .refl
  | head up rest ih =>
    refine .head (others ?_ up) ih
    rintro rfl
    have := up.height_lt
    have := Reaches.height_le rest
    omega

/-- Links that are the same but for a node that is not reached lead to the same. -/
theorem Reaches.carry_outside (others : ∀ {a c}, a ≠ moved → p.Up a c → p'.Up a c)
    (h : p.Reaches n m) (outside : ¬p.Reaches n moved) : p'.Reaches n m := by
  induction h using Relation.ReflTransGen.head_induction_on with
  | refl => exact .refl
  | head up rest ih =>
    refine .head (others ?_ up) (ih fun reaches => outside (.head up reaches))
    rintro rfl
    exact outside .refl

namespace Relinked

theorem of_room {room : RoomId} {location : LocationId} (here : p'.locationOf room = some location)
    (rooms : ∀ other, other ≠ room → p'.locationOf other = p.locationOf other)
    (locations : ∀ other, p'.departmentOf other = p.departmentOf other) :
    p.Relinked p' (.room room) (.location location) where
  others {a _} other := by
    cases a with
    | room id =>
      have same := rooms id fun eq => other (congrArg Scope.room eq)
      exact ⟨fun (.ofRoom known) => .ofRoom (same ▸ known),
        fun (.ofRoom known) => .ofRoom (same.trans known)⟩
    | location id =>
      exact ⟨fun (.ofLocation known) => .ofLocation (locations id ▸ known),
        fun (.ofLocation known) => .ofLocation ((locations id).trans known)⟩
    | site | department | detached => exact ⟨nofun, nofun⟩
  here {_} := by
    constructor
    · rintro ⟨known⟩
      rw [here] at known
      cases known
      rfl
    · rintro rfl
      exact .ofRoom here

theorem of_location {location : LocationId} {department : DepartmentId}
    (here : p'.departmentOf location = some department)
    (locations : ∀ other, other ≠ location → p'.departmentOf other = p.departmentOf other)
    (rooms : ∀ other, p'.locationOf other = p.locationOf other) :
    p.Relinked p' (.location location) (.department department) where
  others {a _} other := by
    cases a with
    | room id =>
      exact ⟨fun (.ofRoom known) => .ofRoom (rooms id ▸ known),
        fun (.ofRoom known) => .ofRoom ((rooms id).trans known)⟩
    | location id =>
      have same := locations id fun eq => other (congrArg Scope.location eq)
      exact ⟨fun (.ofLocation known) => .ofLocation (same ▸ known),
        fun (.ofLocation known) => .ofLocation (same.trans known)⟩
    | site | department | detached => exact ⟨nofun, nofun⟩
  here {_} := by
    constructor
    · rintro (_ | ⟨known⟩)
      rw [here] at known
      cases known
      rfl
    · rintro rfl
      exact .ofLocation here

/-- What is below a node reaches up to it as it did. -/
theorem reaches_low (h : p.Relinked p' moved parent) (low : m.height ≤ moved.height) :
    p'.Reaches n m ↔ p.Reaches n m :=
  ⟨.carry_low (fun other => (h.others other).1) low,
    .carry_low (fun other => (h.others other).2) low⟩

theorem subtree (h : p.Relinked p' moved parent) : p'.Reaches n moved ↔ p.Reaches n moved :=
  h.reaches_low (Nat.le_refl _)

/-- What is not below the node reaches what it reached. -/
theorem reaches_outside (h : p.Relinked p' moved parent) (outside : ¬p.Reaches n moved) :
    p'.Reaches n m ↔ p.Reaches n m :=
  ⟨fun reaches => .carry_outside (fun other => (h.others other).1) reaches
      (mt h.subtree.1 outside),
    fun reaches => .carry_outside (fun other => (h.others other).2) reaches outside⟩

/-- The new parent is not below the node. -/
theorem parent_outside (h : p.Relinked p' moved parent) : ¬p.Reaches parent moved := by
  intro reaches
  have := (h.here.2 rfl : p'.Up moved parent).height_lt
  have := reaches.height_le
  omega

/-- What is below the node reaches, above it, what its new parent reaches. -/
theorem reaches_high (h : p.Relinked p' moved parent) (inside : p.Reaches n moved)
    (high : ¬p.Reaches m moved) : p'.Reaches n m ↔ p.Reaches parent m := by
  have link : p'.Up moved parent := h.here.2 rfl
  rw [← h.reaches_outside h.parent_outside]
  constructor
  · intro reaches
    -- the way up to the node is the beginning of every way that leads past it
    have below := h.subtree.2 inside
    rw [← h.subtree] at high
    clear inside
    induction below using Relation.ReflTransGen.head_induction_on with
    | refl =>
      rcases Relation.ReflTransGen.cases_head reaches with rfl | ⟨c, up, above⟩
      · exact absurd .refl high
      · exact h.here.1 up ▸ above
    | head up rest ih =>
      rcases Relation.ReflTransGen.cases_head reaches with rfl | ⟨c, up', above⟩
      · exact absurd (.head up rest) high
      · exact ih (up.unique up' ▸ above)
  · intro reaches
    exact (h.subtree.2 inside).trans (.head link reaches)

end Relinked

/-- An answer is settled by whether it is yes. -/
theorem covers_congr {b b' : Binding} {t t' : Target}
    (same : p'.ancestry.covers b' t' = .ok true ↔ p.ancestry.covers b t = .ok true) :
    p'.ancestry.covers b' t' = p.ancestry.covers b t := by
  by_cases covers : p.ancestry.covers b t = .ok true
  · rw [covers, same.2 covers]
  · rw [covers_false covers, covers_false (mt same.1 covers)]

theorem covers_node {b : Binding} (node : n ≠ .site ∧ n ≠ .detached) :
    p.ancestry.covers b n.target = .ok true ↔ b.scope = .site ∨ p.Reaches n b.scope := by
  simp only [covers_iff_reaches, Scope.mem_target, node, and_self, and_true, exists_eq_left, ne_eq,
    not_false_eq_true]

namespace Relinked

variable {b : Binding}

theorem moved_node (h : p.Relinked p' moved parent) : moved ≠ .site ∧ moved ≠ .detached := by
  have up : p'.Up moved parent := h.here.2 rfl
  cases up <;> exact ⟨nofun, nofun⟩

theorem parent_node (h : p.Relinked p' moved parent) : parent ≠ .site ∧ parent ≠ .detached := by
  have up : p'.Up moved parent := h.here.2 rfl
  cases up <;> exact ⟨nofun, nofun⟩

/-- What is below a node is a node. -/
theorem node_of_inside (h : p.Relinked p' moved parent) (inside : p.Reaches n moved) :
    n ≠ .site ∧ n ≠ .detached := by
  rcases Relation.ReflTransGen.cases_head inside with rfl | ⟨_, up, _⟩
  · exact h.moved_node
  · cases up <;> exact ⟨nofun, nofun⟩

theorem covers_outside (h : p.Relinked p' moved parent) (outside : ¬p.Reaches n moved) :
    p'.ancestry.covers b n.target = p.ancestry.covers b n.target := by
  refine covers_congr ?_
  simp only [covers_iff_reaches, Scope.mem_target]
  refine or_congr_right (exists_congr fun m => and_congr_right ?_)
  rintro ⟨rfl, _⟩
  rw [h.reaches_outside outside]

theorem covers_within (h : p.Relinked p' moved parent) (inside : p.Reaches n moved)
    (low : p.Reaches b.scope moved) :
    p'.ancestry.covers b n.target = p.ancestry.covers b n.target := by
  have node := h.node_of_inside inside
  refine covers_congr ?_
  rw [covers_node node, covers_node node, h.reaches_low low.height_le]

theorem covers_above (h : p.Relinked p' moved parent) (inside : p.Reaches n moved)
    (high : ¬p.Reaches b.scope moved) :
    p'.ancestry.covers b n.target = p.ancestry.covers b parent.target := by
  refine covers_congr ?_
  rw [covers_node (h.node_of_inside inside), covers_node h.parent_node, h.reaches_high inside high]

end Relinked

end ParentLinks

/-- A chain is settled by what it passes. -/
theorem Chain.ext_passes {c c' : Chain}
    (same : ∀ m, m ≠ .site → (c.passes m = true ↔ c'.passes m = true)) : c = c' := by
  obtain ⟨room, location, department⟩ := c
  obtain ⟨room', location', department'⟩ := c'
  simp only [Chain.mk.injEq]
  refine ⟨Option.ext fun id => ?_, Option.ext fun id => ?_, Option.ext fun id => ?_⟩
  · simpa [Chain.passes] using same (.room id) (by simp)
  · simpa [Chain.passes] using same (.location id) (by simp)
  · simpa [Chain.passes] using same (.department id) (by simp)

namespace Store

/-! ## What is told of a move -/

/-- Whether a binding covers a node below `moved` once that is under `parent`, in the words of the
store before: as it did if the binding is at `moved` or below it, and else as it covers the parent. -/
def CoversMoved (s : Store) (moved parent : Scope) (b : Binding) (n : Scope) : Prop :=
  (s.Below b.scope moved ∧ s.links.covers b n.target = .ok true) ∨
    (¬s.Below b.scope moved ∧ s.links.covers b parent.target = .ok true)

/-- The listings of a caller before and after a move: the same rows, of which another condition is
asked, and that is another one for the rooms below the node only. -/
structure Relisted (s s' : Store) (moved parent : Scope) (ctx : Context) : Prop where
  outside (room : Option RoomId) : (∀ r, room = some r → ¬s.Below (.room r) moved) →
    ctx.condition.admits s' room = ctx.condition.admits s room
  inside (room : RoomId) : s.Below (.room room) moved →
    (ctx.condition.admits s' (some room) = true ↔
      ∃ b, ctx.binding = some b ∧ s.CoversMoved moved parent b (.room room))
  equipment :
    Custody.listEquipment ctx s =
        (s.listEquipment .unrestricted).filter (ctx.condition.admits s ·.item.val.room) ∧
      Custody.listEquipment ctx s' =
        (s.listEquipment .unrestricted).filter (ctx.condition.admits s' ·.item.val.room)
  accessories : ∃ rows, s.listAccessories .unrestricted = .ok rows ∧
    Custody.listAccessories ctx s = .ok (rows.filter (ctx.condition.admits s ·.item.val.room)) ∧
    Custody.listAccessories ctx s' = .ok (rows.filter (ctx.condition.admits s' ·.item.val.room))
  consumables :
    Custody.listConsumables ctx s =
        (s.listConsumables .unrestricted).filter (ctx.condition.admits s ·.item.val.room) ∧
      Custody.listConsumables ctx s' =
        (s.listConsumables .unrestricted).filter (ctx.condition.admits s' ·.item.val.room)

/-- What the readers of the tree tell after `moved` was put under `parent`. -/
structure Relocated (s s' : Store) (moved parent : Scope) : Prop where
  subtree (n : Scope) : s'.Below n moved ↔ s.Below n moved
  /-- Callers are who they were, under what they acted. -/
  contexts (user : String) (chosen : Option String) : s'.context user chosen = s.context user chosen
  outside (n : Scope) (ctx : Context) (required : Role) : ¬s.Below n moved →
    s'.links.permits ctx required n.target = s.links.permits ctx required n.target
  within (n : Scope) (b : Binding) : s.Below n moved → s.Below b.scope moved →
    s'.links.covers b n.target = s.links.covers b n.target
  /-- From above, what is below the node is covered as its new parent is, and that as it was. -/
  above (n : Scope) (b : Binding) : s.Below n moved → ¬s.Below b.scope moved →
    s'.links.covers b n.target = s'.links.covers b parent.target ∧
      s'.links.covers b parent.target = .ok ((s.chainOf parent).passes b.scope)
  /-- So what covered it from above does so no more, unless it is above the new parent as well. -/
  ancestors (n : Scope) (b : Binding) : s.Below n moved → ¬s.Below b.scope moved →
    b.scope ≠ .site → (s'.links.covers b n.target = .ok true ↔ s.Below parent b.scope)
  listings (ctx : Context) : s.Relisted s' moved parent ctx
  /-- Who is told of something in a room that is not below the node is told of it as before. -/
  responsible (room : Option RoomId) : (∀ r, room = some r → ¬s.Below (.room r) moved) →
    s'.responsible room = s.responsible room
  answerable (room : Option RoomId) :
    ∃ people, s'.responsible room = .ok (people.map .ofUser) ∧ s'.Answerable room people
  administered (room : RoomId) (user : UserId) : s.Below (.room room) moved →
    (s'.Administers user (some room) ↔ ∃ a ∈ s.roleAssignments.entries, a.val.user = user ∧
      a.val.role ∈ Role.administrators ∧ s.CoversMoved moved parent a.val.binding (.room room))

/-- One node has another link, and all else is as it was. -/
structure Relinked (s s' : Store) (moved parent : Scope) : Prop where
  frame : s' = { s with rooms := s'.rooms, locations := s'.locations }
  names (room : Option RoomId) : s'.roomPublicId room = s.roomPublicId room
  links : s.parents.Relinked s'.parents moved parent

variable {s s' : Store} {moved parent n : Scope} {b : Binding} {ctx : Context}

/-- Below a node is what reaches it. -/
theorem below_iff_reaches {m : Scope} (at_node : m ≠ .site ∧ m ≠ .detached) :
    s.Below n m ↔ s.parents.Reaches n m := by
  by_cases node : n ≠ .site ∧ n ≠ .detached
  · rw [← passes_chainOf at_node.1, chainOf_eq, ParentLinks.passes_iff at_node.1 node]
  · refine iff_of_false ?_ ?_
    · rintro (_ | _ | _ | _ | _) <;> exact node ⟨nofun, nofun⟩
    · intro reaches
      rcases Relation.ReflTransGen.cases_head reaches with rfl | ⟨_, up, _⟩
      · exact node at_node
      · cases up <;> exact node ⟨nofun, nofun⟩

namespace Relinked

theorem below_iff (h : s.Relinked s' moved parent) :
    s.Below n moved ↔ s.parents.Reaches n moved :=
  below_iff_reaches h.links.moved_node

/-! ## The evaluator -/

theorem permits_outside (h : s.Relinked s' moved parent) (outside : ¬s.Below n moved)
    (required : Role) :
    s'.links.permits ctx required n.target = s.links.permits ctx required n.target := by
  have same (b : Binding) : s'.links.covers b n.target = s.links.covers b n.target :=
    h.links.covers_outside (mt h.below_iff.2 outside)
  unfold Ancestry.permits
  cases ctx.binding with
  | none => rfl
  | some b => simp only [same]

theorem covers_within (h : s.Relinked s' moved parent) (inside : s.Below n moved)
    (low : s.Below b.scope moved) : s'.links.covers b n.target = s.links.covers b n.target :=
  h.links.covers_within (h.below_iff.1 inside) (h.below_iff.1 low)

theorem covers_above (h : s.Relinked s' moved parent) (inside : s.Below n moved)
    (high : ¬s.Below b.scope moved) : s'.links.covers b n.target = s.links.covers b parent.target :=
  h.links.covers_above (h.below_iff.1 inside) (mt h.below_iff.2 high)

/-- The new parent is covered as it was. -/
theorem covers_parent (h : s.Relinked s' moved parent) :
    s'.links.covers b parent.target = s.links.covers b parent.target :=
  h.links.covers_outside h.links.parent_outside

theorem covers_inside (h : s.Relinked s' moved parent) (inside : s.Below n moved) :
    s'.links.covers b n.target = .ok true ↔ s.CoversMoved moved parent b n := by
  unfold CoversMoved
  by_cases low : s.Below b.scope moved
  · rw [h.covers_within inside low]
    simp only [low, true_and, not_true_eq_false, false_and, or_false]
  · rw [h.covers_above inside low]
    simp only [low, false_and, not_false_eq_true, true_and, false_or]

/-! ## Listings -/

theorem admits_outside (h : s.Relinked s' moved parent) {room : Option RoomId}
    (outside : ∀ r, room = some r → ¬s.Below (.room r) moved) :
    ctx.condition.admits s' room = ctx.condition.admits s room := by
  have same : s'.links.permits ctx .roomViewer (.inRoom room) =
      s.links.permits ctx .roomViewer (.inRoom room) := by
    cases room with
    | none => exact h.permits_outside (n := .detached) nofun .roomViewer
    | some r => exact h.permits_outside (outside r rfl) .roomViewer
  rw [permits_listed, permits_listed] at same
  exact Except.ok.inj same

theorem admits_inside (h : s.Relinked s' moved parent) {room : RoomId}
    (inside : s.Below (.room room) moved) :
    ctx.condition.admits s' (some room) = true ↔
      ∃ b, ctx.binding = some b ∧ s.CoversMoved moved parent b (.room room) := by
  have listed : s'.links.permits ctx .roomViewer (.inRoom (some room)) = .ok true ↔
      ctx.condition.admits s' (some room) = true := by
    rw [permits_listed, Except.ok.injEq]
  rw [← listed, permits_viewer]
  cases ctx.binding with
  | none => simp
  | some b =>
    simp only [Option.some.injEq, exists_eq_left']
    exact h.covers_inside inside

end Relinked

/-- A condition selects from the rows of an unrestricted listing. -/
theorem listEquipment_filter (c : Condition) : s.listEquipment c =
    (s.listEquipment .unrestricted).filter (c.admits s ·.item.val.room) := by
  unfold listEquipment
  rw [filter_flatMap_of (p := fun e => c.admits s e.val.room) fun e row among => by
    rw [item_of_mem_equipmentListings among]]
  simp [Table.filter, Condition.admits]

theorem listConsumables_filter (c : Condition) : s.listConsumables c =
    (s.listConsumables .unrestricted).filter (c.admits s ·.item.val.room) := by
  unfold listConsumables
  rw [List.filter_map]
  simp [Table.filter, Condition.admits, Function.comp_def]

theorem listAccessories_filter (reachable : Reachable s) (c : Condition) :
    ∃ rows, s.listAccessories .unrestricted = .ok rows ∧
      s.listAccessories c = .ok (rows.filter (c.admits s ·.item.val.room)) := by
  refine ⟨_, Custody.listAccessories_eq reachable _, ?_⟩
  rw [Custody.listAccessories_eq reachable, List.filter_map]
  simp [Table.filter, Condition.admits, Function.comp_def, Custody.accessoryListing]

namespace Relinked

/-- The rows of unrestricted listings say nothing about where a room is. -/
theorem equipmentListings_eq (h : s.Relinked s' moved parent) :
    s'.listEquipment .unrestricted = s.listEquipment .unrestricted := by
  have rows (e : Entry .equipment Equipment) : s'.equipmentListings e = s.equipmentListings e := by
    unfold equipmentListings
    simp only [h.names]
    rw [h.frame]
    rfl
  unfold listEquipment
  simp only [funext rows, Condition.admits]
  rw [h.frame]

theorem accessoryListings_eq (h : s.Relinked s' moved parent) (reachable : Reachable s)
    (reachable' : Reachable s') :
    s'.listAccessories .unrestricted = s.listAccessories .unrestricted := by
  have rows : Custody.accessoryListing s' = Custody.accessoryListing s := by
    funext e
    unfold Custody.accessoryListing
    rw [h.names, h.frame]
  rw [Custody.listAccessories_eq reachable, Custody.listAccessories_eq reachable', rows]
  simp only [Condition.admits]
  rw [h.frame]

theorem consumableListings_eq (h : s.Relinked s' moved parent) :
    s'.listConsumables .unrestricted = s.listConsumables .unrestricted := by
  unfold listConsumables
  simp only [h.names, Condition.admits]
  rw [h.frame]

theorem relisted (h : s.Relinked s' moved parent) (reachable : Reachable s)
    (reachable' : Reachable s') (ctx : Context) : s.Relisted s' moved parent ctx where
  outside _ := h.admits_outside
  inside _ := h.admits_inside
  equipment := by
    refine ⟨listEquipment_filter _, ?_⟩
    rw [← h.equipmentListings_eq]
    exact listEquipment_filter _
  accessories := by
    obtain ⟨rows, all, before⟩ := listAccessories_filter reachable ctx.condition
    obtain ⟨rows', all', after⟩ := listAccessories_filter reachable' ctx.condition
    rw [h.accessoryListings_eq reachable reachable', all] at all'
    cases all'
    exact ⟨rows, all, before, after⟩
  consumables := by
    refine ⟨listConsumables_filter _, ?_⟩
    rw [← h.consumableListings_eq]
    exact listConsumables_filter _

/-! ## Administrators -/

/-- The chain of a node that is not below the moved one is the same. -/
theorem chainOf_outside (h : s.Relinked s' moved parent) (outside : ¬s.Below n moved) :
    s'.chainOf n = s.chainOf n := by
  refine Chain.ext_passes fun m at_node => ?_
  by_cases node : n ≠ .site ∧ n ≠ .detached
  · rw [chainOf_eq, chainOf_eq, ParentLinks.passes_iff at_node node,
      ParentLinks.passes_iff at_node node, h.links.reaches_outside (mt h.below_iff.2 outside)]
  · cases n with
    | site | detached => exact Iff.rfl
    | department | location | room => exact absurd ⟨nofun, nofun⟩ node

theorem responsible_outside (h : s.Relinked s' moved parent) {room : Option RoomId}
    (outside : ∀ r, room = some r → ¬s.Below (.room r) moved) :
    s'.responsible room = s.responsible room := by
  cases room with
  | none =>
    rw [h.frame]
    rfl
  | some r =>
    rw [responsible_room, responsible_room, h.chainOf_outside (outside r rfl)]
    rw [h.frame]
    rfl

theorem relocated (h : s.Relinked s' moved parent) (reachable : Reachable s)
    (reachable' : Reachable s') : s.Relocated s' moved parent where
  subtree n := by rw [h.below_iff, below_iff_reaches h.links.moved_node, h.links.subtree]
  contexts user chosen := by
    rw [h.frame]
    rfl
  outside n ctx required outside := h.permits_outside outside required
  within n b inside low := h.covers_within inside low
  above n b inside high := by
    rw [h.covers_above inside high, h.covers_parent, covers_target]
    exact ⟨rfl, rfl⟩
  ancestors n b inside high at_node := by
    rw [h.covers_above inside high, covers_iff at_node]
  listings := h.relisted reachable reachable'
  responsible _ := h.responsible_outside
  answerable := reachable'.sound.responsible
  administered room user inside := by
    have same : s'.roleAssignments = s.roleAssignments := by rw [h.frame]
    have covers (b : Binding) : s'.links.covers b (.inRoom (some room)) = .ok true ↔
        s.CoversMoved moved parent b (.room room) := h.covers_inside inside
    simp only [Administers, same, covers]

end Relinked

/-! ## The two moves -/

theorem relinked_room {r : Entry .room Room} {l : LocationId} (found : s.row? r.id = some r) :
    s.Relinked { s with rooms := s.rooms.put r.id { r.val with location := some l } }
      (.room r.id) (.location l) := by
  have here : (s.rooms.put r.id { r.val with location := some l }).get? r.id =
      some { r with val := { r.val with location := some l } } := Table.get?_put_self found
  have others (id : RoomId) (other : id ≠ r.id) :
      (s.rooms.put r.id { r.val with location := some l }).get? id = s.rooms.get? id :=
    Table.get?_put_of_ne other
  refine ⟨rfl, fun room => ?_, .of_room ?_ (fun id other => ?_) fun _ => rfl⟩
  · show (room.bind (s.rooms.put _ _).get?).map _ = (room.bind s.rooms.get?).map _
    cases room with
    | none => rfl
    | some id =>
      rw [Option.bind_some, Option.bind_some]
      by_cases same : id = r.id
      · rw [same, here, show s.rooms.get? r.id = some r from found]
        rfl
      · rw [others id same]
  · show ((s.rooms.put _ _).get? r.id).bind _ = _
    rw [here]
    rfl
  · show ((s.rooms.put _ _).get? id).bind _ = _
    rw [others id other]
    rfl

theorem relinked_location {l : Entry .location Location} {d : DepartmentId}
    (found : s.row? l.id = some l) :
    s.Relinked { s with locations := s.locations.put l.id { l.val with department := some d } }
      (.location l.id) (.department d) := by
  refine ⟨rfl, fun _ => rfl, .of_location ?_ (fun id other => ?_) fun _ => rfl⟩
  · show ((s.locations.put _ _).get? l.id).bind _ = _
    rw [Table.get?_put_self (t := s.locations) found]
    rfl
  · show ((s.locations.put _ _).get? id).bind _ = _
    rw [Table.get?_put_of_ne other]
    rfl

end Store

/-- Every move that goes through is seen at once, and only below the node that was moved: a room goes
with all that is in it to its new location and the department that this is in, if it is in one, and a
location with all its rooms to its new department. -/
theorem Reachable.relocations (reachable : Reachable s) (d : Setting) :
    (∀ room location,
      ((Operation.directory (.relocateRoom room location)).run d s).answer.isOk = true →
      ∃ r l, s.named? .room room = some r ∧ s.named? .location location = some l ∧
        s.Relocated ((Operation.directory (.relocateRoom room location)).run d s).store
          (.room r.id) (.location l.id)) ∧
    ∀ location department,
      ((Operation.directory (.relocateLocation location department)).run d s).answer.isOk = true →
      ∃ l p, s.named? .location location = some l ∧ s.named? .department department = some p ∧
        s.Relocated ((Operation.directory (.relocateLocation location department)).run d s).store
          (.location l.id) (.department p.id) := by
  refine ⟨fun room location done => ?_, fun location department done => ?_⟩
  · obtain ⟨answer, answered⟩ := Results.isOk_iff.1 done
    have after := reachable.run d (.directory (.relocateRoom room location))
    obtain ⟨_, s', step, _, out⟩ := Operation.run_ok reachable.sound answered
    rw [out] at after ⊢
    obtain ⟨step⟩ := step
    cases step with
    | @relocateRoom _ _ r _ l room_named location_named moved =>
      subst moved
      have found := reachable.sound.rooms.get?_of_find? room_named
      exact ⟨r, l, room_named, location_named,
        (Store.relinked_room found).relocated reachable after⟩
  · obtain ⟨answer, answered⟩ := Results.isOk_iff.1 done
    have after := reachable.run d (.directory (.relocateLocation location department))
    obtain ⟨_, s', step, _, out⟩ := Operation.run_ok reachable.sound answered
    rw [out] at after ⊢
    obtain ⟨step⟩ := step
    cases step with
    | @relocateLocation _ _ l _ p location_named department_named moved =>
      subst moved
      have found := reachable.sound.locations.get?_of_find? location_named
      exact ⟨l, p, location_named, department_named,
        (Store.relinked_location found).relocated reachable after⟩

/-- A campus where the arts have an annex with a studio, and an easel in it. -/
def campus : Store :=
  Store.serve {} {}
    [.directory (.bootstrap "root" "Root"),
     .directory (.createDepartment { publicId := some "arts", name := "Arts" }),
     .directory (.createDepartment { publicId := some "science", name := "Science" }),
     .directory (.createLocation { publicId := some "annex", name := "Annex", parent := some "arts" }),
     .directory (.createRoom { publicId := some "studio", name := "Studio", parent := some "annex" }),
     .directory (.createUser { publicId := some "dora", displayName := "Dora" }),
     .caller root (.roles (.grant
       { user := "dora", role := .departmentAdmin, scope := some (.department "arts") })),
     .caller root (.equipment (.register
       { publicId := some "easel", name := "Easel", room := some "studio" }))]
where
  root : Context := { actor := ⟨⟨1⟩, "root", "Root"⟩, binding := some .siteAdmin }
  /-- Over the arts, and over science. -/
  arts : Context :=
    { actor := ⟨⟨2⟩, "dora", "Dora"⟩, binding := some ⟨.departmentAdmin, .department ⟨1⟩, .inl rfl⟩ }
  science : Context :=
    { actor := ⟨⟨2⟩, "dora", "Dora"⟩, binding := some ⟨.departmentAdmin, .department ⟨2⟩, .inl rfl⟩ }
  /-- The annex becomes a part of science. -/
  move : Operation := .directory (.relocateLocation "annex" "science")
  moved : Store := (move.run {} campus).store

/-- When the annex goes to science, the easel is out of sight for the arts and in sight for science,
and dora, who administers the arts, is told nothing more of the studio. -/
theorem campus_relocations :
    ((Custody.listEquipment campus.arts campus).map (·.item.val.publicId) = ["easel"] ∧
      (Custody.listEquipment campus.arts campus.moved).map (·.item.val.publicId) = [] ∧
      (Custody.listEquipment campus.science campus.moved).map (·.item.val.publicId) = ["easel"]) ∧
    ((campus.responsible (some ⟨1⟩)).toOption = some [⟨"dora", "Dora"⟩] ∧
      (campus.moved.responsible (some ⟨1⟩)).toOption = some [⟨"root", "Root"⟩]) ∧
    ∃ l p, campus.named? .location "annex" = some l ∧
      campus.named? .department "science" = some p ∧
      campus.Relocated campus.moved (.location l.id) (.department p.id) := by
  have reachable : Reachable campus := Reachable.serve (.seeded (.empty 0 0 0))
  exact ⟨by decide +kernel, by decide +kernel,
    (reachable.relocations {}).2 "annex" "science" (by decide +kernel)⟩

end Quartermaster
