import Mathlib.Logic.Relation
import Quartermaster.Proofs.Containment

/-!
# Coverage is reachability

A binding covers a target just when it is at the whole site, or some node of the target leads up to
the node of the binding. This holds of any parent links (`ParentLinks`), also where rooms are in no
location and locations in no department, and what coverage is like follows from it.

1. `ParentLinks.covers_nodes`: the three tiers of a target are tried in turn, and this comes to
   asking each of its nodes.
2. `ParentLinks.passes_iff`: the chain of a node passes what the node reaches.
3. `ParentLinks.covers_iff_reaches`, and from it `ParentLinks.coverage`.
4. `ParentLinks.Reaches.mono`: links that go away take nodes out of reach and bring none into it.
-/

namespace Quartermaster

/-- The nodes of a target, finest first. -/
def Target.nodes (t : Target) : List Scope :=
  t.room.toList.map .room ++ t.location.toList.map .location
    ++ t.department.toList.map .department

/-- Parent links at one moment. -/
structure ParentLinks where
  locationOf : RoomId → Option LocationId
  departmentOf : LocationId → Option DepartmentId

/-- The parent links in a store. -/
def Store.parents (s : Store) : ParentLinks := ⟨s.locationOf, s.departmentOf⟩

namespace ParentLinks

/-- The reader of the links, which never fails. -/
def ancestry (p : ParentLinks) : Ancestry := .ofLinks p.locationOf p.departmentOf

/-- One link up. -/
inductive Up (p : ParentLinks) : Scope → Scope → Prop
  | ofRoom {room : RoomId} {location : LocationId} :
      p.locationOf room = some location → Up p (.room room) (.location location)
  | ofLocation {location : LocationId} {department : DepartmentId} :
      p.departmentOf location = some department →
      Up p (.location location) (.department department)

/-- Any number of links up, or none. -/
def Reaches (p : ParentLinks) : Scope → Scope → Prop := Relation.ReflTransGen p.Up

/-- A node with its ancestors. -/
def chainOf (p : ParentLinks) : Scope → Chain
  | .room id =>
    { room := some id, location := p.locationOf id
      department := (p.locationOf id).bind p.departmentOf }
  | .location id => { location := some id, department := p.departmentOf id }
  | .department id => { department := some id }
  | .site | .detached => {}

end ParentLinks

theorem Store.links_eq {s : Store} : s.links = s.parents.ancestry := rfl

theorem Store.chainOf_eq {s : Store} : s.chainOf = s.parents.chainOf := by
  funext n
  cases n <;> rfl

namespace ParentLinks

variable {p p' : ParentLinks} {b : Binding} {t : Target} {m n : Scope}

/-! ## What is asked -/

theorem reachesFromRoom_eq {room : Option RoomId} : p.ancestry.reachesFromRoom m room =
    .ok ((room.toList.map Scope.room).any fun n => (p.chainOf n).passes m) := by
  cases room with
  | none => rfl
  | some id =>
    have chain : p.ancestry.chainOfRoom id = .ok (p.chainOf (.room id)) := by
      refine Results.bind_ok.2 ⟨p.locationOf id, rfl, ?_⟩
      simp only [chainOf]
      cases p.locationOf id <;> rfl
    rw [Ancestry.reachesFromRoom, chain]
    simp [Except.map]

theorem reachesFromLocation_eq {location : Option LocationId} :
    p.ancestry.reachesFromLocation m location =
      .ok ((location.toList.map Scope.location).any fun n => (p.chainOf n).passes m) := by
  cases location with
  | none => rfl
  | some id =>
    rw [Option.toList_some, List.map_singleton, List.any_cons, List.any_nil, Bool.or_false]
    rfl

theorem passes_department {department : Option DepartmentId} (at_node : m ≠ .site) :
    Chain.passes { department } m =
      (department.toList.map Scope.department).any fun n => (p.chainOf n).passes m := by
  cases department with
  | none =>
    cases m with
    | site => exact absurd rfl at_node
    | department | location | room | detached => rfl
  | some id => simp [chainOf]

/-- A target is covered where one of its nodes is, and there is always an answer. -/
theorem covers_nodes (at_node : b.scope ≠ .site) :
    p.ancestry.covers b t = .ok (t.nodes.any fun n => (p.chainOf n).passes b.scope) := by
  unfold Ancestry.covers
  split
  · next at_site => exact absurd at_site at_node
  · next gone => simp [gone, Chain.passes]
  · rw [reachesFromRoom_eq, reachesFromLocation_eq, passes_department at_node, Target.nodes,
      List.any_append, List.any_append]
    -- the nodes are tried one by one, and the first one that is covered settles it
    cases (t.room.toList.map Scope.room).any fun n => (p.chainOf n).passes b.scope with
    | true => rfl
    | false =>
      cases (t.location.toList.map Scope.location).any fun n => (p.chainOf n).passes b.scope with
      | true => rfl
      | false => rfl

theorem covers_site (at_site : b.scope = .site) : p.ancestry.covers b t = .ok true := by
  rw [Ancestry.covers, at_site]

/-! ## What is reached -/

theorem reaches_department {id : DepartmentId} :
    p.Reaches (.department id) m ↔ .department id = m := by
  rw [Reaches, Relation.ReflTransGen.cases_head_iff]
  constructor
  · rintro (same | ⟨_, up, _⟩)
    · exact same
    · cases up
  · exact .inl

theorem reaches_location {id : LocationId} :
    p.Reaches (.location id) m ↔
      .location id = m ∨ ∃ parent, p.departmentOf id = some parent ∧ .department parent = m := by
  rw [Reaches, Relation.ReflTransGen.cases_head_iff]
  constructor
  · rintro (same | ⟨_, up, above⟩)
    · exact .inl same
    · cases up with
      | ofLocation parent => exact .inr ⟨_, parent, reaches_department.1 above⟩
  · rintro (same | ⟨_, parent, rfl⟩)
    · exact .inl same
    · exact .inr ⟨_, .ofLocation parent, .refl⟩

theorem reaches_room {id : RoomId} :
    p.Reaches (.room id) m ↔
      .room id = m ∨ ∃ parent, p.locationOf id = some parent ∧ p.Reaches (.location parent) m := by
  rw [Reaches, Relation.ReflTransGen.cases_head_iff]
  constructor
  · rintro (same | ⟨_, up, above⟩)
    · exact .inl same
    · cases up with
      | ofRoom parent => exact .inr ⟨_, parent, above⟩
  · rintro (same | ⟨_, parent, above⟩)
    · exact .inl same
    · exact .inr ⟨_, .ofRoom parent, above⟩

/-- The chain of a node passes what the node reaches. -/
theorem passes_iff (at_node : m ≠ .site) (node : n ≠ .site ∧ n ≠ .detached) :
    (p.chainOf n).passes m = true ↔ p.Reaches n m := by
  cases n with
  | site => exact absurd rfl node.1
  | detached => exact absurd rfl node.2
  | department id =>
    rw [reaches_department]
    cases m <;> simp [chainOf, Chain.passes] at at_node ⊢
  | location id =>
    rw [reaches_location]
    cases m <;> simp [chainOf, Chain.passes] at at_node ⊢
  | room id =>
    rw [reaches_room]
    cases m <;> simp [chainOf, Chain.passes, reaches_location, Option.bind_eq_some_iff] at at_node ⊢

/-- Whoever reaches something has a link, or is there already. -/
theorem Reaches.tier_le (h : p.Reaches n m) {low high : Tier} (here : n.tier = some low)
    (there : m.tier = some high) : low.rank ≤ high.rank := by
  induction h using Relation.ReflTransGen.head_induction_on generalizing low with
  | refl =>
    rw [here] at there
    cases there
    exact Nat.le_refl _
  | head up _ ih =>
    -- a link leads from a tier to the next coarser one
    cases up with
    | ofRoom =>
      cases here
      exact Nat.le_trans (by decide) (ih rfl)
    | ofLocation =>
      cases here
      exact Nat.le_trans (by decide) (ih rfl)

/-- Nothing leads to a node that is gone. -/
theorem Reaches.attached (h : p.Reaches n m) (node : n ≠ .detached) : m ≠ .detached := by
  induction h with
  | refl => exact node
  | tail _ up => cases up <;> nofun

/-- Where links only went away, no more is reached. -/
theorem Reaches.mono (h : p.Reaches n m) (fewer : ∀ {a c}, p.Up a c → p'.Up a c) :
    p'.Reaches n m :=
  h.lift id fun _ _ up => fewer up

theorem node_of_mem (among : n ∈ t.nodes) : n ≠ .site ∧ n ≠ .detached := by
  simp only [Target.nodes, List.mem_append, List.mem_map] at among
  obtain (⟨_, _, rfl⟩ | ⟨_, _, rfl⟩) | ⟨_, _, rfl⟩ := among
  · exact ⟨nofun, nofun⟩
  · exact ⟨nofun, nofun⟩
  · exact ⟨nofun, nofun⟩

/-- A binding covers a target just when it is at the whole site, or a node of the target reaches its
node. -/
theorem covers_iff_reaches :
    p.ancestry.covers b t = .ok true ↔
      b.scope = .site ∨ ∃ n ∈ t.nodes, p.Reaches n b.scope := by
  by_cases at_site : b.scope = .site
  · simp [covers_site at_site, at_site]
  · rw [covers_nodes at_site, Except.ok.injEq, List.any_eq_true]
    constructor
    · rintro ⟨n, among, passes⟩
      exact .inr ⟨n, among, (passes_iff at_site (node_of_mem among)).1 passes⟩
    · rintro (site | ⟨n, among, reaches⟩)
      · exact absurd site at_site
      · exact ⟨n, among, (passes_iff at_site (node_of_mem among)).2 reaches⟩

/-- There is always an answer. -/
theorem covers_answers : ∃ answer, p.ancestry.covers b t = .ok answer := by
  by_cases at_site : b.scope = .site
  · exact ⟨_, covers_site at_site⟩
  · exact ⟨_, covers_nodes at_site⟩

theorem covers_false (unreached : ¬p.ancestry.covers b t = .ok true) :
    p.ancestry.covers b t = .ok false := by
  obtain ⟨answer, told⟩ := covers_answers (p := p) (b := b) (t := t)
  cases answer with
  | true => exact absurd told unreached
  | false => exact told

end ParentLinks

/-! ## What coverage is like -/

/-- Every node that the one target gives, the other gives as well. -/
structure Target.Within (t t' : Target) : Prop where
  room : ∀ id, t.room = some id → t'.room = some id
  location : ∀ id, t.location = some id → t'.location = some id
  department : ∀ id, t.department = some id → t'.department = some id

theorem Target.Within.nodes {t t' : Target} (within : t.Within t') :
    ∀ n ∈ t.nodes, n ∈ t'.nodes := by
  simp only [Target.nodes, List.mem_append, List.mem_map, Option.mem_toList]
  rintro n ((⟨id, given, rfl⟩ | ⟨id, given, rfl⟩) | ⟨id, given, rfl⟩)
  · exact .inl (.inl ⟨id, within.room id given, rfl⟩)
  · exact .inl (.inr ⟨id, within.location id given, rfl⟩)
  · exact .inr ⟨id, within.department id given, rfl⟩

/-- The target that is a node gives that node, and what is no node gives none. -/
theorem Scope.mem_target {n m : Scope} :
    m ∈ n.target.nodes ↔ m = n ∧ n ≠ .site ∧ n ≠ .detached := by
  cases n <;> simp [Scope.target, Target.nodes]

/-- What coverage under the present links is. -/
structure ParentLinks.Coverage (p : ParentLinks) : Prop where
  /-- There is an answer for every binding and every target, and it is reachability. -/
  reachable (b : Binding) (t : Target) :
    ∃ answer, p.ancestry.covers b t = .ok answer ∧
      (answer = true ↔ b.scope = .site ∨ ∃ n ∈ t.nodes, p.Reaches n b.scope)
  /-- A binding covers its own node. -/
  reflexive (b : Binding) : b.scope ≠ .detached → p.ancestry.covers b b.scope.target = .ok true
  transitive (b b' : Binding) (t : Target) :
    p.ancestry.covers b b'.scope.target = .ok true → p.ancestry.covers b' t = .ok true →
      p.ancestry.covers b t = .ok true
  /-- What is covered stays so when tiers are added to the target. -/
  monotone (b : Binding) (t t' : Target) :
    t.Within t' → p.ancestry.covers b t = .ok true → p.ancestry.covers b t' = .ok true
  /-- No node of a coarser tier is covered. -/
  downward (b : Binding) (n : Scope) (fine coarse : Tier) :
    b.scope.tier = some fine → n.tier = some coarse → fine.rank < coarse.rank →
      p.ancestry.covers b n.target = .ok false
  /-- A binding that lost its node covers nothing. -/
  detached (b : Binding) (t : Target) :
    b.scope = .detached → p.ancestry.covers b t = .ok false

/-- Coverage is reachability along the present links, whatever they are; so it is reflexive at every
tier, transitive, monotone in the target, never upward, and empty without a node. -/
theorem ParentLinks.coverage (p : ParentLinks) : p.Coverage where
  reachable b t := by
    obtain ⟨answer, told⟩ := p.covers_answers (b := b) (t := t)
    refine ⟨answer, told, ?_⟩
    rw [← covers_iff_reaches, told, Except.ok.injEq]
  reflexive b attached := by
    by_cases at_site : b.scope = .site
    · exact covers_site at_site
    · exact covers_iff_reaches.2
        (.inr ⟨b.scope, Scope.mem_target.2 ⟨rfl, at_site, attached⟩, .refl⟩)
  transitive b b' t over_node over_target := by
    refine covers_iff_reaches.2 ?_
    rcases covers_iff_reaches.1 over_node with at_site | ⟨_, among, above⟩
    · exact .inl at_site
    · obtain ⟨rfl, below_site, _⟩ := Scope.mem_target.1 among
      rcases covers_iff_reaches.1 over_target with at_site | ⟨n, among, below⟩
      · exact absurd at_site below_site
      · exact .inr ⟨n, among, below.trans above⟩
  monotone b t t' within covered := by
    rcases covers_iff_reaches.1 covered with at_site | ⟨n, among, reaches⟩
    · exact covers_site at_site
    · exact covers_iff_reaches.2 (.inr ⟨n, within.nodes n among, reaches⟩)
  downward b n fine coarse at_fine at_coarse finer := by
    refine covers_false fun covered => ?_
    rcases covers_iff_reaches.1 covered with at_site | ⟨_, among, reaches⟩
    · -- no tier is coarser than the site
      rw [at_site] at at_fine
      cases at_fine
      cases coarse <;> simp [Tier.rank] at finer
    · obtain ⟨rfl, _⟩ := Scope.mem_target.1 among
      have := reaches.tier_le at_coarse at_fine
      omega
  detached b t lost := by
    refine covers_false fun covered => ?_
    rcases covers_iff_reaches.1 covered with at_site | ⟨n, among, reaches⟩
    · cases lost.symm.trans at_site
    · exact reaches.attached (node_of_mem among).2 lost

end Quartermaster
