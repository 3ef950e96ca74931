import Quartermaster.Proofs.Inversion

/-!
# Containment

`s.Below n m`: the node `n` is the node `m` or lies under it, by the parent links of the store. It
is said without chains and without conditions, and both agree with it.

Results:

1. `Below.trans`.
2. `covers_iff`: a binding at a node covers a node just when that lies below its own.
3. `permits_listed`: whether the context has the viewer's rank over a room is what the condition for
   listings says of the room. The two read the tree in their own ways, and neither asks more of the
   store.
-/

namespace Quartermaster

namespace Store

variable {s : Store}

/-- The location that a room is in. -/
def locationOf (s : Store) (room : RoomId) : Option LocationId :=
  (s.rooms.get? room).bind (·.val.location)

/-- The department that a location is in. -/
def departmentOf (s : Store) (location : LocationId) : Option DepartmentId :=
  (s.locations.get? location).bind (·.val.department)

inductive Below (s : Store) : Scope → Scope → Prop
  | department (id : DepartmentId) : Below s (.department id) (.department id)
  | location (id : LocationId) : Below s (.location id) (.location id)
  | room (id : RoomId) : Below s (.room id) (.room id)
  | inDepartment {id : LocationId} {parent : DepartmentId} {n : Scope} :
      s.departmentOf id = some parent → Below s (.department parent) n → Below s (.location id) n
  | inLocation {id : RoomId} {parent : LocationId} {n : Scope} :
      s.locationOf id = some parent → Below s (.location parent) n → Below s (.room id) n

theorem Below.trans {a b c : Scope} (h : s.Below a b) (h' : s.Below b c) : s.Below a c := by
  induction h with
  | department | location | room => exact h'
  | inDepartment parent _ ih => exact .inDepartment parent (ih h')
  | inLocation parent _ ih => exact .inLocation parent (ih h')

theorem below_department {id : DepartmentId} {n : Scope} :
    s.Below (.department id) n ↔ .department id = n := by
  constructor
  · intro h
    cases h
    rfl
  · rintro rfl
    exact .department id

theorem below_location {id : LocationId} {n : Scope} :
    s.Below (.location id) n ↔
      .location id = n ∨ ∃ parent, s.departmentOf id = some parent ∧ .department parent = n := by
  constructor
  · intro h
    cases h with
    | location => exact .inl rfl
    | inDepartment parent above => exact .inr ⟨_, parent, below_department.1 above⟩
  · rintro (rfl | ⟨_, parent, rfl⟩)
    · exact .location id
    · exact .inDepartment parent (.department _)

theorem below_room {id : RoomId} {n : Scope} :
    s.Below (.room id) n ↔
      .room id = n ∨ ∃ parent, s.locationOf id = some parent ∧ s.Below (.location parent) n := by
  constructor
  · intro h
    cases h with
    | room => exact .inl rfl
    | inLocation parent above => exact .inr ⟨_, parent, above⟩
  · rintro (rfl | ⟨_, parent, above⟩)
    · exact .room id
    · exact .inLocation parent above

/-! ## Chains -/

theorem chainOfRoom_eq (id : RoomId) :
    s.links.chainOfRoom id =
      .ok { room := some id, location := s.locationOf id
            department := (s.locationOf id).bind s.departmentOf } := by
  refine Results.bind_ok.2 ⟨s.locationOf id, rfl, ?_⟩
  cases s.locationOf id with
  | none => rfl
  | some parent => rfl

/-- A node with its ancestors. -/
def chainOf (s : Store) : Scope → Chain
  | .room id =>
    { room := some id, location := s.locationOf id
      department := (s.locationOf id).bind s.departmentOf }
  | .location id => { location := some id, department := s.departmentOf id }
  | .department id => { department := some id }
  | .site | .detached => {}

theorem passes_chainOf {n m : Scope} (at_node : m ≠ .site) :
    (s.chainOf n).passes m = true ↔ s.Below n m := by
  cases n with
  | site | detached =>
    refine iff_of_false ?_ (by rintro ⟨⟩)
    cases m <;> simp [chainOf, Chain.passes] at at_node ⊢
  | department id =>
    rw [below_department]
    cases m <;> simp [chainOf, Chain.passes] at at_node ⊢
  | location id =>
    rw [below_location]
    cases m <;> simp [chainOf, Chain.passes] at at_node ⊢
  | room id =>
    rw [below_room]
    cases m <;> simp [chainOf, Chain.passes, below_location, Option.bind_eq_some_iff] at at_node ⊢

/-- The links of a node are read until one is covered; past the node there is nothing to read. -/
theorem ite_passes {c : Chain} {m : Scope} (nothing : Chain.passes {} m = false) :
    (if c.passes m = true then .ok true else .ok (Chain.passes {} m) : Except Refusal Bool) =
      .ok (c.passes m) := by
  cases passed : c.passes m with
  | true => rfl
  | false => rw [if_neg (by simp), nothing]

theorem covers_target {b : Binding} {n : Scope} :
    s.links.covers b n.target = .ok ((s.chainOf n).passes b.scope) := by
  unfold Ancestry.covers
  split
  · next at_site =>
    rw [at_site]
    rfl
  · next gone =>
    rw [gone]
    rfl
  · next not_site _ =>
    have nothing : Chain.passes {} b.scope = false := by
      cases scope : b.scope with
      | site => exact absurd scope not_site
      | detached | department | location | room => rfl
    cases n with
    | site | detached | department => rfl
    | location n => exact ite_passes nothing
    | room n =>
      simp only [Scope.target, Ancestry.reachesFromRoom, chainOfRoom_eq]
      exact ite_passes nothing

/-- A binding at a node covers what lies below that node. -/
theorem covers_iff {b : Binding} {n : Scope} (at_node : b.scope ≠ .site) :
    s.links.covers b n.target = .ok true ↔ s.Below n b.scope := by
  rw [covers_target, Except.ok.injEq, passes_chainOf at_node]

/-! ## Listings -/

/-- What is in no room is covered by the whole site alone. -/
theorem covers_nowhere {b : Binding} :
    s.links.covers b (.inRoom none) = .ok (b.scope == .site) := by
  unfold Ancestry.covers
  cases b.scope <;> rfl

/-- Every binding has the viewer's rank, so the viewer's rank is a question of coverage. -/
theorem permits_viewer {ctx : Context} {t : Target} :
    s.links.permits ctx .roomViewer t =
      match ctx.binding with
      | none => .ok false
      | some b => s.links.covers b t := by
  unfold Ancestry.permits
  cases ctx.binding with
  | none => rfl
  | some b =>
    have rank : b.role.hasRank .roomViewer = true := Role.hasRank_iff.2 (Nat.zero_le _)
    simp only [rank, if_true]

/-- What a listing shows of a room is what the viewer's rank reaches: in no room, only the whole
site. -/
theorem permits_listed {ctx : Context} {room : Option RoomId} :
    s.links.permits ctx .roomViewer (.inRoom room) = .ok (ctx.condition.admits s room) := by
  rw [permits_viewer]
  unfold Context.condition
  cases ctx.binding with
  | none => rfl
  | some b =>
    dsimp only
    cases room with
    | none =>
      rw [covers_nowhere]
      cases b.scope <;> rfl
    | some id =>
      show s.links.covers b (Scope.room id).target = _
      rw [covers_target]
      congr 1
      -- link by link: where one is missing, neither side reaches the node
      cases b.scope with
      | site | detached | room => rfl
      | location n =>
        show ((s.rooms.get? id).bind (·.val.location) == some n) =
          (s.rooms.get? id).any fun r => r.val.location == some n
        cases s.rooms.get? id <;> rfl
      | department n =>
        show (((s.rooms.get? id).bind (·.val.location)).bind s.departmentOf == some n) =
          (s.rooms.get? id).any fun r => (r.val.location.bind s.locations.get?).any fun l =>
            l.val.department == some n
        cases s.rooms.get? id with
        | none => rfl
        | some r =>
          show (r.val.location.bind s.departmentOf == some n) =
            (r.val.location.bind s.locations.get?).any fun l => l.val.department == some n
          cases r.val.location with
          | none => rfl
          | some parent =>
            show ((s.locations.get? parent).bind (·.val.department) == some n) =
              (s.locations.get? parent).any fun l => l.val.department == some n
            cases s.locations.get? parent <;> rfl

end Store

end Quartermaster
