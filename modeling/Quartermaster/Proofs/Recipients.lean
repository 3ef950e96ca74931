import Quartermaster.Proofs.Selection

/-!
# Who answers for a room

A notice about a room goes to the users whose assignments, active or not, administer the room or a
node above it, and to the holders of the highest role where there are none. The administrators are
found by a query that compares columns with the chain of the room, and not by asking of each binding
what it covers. The two agree in every sound store, also where links of the chain are missing.

1. `Store.mem_administrators`, `Store.siteAdmins_eq_joined`: the queries over `users` and
   `role_assignments`, clause by clause. The first takes a user once although more assignments of
   the user may qualify; the second need not be told so.
2. `Store.administers_iff`: what the columns are compared with is what the binding covers.
3. `Store.Sound.responsible`: it can always be told who answers for a room, and `Store.Answerable`
   says who they are.
-/

namespace Quartermaster

/-- The roles of administrators of nodes. -/
def Role.administrators : List Role := [.roomAdmin, .locationAdmin, .departmentAdmin]

namespace Store

variable {s : Store} {u : Entry .user User}

/-- The user has an assignment, active or not, of an administrator's role that covers the room. -/
def Administers (s : Store) (user : UserId) (room : Option RoomId) : Prop :=
  ∃ a ∈ s.roleAssignments.entries, a.val.user = user ∧ a.val.role ∈ Role.administrators ∧
    s.links.covers a.val.binding (.inRoom room) = .ok true

/-- The user has an assignment of the highest role. -/
def HoldsHighest (s : Store) (user : UserId) : Prop :=
  ∃ a ∈ s.roleAssignments.entries, a.val.user = user ∧ a.val.role = .siteAdmin

/-- The people are those who answer for the room, each once and in ascending order of ids. -/
structure Answerable (s : Store) (room : Option RoomId) (people : List (Entry .user User)) : Prop where
  stored : ∀ u ∈ people, u ∈ s.users.entries
  ascending : (people.map (·.id.row)).Pairwise (· < ·)
  administered : (∃ u ∈ s.users.entries, s.Administers u.id room) →
    ∀ u ∈ s.users.entries, u ∈ people ↔ s.Administers u.id room
  unadministered : (room = none ∨ ∀ u ∈ s.users.entries, ¬s.Administers u.id room) →
    ∀ u ∈ s.users.entries, u ∈ people ↔ s.HoldsHighest u.id

/-- Nobody administers what is in no room. -/
theorem not_administers_nowhere {user : UserId} : ¬s.Administers user none := by
  rintro ⟨a, member, _, role, covers⟩
  rw [covers_nowhere, Except.ok.injEq, beq_iff_eq] at covers
  have tier := a.val.binding.fits
  rw [covers, RoleAssignment.binding_role] at tier
  cases held : a.val.role <;> simp_all [Role.administrators, Scope.tier, Role.tier]

/-! ## Holders of assignments -/

theorem mem_holdersOf {p : RoleAssignment → Bool} :
    u ∈ s.holdersOf p ↔
      u ∈ s.users.entries ∧ ∃ a ∈ s.roleAssignments.entries, a.val.user = u.id ∧ p a.val = true := by
  simp only [holdersOf, Table.find?, List.mem_filter, List.find?_isSome, Bool.and_eq_true,
    beq_iff_eq]

theorem holdersOf_ascending {p : RoleAssignment → Bool} (sound : s.Sound) :
    ((s.holdersOf p).map (·.id.row)).Pairwise (· < ·) :=
  sound.users.numbered.ascending.sublist (List.filter_sublist.map _)

/-- `users JOIN role_assignments ON role_assignments.user_id = users.id` under a condition: a user
for each assignment that qualifies. -/
def joined (s : Store) (condition : RoleAssignment → Option Bool) : List (Entry .user User) :=
  s.users.entries.flatMap fun u =>
    (Sql.select s.roleAssignments.entries fun a =>
      Sql.both (Sql.equal (some a.val.user) (some u.id)) (condition a.val)).map fun _ => u

theorem mem_joined {condition : RoleAssignment → Option Bool} :
    u ∈ s.joined condition ↔ u ∈ s.users.entries ∧ ∃ a ∈ s.roleAssignments.entries,
      a.val.user = u.id ∧ condition a.val = some true := by
  simp only [joined, List.mem_flatMap, List.mem_map, Sql.mem_select, Sql.both_true, Sql.equal_true,
    Option.some.injEq]
  constructor
  · rintro ⟨_, here, a, ⟨member, ⟨_, own, rfl⟩, holds⟩, rfl⟩
    exact ⟨here, a, member, own, holds⟩
  · rintro ⟨here, a, member, own, holds⟩
    exact ⟨u, here, a, ⟨member, ⟨_, own, rfl⟩, holds⟩, rfl⟩

end Store

/-- What the query for administrators of a chain asks of an assignment. Where the chain has no such
node, the node is compared with nothing. -/
def Chain.truth (c : Chain) (a : RoleAssignment) : Option Bool :=
  let tier {k : Kind} (role : Role) (column node : Option (Id k)) :=
    Sql.both (Sql.equal (some a.role) (some role)) (Sql.equal column node)
  Sql.either
    (Sql.either (tier .roomAdmin a.columns.room c.room)
      (tier .locationAdmin a.columns.location c.location))
    (tier .departmentAdmin a.columns.department c.department)

namespace Store

variable {s : Store} {u : Entry .user User} {a : RoleAssignment} {c : Chain}

theorem column_eq {k : Kind} {column node : Option (Id k)} :
    (column.isSome && column == node) = true ↔ Sql.equal column node = some true := by
  rw [Sql.equal_true, Bool.and_eq_true, Option.isSome_iff_exists, beq_iff_eq]
  constructor
  · rintro ⟨⟨id, rfl⟩, rfl⟩
    exact ⟨id, rfl, rfl⟩
  · rintro ⟨id, rfl, rfl⟩
    exact ⟨⟨id, rfl⟩, rfl⟩

theorem administers_truth : administers c a = true ↔ c.truth a = some true := by
  simp only [Chain.truth, Sql.either_true, Sql.both_true, ← column_eq]
  unfold administers
  cases a.role <;> simp [Sql.equal]

/-- The query for administrators. A user of whom several assignments qualify is taken once. -/
theorem mem_administrators : u ∈ s.administrators c ↔ u ∈ s.joined c.truth := by
  simp only [administrators, mem_holdersOf, mem_joined, administers_truth]

/-- Nobody holds the highest role twice. -/
theorem highest_alone (sound : s.Sound) (user : UserId) :
    (s.roleAssignments.filter fun a => a.user == user && a.role == .siteAdmin).length ≤ 1 :=
  sound.roleAssignments.filter_subsingleton fun a _ b _ ha hb => by
    simp only [Bool.and_eq_true, beq_iff_eq] at ha hb
    simp [Record.clashes, ha, hb]

/-- The query for holders of the highest role. It finds nobody twice. -/
theorem siteAdmins_eq_joined (sound : s.Sound) :
    s.siteAdmins = s.joined fun a => Sql.equal (some a.role) (some .siteAdmin) := by
  have chosen (user : UserId) : (Sql.select s.roleAssignments.entries fun a =>
      Sql.both (Sql.equal (some a.val.user) (some user))
        (Sql.equal (some a.val.role) (some .siteAdmin))) =
      s.roleAssignments.filter fun a => a.user == user && a.role == .siteAdmin :=
    List.filter_congr fun a _ => by
      rw [Bool.eq_iff_iff]
      simp only [beq_iff_eq, Sql.both_true, Sql.equal_true, Bool.and_eq_true]
      simp [eq_comm]
  unfold siteAdmins holdersOf joined
  simp only [chosen, Table.find?_eq_head?]
  induction s.users.entries with
  | nil => rfl
  | cons u rest ih =>
    have alone := highest_alone sound u.id
    rw [List.flatMap_cons, ← ih, List.filter_cons]
    match held : s.roleAssignments.filter fun a => a.user == u.id && a.role == .siteAdmin with
    | [] => rfl
    | [_] => rfl
    | _ :: _ :: _ => simp [held] at alone

/-- The columns of an assignment are compared with a chain just as its binding is. -/
theorem administers_iff (readable : a.Readable) :
    administers c a = true ↔ a.role ∈ Role.administrators ∧ c.passes a.binding.scope = true := by
  have columns : a.columns = .ofScope a.binding.scope := readable
  have fits := a.binding.fits
  rw [RoleAssignment.binding_role] at fits
  unfold administers
  rw [columns]
  -- a role is at a node of its own tier, or its node is gone
  generalize a.binding.scope = scope at fits ⊢
  generalize a.role = role at fits ⊢
  cases role <;> cases scope <;> simp [Scope.tier, Role.tier] at fits <;>
    simp [Role.administrators, ScopeColumns.ofScope, Chain.passes]
  all_goals exact eq_comm

/-! ## Who is told -/

/-- The query for the chain of a room finds those whose bindings cover the room. -/
theorem mem_joined_truth (sound : s.Sound) {room : RoomId} :
    u ∈ s.joined (s.chainOf (.room room)).truth ↔
      u ∈ s.users.entries ∧ s.Administers u.id (some room) := by
  have covers (b : Binding) : s.links.covers b (.inRoom (some room)) =
      .ok ((s.chainOf (.room room)).passes b.scope) := covers_target (n := .room room)
  simp only [mem_joined, ← administers_truth, Administers, covers, Except.ok.injEq]
  refine and_congr_right fun _ => exists_congr fun a => and_congr_right fun member => ?_
  rw [administers_iff (sound.readable a member)]

theorem mem_administrators_room (sound : s.Sound) {room : RoomId} :
    u ∈ s.administrators (s.chainOf (.room room)) ↔
      u ∈ s.users.entries ∧ s.Administers u.id (some room) :=
  mem_administrators.trans (mem_joined_truth sound)

theorem mem_siteAdmins (sound : s.Sound) :
    u ∈ s.siteAdmins ↔ u ∈ s.users.entries ∧ s.HoldsHighest u.id := by
  simp only [siteAdmins_eq_joined sound, mem_joined, HoldsHighest, Sql.equal_true,
    Option.some.injEq, exists_eq_right']

/-- Where nobody administers the room, the holders of the highest role answer for it. -/
theorem answerable_siteAdmins {room : Option RoomId} (sound : s.Sound)
    (unadministered : ∀ u ∈ s.users.entries, ¬s.Administers u.id room) :
    s.Answerable room s.siteAdmins where
  stored _ among := ((mem_siteAdmins sound).1 among).1
  ascending := holdersOf_ascending sound
  administered := fun ⟨u, here, administers⟩ => absurd administers (unadministered u here)
  unadministered _ _ here := by rw [mem_siteAdmins sound, and_iff_right here]

theorem answerable_administrators {room : RoomId} (sound : s.Sound)
    (some_one : s.administrators (s.chainOf (.room room)) ≠ []) :
    s.Answerable (some room) (s.administrators (s.chainOf (.room room))) where
  stored _ among := ((mem_administrators_room sound).1 among).1
  ascending := holdersOf_ascending sound
  administered _ _ here := by rw [mem_administrators_room sound, and_iff_right here]
  unadministered nobody := by
    obtain ⟨u, among⟩ := List.exists_mem_of_ne_nil _ some_one
    obtain ⟨here, administers⟩ := (mem_administrators_room sound).1 among
    exact absurd administers (nobody.resolve_left nofun u here)

theorem responsible_room {room : RoomId} : s.responsible (some room) = .ok
    ((if (s.administrators (s.chainOf (.room room))).isEmpty then s.siteAdmins
      else s.administrators (s.chainOf (.room room))).map .ofUser) := by
  unfold Store.responsible
  simp only [chainOfRoom_eq]
  rfl

/-- It can always be told who answers for a room, or for what is in none. -/
theorem Sound.responsible (sound : s.Sound) (room : Option RoomId) :
    ∃ people, s.responsible room = .ok (people.map .ofUser) ∧ s.Answerable room people := by
  cases room with
  | none => exact ⟨s.siteAdmins, rfl, answerable_siteAdmins sound fun _ _ => not_administers_nowhere⟩
  | some room =>
    rw [responsible_room]
    by_cases nobody : s.administrators (s.chainOf (.room room)) = []
    · refine ⟨s.siteAdmins, by rw [nobody]; rfl, answerable_siteAdmins sound ?_⟩
      intro u here administers
      have among := (mem_administrators_room sound).2 ⟨here, administers⟩
      rw [nobody] at among
      cases among
    · refine ⟨_, ?_, answerable_administrators sound nobody⟩
      rw [if_neg (by rwa [List.isEmpty_iff])]

end Store

end Quartermaster
