import Quartermaster.Proofs.Reachable

/-!
# Active roles

A user's active role is an assignment of that user. What moves the pointer asks whose assignment it
is, and an assignment that goes away takes the pointers to it along. So a request acts under a role of
its own user, if under any.

1. `Reachable.ownRoles`: active roles are the user's own.
2. `Store.Resolves`: what a request may act under; `Reachable.resolves`.
-/

namespace Quartermaster

/-- Every pointer to an active assignment names one of the user. -/
def OwnRoles (users : Table .user User) (roles : Table .roleAssignment RoleAssignment) : Prop :=
  ∀ u ∈ users.entries, ∀ id, u.val.active = some id →
    ∃ a, roles.get? id = some a ∧ a.val.user = u.id

namespace OwnRoles

variable {users : Table .user User} {roles : Table .roleAssignment RoleAssignment}

theorem addUser {u : User} (h : OwnRoles users roles) (none_active : u.active = none) :
    OwnRoles (users.insert u) roles := by
  intro v member id active
  rcases Table.mem_insert.1 member with old | rfl
  · exact h v old id active
  · cases none_active.symm.trans active

theorem addRole {a : RoleAssignment} (h : OwnRoles users roles) :
    OwnRoles users (roles.insert a) := by
  intro v member id active
  obtain ⟨b, found, own⟩ := h v member id active
  exact ⟨b, Table.get?_insert_of_some found, own⟩

/-- New values of a row, if the pointer stays or names an assignment of the user. -/
theorem put {u : Entry .user User} {v : User} (h : OwnRoles users roles)
    (found : users.get? u.id = some u)
    (own : v.active = u.val.active ∨
      ∃ a, v.active = some a.id ∧ roles.get? a.id = some a ∧ a.val.user = u.id) :
    OwnRoles (users.put u.id v) roles := by
  intro w member id active
  rcases Table.mem_put.1 member with ⟨old, _⟩ | ⟨rfl, same, _⟩
  · exact h w old id active
  · rcases own with stays | ⟨a, points, here, mine⟩
    · rw [same]
      exact h u (Table.mem_of_get? found).1 id (stays ▸ active)
    · obtain rfl := Option.some.inj (points.symm.trans active)
      exact ⟨a, here, same ▸ mine⟩

/-- A new assignment of a user becomes the active one. -/
theorem give {u : Entry .user User} {v : User} {a : RoleAssignment} (h : OwnRoles users roles)
    (numbered : roles.Numbered) (found : users.get? u.id = some u)
    (points : v.active = some roles.next) (own : a.user = u.id) :
    OwnRoles (users.put u.id v) (roles.insert a) :=
  h.addRole.put found (.inr ⟨⟨roles.next, a⟩, points, numbered.get?_insert_next, own⟩)

/-- Withdrawing an assignment clears the pointers to it. -/
theorem withdraw (h : OwnRoles users roles) (gone : RoleAssignmentId) :
    OwnRoles (users.map fun u => { u with active := Store.cleared gone u.active })
      (roles.erase gone) := by
  intro v member id active
  obtain ⟨old, here, rfl⟩ := Table.mem_map.1 member
  -- a pointer that is left was not cleared
  have still : old.val.active = some id ∧ id ≠ gone := by
    simp only [Store.cleared] at active
    split at active
    · cases active
    · next other => exact ⟨active, fun same => other (same ▸ active)⟩
  obtain ⟨a, found, own⟩ := h old here id still.1
  exact ⟨a, by rw [Table.get?_erase, if_neg still.2, found], own⟩

theorem mapUsers {f : User → User} (h : OwnRoles users roles)
    (kept : ∀ u, (f u).active = u.active) : OwnRoles (users.map f) roles := by
  intro v member id active
  obtain ⟨old, here, rfl⟩ := Table.mem_map.1 member
  exact h old here id (kept old.val ▸ active)

theorem mapRoles {f : RoleAssignment → RoleAssignment} (h : OwnRoles users roles)
    (kept : ∀ a, (f a).user = a.user) : OwnRoles users (roles.map f) := by
  intro v member id active
  obtain ⟨a, found, own⟩ := h v member id active
  exact ⟨{ a with val := f a.val }, by rw [Table.get?_map, found]; rfl, (kept a.val).trans own⟩

end OwnRoles

variable {s s' : Store}

theorem RoleStep.ownRoles {ctx : Context} {op : RoleOp} {done : Committed Answer}
    (step : RoleStep ctx s op done s') (sound : s.Sound)
    (h : OwnRoles s.users s.roleAssignments) : OwnRoles s'.users s'.roleAssignments := by
  cases step with
  | list => exact h
  | grantFirst _ _ user_named _ made _ _ =>
    rw [made]
    exact h.give sound.roleAssignments.numbered (sound.users.get?_of_find? user_named) rfl rfl
  | grantMore => exact h.addRole
  | activate named own caller_found =>
    obtain ⟨_, same⟩ := Table.mem_of_get? caller_found
    rw [← same] at caller_found own ⊢
    exact h.put caller_found (.inr ⟨_, rfl, sound.roleAssignments.get?_of_find? named, own⟩)
  | activateUnknown => exact h
  | revoke => exact h.withdraw _

theorem DirectoryStep.ownRoles {op : DirectoryOp} {done : Committed Answer}
    (step : DirectoryStep s op done s') (sound : s.Sound)
    (h : OwnRoles s.users s.roleAssignments) : OwnRoles s'.users s'.roleAssignments := by
  cases step with
  | chain | createDepartment | createLocation | createRoom | relocateRoom | relocateLocation =>
    exact h
  | @deleteNode _ scope =>
    have kept (gone : Scope) := h.mapRoles (f := Store.detached gone) fun _ => rfl
    cases scope with
    | site | detached => exact h
    | department id | location id => exact kept _
    | room id => exact (kept _).mapUsers fun _ => rfl
  | createUser _ no_role => exact h.addUser no_role
  | moveUser user_named => exact h.put (sound.users.get?_of_find? user_named) (.inl rfl)
  | bootstrapKnown _ user_named made =>
    rw [made]
    exact h.give sound.roleAssignments.numbered (sound.users.get?_of_find? user_named) rfl rfl
  | @bootstrapNew _ _ u _ _ _ _ _ _ _ added no_role made =>
    have here : (s.users.insert u.val).get? u.id = some u :=
      sound.users.numbered.get?_insert_self added
    rw [made]
    exact (h.addUser no_role).give sound.roleAssignments.numbered here rfl rfl

theorem OperationStep.ownRoles {d : Setting} {op : Operation} {done : Committed Answer}
    (step : OperationStep d s op done s') (sound : s.Sound)
    (h : OwnRoles s.users s.roleAssignments) : OwnRoles s'.users s'.roleAssignments := by
  cases step with
  | directory step => exact step.ownRoles sound h
  | caller step =>
    cases step with
    | holdings => exact h
    | roles step => exact step.ownRoles sound h
    | equipment step =>
      rw [step.frame]
      exact h
    | accessories step =>
      rw [step.frame]
      exact h
    | consumables step =>
      rw [step.frame]
      exact h

theorem Seeded.ownRoles (h : Seeded s) : OwnRoles s.users s.roleAssignments := by
  induction h with
  | empty => exact fun u member => by cases member
  | department _ created ih =>
    obtain ⟨_, _, _, rfl⟩ := Tx.createDepartment_ok created
    exact ih
  | location _ created ih =>
    obtain ⟨_, _, _, rfl⟩ := Tx.createLocation_ok created
    exact ih
  | room _ created ih =>
    obtain ⟨_, _, _, rfl⟩ := Tx.createRoom_ok created
    exact ih
  | user _ created ih =>
    obtain ⟨_, _, _, no_role, rfl⟩ := Tx.createUser_ok created
    exact ih.addUser no_role
  | role _ created ih =>
    obtain ⟨_, _, _, _, _, rfl⟩ := Tx.createRoleAssignment_ok created
    exact ih.addRole
  | activeRole seeded granted ih =>
    obtain ⟨u, b, a, s₁, named, created, same⟩ := PeopleStatement.grant_ok granted
    obtain ⟨_, _, _, rfl, _, rfl⟩ := Tx.createRoleAssignment_ok created
    rcases same with rfl | pointed
    · exact ih.addRole
    · obtain ⟨_, rfl⟩ | ⟨_, found, _, rfl⟩ := Tx.setActive_ok pointed
      · exact ih.addRole
      · have sound := seeded.sound
        obtain rfl := Store.named_row sound.users named found
        exact ih.give sound.roleAssignments.numbered found rfl rfl
  | equipment _ created ih =>
    obtain ⟨_, _, _, _, _, rfl⟩ := Tx.createEquipment_ok created
    exact ih
  | accessory _ created ih =>
    obtain ⟨_, _, _, _, _, _, rfl⟩ := Tx.createAccessory_ok created
    exact ih
  | consumable _ created ih =>
    obtain ⟨_, _, _, _, _, _, rfl⟩ := Tx.createConsumable_ok created
    exact ih

/-- In a reachable store the active role of a user is one of that user. -/
theorem Reachable.ownRoles (h : Reachable s) : OwnRoles s.users s.roleAssignments :=
  h.invariant (fun _ seeded => seeded.ownRoles) fun _ _ _ _ _ sound own step =>
    step.ownRoles sound own

/-! ## What a request acts under -/

namespace Entry

variable (u : Entry .user User)

/-- Who acts in the requests of a user. -/
def actor : Actor :=
  { id := u.id, publicId := u.val.publicId, displayName := u.val.displayName }

/-- The context of a user who acts under no assignment. -/
def idle : Context := { actor := u.actor, binding := none }

/-- The context of a user who acts under an assignment. -/
def acting (a : Entry .roleAssignment RoleAssignment) : Context :=
  { actor := u.actor, binding := some a.val.binding }

end Entry

namespace Store

/-- The assignment is there and belongs to the user, who has chosen it, or has it as the active one and
has chosen none. -/
structure Governs (s : Store) (u : Entry .user User) (chosen : Option String)
    (a : Entry .roleAssignment RoleAssignment) : Prop where
  there : s.row? a.id = some a
  own : a.val.user = u.id
  asked (publicId : String) : chosen = some publicId → a.val.publicId = publicId
  active : chosen = none → u.val.active = some a.id

/-- What may come of a request for the context of a user. -/
inductive Resolves (s : Store) (user : String) (chosen : Option String) :
    Except Refusal Context → Prop
  | refused (why : AuthFault) : s.Resolves user chosen (.error (.unauthenticated why))
  /-- No role is chosen, and none is active. -/
  | idle {u : Entry .user User} (named : s.named? .user user = some u)
      (unchosen : chosen = none) (inactive : u.val.active = none) :
      s.Resolves user chosen (.ok u.idle)
  | acting {u : Entry .user User} {a : Entry .roleAssignment RoleAssignment}
      (named : s.named? .user user = some u) (governs : s.Governs u chosen a) :
      s.Resolves user chosen (.ok (u.acting a))

end Store

/-- A request acts under an assignment of its own user that is there, or under none. -/
theorem Reachable.resolves (h : Reachable s) (user : String) (chosen : Option String) :
    s.Resolves user chosen (s.context user chosen) := by
  unfold Store.context
  cases named : s.named? .user user with
  | none => exact .refused _
  | some u =>
    cases chosen with
    | some publicId =>
      cases own : (s.named? .roleAssignment publicId).filter (·.val.user == u.id) with
      | none =>
        simp only [own]
        exact .refused _
      | some a =>
        simp only [own]
        obtain ⟨found, mine⟩ := Option.filter_eq_some_iff.1 own
        exact .acting named
          { there := h.sound.roleAssignments.get?_of_find? found
            own := beq_iff_eq.1 mine
            asked := fun _ same =>
              (beq_iff_eq.1 (Table.mem_of_find? found).2).trans (Option.some.inj same)
            active := nofun }
    | none =>
      cases active : u.val.active with
      | none =>
        simp only [active, Option.bind_none, Option.map_none]
        exact .idle named rfl active
      | some id =>
        obtain ⟨a, found, mine⟩ := h.ownRoles u (Table.mem_of_find? named).1 id active
        have there : s.row? id = some a := found
        obtain ⟨_, rfl⟩ := Table.mem_of_get? found
        simp only [active, Option.bind_some, there, Option.map_some]
        exact .acting named
          { there, own := mine, asked := fun _ same => (by cases same), active := fun _ => active }

end Quartermaster
