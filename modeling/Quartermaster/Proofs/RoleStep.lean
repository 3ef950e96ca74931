import Quartermaster.Proofs.Store.Composed

/-!
# What an operation on roles does

`RoleStep ctx s op done s'`: in the store `s`, the operation `op` for the caller `ctx` may leave the
store `s'` and tell `done`. Granting and revoking ask for the rank above the role, over its node;
making a role the active one asks that it is the caller's.

Result: `RoleOp.run_ok`. An operation that is not refused takes such a step, and the store stays
sound.
-/

namespace Quartermaster

/-- Whether the operation hands out a role or withdraws one. -/
def RoleOp.isGrant : RoleOp → Bool
  | .grant _ | .revoke _ => true
  | _ => false

/-- The context outranks the binding over its node. -/
def Store.Outranks (s : Store) (ctx : Context) (b : Binding) : Prop :=
  s.links.permits ctx b.role.successor b.scope.target = .ok true

inductive RoleStep (ctx : Context) (s : Store) : RoleOp → Committed Answer → Store → Prop
  | list : RoleStep ctx s .list { answer := .roles (s.rolesOf ctx.actor.id) } s
  /-- The first role of a user becomes the active one. -/
  | grantFirst {input : GrantInput} {b : Binding} {u : Entry .user User}
      {a : Entry .roleAssignment RoleAssignment} {publicId : String} {at' : Stamp}
      {record : AuditRow} {clock minted : Nat}
      (asked : Grants.bindingOf input.role input.scope s = .ok b)
      (outranks : s.Outranks ctx b)
      (user_named : s.named? .user input.user = some u)
      (attached : b.scope ≠ .detached)
      (made : a = ⟨s.roleAssignments.next,
        { publicId, user := u.id, role := b.role, columns := .ofScope b.scope
          grantedBy := some ctx.actor.id, createdAt := at' }⟩)
      (first : u.val.active = none)
      (told : record.Tells ctx.actor "role.grant" .user u.val.publicId u.val.displayName
        (s.scopeNames (Grants.roomOf b.scope))) :
      RoleStep ctx s (.grant input)
        { answer := .role a, events := [.roleGranted a.val.publicId input.user input.role] }
        { s with
          roleAssignments := s.roleAssignments.insert a.val
          users := s.users.put u.id { u.val with active := some a.id }
          audit := s.audit.insert record, clock, minted }
  | grantMore {input : GrantInput} {b : Binding} {u : Entry .user User}
      {a : Entry .roleAssignment RoleAssignment} {publicId : String} {at' : Stamp}
      {record : AuditRow} {clock minted : Nat}
      (asked : Grants.bindingOf input.role input.scope s = .ok b)
      (outranks : s.Outranks ctx b)
      (user_named : s.named? .user input.user = some u)
      (attached : b.scope ≠ .detached)
      (made : a = ⟨s.roleAssignments.next,
        { publicId, user := u.id, role := b.role, columns := .ofScope b.scope
          grantedBy := some ctx.actor.id, createdAt := at' }⟩)
      (more : u.val.active ≠ none)
      (told : record.Tells ctx.actor "role.grant" .user u.val.publicId u.val.displayName
        (s.scopeNames (Grants.roomOf b.scope))) :
      RoleStep ctx s (.grant input)
        { answer := .role a, events := [.roleGranted a.val.publicId input.user input.role] }
        { s with
          roleAssignments := s.roleAssignments.insert a.val
          audit := s.audit.insert record, clock, minted }
  | activate {assignment : String} {u : Entry .user User}
      {a : Entry .roleAssignment RoleAssignment}
      (named : s.named? .roleAssignment assignment = some a)
      (own : a.val.user = ctx.actor.id)
      (caller_found : s.row? ctx.actor.id = some u) :
      RoleStep ctx s (.activate assignment) { answer := .role a }
        { s with users := s.users.put ctx.actor.id { u.val with active := some a.id } }
  /-- A caller that the store does not know changes nothing. -/
  | activateUnknown {assignment : String} {a : Entry .roleAssignment RoleAssignment}
      (named : s.named? .roleAssignment assignment = some a)
      (own : a.val.user = ctx.actor.id)
      (unknown : s.users.get? ctx.actor.id = none) :
      RoleStep ctx s (.activate assignment) { answer := .role a } s
  | revoke {assignment : String} {a : Entry .roleAssignment RoleAssignment} {u : Entry .user User}
      {record : AuditRow} {clock minted : Nat}
      (named : s.named? .roleAssignment assignment = some a)
      (outranks : s.Outranks ctx a.val.binding)
      (user_found : s.row? a.val.user = some u)
      (told : record.Tells ctx.actor "role.revoke" .user u.val.publicId u.val.displayName
        (s.scopeNames (Grants.roomOf a.val.binding.scope))) :
      RoleStep ctx s (.revoke assignment)
        { answer := .nothing, events := [.roleRevoked assignment u.val.publicId] }
        { s with
          roleAssignments := s.roleAssignments.erase a.id
          users := s.users.map fun u => { u with active := Store.cleared a.id u.active }
          audit := s.audit.insert record, clock, minted }

namespace Grants

open Tx (bind_ok pure_ok read_ok get_ok require_ok present_ok)

variable {d : Setting} {ctx : Context} {s s' : Store}

instance {action : String} {u : Entry .user User} {scope : Scope} {details : List (String × Json)} :
    Tx.Composed (recordRole d ctx action u scope details) :=
  inferInstanceAs (Tx.Composed (Tx.record _ _ _))

theorem authorize_ok {b : Binding} {deed : String} {u : Unit} :
    authorize ctx b deed s = .ok (u, s') ↔ s.Outranks ctx b ∧ s' = s := by
  rw [authorize, read_ok, Ancestry.demand_ok, Store.Outranks]

theorem grant_ok {input : GrantInput} {done : Committed (Entry .roleAssignment RoleAssignment)}
    (sound : s.Sound) (h : grant d ctx input s = .ok (done, s')) :
    RoleStep ctx s (.grant input) (done.map .role) s' ∧ s'.Sound := by
  simp only [grant, bind_ok, read_ok, authorize_ok, Store.named_ok] at h
  obtain ⟨b, _, ⟨asked, rfl⟩, _, _, ⟨outranks, rfl⟩, u, _, ⟨user_named, rfl⟩, a, _, created, h⟩ := h
  have between := sound.after created
  obtain ⟨_, _, attached, rfl, _, rfl⟩ := Tx.createRoleAssignment_ok created
  -- the first role of a user becomes the active one
  cases active : u.val.active with
  | none =>
    simp only [active, Option.isNone_none, if_true, bind_ok, pure_ok] at h
    obtain ⟨_, _, pointed, _, _, recorded, rfl, rfl⟩ := h
    have kept := (between.after pointed).after recorded
    obtain ⟨unknown, _⟩ | ⟨_, found, _, rfl⟩ := Tx.setActive_ok pointed
    · exact absurd ((sound.users.get?_of_find? user_named).symm.trans unknown) (by simp)
    · obtain rfl := Store.named_row sound.users user_named found
      obtain ⟨_, record, _, told, _, rfl⟩ := Tx.record_ok recorded
      exact ⟨.grantFirst asked outranks user_named attached rfl active told, kept⟩
  | some id =>
    simp only [active, Option.isNone_some, Bool.false_eq_true, if_false, bind_ok, pure_ok] at h
    obtain ⟨_, _, recorded, rfl, rfl⟩ := h
    have kept := between.after recorded
    obtain ⟨_, record, _, told, _, rfl⟩ := Tx.record_ok recorded
    exact ⟨.grantMore asked outranks user_named attached rfl (by simp [active]) told, kept⟩

theorem activate_ok {assignment : String} {a : Entry .roleAssignment RoleAssignment}
    (sound : s.Sound) (h : activate ctx assignment s = .ok (a, s')) :
    RoleStep ctx s (.activate assignment) { answer := .role a } s' ∧ s'.Sound := by
  simp only [activate, bind_ok, get_ok, present_ok, pure_ok, Option.filter_eq_some_iff,
    beq_iff_eq] at h
  obtain ⟨_, _, ⟨rfl, rfl⟩, _, _, ⟨⟨named, own⟩, rfl⟩, _, _, pointed, rfl, rfl⟩ := h
  have kept := sound.after pointed
  obtain ⟨unknown, rfl⟩ | ⟨u, found, _, rfl⟩ := Tx.setActive_ok pointed
  · exact ⟨.activateUnknown named own unknown, kept⟩
  · exact ⟨.activate named own found, kept⟩

theorem revoke_ok {assignment : String} {done : Committed Unit} (sound : s.Sound)
    (h : revoke d ctx assignment s = .ok (done, s')) :
    RoleStep ctx s (.revoke assignment) (done.map fun _ => .nothing) s' ∧ s'.Sound := by
  simp only [revoke, bind_ok, read_ok, authorize_ok, Store.named_ok, Store.numbered_ok, pure_ok] at h
  obtain ⟨a, _, ⟨named, rfl⟩, _, _, ⟨outranks, rfl⟩, u, _, ⟨found, rfl⟩, _, _, deleted, _, _,
    recorded, rfl, rfl⟩ := h
  have kept := (sound.after deleted).after recorded
  obtain ⟨_, rfl⟩ := Tx.deleteRoleAssignment_ok.1 deleted
  obtain ⟨_, record, _, told, _, rfl⟩ := Tx.record_ok recorded
  exact ⟨.revoke named outranks found told, kept⟩

end Grants

/-- An operation on roles that is not refused takes a step. -/
theorem RoleOp.run_ok {d : Setting} {ctx : Context} {s : Store} {op : RoleOp} {answer : Answer}
    (sound : s.Sound) (h : (op.run d s ctx).answer = .ok answer) :
    ∃ done s', RoleStep ctx s op done s' ∧ s'.Sound ∧ op.run d s ctx = d.outcome done s' := by
  cases op with
  | list => exact ⟨_, s, .list, sound, rfl⟩
  | grant input =>
    obtain ⟨done, s', ran, _, out⟩ := Setting.commit_mapOk h
    obtain ⟨step, kept⟩ := Grants.grant_ok sound ran
    exact ⟨_, s', step, kept, out⟩
  | activate assignment =>
    obtain ⟨a, s', ran, _, out⟩ := Setting.commitQuietly_mapOk h
    obtain ⟨step, kept⟩ := Grants.activate_ok sound ran
    exact ⟨_, s', step, kept, out⟩
  | revoke assignment =>
    obtain ⟨done, s', ran, _, out⟩ := Setting.commit_mapOk h
    obtain ⟨step, kept⟩ := Grants.revoke_ok sound ran
    exact ⟨_, s', step, kept, out⟩

end Quartermaster
