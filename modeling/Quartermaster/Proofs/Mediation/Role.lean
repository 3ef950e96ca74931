import Quartermaster.Proofs.OperationStep

/-!
# What a change to a role was permitted by

`RoleWarrant s s' op id` says why an operation may have made, withdrawn or detached the assignment
`id`, and `ActiveWarrant s s' op user` why it may have moved the pointer to the active assignment of
a user. A pointer moves to an assignment only when its owner activates it or as the first that the
owner is given.

Results: `RoleStep.warrant`, `DirectoryStep.role_warrant`, and `RoleStep.active_warrant`,
`DirectoryStep.active_warrant`.
-/

namespace Quartermaster

/-- The active assignment of a user. -/
def Store.activeOf (s : Store) (user : UserId) : Option RoleAssignmentId :=
  (s.users.get? user).bind (·.val.active)

/-- Why an operation may have changed an assignment. -/
inductive RoleWarrant (s s' : Store) : Operation → RoleAssignmentId → Prop
  | granted {ctx : Context} {input : GrantInput} {a : Entry .roleAssignment RoleAssignment}
      (outranks : s.Outranks ctx a.val.binding)
      (new : s.row? a.id = none)
      (made : s'.row? a.id = some a)
      (by_caller : a.val.grantedBy = some ctx.actor.id) :
      RoleWarrant s s' (.caller ctx (.roles (.grant input))) a.id
  | revoked {ctx : Context} {assignment : String} {a : Entry .roleAssignment RoleAssignment}
      (outranks : s.Outranks ctx a.val.binding)
      (was : s.row? a.id = some a)
      (gone : s'.roleAssignments.get? a.id = none) :
      RoleWarrant s s' (.caller ctx (.roles (.revoke assignment))) a.id
  | bootstrapped {user displayName : String} {a : Entry .roleAssignment RoleAssignment}
      (none_yet : s.siteAdmins = [])
      (new : s.row? a.id = none)
      (made : s'.row? a.id = some a)
      (highest : a.val.binding = .siteAdmin) :
      RoleWarrant s s' (.directory (.bootstrap user displayName)) a.id
  /-- The node was deleted, after which the assignment covers nothing. -/
  | detached {node : Locator} {a : Entry .roleAssignment RoleAssignment}
      (at_node : s.resolve node = .ok a.val.binding.scope)
      (was : s.row? a.id = some a)
      (after : s'.row? a.id = some { a with val := a.val.detach })
      (covers_nothing : a.val.detach.binding = a.val.binding.detach) :
      RoleWarrant s s' (.directory (.deleteNode node)) a.id

/-- Why an operation may have moved the pointer to the active assignment of a user. -/
inductive ActiveWarrant (s s' : Store) : Operation → UserId → Prop
  | activated {ctx : Context} {assignment : String} {a : Entry .roleAssignment RoleAssignment}
      (named : s.named? .roleAssignment assignment = some a)
      (own : a.val.user = ctx.actor.id)
      (after : s'.activeOf ctx.actor.id = some a.id) :
      ActiveWarrant s s' (.caller ctx (.roles (.activate assignment))) ctx.actor.id
  /-- The first assignment that the user was given. -/
  | granted {ctx : Context} {input : GrantInput} {a : Entry .roleAssignment RoleAssignment}
      {user : UserId}
      (outranks : s.Outranks ctx a.val.binding)
      (made : s'.row? a.id = some a)
      (own : a.val.user = user)
      (was : s.activeOf user = none)
      (after : s'.activeOf user = some a.id) :
      ActiveWarrant s s' (.caller ctx (.roles (.grant input))) user
  /-- The active assignment was withdrawn. -/
  | revoked {ctx : Context} {assignment : String} {a : Entry .roleAssignment RoleAssignment}
      {user : UserId}
      (outranks : s.Outranks ctx a.val.binding)
      (was : s.activeOf user = some a.id)
      (after : s'.activeOf user = none) :
      ActiveWarrant s s' (.caller ctx (.roles (.revoke assignment))) user
  | bootstrapped {name displayName : String} {a : Entry .roleAssignment RoleAssignment}
      {user : UserId}
      (none_yet : s.siteAdmins = [])
      (made : s'.row? a.id = some a)
      (own : a.val.user = user)
      (highest : a.val.binding = .siteAdmin)
      (after : s'.activeOf user = some a.id) :
      ActiveWarrant s s' (.directory (.bootstrap name displayName)) user

variable {s s' : Store}

/-! ## Assignments -/

theorem RoleStep.warrant {ctx : Context} {op : RoleOp} {done : Committed Answer}
    (step : RoleStep ctx s op done s') (sound : s.Sound) {id : RoleAssignmentId}
    (changed : s'.roleAssignments.get? id ≠ s.roleAssignments.get? id) :
    RoleWarrant s s' (.caller ctx (.roles op)) id := by
  have roles := sound.roleAssignments.numbered
  cases step with
  | list | activate | activateUnknown => exact absurd rfl changed
  | @grantFirst _ b _ a _ _ _ _ _ _ outranks _ attached made
  | @grantMore _ b _ a _ _ _ _ _ _ outranks _ attached made =>
    have bound : a.val.binding = b :=
      RoleAssignment.binding_of attached (by rw [made]) (by rw [made])
    refine roles.of_insert_changed (by rw [made]) (fun new here => ?_) changed
    exact .granted (bound ▸ outranks) new here (by rw [made])
  | @revoke _ a _ _ _ _ named outranks =>
    refine Table.of_changed a.id (fun other ne => Table.get?_erase.trans (if_neg ne)) ?_ changed
    exact .revoked outranks (sound.roleAssignments.get?_of_find? named)
      (Table.get?_erase.trans (if_pos rfl))

/-- Deleting a node detaches the assignments at it and leaves the others. -/
theorem RoleWarrant.of_deletion {node : Locator} {gone : Scope} {id : RoleAssignmentId}
    (readable : s.roleAssignments.Readable) (site : gone ≠ .site)
    (resolved : s.resolve node = .ok gone)
    (mapped : (s.without gone).roleAssignments = s.roleAssignments.map (Store.detached gone))
    (changed : (s.without gone).roleAssignments.get? id ≠ s.roleAssignments.get? id) :
    RoleWarrant s (s.without gone) (.directory (.deleteNode node)) id := by
  rw [mapped] at changed
  obtain ⟨a, was, moved⟩ := Table.exists_of_map_changed changed
  obtain ⟨member, rfl⟩ := Table.mem_of_get? was
  have legible := readable a member
  have at_node : a.val.binding.scope = gone :=
    Decidable.byContradiction fun elsewhere => moved (Store.detached_of_ne legible elsewhere)
  -- the highest role is at no node
  have lower : a.val.role ≠ .siteAdmin := fun highest =>
    site (at_node.symm.trans (by rw [RoleAssignment.binding_of_highest highest]; rfl))
  refine .detached (at_node ▸ resolved) was ?_ (RoleAssignment.detach_binding lower)
  show (s.without gone).roleAssignments.get? a.id = _
  rw [mapped, Table.get?_map_of_some was, Store.detached_self legible at_node]

theorem DirectoryStep.role_warrant {op : DirectoryOp} {done : Committed Answer}
    (step : DirectoryStep s op done s') (sound : s.Sound) {id : RoleAssignmentId}
    (changed : s'.roleAssignments.get? id ≠ s.roleAssignments.get? id) :
    RoleWarrant s s' (.directory op) id := by
  have roles := sound.roleAssignments.numbered
  cases step with
  | @deleteNode node scope resolved =>
    cases scope with
    | site | detached => exact absurd rfl changed
    | department | location | room =>
      exact .of_deletion sound.readable nofun resolved rfl changed
  | bootstrapKnown none_yet _ made =>
    refine roles.of_insert_changed (by rw [made]) (fun new here => ?_) changed
    exact .bootstrapped none_yet new here (RoleAssignment.binding_of_highest (by rw [made]))
  | bootstrapNew none_yet _ _ _ made =>
    refine roles.of_insert_changed (by rw [made]) (fun new here => ?_) changed
    exact .bootstrapped none_yet new here (RoleAssignment.binding_of_highest (by rw [made]))
  | _ => exact absurd rfl changed

/-! ## Active assignments -/

theorem Store.activeOf_eq {user : UserId} {u : Entry .user User} {active : Option RoleAssignmentId}
    (found : s.users.get? user = some u) (points : u.val.active = active) :
    s.activeOf user = active := by
  rw [activeOf, found]
  exact points

theorem Store.activeOf_congr {user : UserId} (same : s'.users.get? user = s.users.get? user) :
    s'.activeOf user = s.activeOf user := by
  rw [activeOf, same, activeOf]

theorem RoleStep.active_warrant {ctx : Context} {op : RoleOp} {done : Committed Answer}
    (step : RoleStep ctx s op done s') (sound : s.Sound) {user : UserId}
    (changed : s'.activeOf user ≠ s.activeOf user) :
    ActiveWarrant s s' (.caller ctx (.roles op)) user := by
  cases step with
  | list | grantMore | activateUnknown => exact absurd rfl changed
  | @grantFirst _ b u a _ _ _ _ _ _ outranks user_named attached made first =>
    have found := sound.users.get?_of_find? user_named
    have bound : a.val.binding = b :=
      RoleAssignment.binding_of attached (by rw [made]) (by rw [made])
    have added : a.id = s.roleAssignments.next := by rw [made]
    refine Table.of_changed u.id (fun other ne => ?_) ?_ changed
    · exact Store.activeOf_congr (Table.get?_put_of_ne ne)
    · exact .granted (bound ▸ outranks) (sound.roleAssignments.numbered.get?_insert_self added)
        (by rw [made]) (Store.activeOf_eq found first)
        (Store.activeOf_eq (Table.get?_put_self found) rfl)
  | activate named own found =>
    refine Table.of_changed ctx.actor.id (fun other ne => ?_) ?_ changed
    · exact Store.activeOf_congr (Table.get?_put_of_ne ne)
    · exact .activated named own (Store.activeOf_eq (Table.get?_put_self found) rfl)
  | @revoke _ a _ _ _ _ named outranks =>
    obtain ⟨u, found, moved⟩ := Table.exists_of_map_changed fun same =>
      changed (Store.activeOf_congr same)
    have points : u.val.active = some a.id :=
      Store.eq_of_cleared_ne fun same => moved (by rw [same])
    refine .revoked outranks (Store.activeOf_eq found points) ?_
    refine Store.activeOf_eq (Table.get?_map_of_some found) ?_
    rw [points, Store.cleared_self]

theorem DirectoryStep.active_warrant {op : DirectoryOp} {done : Committed Answer}
    (step : DirectoryStep s op done s') (sound : s.Sound) {user : UserId}
    (changed : s'.activeOf user ≠ s.activeOf user) :
    ActiveWarrant s s' (.directory op) user := by
  cases step with
  | @deleteNode _ scope =>
    cases scope with
    | site | detached | department | location => exact absurd rfl changed
    | room gone =>
      refine absurd ?_ changed
      show ((s.users.map _).get? user).bind _ = _
      rw [Table.get?_map, Store.activeOf]
      cases s.users.get? user with
      | none => rfl
      | some u => rfl
  | @createUser _ e _ _ added no_role =>
    -- a new user has no active role, like a user that is not there
    refine absurd ?_ changed
    by_cases same : user = e.id
    · have new : s.users.get? e.id = none := sound.users.numbered.get?_of_next added
      subst same
      rw [Store.activeOf_eq (sound.users.numbered.get?_insert_self added) no_role, Store.activeOf,
        new]
      rfl
    · exact Store.activeOf_congr (Table.get?_insert_of_ne (added ▸ same))
  | @moveUser _ _ _ u user_named =>
    refine absurd ?_ changed
    have found := sound.users.get?_of_find? user_named
    by_cases same : user = u.id
    · subst same
      rw [Store.activeOf_eq found rfl]
      exact Store.activeOf_eq (Table.get?_put_self found) rfl
    · exact Store.activeOf_congr (Table.get?_put_of_ne same)
  | @bootstrapKnown _ _ u a _ _ _ _ none_yet user_named made =>
    have found := sound.users.get?_of_find? user_named
    have added : a.id = s.roleAssignments.next := by rw [made]
    refine Table.of_changed u.id (fun other ne => ?_) ?_ changed
    · exact Store.activeOf_congr (Table.get?_put_of_ne ne)
    · exact .bootstrapped none_yet (sound.roleAssignments.numbered.get?_insert_self added)
        (by rw [made]) (RoleAssignment.binding_of_highest (by rw [made]))
        (Store.activeOf_eq (Table.get?_put_self found) rfl)
  | @bootstrapNew _ _ u a _ _ _ _ none_yet _ added_user _ made =>
    have found := sound.users.numbered.get?_insert_self added_user
    have added : a.id = s.roleAssignments.next := by rw [made]
    refine Table.of_changed u.id (fun other ne => ?_) ?_ changed
    · refine Store.activeOf_congr ?_
      exact (Table.get?_put_of_ne ne).trans (Table.get?_insert_of_ne (added_user ▸ ne))
    · exact .bootstrapped none_yet (sound.roleAssignments.numbered.get?_insert_self added)
        (by rw [made]) (RoleAssignment.binding_of_highest (by rw [made]))
        (Store.activeOf_eq (Table.get?_put_self found) rfl)
  | _ => exact absurd rfl changed

end Quartermaster
