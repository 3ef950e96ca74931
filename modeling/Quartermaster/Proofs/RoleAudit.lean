import Quartermaster.Proofs.AuditTrail
import Quartermaster.Proofs.DeadBindings
import Quartermaster.Proofs.Past

/-!
# What is recorded of the place of a role

Giving a role and withdrawing it leave a row in the audit log. Of a role at a room it has the names of
the room and of all that the room lies in, and nobody takes them back. Of a role at a location or at a
department it has no name: it is the room of the place that is looked up, and there is none.

1. `Store.NamesChain`, `Store.Linked.namesChain`: the names along the chain of a room.
2. `Store.Places`, `Store.Linked.places`: the names that are recorded of a place.
3. `Reachable.records_roles`.
-/

namespace Quartermaster

/-! ## Names along a chain -/

/-- The names are those of the nodes of the chain: where it has a node there is the node's name, and
where it has none there is none. -/
structure Store.NamesChain (s : Store) (chain : Chain) (names : ScopeNames) : Prop where
  room : Option.Rel (fun id name => ∃ r, s.row? id = some r ∧ r.val.name = name)
    chain.room names.room
  location : Option.Rel (fun id name => ∃ l, s.row? id = some l ∧ l.val.name = name)
    chain.location names.location
  department : Option.Rel (fun id name => ∃ d, s.row? id = some d ∧ d.val.name = name)
    chain.department names.department

/-- What is read of the row that a good reference leads to. -/
theorem Table.rel_of_resolves {k : Kind} {α : Type} {t : Table k α} {reference : Option (Id k)}
    {f : α → String} (good : t.resolves reference = true) :
    Option.Rel (fun id name => ∃ e, t.get? id = some e ∧ f e.val = name) reference
      ((reference.bind t.get?).map fun e => f e.val) := by
  cases reference with
  | none => exact .none
  | some id =>
    obtain ⟨e, found⟩ := Option.isSome_iff_exists.1 (show (t.get? id).isSome = true from good)
    rw [Option.bind_some, found]
    exact .some ⟨e, found, rfl⟩

namespace Store

variable {s : Store}

theorem Linked.locationOf (linked : s.Linked) {room : RoomId} :
    s.locations.resolves (s.locationOf room) = true := by
  unfold Store.locationOf
  cases found : s.rooms.get? room with
  | none => rfl
  | some r => exact linked.rooms r (Table.mem_of_get? found).1

theorem Linked.departmentOf (linked : s.Linked) {location : LocationId} :
    s.departments.resolves (s.departmentOf location) = true := by
  unfold Store.departmentOf
  cases found : s.locations.get? location with
  | none => rfl
  | some l => exact linked.locations l (Table.mem_of_get? found).1

/-- The chain of the node that a locator names. -/
theorem chain_of_resolve {node : Locator} {scope : Scope} (resolved : s.resolve node = .ok scope) :
    s.chain node = .ok (s.chainOf scope) := by
  refine Results.bind_ok.2 ⟨scope, resolved, ?_⟩
  cases scope with
  | room id => exact chainOfRoom_eq id
  | location | department | site | detached => rfl

theorem Linked.namesChain {id : RoomId} (linked : s.Linked) (there : s.rooms.has id = true) :
    s.NamesChain (s.chainOf (.room id)) (s.scopeNames (some id)) := by
  have up : s.departments.resolves ((s.locationOf id).bind s.departmentOf) = true := by
    cases s.locationOf id with
    | none => rfl
    | some parent => exact linked.departmentOf
  have location : ((some id).bind s.rooms.get?).bind (fun r => r.val.location.bind s.locations.get?) =
      (s.locationOf id).bind s.locations.get? := by
    rw [Option.bind_some, Store.locationOf, Option.bind_assoc]
  have department : ((some id).bind s.rooms.get?).bind (fun r =>
        (r.val.location.bind s.locations.get?).bind fun l =>
          l.val.department.bind s.departments.get?) =
      ((s.locationOf id).bind s.departmentOf).bind s.departments.get? := by
    simp only [Option.bind_some, Store.locationOf, Store.departmentOf, Option.bind_assoc]
  rw [scopeNames_eq, location, department]
  exact ⟨Table.rel_of_resolves there, Table.rel_of_resolves linked.locationOf,
    Table.rel_of_resolves up⟩

/-! ## Names of a place -/

/-- The names that are recorded of the place of a role. -/
inductive Places (s : Store) : Scope → ScopeNames → Prop
  /-- A room is told with all that it lies in. -/
  | room {id : RoomId} {names : ScopeNames} (named : s.NamesChain (s.chainOf (.room id)) names) :
      Places s (.room id) names
  /-- No other place is told. -/
  | untold {scope : Scope} (coarser : ∀ id, scope ≠ .room id) : Places s scope {}

theorem Linked.places {scope : Scope} (linked : s.Linked) (there : s.hasNode scope = true) :
    s.Places scope (s.scopeNames (Grants.roomOf scope)) := by
  cases scope with
  | room id => exact .room (linked.namesChain there)
  | site | detached | department | location => exact .untold nofun

/-! ## Rows -/

/-- One row with this action comes into the audit log. It has the names of the place as they are, and
is there for ever. -/
def RecordsRole (s s' : Store) (action : String) (scope : Scope) : Prop :=
  ∃ row, s'.audit.entries = s.audit.entries ++ [row] ∧ row.val.action = action ∧
    s.Places scope row.val.scope ∧ ∀ later, s'.Evolves later → row ∈ later.audit.entries

theorem Linked.recordsRole {s' : Store} {ctx : Context} {action : String} {u : Entry .user User}
    {scope : Scope} {row : AuditRow} (linked : s.Linked) (there : s.hasNode scope = true)
    (sound' : s'.Sound) (added : s'.audit = s.audit.insert row)
    (told : row.Tells ctx.actor action .user u.val.publicId u.val.displayName
      (s.scopeNames (Grants.roomOf scope))) : s.RecordsRole s' action scope := by
  have entries : s'.audit.entries = s.audit.entries ++ [⟨s.audit.next, row⟩] :=
    congrArg Table.entries added
  refine ⟨⟨s.audit.next, row⟩, entries, told.action, told.scope ▸ linked.places there,
    fun later evolves => ?_⟩
  refine (evolves.written.past sound').audit.subset ?_
  rw [entries]
  exact List.mem_append_right _ (List.mem_singleton_self _)

end Store

section Operations

variable {d : Setting} {ctx : Context} {s : Store}

theorem RoleOp.grant_recorded {input : GrantInput} {node : Locator} (sound : s.Sound)
    (linked : s.Linked) (at_node : input.scope = some node)
    (done : ((RoleOp.grant input).run d s ctx).answer.isOk = true) :
    ∃ scope, s.resolve node = .ok scope ∧
      s.RecordsRole ((RoleOp.grant input).run d s ctx).store "role.grant" scope := by
  obtain ⟨answer, answered⟩ := Results.isOk_iff.1 done
  obtain ⟨_, s', step, sound', out⟩ := RoleOp.run_ok sound answered
  rw [show ((RoleOp.grant input).run d s ctx).store = s' by rw [out]; rfl]
  cases step with
  | grantFirst asked _ _ _ _ _ told | grantMore asked _ _ _ _ _ told =>
    rw [at_node] at asked
    have resolved := Store.resolve_of_bindingOf asked
    exact ⟨_, resolved, linked.recordsRole (Store.resolve_ok resolved).1 sound' rfl told⟩

theorem RoleOp.revoke_recorded {assignment : String} (sound : s.Sound) (linked : s.Linked)
    (done : ((RoleOp.revoke assignment).run d s ctx).answer.isOk = true) :
    ∃ a, s.named? .roleAssignment assignment = some a ∧
      s.RecordsRole ((RoleOp.revoke assignment).run d s ctx).store "role.revoke"
        a.val.binding.scope := by
  obtain ⟨answer, answered⟩ := Results.isOk_iff.1 done
  obtain ⟨_, s', step, sound', out⟩ := RoleOp.run_ok sound answered
  rw [show ((RoleOp.revoke assignment).run d s ctx).store = s' by rw [out]; rfl]
  cases step with
  | @revoke _ a _ _ _ _ named _ _ told =>
    have member := (Table.mem_of_find? named).1
    obtain ⟨_, _, there⟩ :=
      (sound.readable a member).refers_iff.1 (linked.roleAssignments a member)
    exact ⟨a, named, linked.recordsRole there sound' rfl told⟩

end Operations

/-- Whoever is given a role at a node, or loses one, is recorded with the place of the role. -/
structure Store.RecordsRoles (s : Store) : Prop where
  /-- The chain of a place is the present chain of its node. -/
  chain (node : Locator) (scope : Scope) :
    s.resolve node = .ok scope → s.chain node = .ok (s.chainOf scope)
  granted (d : Setting) (ctx : Context) (input : GrantInput) (node : Locator) :
    input.scope = some node → ((RoleOp.grant input).run d s ctx).answer.isOk = true →
    ∃ scope, s.resolve node = .ok scope ∧
      s.RecordsRole ((RoleOp.grant input).run d s ctx).store "role.grant" scope
  revoked (d : Setting) (ctx : Context) (assignment : String) :
    ((RoleOp.revoke assignment).run d s ctx).answer.isOk = true →
    ∃ a, s.named? .roleAssignment assignment = some a ∧
      s.RecordsRole ((RoleOp.revoke assignment).run d s ctx).store "role.revoke"
        a.val.binding.scope

theorem Reachable.records_roles {s : Store} (h : Reachable s) : s.RecordsRoles where
  chain _ _ := Store.chain_of_resolve
  granted _ _ _ _ := RoleOp.grant_recorded h.sound h.linked
  revoked _ _ _ := RoleOp.revoke_recorded h.sound h.linked

/-- A clinic with a ward, where a guest has no role yet. -/
def clinic : Store :=
  Store.serve {} {}
    [.directory (.bootstrap "root" "Root"),
     .directory (.createDepartment { publicId := some "care", name := "Care" }),
     .directory (.createLocation
       { publicId := some "wing", name := "Wing", parent := some "care" }),
     .directory (.createRoom { publicId := some "ward", name := "Ward", parent := some "wing" }),
     .directory (.createUser { publicId := some "guest", displayName := "Guest" })]
where
  root : Context := { actor := ⟨⟨1⟩, "root", "Root"⟩, binding := some .siteAdmin }
  /-- The guest may look into the ward. -/
  ward : RoleOp := .grant
    { publicId := some "pass", user := "guest", role := .roomViewer, scope := some (.room "ward") }
  /-- The guest may look at the department. -/
  care : RoleOp := .grant
    { publicId := some "pass", user := "guest", role := .departmentViewer
      scope := some (.department "care") }
  /-- The store with the pass for the ward. -/
  admitted : Store := (ward.run {} clinic root).store
  /-- The ward is closed. -/
  closed : Store := ((DirectoryOp.deleteNode (.room "ward")).run {} admitted).store

/-- The pass for the ward is recorded with the ward, its wing and its department, also when the ward
is closed. -/
theorem clinic_records_roles :
    ∃ row, clinic.admitted.audit.entries = clinic.audit.entries ++ [row] ∧
      row.val.action = "role.grant" ∧ row.val.scope = ⟨some "Ward", some "Wing", some "Care"⟩ ∧
      clinic.closed.row? (⟨1⟩ : RoomId) = none ∧ row ∈ clinic.closed.audit.entries := by
  have reachable : Reachable clinic := Reachable.serve (.seeded (.empty 0 0 0))
  obtain ⟨scope, _, row, added, action, _, stays⟩ := reachable.records_roles.granted {} clinic.root
    _ (.room "ward") rfl (show (clinic.ward.run {} clinic clinic.root).answer.isOk = true by
      decide +kernel)
  have commits : clinic.admitted.Commits clinic.closed :=
    (Operation.directory (.deleteNode (.room "ward"))).commits (d := {})
  have last : clinic.admitted.audit.entries.getLast?.map (·.val.scope) =
      some ⟨some "Ward", some "Wing", some "Care"⟩ := by decide +kernel
  refine ⟨row, added, action, ?_, by decide +kernel, stays _ (.single commits)⟩
  rw [show clinic.admitted.audit.entries = _ from added, List.getLast?_concat] at last
  exact Option.some.inj last

/-- The pass for the department is recorded without its name. -/
theorem clinic_department_untold :
    clinic.chain (.department "care") = .ok { department := some ⟨1⟩ } ∧
      ∃ row, (clinic.care.run {} clinic clinic.root).store.audit.entries =
          clinic.audit.entries ++ [row] ∧
        row.val.action = "role.grant" ∧
        ¬ clinic.NamesChain { department := some ⟨1⟩ } row.val.scope := by
  have reachable : Reachable clinic := Reachable.serve (.seeded (.empty 0 0 0))
  have resolved : clinic.resolve (.department "care") = .ok (.department ⟨1⟩) :=
    Results.toOption_iff.1 (by decide +kernel)
  have done : (clinic.care.run {} clinic clinic.root).answer.isOk = true := by decide +kernel
  refine ⟨Store.chain_of_resolve resolved, ?_⟩
  obtain ⟨scope, found, row, added, action, places, _⟩ :=
    RoleOp.grant_recorded reachable.sound reachable.linked rfl done
  refine ⟨row, added, action, fun named => ?_⟩
  obtain rfl : scope = .department ⟨1⟩ := Except.ok.inj (found.symm.trans resolved)
  generalize row.val.scope = names at places named
  cases places with
  | untold => cases named.department

end Quartermaster
