import Quartermaster.Proofs.Bindings
import Quartermaster.Proofs.Coverage

/-!
# Roles at nodes that are gone

A context keeps the number of its node, also after the node was deleted. The number is not given out
again, and nothing in a store refers to a node that is not there. So the context reaches nothing any
more, whatever is created, created again under the same public id, or moved.

1. `Store.covers_nodes`: what a binding covers of a target is what it covers of its nodes.
2. `Store.Below.there`: above a node that is there are only nodes that are there.
3. `Store.Arises.powerless`: who acts under a role that lost its node can do nothing with it.
4. `Reachable.dead_for_ever`.
-/

namespace Quartermaster

namespace Store

variable {s : Store} {ctx : Context} {b : Binding} {t : Target}

/-! ## What is covered -/

/-- A target is covered where one of its nodes is, and there is always an answer. -/
theorem covers_nodes (at_node : b.scope ≠ .site) :
    s.links.covers b t = .ok (t.nodes.any fun n => (s.chainOf n).passes b.scope) := by
  rw [links_eq, chainOf_eq]
  exact ParentLinks.covers_nodes at_node

/-- Above a node that is there are only nodes that are there. -/
theorem Below.there {n m : Scope} (below : s.Below n m) (linked : s.Linked)
    (here : s.hasNode n = true) : s.hasNode m = true ∧ m ≠ .detached := by
  induction below with
  | department | location | room => exact ⟨here, nofun⟩
  | @inDepartment id parent _ above _ ih =>
    obtain ⟨l, found, up⟩ := Option.bind_eq_some_iff.1 above
    have good : s.departments.resolves l.val.department = true :=
      linked.locations l (Table.mem_of_get? found).1
    rw [up] at good
    exact ih good
  | @inLocation id parent _ above _ ih =>
    obtain ⟨r, found, up⟩ := Option.bind_eq_some_iff.1 above
    have good : s.locations.resolves r.val.location = true :=
      linked.rooms r (Table.mem_of_get? found).1
    rw [up] at good
    exact ih good

/-- The binding has lost its node. -/
def Lost (s : Store) (b : Binding) : Prop := b.scope = .detached ∨ s.hasNode b.scope = false

/-- A binding that lost its node covers nothing that is there. -/
theorem Linked.covers_lost (linked : s.Linked) (lost : s.Lost b)
    (there : ∀ n ∈ t.nodes, s.hasNode n = true) : s.links.covers b t = .ok false := by
  have at_node : b.scope ≠ .site := fun site => by
    rcases lost with detached | gone
    · cases site.symm.trans detached
    · rw [site] at gone
      cases gone
  rw [covers_nodes at_node, List.any_eq_false.2]
  intro n among passes
  obtain ⟨here, attached⟩ := ((passes_chainOf at_node).1 passes).there linked (there n among)
  rcases lost with detached | gone
  · exact attached detached
  · rw [here] at gone
    cases gone

theorem Linked.permits_lost {required : Role} (linked : s.Linked)
    (lost : ∀ b, ctx.binding = some b → s.Lost b) (there : ∀ n ∈ t.nodes, s.hasNode n = true) :
    s.links.permits ctx required t = .ok false := by
  unfold Ancestry.permits
  cases bound : ctx.binding with
  | none => rfl
  | some b =>
    show (if b.role.hasRank required then s.links.covers b t else .ok false) = _
    rw [linked.covers_lost (lost b bound) there, ite_self]

/-! ## What can be done -/

/-- The context is permitted nothing, is shown nothing, and can neither give nor withdraw a role. -/
structure Powerless (s : Store) (ctx : Context) : Prop where
  nodes (required : Role) (t : Target) : (∀ n ∈ t.nodes, s.hasNode n = true) →
    s.links.permits ctx required t = .ok false
  equipment (required : Role) : ∀ e ∈ s.equipment.entries,
    s.links.permits ctx required (.inRoom e.val.room) = .ok false
  accessories (required : Role) : ∀ e ∈ s.accessories.entries,
    s.links.permits ctx required (.inRoom e.val.room) = .ok false
  consumables (required : Role) : ∀ e ∈ s.consumables.entries,
    s.links.permits ctx required (.inRoom e.val.room) = .ok false
  equipmentList : Custody.listEquipment ctx s = []
  accessoryList : Custody.listAccessories ctx s = .ok []
  consumableList : Custody.listConsumables ctx s = []
  roles (d : Setting) (op : RoleOp) : op.isGrant = true →
    ∃ why, op.run d s ctx = { answer := .error why, store := s }

/-- A room that is referred to is a target that is there. -/
theorem nodes_inRoom {room : Option RoomId} (good : s.rooms.resolves room = true) :
    ∀ n ∈ (Target.inRoom room).nodes, s.hasNode n = true := by
  cases room with
  | none => exact fun n among => by cases among
  | some id =>
    intro n among
    obtain rfl := List.mem_singleton.1 among
    exact good

/-- The node of a binding, if there is one, is a target that is there. -/
theorem nodes_target {n : Scope} (here : s.hasNode n = true) :
    ∀ m ∈ n.target.nodes, s.hasNode m = true := by
  cases n with
  | site | detached => exact fun m among => by cases among
  | department | location | room =>
    intro m among
    obtain rfl := List.mem_singleton.1 among
    exact here

/-- What is bound to a node is bound there. -/
theorem scope_of_bind {role : Role} {n : Scope} (bound : Binding.bind role n = .ok b) :
    b.scope = n := by
  unfold Binding.bind at bound
  split at bound
  · split at bound
    · obtain rfl := Except.ok.inj bound
      rfl
    · cases bound
  · cases bound

/-- The binding that a grant asks for at a node is bound there. -/
theorem resolve_of_bindingOf {role : Role} {node : Locator}
    (asked : Grants.bindingOf role (some node) s = .ok b) : s.resolve node = .ok b.scope := by
  have lower {role : Role} (asked : (do Binding.bind role (← s.resolve node)) = .ok b) :
      s.resolve node = .ok b.scope := by
    obtain ⟨n, resolved, bound⟩ := Results.bind_ok.1 asked
    rw [resolved, scope_of_bind bound]
  cases role with
  | siteAdmin => cases asked
  | _ => exact lower asked

/-- The binding that a grant asks for is over all nodes or at one that is there. -/
theorem hasNode_of_bindingOf {role : Role} {scope : Option Locator}
    (asked : Grants.bindingOf role scope s = .ok b) : s.hasNode b.scope = true := by
  cases scope with
  | some node => exact (resolve_ok (resolve_of_bindingOf asked)).1
  | none =>
    cases role with
    | siteAdmin =>
      obtain rfl := Except.ok.inj asked
      rfl
    | _ => cases asked

/-- Nobody gives or withdraws a role who is permitted nothing over the nodes that are there. -/
theorem Arises.not_grant {op : RoleOp} {done : Committed Answer} {s' : Store} (h : s.Arises)
    (nothing : ∀ required t, (∀ n ∈ t.nodes, s.hasNode n = true) →
      s.links.permits ctx required t = .ok false)
    (step : RoleStep ctx s op done s') : op.isGrant = false := by
  have outranks {b : Binding} (here : s.hasNode b.scope = true) : ¬ s.Outranks ctx b := by
    intro above
    rw [Outranks, nothing _ _ (nodes_target here)] at above
    cases above
  cases step with
  | list | activate | activateUnknown => rfl
  | grantFirst asked above | grantMore asked above =>
    exact absurd above (outranks (hasNode_of_bindingOf asked))
  | @revoke _ a _ _ _ _ named above =>
    have member := (Table.mem_of_find? named).1
    obtain ⟨_, _, here⟩ :=
      (h.sound.readable a member).refers_iff.1 (h.linked.roleAssignments a member)
    exact absurd above (outranks here)

/-- Who acts under a role that lost its node, or under none, can do nothing with it. -/
theorem Arises.powerless (h : s.Arises) (lost : ∀ b, ctx.binding = some b → s.Lost b) :
    s.Powerless ctx := by
  have nothing (required : Role) (t : Target) (there : ∀ n ∈ t.nodes, s.hasNode n = true) :
      s.links.permits ctx required t = .ok false := h.linked.permits_lost lost there
  have in_room (required : Role) {room : Option RoomId} (good : s.rooms.resolves room = true) :
      s.links.permits ctx required (.inRoom room) = .ok false :=
    nothing required _ (nodes_inRoom good)
  have hidden {k : Kind} {α : Type} (t : Table k α) (room : α → Option RoomId)
      (good : ∀ e ∈ t.entries, s.rooms.resolves (room e.val) = true) :
      (t.filter fun a => ctx.condition.admits s (room a)) = [] :=
    List.filter_eq_nil_iff.2 fun e member shown => by
      have unlisted := permits_listed.symm.trans (in_room .roomViewer (good e member))
      cases shown.symm.trans (Except.ok.inj unlisted)
  exact {
    nodes := nothing
    equipment := fun required e member => in_room required (h.linked.equipment e member)
    accessories := fun required e member => in_room required (h.linked.accessories e member)
    consumables := fun required e member => in_room required (h.linked.consumables e member)
    equipmentList := by
      rw [Custody.listEquipment, listEquipment, hidden s.equipment (·.room) h.linked.equipment]
      rfl
    accessoryList := by
      rw [Custody.listAccessories, listAccessories,
        hidden s.accessories (·.room) h.linked.accessories]
      rfl
    consumableList := by
      rw [Custody.listConsumables, listConsumables,
        hidden s.consumables (·.room) h.linked.consumables]
      rfl
    roles := fun d op grant => by
      cases answered : (op.run d s ctx).answer with
      | ok answer =>
        obtain ⟨done, s', step, _⟩ := RoleOp.run_ok h.sound answered
        rw [h.not_grant nothing step] at grant
        cases grant
      | error why =>
        have refused : ((Operation.caller ctx (.roles op)).run d s).answer = .error why := answered
        exact ⟨why, (Operation.run_error refused).eq_ofRead.trans (congrArg _ refused)⟩ }

end Store

/-! ## For ever -/

variable {s₀ : Store} {user : String} {chosen : Option String} {ctx : Context} {b : Binding}

/-- Once the node of a context is deleted, the context is powerless, whatever is done later, and so
is whoever acts under the same assignment then. -/
theorem Reachable.dead_for_ever (start : Reachable s₀) (resolved : s₀.context user chosen = .ok ctx)
    (bound : ctx.binding = some b) :
    ∃ u a, s₀.named? .user user = some u ∧ s₀.Governs u chosen a ∧ ctx = u.acting a ∧
      ∀ s s₁, Leads Anything s₀ s → s.hasNode b.scope = false → Leads Anything s s₁ →
        s₁.Powerless ctx ∧
          ∀ v choice a', s₁.Governs v choice a' → a'.id = a.id → s₁.Powerless (v.acting a') := by
  have resolves := start.resolves user chosen
  rw [resolved] at resolves
  cases resolves with
  | idle => cases bound
  | @acting u a named governs =>
    obtain rfl : a.val.binding = b := Option.some.inj bound
    refine ⟨u, a, named, governs, rfl, fun s s₁ before gone after => ?_⟩
    have member := (Table.mem_of_get? governs.there).1
    obtain ⟨_, _, was⟩ :=
      (start.sound.readable a member).refers_iff.1 (start.arises.linked.roleAssignments a member)
    -- the number of the node is not given out again
    have gone_now : s₁.hasNode a.val.binding.scope = false :=
      before.evolves.written.ages.hasNode_gone after.evolves.written.ages start.sound was gone
    have arises : s₁.Arises := (after.reachable (before.reachable start)).arises
    refine ⟨arises.powerless fun b bound => ?_, fun v choice a' later same => ?_⟩
    · obtain rfl : a.val.binding = b := Option.some.inj bound
      exact .inr gone_now
    · refine arises.powerless fun b bound => .inl ?_
      obtain rfl : a'.val.binding = b := Option.some.inj bound
      -- the assignment was not withdrawn, so it stands, detached
      have there := later.there
      rw [same] at there
      rcases (before.trans after).evolves.written.bears start.sound start.arises.linked member with
        withdrawn | stands
      · cases there.symm.trans withdrawn
      · obtain rfl := Option.some.inj (there.symm.trans stands)
        rw [s₁.decayed_binding, gone_now]
        rfl

/-- A studio whose administrator is ada. -/
def studio : Store :=
  Store.serve {} {}
    [.directory (.bootstrap "root" "Root"),
     .directory (.createDepartment { publicId := some "arts", name := "Arts" }),
     .directory (.createLocation
       { publicId := some "mill", name := "Mill", parent := some "arts" }),
     .directory (.createRoom { publicId := some "studio", name := "Studio", parent := some "mill" }),
     .directory (.createUser { publicId := some "ada", displayName := "Ada" }),
     .caller root (.roles (.grant
       { user := "ada", role := .roomAdmin, scope := some (.room "studio") }))]
where
  root : Context := { actor := ⟨⟨1⟩, "root", "Root"⟩, binding := some .siteAdmin }
  ada : Context :=
    { actor := ⟨⟨2⟩, "ada", "Ada"⟩, binding := some (.ofColumns .roomAdmin { room := some ⟨1⟩ }) }
  cleared : Store := studio.serve {} [.directory (.deleteNode (.room "studio"))]
  /-- There is a studio again, by the same public id and at the same place, and it is equipped. -/
  rebuilt : Store :=
    cleared.serve {}
      [.directory (.createRoom { publicId := some "studio", name := "Studio", parent := some "mill" }),
       .caller root (.equipment (.register
         { publicId := some "easel", name := "Easel", room := some "studio" }))]

/-- In the new studio ada is nobody, under the context that she kept. -/
theorem studio_dead_for_ever :
    studio.context "ada" none = .ok studio.ada ∧
      (studio.rebuilt.named? .room "studio").isSome = true ∧
      studio.rebuilt.equipment.entries.length = 1 ∧ studio.rebuilt.Powerless studio.ada := by
  have reachable : Reachable studio := Reachable.serve (.seeded (.empty 0 0 0))
  have resolved : studio.context "ada" none = .ok studio.ada :=
    Results.toOption_iff.1 (by decide +kernel)
  have before : Leads Anything studio studio.cleared := Leads.refl.serve
  have after : Leads Anything studio.cleared studio.rebuilt := Leads.refl.serve
  obtain ⟨_, _, _, _, _, dead⟩ := reachable.dead_for_ever resolved rfl
  exact ⟨resolved, by decide +kernel, by decide +kernel,
    (dead _ _ before (by decide +kernel) after).1⟩

end Quartermaster
