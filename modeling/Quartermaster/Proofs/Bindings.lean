import Quartermaster.Proofs.Aging
import Quartermaster.Proofs.OwnRoles
import Quartermaster.Proofs.Refusals.Operations
import Quartermaster.Proofs.Visibility

/-!
# Bindings are kept, and decay

A role is given at a node, or over all of them, and is read as it was given until its node is deleted.
From then on it is detached, until it is withdrawn. Nothing else changes it, and a role that lost its
node is in the way of nothing.

1. `Store.Anchors`: what a binding of a store is bound to; `Store.detached_binding`: what it is when a
   node is deleted.
2. `Tx.createRoleAssignment_iff`: which roles can be given.
3. `Store.decayed`, `Store.Written.decays`: what any number of writes make of an assignment.
4. `Operation.leaves`, `Operation.run_leaves`: what an operation makes of it.
5. `Grants.grant_goes`: who outranks a role over its node can grant it.
6. `Store.Arises.keeps_bindings`.
-/

namespace Quartermaster

/-! ## What a binding is bound to -/

/-- The highest role is bound to the whole tree, and every other one to a node of its own tier, or to
one that is gone. -/
inductive Store.Anchors (s : Store) (b : Binding) : Prop
  | site (highest : b = .siteAdmin)
  | node (lower : b.role ≠ .siteAdmin) (tier : b.scope.tier = some b.role.tier)
      (there : s.hasNode b.scope = true)
  | gone (lower : b.role ≠ .siteAdmin) (detached : b.scope = .detached)

/-- The binding of an assignment after a node is gone. -/
theorem Store.detached_binding {gone : Scope} {a : RoleAssignment} (readable : a.Readable)
    (site : gone ≠ .site) :
    (detached gone a).binding = if a.binding.scope = gone then a.binding.detach else a.binding := by
  by_cases at_node : a.binding.scope = gone
  · rw [detached_self readable at_node, if_pos at_node]
    refine RoleAssignment.detach_binding fun highest => site ?_
    rw [← at_node, RoleAssignment.binding_of_highest highest]
    rfl
  · rw [detached_of_ne readable at_node, if_neg at_node]

/-- The references of an assignment name rows when its user, its granter and its node are there. -/
theorem RoleAssignment.Readable.refers_iff {s : Store} {a : RoleAssignment} (readable : a.Readable) :
    Record.refers .roleAssignment s a = true ↔ s.users.has a.user = true ∧
      s.users.resolves a.grantedBy = true ∧ s.hasNode a.binding.scope = true := by
  have nodes : (s.departments.resolves a.columns.department = true ∧
      s.locations.resolves a.columns.location = true) ∧
      s.rooms.resolves a.columns.room = true ↔ s.hasNode a.binding.scope = true := by
    rw [show a.columns = _ from readable]
    cases a.binding.scope <;>
      simp [ScopeColumns.ofScope, Table.resolves, Store.hasNode]
  rw [← nodes]
  simp only [Record.refers, Bool.and_eq_true, and_assoc]

/-- What is bound to a node is kept in a column. -/
theorem Binding.columns_set {b : Binding} (attached : b.scope ≠ .detached)
    (lower : b.role ≠ .siteAdmin) : (ScopeColumns.ofScope b.scope).count ≠ 0 := by
  have tier := b.fits.resolve_right attached
  cases scope : b.scope with
  | site =>
    rw [scope] at tier
    exact absurd (show b.role = .siteAdmin by cases role : b.role <;> rw [role] at tier <;>
      first | rfl | cases tier) lower
  | detached => exact absurd scope attached
  | department | location | room => exact Nat.one_ne_zero

/-- The columns of an assignment that can be read are those that its role may have. -/
theorem RoleAssignment.Readable.holds {a : RoleAssignment} (readable : a.Readable) :
    Record.holds .roleAssignment a = true := by
  have one : a.columns.count ≤ 1 := by
    rw [show a.columns = _ from readable]
    exact ScopeColumns.count_ofScope
  simp only [Record.holds, Bool.and_eq_true, decide_eq_true_eq, Bool.or_eq_true, beq_iff_eq,
    bne_iff_ne]
  by_cases highest : a.role = .siteAdmin
  · exact ⟨one, .inr (by rw [readable.empty_of_highest highest]; rfl)⟩
  · exact ⟨one, .inl highest⟩

namespace Store

variable {s : Store} {b : Binding}

/-- The node of a scope stays while the ids of nodes do. -/
theorem KeepsIds.hasNode (ids : s.KeepsIds s') {scope : Scope} (here : s.hasNode scope = true) :
    s'.hasNode scope = true := by
  cases scope with
  | site | detached => rfl
  | department id => exact ids.departments id here
  | location id => exact ids.locations id here
  | room id => exact ids.rooms id here

/-- Deleting a node leaves every other node. -/
theorem hasNode_without {scope gone : Scope} (other : scope ≠ gone)
    (here : s.hasNode scope = true) : (s.without gone).hasNode scope = true := by
  have left {k : Kind} {α : Type} {t : Table k α} {id gone : Id k} (other : id ≠ gone)
      (here : t.has id = true) : (t.erase gone).has id = true := by
    rw [Table.has, Table.get?_erase, if_neg other]
    exact here
  cases gone with
  | site | detached => exact here
  | department gone =>
    cases scope with
    | site | detached | room => exact here
    | department id => exact left (fun same => other (congrArg _ same)) here
    | location id => exact Table.within_map id here
  | location gone =>
    cases scope with
    | site | detached | department => exact here
    | location id => exact left (fun same => other (congrArg _ same)) here
    | room id => exact Table.within_map id here
  | room gone =>
    cases scope with
    | site | detached | department | location => exact here
    | room id => exact left (fun same => other (congrArg _ same)) here

theorem resolve_ok {node : Locator} {scope : Scope} (named : s.resolve node = .ok scope) :
    s.hasNode scope = true ∧ scope ≠ .site ∧ scope ≠ .detached := by
  cases node with
  | room | location | department =>
    obtain ⟨e, found, rfl⟩ := Results.map_ok.1 named
    exact ⟨has_of_named (named_ok.1 found), nofun, nofun⟩

theorem hasNode_without_self {gone : Scope} (site : gone ≠ .site) (detached : gone ≠ .detached) :
    (s.without gone).hasNode gone = false := by
  cases gone with
  | site => exact absurd rfl site
  | detached => exact absurd rfl detached
  | department | location | room => exact Table.has_erase_self

/-- Whatever is bound to a node that goes out is detached. -/
theorem roles_without {gone : Scope} (site : gone ≠ .site) (detached : gone ≠ .detached) :
    (s.without gone).roleAssignments = s.roleAssignments.map (Store.detached gone) := by
  cases gone with
  | site => exact absurd rfl site
  | detached => exact absurd rfl detached
  | department | location | room => rfl

/-- An assignment after a node is deleted. -/
theorem role_without {gone : Scope} {a : Entry .roleAssignment RoleAssignment} (site : gone ≠ .site)
    (detached : gone ≠ .detached) (found : s.row? a.id = some a) :
    (s.without gone).row? a.id = some { a with val := Store.detached gone a.val } := by
  show (s.without gone).roleAssignments.get? a.id = _
  rw [roles_without site detached]
  exact Table.get?_map_of_some found

/-- In a store that arises, every binding is anchored. -/
theorem Arises.anchored (h : s.Arises) {a : Entry .roleAssignment RoleAssignment}
    (member : a ∈ s.roleAssignments.entries) : s.Anchors a.val.binding := by
  obtain ⟨_, _, there⟩ := (h.sound.readable a member).refers_iff.1 (h.linked.roleAssignments a member)
  by_cases highest : a.val.role = .siteAdmin
  · exact .site (RoleAssignment.binding_of_highest highest)
  · have lower : a.val.binding.role ≠ .siteAdmin := by rwa [RoleAssignment.binding_role]
    by_cases detached : a.val.binding.scope = .detached
    · exact .gone lower detached
    · exact .node lower (a.val.binding.fits.resolve_right detached) there

end Store

/-! ## Reading -/

/-- Every read finds the assignment as it is: by its number, by its public id, among those of its
user, as the one that its user chooses, and as the active one of its user. -/
structure Store.Reads (s : Store) (a : Entry .roleAssignment RoleAssignment) : Prop where
  row : s.row? a.id = some a
  named : s.named? .roleAssignment a.val.publicId = some a
  listed : a ∈ s.rolesOf a.val.user
  chosen (u : Entry .user User) : s.row? a.val.user = some u →
    s.context u.val.publicId (some a.val.publicId) = .ok (u.acting a)
  active (u : Entry .user User) : s.row? a.val.user = some u → u.val.active = some a.id →
    s.context u.val.publicId none = .ok (u.acting a)

theorem Store.Sound.reads {s : Store} {a : Entry .roleAssignment RoleAssignment} (sound : s.Sound)
    (member : a ∈ s.roleAssignments.entries) : s.Reads a := by
  have row : s.row? a.id = some a := sound.roleAssignments.numbered.get?_of_mem member
  have named : s.named? .roleAssignment a.val.publicId = some a :=
    Store.named_ok.1 (Store.named_of_mem sound.roleAssignments member)
  have user (u : Entry .user User) (found : s.row? a.val.user = some u) :
      s.named? .user u.val.publicId = some u ∧ u.id = a.val.user := by
    obtain ⟨here, same⟩ := Table.mem_of_get? found
    exact ⟨Store.named_ok.1 (Store.named_of_mem sound.users here), same⟩
  refine ⟨row, named, Table.mem_filter.2 ⟨member, beq_self_eq_true _⟩, fun u found => ?_,
    fun u found active => ?_⟩
  · obtain ⟨who, same⟩ := user u found
    simp [Store.context, who, named, same, Entry.acting, Entry.actor, Option.filter_some]
  · obtain ⟨who, _⟩ := user u found
    simp [Store.context, who, active, row, Entry.acting, Entry.actor]

/-! ## Giving -/

/-- What can be given: a role at a node of its tier, and the highest role. -/
def Binding.Accepted (b : Binding) : Prop :=
  (∃ role scope, bind role scope = .ok b) ∨ b = .siteAdmin

/-- The bindings that can be given are those that are not detached. -/
theorem Binding.accepted_iff {b : Binding} : b.Accepted ↔ b.scope ≠ .detached := by
  constructor
  · rintro (⟨role, scope, bound⟩ | rfl)
    · unfold bind at bound
      split at bound
      · next tier has_tier =>
        split at bound
        · obtain rfl := Except.ok.inj bound
          intro detached
          rw [show scope = .detached from detached] at has_tier
          cases has_tier
        · cases bound
      · cases bound
    · decide
  · exact fun attached => .inl ⟨b.role, b.scope, bind_scope attached⟩

/-- The user can be given the role: it is at a node that is there, or over all of them, and is not
held already. Roles whose node is gone do not count. -/
structure Store.Gives (s : Store) (publicId : Option String) (user : UserId) (b : Binding)
    (grantedBy : Option UserId) : Prop where
  accepted : b.Accepted
  node : s.hasNode b.scope = true
  holder : s.users.has user = true
  granter : s.users.resolves grantedBy = true
  spelled : ∀ id, publicId = some id → Text.isBlank id = false
  free : ∀ id, publicId = some id → s.named? .roleAssignment id = none
  once : ∀ a ∈ s.rolesOf user, a.val.binding ≠ b

namespace Store

variable {s : Store}

/-- A public id that no row has is not found. -/
theorem named?_eq_none {k : Kind} {α : Type} [Record k α] [Named k] {publicId : String} :
    s.named? k publicId = none ↔
      ∀ e ∈ (Record.table s : Table k α).entries, Named.publicId k e.val ≠ publicId := by
  simp [named?, Table.find?]

/-- Two assignments of a user are in each other's way when they have one binding. -/
theorem binding_eq_iff {a b : RoleAssignment} (readable_a : a.Readable) (readable_b : b.Readable)
    (attached : a.binding.scope ≠ .detached) : a.binding = b.binding ↔
      a.role = b.role ∧ (a.role = .siteAdmin ∨ a.columns = b.columns ∧ a.columns.count ≠ 0) := by
  constructor
  · intro same
    have columns : a.columns = b.columns := by
      rw [show a.columns = _ from readable_a, same, ← show b.columns = _ from readable_b]
    refine ⟨by rw [← a.binding_role, same, b.binding_role], ?_⟩
    by_cases highest : a.role = .siteAdmin
    · exact .inl highest
    · refine .inr ⟨columns, ?_⟩
      rw [show a.columns = _ from readable_a]
      exact Binding.columns_set attached (by rwa [a.binding_role])
  · rintro ⟨role, highest | ⟨columns, _⟩⟩
    · rw [RoleAssignment.binding_of_highest highest,
        RoleAssignment.binding_of_highest (role ▸ highest)]
    · rw [RoleAssignment.binding, role, columns, RoleAssignment.binding]

theorem takes_role {row : RoleAssignment} (legible : s.roleAssignments.Readable)
    (readable : row.Readable) (attached : row.binding.scope ≠ .detached) :
    Table.Takes s .roleAssignment row ↔
      (s.users.has row.user = true ∧ s.users.resolves row.grantedBy = true ∧
        s.hasNode row.binding.scope = true) ∧
      s.named? .roleAssignment row.publicId = none ∧
      ∀ a ∈ s.rolesOf row.user, a.val.binding ≠ row.binding := by
  have clash (a : RoleAssignment) (readable_a : a.Readable) :
      Record.clashes .roleAssignment row a = true ↔
        row.publicId = a.publicId ∨ row.user = a.user ∧ row.binding = a.binding := by
    rw [binding_eq_iff readable readable_a attached]
    simp only [Record.clashes, Bool.or_eq_true, Bool.and_eq_true, beq_iff_eq, bne_iff_ne, and_assoc]
  constructor
  · rintro ⟨_, _, good, alone⟩
    have apart {a : Entry .roleAssignment RoleAssignment} (member : a ∈ s.roleAssignments.entries) :=
      not_or.1 (mt (clash a.val (legible a member)).2 (Bool.eq_false_iff.1 (alone a member)))
    refine ⟨readable.refers_iff.1 good,
      named?_eq_none.2 fun a member => Ne.symm (apart member).1, fun a listed same => ?_⟩
    obtain ⟨member, own⟩ := Table.mem_filter.1 listed
    exact (apart member).2 ⟨(beq_iff_eq.1 own).symm, same.symm⟩
  · rintro ⟨good, free, once⟩
    refine ⟨rfl, readable.holds, readable.refers_iff.2 good, fun a member => Bool.eq_false_iff.2 fun both => ?_⟩
    rcases (clash a.val (legible a member)).1 both with same | ⟨own, same⟩
    · exact named?_eq_none.1 free a member same.symm
    · exact once a (Table.mem_filter.2 ⟨member, beq_iff_eq.2 own.symm⟩) same.symm

/-- A public id that no row has, no assignment has. -/
theorem role_unnamed {publicId : String} (fresh : publicId ∉ s.publicIds) :
    s.named? .roleAssignment publicId = none := by
  refine named?_eq_none.2 fun a member same => fresh ?_
  have used : publicId ∈ s.idsOf .roleAssignment := List.mem_map.2 ⟨a, member, same⟩
  simp [publicIds, used]

end Store

namespace Tx

variable {s : Store} {publicId : Option String} {user : UserId} {b : Binding}
  {grantedBy : Option UserId}

/-- A public id that is spelled is taken as it is, and otherwise one is minted that no row has. -/
theorem publicIdOr_goes (spelled : ∀ id, publicId = some id → Text.isBlank id = false) :
    ∃ id minted, publicIdOr publicId s = .ok (id, { s with minted }) ∧
      (publicId = some id ∨ publicId = none ∧ id ∉ s.publicIds) := by
  cases publicId with
  | some id => exact ⟨id, s.minted, by simp [publicIdOr, require, spelled]; rfl, .inl rfl⟩
  | none =>
    obtain ⟨id, minted, fresh, ran⟩ := mint_goes (s := s)
    exact ⟨id, minted, ran, .inr ⟨rfl, fresh⟩⟩

/-- Exactly the roles that can be given are given. -/
theorem createRoleAssignment_iff (legible : s.roleAssignments.Readable) :
    (∃ r, createRoleAssignment publicId user b grantedBy s = .ok r) ↔
      s.Gives publicId user b grantedBy := by
  -- what is written tells the binding
  have written (attached : b.scope ≠ .detached) (id : String) (at' : Stamp) :
      ∃ row : RoleAssignment, row = ⟨id, user, b.role, .ofScope b.scope, grantedBy, at'⟩ ∧
        row.Readable ∧ row.binding = b :=
    ⟨_, rfl, .of attached rfl rfl, RoleAssignment.binding_of attached rfl rfl⟩
  constructor
  · rintro ⟨⟨a, s'⟩, ran⟩
    simp only [createRoleAssignment, bind_ok, require_ok, now_ok, insertOr_ok, bne_iff_ne] at ran
    obtain ⟨_, t, ⟨attached, rfl⟩, id, _, named, _, _, ⟨rfl, rfl⟩, faultless, rfl, rfl⟩ := ran
    obtain ⟨given, _, minted, rfl⟩ := publicIdOr_ok named
    obtain ⟨row, made, readable, rfl⟩ := written attached id ⟨t.clock⟩
    rw [← made] at faultless
    obtain ⟨⟨holder, granter, node⟩, free, once⟩ :=
      (Store.takes_role legible readable attached).1 (Table.insertFault_eq_none.1 faultless)
    rw [made] at holder granter free once
    exact ⟨Binding.accepted_iff.2 attached, node, holder, granter, fun _ same => (given _ same).2,
      fun _ same => (given _ same).1 ▸ free, made ▸ once⟩
  · rintro ⟨accepted, node, holder, granter, spelled, free, once⟩
    have attached := Binding.accepted_iff.1 accepted
    obtain ⟨id, minted, named, origin⟩ := publicIdOr_goes (s := s) spelled
    have unused : s.named? .roleAssignment id = none := by
      rcases origin with given | ⟨_, fresh⟩
      · exact free id given
      · exact Store.role_unnamed fresh
    obtain ⟨row, made, readable, bound⟩ := written attached id ⟨s.clock⟩
    have faultless : s.insertFault .roleAssignment row = none :=
      Table.insertFault_eq_none.2 <| (Store.takes_role legible readable (bound ▸ attached)).2
        ⟨⟨by rwa [made], by rwa [made], by rwa [bound]⟩, by rwa [made], by rwa [bound, made]⟩
    rw [made] at faultless
    rw [createRoleAssignment, bind_of_ok (a := ()) (require_ok.2 ⟨bne_iff_ne.2 attached, rfl⟩),
      bind_of_ok named, bind_of_ok (now_ok.2 ⟨rfl, rfl⟩)]
    exact ⟨_, insertOr_ok.2 ⟨faultless, rfl, rfl⟩⟩

end Tx

/-! ## What writes make of an assignment -/

namespace Store

/-- The assignment as it stands in a store: it has no node where its node is gone. -/
def decayed (s : Store) (a : RoleAssignment) : RoleAssignment :=
  if s.hasNode a.binding.scope then a else a.detach

/-- The assignment is withdrawn, or stands as it was but for its node. -/
def Bears (s : Store) (a : Entry .roleAssignment RoleAssignment) : Prop :=
  s.row? a.id = none ∨ s.row? a.id = some { a with val := s.decayed a.val }

variable {s s' : Store} {a : Entry .roleAssignment RoleAssignment}

theorem decayed_here {a : RoleAssignment} (here : s.hasNode a.binding.scope = true) :
    s.decayed a = a := if_pos here

theorem decayed_gone {a : RoleAssignment} (gone : s.hasNode a.binding.scope = false) :
    s.decayed a = a.detach := by
  rw [decayed, gone]
  rfl

/-- Where its node is gone, an assignment is read with its role and no node. -/
theorem decayed_binding (a : RoleAssignment) : (s.decayed a).binding =
    if s.hasNode a.binding.scope then a.binding else a.binding.detach := by
  cases here : s.hasNode a.binding.scope with
  | true => rw [decayed_here here, if_pos rfl]
  | false =>
    have lower : a.role ≠ .siteAdmin := fun highest => by
      rw [RoleAssignment.binding_of_highest highest] at here
      cases here
    rw [decayed_gone here, RoleAssignment.detach_binding lower]
    rfl

theorem Sound.bears (sound : s.Sound) (linked : s.Linked)
    (member : a ∈ s.roleAssignments.entries) : s.Bears a := by
  obtain ⟨_, _, here⟩ := (sound.readable a member).refers_iff.1 (linked.roleAssignments a member)
  rw [Bears, decayed_here here]
  exact .inr (sound.roleAssignments.numbered.get?_of_mem member)

/-- Deleting a node detaches what is bound to it. -/
theorem decayed_without {gone : Scope} {a : RoleAssignment} (readable : a.Readable)
    (site : gone ≠ .site) (attached : gone ≠ .detached) (here : s.hasNode a.binding.scope = true) :
    (s.without gone).decayed a = detached gone a := by
  by_cases at_node : a.binding.scope = gone
  · rw [detached_self readable at_node]
    exact decayed_gone (by rw [at_node]; exact hasNode_without_self site attached)
  · rw [detached_of_ne readable at_node]
    exact decayed_here (hasNode_without at_node here)

/-- What one write makes of an assignment whose node is there. -/
theorem Write.bears (w : s.Write s') (readable : a.val.Readable) (found : s.row? a.id = some a)
    (here : s.hasNode a.val.binding.scope = true) : s'.Bears a := by
  have stays {s' : Store} (row : s'.row? a.id = some a) (ids : s.KeepsIds s') : s'.Bears a :=
    .inr (by rw [decayed_here (ids.hasNode here)]; exact row)
  have ids := s.keepsIds_refl
  cases w with
  | addDepartment => exact stays found { ids with departments := Table.within_insert }
  | addLocation => exact stays found { ids with locations := Table.within_insert }
  | addRoom => exact stays found { ids with rooms := Table.within_insert }
  | addRole =>
    exact stays (Table.get?_insert_of_some found)
      { ids with roleAssignments := Table.within_insert }
  | changeLocation => exact stays found { ids with locations := Table.within_put }
  | changeRoom => exact stays found { ids with rooms := Table.within_put }
  | withdraw id =>
    by_cases same : a.id = id
    · exact .inl (by rw [← same]; exact Table.get?_erase.trans (if_pos rfl))
    · refine .inr ?_
      rw [decayed_here (by exact here)]
      exact Table.get?_erase.trans ((if_neg same).trans found)
  | @deleteNode _ gone named =>
    obtain ⟨_, site, attached⟩ := resolve_ok named
    refine .inr ?_
    rw [decayed_without readable site attached here]
    exact role_without site attached found
  | tick | addUser | addEquipment | addEquipmentAssignment | addEquipmentEvent | addAccessory
  | addAccessoryAssignment | addAccessoryEvent | addConsumable | addConsumableIssue
  | addConsumableEvent | addAudit | changeUser | changeEquipment | changeEquipmentAssignment
  | changeAccessory | changeAccessoryAssignment | changeConsumable | changeConsumableIssue =>
    refine .inr ?_
    rw [decayed_here (by exact here)]
    exact found

/-- Any number of writes leave an assignment as it was, but for its node and until it is
withdrawn. -/
theorem Written.bears (h : s.Written s') (sound : s.Sound) (linked : s.Linked)
    (member : a ∈ s.roleAssignments.entries) : s'.Bears a := by
  have readable := sound.readable a member
  obtain ⟨_, _, here⟩ := readable.refers_iff.1 (linked.roleAssignments a member)
  have was : s.roleAssignments.has a.id = true := Table.has_iff.2 ⟨a, member, rfl⟩
  induction h with
  | refl => exact sound.bears linked member
  | @tail t s' before w ih =>
    have first : s.Ages t := Written.ages before
    rcases ih with gone | stands
    · exact .inl (first.role_gone w.ages sound was gone)
    · cases node : t.hasNode a.val.binding.scope with
      | true =>
        rw [decayed_here node] at stands
        exact w.bears readable stands node
      | false =>
        -- its node is gone for good, so it stays detached
        have for_good := first.hasNode_gone w.ages sound here node
        rw [decayed_gone node] at stands
        have nowhere : ∀ t : Store, t.hasNode a.val.detach.binding.scope = true := fun t =>
          hasNode_of_empty rfl
        have next := w.bears (a := { a with val := a.val.detach }) a.val.detach_readable stands (nowhere t)
        rw [Bears, decayed_here (nowhere s')] at next
        rw [Bears, decayed_gone for_good]
        exact next

end Store

/-! ## What operations make of an assignment -/

/-- What an operation makes of an assignment. Deleting its node detaches it, revoking it takes it
out, and nothing else touches it. -/
def Operation.leaves (d : Setting) (s : Store) (op : Operation)
    (a : Entry .roleAssignment RoleAssignment) : Option (Entry .roleAssignment RoleAssignment) :=
  match op with
  | .directory (.deleteNode node) =>
    if (s.resolve node).toOption = some a.val.binding.scope then
      some { a with val := a.val.detach }
    else some a
  | .caller _ (.roles (.revoke publicId)) =>
    if publicId = a.val.publicId ∧ (op.run d s).answer.isOk = true then none else some a
  | _ => some a

section Operations

variable {d : Setting} {s s' : Store} {done : Committed Answer}
  {a : Entry .roleAssignment RoleAssignment}

/-- A node that is there is deleted. -/
theorem DirectoryOp.deleteNode_goes {node : Locator} {gone : Scope}
    (resolved : s.resolve node = .ok gone) :
    (deleteNode node).run d s = { answer := .ok .nothing, store := s.without gone } := by
  have ran : Tx.deleteNode node s = .ok ((), s.without gone) := Tx.deleteNode_ok.2 ⟨gone, resolved, rfl⟩
  show (d.commitQuietly s (Tx.deleteNode node)).mapOk _ = _
  rw [Setting.commitQuietly, Setting.commit_of_ok (Tx.map_ok.2 ⟨(), ran, rfl⟩)]
  rfl

theorem DirectoryStep.leaves {op : DirectoryOp} (step : DirectoryStep s op done s')
    (readable : a.val.Readable) (found : s.row? a.id = some a) :
    s'.row? a.id = (Operation.directory op).leaves d s a := by
  cases step with
  | bootstrapKnown | bootstrapNew => exact Table.get?_insert_of_some found
  | @deleteNode node gone resolved =>
    obtain ⟨_, site, attached⟩ := Store.resolve_ok resolved
    rw [Store.role_without site attached found]
    simp only [Operation.leaves, resolved, Except.toOption, Option.some.injEq]
    by_cases at_node : a.val.binding.scope = gone
    · rw [Store.detached_self readable at_node, if_pos at_node.symm]
    · rw [Store.detached_of_ne readable at_node, if_neg fun same => at_node same.symm]
  | _ => exact found

theorem RoleStep.leaves {ctx : Context} {op : RoleOp} (step : RoleStep ctx s op done s')
    (sound : s.Sound) (found : s.row? a.id = some a)
    (answered : (op.run d s ctx).answer.isOk = true) :
    s'.row? a.id = (Operation.caller ctx (.roles op)).leaves d s a := by
  cases step with
  | grantFirst | grantMore => exact Table.get?_insert_of_some found
  | @revoke publicId b _ _ _ _ named =>
    have named_a := (sound.reads (Table.mem_of_get? found).1).named
    have row : (s.roleAssignments.erase b.id).get? a.id = if a.id = b.id then none else some a := by
      rw [Table.get?_erase, show s.roleAssignments.get? a.id = some a from found]
    refine row.trans ?_
    simp only [Operation.leaves]
    by_cases same : publicId = a.val.publicId
    · obtain rfl := Option.some.inj (named.symm.trans (same ▸ named_a))
      rw [if_pos rfl, if_pos ⟨same, answered⟩]
    · have other : a.id ≠ b.id := fun ids => same <| by
        have member := (Table.mem_of_find? named).1
        obtain rfl := sound.roleAssignments.numbered.eq_of_id (Table.mem_of_get? found).1 member ids
        exact (beq_iff_eq.1 (Table.mem_of_find? named).2).symm
      rw [if_neg other, if_neg fun both => same both.1]
  | list | activate | activateUnknown => exact found

/-- What an operation makes of an assignment is what it leaves of it. -/
theorem Operation.run_leaves (op : Operation) (sound : s.Sound)
    (member : a ∈ s.roleAssignments.entries) :
    (op.run d s).store.row? a.id = op.leaves d s a := by
  have found : s.row? a.id = some a := sound.roleAssignments.numbered.get?_of_mem member
  cases answered : (op.run d s).answer with
  | ok answer =>
    obtain ⟨done, s', step, _, out⟩ := Operation.run_ok sound answered
    rw [show (op.run d s).store = s' by rw [out]; rfl]
    cases step with
    | directory step => exact step.leaves (sound.readable a member) found
    | caller step =>
      cases step with
      | holdings => exact found
      | roles step => exact step.leaves sound found (Results.isOk_iff.2 ⟨_, answered⟩)
      | equipment step =>
        rw [step.frame]
        exact found
      | accessories step =>
        rw [step.frame]
        exact found
      | consumables step =>
        rw [step.frame]
        exact found
  | error why =>
    rw [(Operation.run_error answered).store, found]
    have refused : (op.run d s).answer.isOk = false := Results.isOk_eq_false_iff.2 ⟨why, answered⟩
    unfold Operation.leaves
    split
    · next node =>
      -- a node that is there would have been deleted
      cases resolved : s.resolve node with
      | ok gone =>
        rw [show (Operation.directory (.deleteNode node)).run d s = _ from
          DirectoryOp.deleteNode_goes resolved] at answered
        cases answered
      | error => simp [Except.toOption]
    · rw [if_neg fun both => by rw [refused] at both; cases both.2]
    · rfl

/-! ## Granting -/

variable {ctx : Context} {input : GrantInput} {b : Binding} {u : Entry .user User}

/-- Who outranks a role over its node can hand it out to whoever can be given it. -/
theorem Grants.grant_goes (legible : s.roleAssignments.Readable) (linked : s.Linked)
    (logged : d.audit = .log)
    (asked : bindingOf input.role input.scope s = .ok b) (outranks : s.Outranks ctx b)
    (named : s.named? .user input.user = some u)
    (gives : s.Gives input.publicId u.id b (some ctx.actor.id)) :
    Tx.Goes (grant d ctx input) s := by
  obtain ⟨⟨a, s₁⟩, created⟩ := (Tx.createRoleAssignment_iff legible).2 gives
  have linked₁ : s₁.Linked := Tx.Composed.linked linked created
  have there : s₁.roleAssignments.resolves (some a.id) = true := by
    obtain ⟨_, _, _, rfl, _, rfl⟩ := Tx.createRoleAssignment_ok created
    exact Table.has_insert
  have recorded (t : Store) {action : String} {scope : Scope} {details : List (String × Json)}
      {done : Committed (Entry .roleAssignment RoleAssignment)} :
      Tx.Goes (recordRole d ctx action u scope details >>= fun _ => pure done) t := by
    obtain ⟨_, ran⟩ := Tx.record_goes logged
    exact .after ran .pure
  unfold grant
  refine .after (Tx.read_ok.2 ⟨asked, rfl⟩) (.after (a := ()) (authorize_ok.2 ⟨outranks, rfl⟩) ?_)
  refine .after (Tx.read_ok.2 ⟨Store.named_ok.2 named, rfl⟩) (.after created ?_)
  -- the first role of a user becomes the active one
  split
  · obtain ⟨s₂, pointed⟩ := Tx.setActive_goes linked₁ there
    exact .after pointed (recorded s₂)
  · exact recorded s₁

/-- What is granted is what was asked for. -/
theorem RoleOp.grant_goes (sound : s.Sound) (linked : s.Linked) (logged : d.audit = .log)
    (asked : Grants.bindingOf input.role input.scope s = .ok b) (outranks : s.Outranks ctx b)
    (named : s.named? .user input.user = some u)
    (gives : s.Gives input.publicId u.id b (some ctx.actor.id)) :
    ∃ a, ((RoleOp.grant input).run d s ctx).answer = .ok (.role a) ∧ a.val.user = u.id ∧
      a.val.binding = b ∧ ((RoleOp.grant input).run d s ctx).store.Reads a := by
  obtain ⟨done, s', ran⟩ :=
    Grants.grant_goes sound.readable linked logged asked outranks named gives
  obtain ⟨step, sound'⟩ := Grants.grant_ok sound ran
  have out : (RoleOp.grant input).run d s ctx = d.outcome (done.map .role) s' := by
    show (d.commit s (Grants.grant d ctx input)).mapOk _ = _
    rw [Setting.commit_of_ok ran]
    rfl
  rw [out]
  refine ⟨done.answer, rfl, ?_⟩
  generalize told : done.map Answer.role = c at step
  have same {b' : Binding} {u' : Entry .user User}
      (asked' : Grants.bindingOf input.role input.scope s = .ok b')
      (named' : s.named? .user input.user = some u') : b' = b ∧ u' = u :=
    ⟨Except.ok.inj (asked'.symm.trans asked), Option.some.inj (named'.symm.trans named)⟩
  cases step with
  | grantFirst asked' _ named' attached made | grantMore asked' _ named' attached made =>
    obtain ⟨rfl, rfl⟩ := same asked' named'
    have bound := RoleAssignment.binding_of attached (congrArg (·.val.role) made)
      (congrArg (·.val.columns) made)
    obtain rfl : done.answer = _ := Answer.role.inj (congrArg Committed.answer told)
    have added := sound'.reads (Table.mem_insert.2 (.inr rfl))
    rw [made] at bound added ⊢
    exact ⟨rfl, bound, added⟩

end Operations

/-! ## Whatever is done -/

/-- Bindings are kept as they are given, and decay in one way only. -/
structure Store.KeepsBindings (s : Store) : Prop where
  anchored (a : Entry .roleAssignment RoleAssignment) :
    a ∈ s.roleAssignments.entries → s.Anchors a.val.binding
  /-- The columns are those of the binding that is read from them. -/
  columns (a : Entry .roleAssignment RoleAssignment) : a ∈ s.roleAssignments.entries →
    a.val.columns = .ofScope a.val.binding.scope
  reads (a : Entry .roleAssignment RoleAssignment) : a ∈ s.roleAssignments.entries → s.Reads a
  /-- Exactly the roles that can be given are given, and what is given is read back. -/
  gives (publicId : Option String) (user : UserId) (b : Binding) (grantedBy : Option UserId) :
    (∃ r, Tx.createRoleAssignment publicId user b grantedBy s = .ok r) ↔
      s.Gives publicId user b grantedBy
  given (publicId : Option String) (user : UserId) (b : Binding) (grantedBy : Option UserId)
    (a : Entry .roleAssignment RoleAssignment) (s' : Store) :
    Tx.createRoleAssignment publicId user b grantedBy s = .ok (a, s') →
      a.val.user = user ∧ a.val.binding = b ∧ s'.Reads a
  /-- Whatever is done later, an assignment stands as it was but for its node, until it is
  withdrawn. Where its node is gone, it is read with its role and no node. -/
  decays (a : Entry .roleAssignment RoleAssignment) (s' : Store) :
    a ∈ s.roleAssignments.entries → s.Evolves s' → s'.Bears a ∧ (s'.decayed a.val).binding =
      if s'.hasNode a.val.binding.scope then a.val.binding else a.val.binding.detach
  operation (a : Entry .roleAssignment RoleAssignment) (d : Setting) (op : Operation) :
    a ∈ s.roleAssignments.entries → (op.run d s).store.row? a.id = op.leaves d s a
  /-- A node that is there can always be deleted. What was bound to it is read as detached, which
  leaves no two rows with one key. -/
  deletes (d : Setting) (node : Locator) (gone : Scope) : s.resolve node = .ok gone →
    (DirectoryOp.deleteNode node).run d s = { answer := .ok .nothing, store := s.without gone } ∧
      (s.without gone).Sound ∧
      ∀ a ∈ s.roleAssignments.entries,
        (s.without gone).row? a.id = some { a with val := Store.detached gone a.val } ∧
          (Store.detached gone a.val).binding =
            if a.val.binding.scope = gone then a.val.binding.detach else a.val.binding
  /-- Who outranks a role over its node can grant it to a user who does not hold it there, whatever
  else the user holds or held. -/
  grants (d : Setting) (ctx : Context) (input : GrantInput) (b : Binding) (u : Entry .user User) :
    d.audit = .log → Grants.bindingOf input.role input.scope s = .ok b → s.Outranks ctx b →
    s.named? .user input.user = some u → s.Gives input.publicId u.id b (some ctx.actor.id) →
    ∃ a, ((RoleOp.grant input).run d s ctx).answer = .ok (.role a) ∧ a.val.user = u.id ∧
      a.val.binding = b ∧ ((RoleOp.grant input).run d s ctx).store.Reads a

theorem Store.Arises.keeps_bindings {s : Store} (h : s.Arises) : s.KeepsBindings where
  anchored _ member := h.anchored member
  columns a member := h.sound.readable a member
  reads _ member := h.sound.reads member
  gives _ _ _ _ := Tx.createRoleAssignment_iff h.sound.readable
  given _ _ _ _ _ _ created := by
    have sound' := h.sound.after created
    obtain ⟨_, _, attached, rfl, _, rfl⟩ := Tx.createRoleAssignment_ok created
    exact ⟨rfl, RoleAssignment.binding_of attached rfl rfl,
      sound'.reads (Table.mem_insert.2 (.inr rfl))⟩
  decays a s' member evolves :=
    ⟨evolves.written.bears h.sound h.linked member, s'.decayed_binding a.val⟩
  operation _ _ op member := op.run_leaves h.sound member
  deletes _ _ gone resolved := by
    obtain ⟨_, site, attached⟩ := Store.resolve_ok resolved
    exact ⟨DirectoryOp.deleteNode_goes resolved, h.sound.without gone, fun a member =>
      ⟨Store.role_without site attached (h.sound.reads member).row,
        Store.detached_binding (h.sound.readable a member) site⟩⟩
  grants _ _ _ _ _ logged asked outranks named gives :=
    RoleOp.grant_goes h.sound h.linked logged asked outranks named gives

/-- A house with three lofts. A clerk of two of them lost both. -/
def house : Store :=
  Store.serve {} {}
    [.directory (.bootstrap "root" "Root"),
     .directory (.createDepartment { publicId := some "town", name := "Town" }),
     .directory (.createLocation
       { publicId := some "house", name := "House", parent := some "town" }),
     .directory (.createRoom { publicId := some "east", name := "East", parent := some "house" }),
     .directory (.createRoom { publicId := some "west", name := "West", parent := some "house" }),
     .directory (.createRoom { publicId := some "north", name := "North", parent := some "house" }),
     .directory (.createUser { publicId := some "ada", displayName := "Ada" }),
     .caller root (.roles (.grant
       { user := "ada", role := .roomClerk, scope := some (.room "east") })),
     .caller root (.roles (.grant
       { user := "ada", role := .roomClerk, scope := some (.room "west") })),
     .directory (.deleteNode (.room "east")),
     .directory (.deleteNode (.room "west"))]
where
  root : Context := { actor := ⟨⟨1⟩, "root", "Root"⟩, binding := some .siteAdmin }
  ada : UserId := ⟨2⟩
  /-- The loft that is left. -/
  north : Binding := ⟨.roomClerk, .room ⟨3⟩, .inl rfl⟩
  asked : GrantInput := { user := "ada", role := .roomClerk, scope := some (.room "north") }

/-- Both roles of the clerk are detached, and a third one is granted. -/
theorem house_keeps_bindings :
    (house.rolesOf house.ada).map (·.val.binding.scope) = [.detached, .detached] ∧
      ∃ a, ((RoleOp.grant house.asked).run {} house house.root).answer = .ok (.role a) ∧
        a.val.binding = house.north := by
  have reachable : Reachable house := Reachable.serve (.seeded (.empty 0 0 0))
  have kept := reachable.arises.keeps_bindings
  obtain ⟨u, named, ada⟩ : ∃ u, house.named? .user "ada" = some u ∧ u.id = house.ada :=
    Option.map_eq_some_iff.1 (by decide +kernel)
  have gives : house.Gives none house.ada house.north (some house.root.actor.id) :=
    { accepted := Binding.accepted_iff.2 (by decide)
      node := by decide +kernel
      holder := by decide +kernel
      granter := by decide +kernel
      spelled := nofun
      free := nofun
      once := by decide +kernel }
  obtain ⟨a, answered, _, bound, _⟩ := kept.grants {} house.root house.asked house.north u rfl
    (Results.toOption_iff.1 (by decide +kernel)) (Results.toOption_iff.1 (by decide +kernel)) named
    (ada.symm ▸ gives)
  exact ⟨by decide +kernel, a, answered, bound⟩

end Quartermaster
