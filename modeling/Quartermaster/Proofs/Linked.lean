import Quartermaster.Proofs.Commits

/-!
# References name rows

Every reference of a row names a row that is there, or nothing. Whatever is written is looked at by
the storage when it is written; ids are not taken back but from nodes and roles; and where a node is
deleted, or a role withdrawn, the references to it are cleared.

1. `Store.Extends`: no id that may be referred to goes out, and only rows with good references come
   in. This keeps the references good (`Linked.extended`).
2. `Linked.without`, `Linked.withdrawn`: so does what takes an id out.
3. `Tx.Composed.linked`, `Store.Arises.linked`, `Reachable.linked`.
-/

namespace Quartermaster

/-! ## Ids that are there -/

namespace Table

variable {k : Kind} {α : Type} {t t' : Table k α} {id : Id k} {row : α}

theorem has_iff : t.has id = true ↔ ∃ e ∈ t.entries, e.id = id := by
  simp [has, get?, List.find?_isSome]

/-- Every id of the one table is an id of the other. -/
def Within (t t' : Table k α) : Prop := ∀ id, t.has id = true → t'.has id = true

theorem within_refl : t.Within t := fun _ => id

theorem within_insert : t.Within (t.insert row) := by
  intro id here
  obtain ⟨e, member, same⟩ := has_iff.1 here
  exact has_iff.2 ⟨e, mem_insert.2 (.inl member), same⟩

theorem within_put : t.Within (t.put id row) := by
  intro other here
  obtain ⟨e, member, rfl⟩ := has_iff.1 here
  by_cases same : e.id = id
  · exact has_iff.2 ⟨⟨e.id, row⟩, mem_put.2 (.inr ⟨rfl, same, e, member, same⟩), rfl⟩
  · exact has_iff.2 ⟨e, mem_put.2 (.inl ⟨member, same⟩), rfl⟩

theorem within_map {f : α → α} : t.Within (t.map f) := by
  intro id here
  obtain ⟨e, member, same⟩ := has_iff.1 here
  exact has_iff.2 ⟨_, mem_map.2 ⟨e, member, rfl⟩, same⟩

theorem Within.resolves (h : t.Within t') {reference : Option (Id k)}
    (good : t.resolves reference = true) : t'.resolves reference = true := by
  cases reference with
  | none => rfl
  | some id => exact h id good

/-- A reference that is cleared where it points at what goes away is good afterwards. -/
theorem resolves_erase {reference : Option (Id k)} (good : t.resolves reference = true) :
    (t.erase id).resolves (Store.cleared id reference) = true := by
  cases reference with
  | none => rfl
  | some other =>
    by_cases same : other = id
    · rw [same, Store.cleared_self]
      rfl
    · rw [Store.cleared_of_ne fun eq => same (Option.some.inj eq)]
      show (Table.get? _ other).isSome = true
      rw [get?_erase, if_neg same]
      exact good

end Table

/-! ## Good references -/

namespace Store

/-- The references of all rows of a kind name rows. -/
def Refers (s : Store) (k : Kind) {α : Type} [Record k α] : Prop :=
  ∀ e ∈ (Record.table s : Table k α).entries, Record.refers k s e.val = true

/-- Every reference names a row. Departments and audit rows have none. -/
structure Linked (s : Store) : Prop where
  locations : s.Refers .location
  rooms : s.Refers .room
  users : s.Refers .user
  roleAssignments : s.Refers .roleAssignment
  equipment : s.Refers .equipment
  equipmentAssignments : s.Refers .equipmentAssignment
  equipmentEvents : s.Refers .equipmentEvent
  accessories : s.Refers .accessory
  accessoryAssignments : s.Refers .accessoryAssignment
  accessoryEvents : s.Refers .accessoryEvent
  consumables : s.Refers .consumable
  consumableIssues : s.Refers .consumableIssue
  consumableEvents : s.Refers .consumableEvent

/-- Every id that may be referred to stays. -/
structure KeepsIds (s s' : Store) : Prop where
  departments : s.departments.Within s'.departments
  locations : s.locations.Within s'.locations
  rooms : s.rooms.Within s'.rooms
  users : s.users.Within s'.users
  roleAssignments : s.roleAssignments.Within s'.roleAssignments
  equipment : s.equipment.Within s'.equipment
  equipmentAssignments : s.equipmentAssignments.Within s'.equipmentAssignments
  accessories : s.accessories.Within s'.accessories
  accessoryAssignments : s.accessoryAssignments.Within s'.accessoryAssignments
  consumables : s.consumables.Within s'.consumables
  consumableIssues : s.consumableIssues.Within s'.consumableIssues

/-- Every row of a kind is as before, or was looked at when it was written. -/
def Checked (s s' : Store) (k : Kind) {α : Type} [Record k α] : Prop :=
  ∀ e ∈ (Record.table s' : Table k α).entries,
    e ∈ (Record.table s : Table k α).entries ∨ Record.refers k s e.val = true

/-- The ids that may be referred to stay, and rows come in or are written again with good
references. -/
structure Extends (s s' : Store) : Prop where
  ids : s.KeepsIds s'
  locations : s.Checked s' .location
  rooms : s.Checked s' .room
  users : s.Checked s' .user
  roleAssignments : s.Checked s' .roleAssignment
  equipment : s.Checked s' .equipment
  equipmentAssignments : s.Checked s' .equipmentAssignment
  equipmentEvents : s.Checked s' .equipmentEvent
  accessories : s.Checked s' .accessory
  accessoryAssignments : s.Checked s' .accessoryAssignment
  accessoryEvents : s.Checked s' .accessoryEvent
  consumables : s.Checked s' .consumable
  consumableIssues : s.Checked s' .consumableIssue
  consumableEvents : s.Checked s' .consumableEvent

variable {s s' : Store}

theorem keepsIds_refl (s : Store) : s.KeepsIds s := by
  constructor <;> exact Table.within_refl

end Store

/-- Good references of a row stay good while the ids that they may name are there. -/
class Steady (k : Kind) {α : outParam Type} [Record k α] : Prop where
  stays {s s' : Store} {row : α} : s.KeepsIds s' → Record.refers k s row = true →
    Record.refers k s' row = true

instance : Steady .location := ⟨fun ids => ids.departments.resolves⟩

instance : Steady .room := ⟨fun ids => ids.locations.resolves⟩

instance : Steady .user where
  stays ids good := by
    simp only [Record.refers, Bool.and_eq_true] at good ⊢
    exact ⟨ids.rooms.resolves good.1, ids.roleAssignments.resolves good.2⟩

instance : Steady .roleAssignment where
  stays ids good := by
    simp only [Record.refers, Bool.and_eq_true] at good ⊢
    obtain ⟨⟨⟨⟨user, granter⟩, department⟩, location⟩, room⟩ := good
    exact ⟨⟨⟨⟨ids.users _ user, ids.users.resolves granter⟩, ids.departments.resolves department⟩,
      ids.locations.resolves location⟩, ids.rooms.resolves room⟩

instance : Steady .equipment := ⟨fun ids => ids.rooms.resolves⟩

instance : Steady .equipmentAssignment where
  stays ids good := by
    simp only [Record.refers, Bool.and_eq_true] at good ⊢
    exact ⟨⟨ids.equipment _ good.1.1, ids.users _ good.1.2⟩, ids.users.resolves good.2⟩

instance : Steady .equipmentEvent where
  stays ids good := by
    simp only [Record.refers, Bool.and_eq_true] at good ⊢
    exact ⟨⟨⟨ids.equipment _ good.1.1.1, ids.equipmentAssignments.resolves good.1.1.2⟩,
      ids.users.resolves good.1.2⟩, ids.users _ good.2⟩

instance : Steady .accessory := ⟨fun ids => ids.rooms.resolves⟩

instance : Steady .accessoryAssignment where
  stays ids good := by
    simp only [Record.refers, Bool.and_eq_true] at good ⊢
    exact ⟨⟨ids.accessories _ good.1.1, ids.users _ good.1.2⟩, ids.users.resolves good.2⟩

instance : Steady .accessoryEvent where
  stays ids good := by
    simp only [Record.refers, Bool.and_eq_true] at good ⊢
    exact ⟨⟨⟨ids.accessories _ good.1.1.1, ids.accessoryAssignments.resolves good.1.1.2⟩,
      ids.users.resolves good.1.2⟩, ids.users _ good.2⟩

instance : Steady .consumable := ⟨fun ids => ids.rooms.resolves⟩

instance : Steady .consumableIssue where
  stays ids good := by
    simp only [Record.refers, Bool.and_eq_true] at good ⊢
    exact ⟨⟨ids.consumables _ good.1.1, ids.users _ good.1.2⟩, ids.users.resolves good.2⟩

instance : Steady .consumableEvent where
  stays ids good := by
    simp only [Record.refers, Bool.and_eq_true] at good ⊢
    exact ⟨⟨⟨ids.consumables _ good.1.1.1, ids.consumableIssues.resolves good.1.1.2⟩,
      ids.users.resolves good.1.2⟩, ids.users _ good.2⟩

namespace Store

variable {s s' : Store} {k : Kind} {α : Type} [Record k α]

theorem ruleFault_of_update {row : α} (faultless : s.updateFault k row = none) :
    s.ruleFault k row = none :=
  (updateFault_eq_none.1 faultless).2

theorem checked_refl : s.Checked s k := fun _ => .inl

theorem extends_refl (s : Store) : s.Extends s := by
  constructor
  · exact s.keepsIds_refl
  all_goals exact checked_refl

/-- What refers to rows goes on to do so, and what is written again was looked at. -/
theorem Checked.all [Steady k] (h : s.Checked s' k) (ids : s.KeepsIds s') (before : s.Refers k) :
    s'.Refers k := by
  intro e member
  rcases h e member with old | good
  · exact Steady.stays ids (before e old)
  · exact Steady.stays ids good

/-- A table that is left alone goes on to refer to rows. -/
theorem Refers.kept [Steady k] (before : s.Refers k) (ids : s.KeepsIds s')
    (same : (Record.table s' : Table k α) = Record.table s) : s'.Refers k := by
  intro e member
  rw [same] at member
  exact Steady.stays ids (before e member)

theorem Linked.extended (linked : s.Linked) (h : s.Extends s') : s'.Linked where
  locations := h.locations.all h.ids linked.locations
  rooms := h.rooms.all h.ids linked.rooms
  users := h.users.all h.ids linked.users
  roleAssignments := h.roleAssignments.all h.ids linked.roleAssignments
  equipment := h.equipment.all h.ids linked.equipment
  equipmentAssignments := h.equipmentAssignments.all h.ids linked.equipmentAssignments
  equipmentEvents := h.equipmentEvents.all h.ids linked.equipmentEvents
  accessories := h.accessories.all h.ids linked.accessories
  accessoryAssignments := h.accessoryAssignments.all h.ids linked.accessoryAssignments
  accessoryEvents := h.accessoryEvents.all h.ids linked.accessoryEvents
  consumables := h.consumables.all h.ids linked.consumables
  consumableIssues := h.consumableIssues.all h.ids linked.consumableIssues
  consumableEvents := h.consumableEvents.all h.ids linked.consumableEvents

end Store

/-! ## Ids that go out -/

namespace Store

variable {s s' : Store}

theorem users_without (s : Store) (gone : Scope) : s.users.Within (s.without gone).users := by
  cases gone with
  | site | detached | department | location => exact Table.within_refl
  | room => exact Table.within_map

theorem refers_detached {a : RoleAssignment} {gone : Scope}
    (good : Record.refers .roleAssignment s a = true) :
    Record.refers .roleAssignment (s.without gone) (detached gone a) = true := by
  have users := s.users_without gone
  simp only [Record.refers, Bool.and_eq_true] at good ⊢
  obtain ⟨⟨⟨⟨user, granter⟩, department⟩, location⟩, room⟩ := good
  have people := And.intro (users _ user) (users.resolves granter)
  cases gone with
  | site | detached => exact ⟨⟨⟨people, department⟩, location⟩, room⟩
  | department =>
    exact ⟨⟨⟨people, Table.resolves_erase department⟩, Table.within_map.resolves location⟩, room⟩
  | location =>
    exact ⟨⟨⟨people, department⟩, Table.resolves_erase location⟩, Table.within_map.resolves room⟩
  | room => exact ⟨⟨⟨people, department⟩, location⟩, Table.resolves_erase room⟩

/-- Deleting a node clears the references to it. -/
theorem Linked.without (linked : s.Linked) (gone : Scope) : (s.without gone).Linked := by
  have roles : ∀ e ∈ (s.roleAssignments.map (detached gone)).entries,
      Record.refers .roleAssignment (s.without gone) e.val = true := by
    intro e member
    obtain ⟨old, here, rfl⟩ := Table.mem_map.1 member
    exact refers_detached (linked.roleAssignments old here)
  -- rows that do not refer to nodes of the kind do not notice whether the node is there
  cases gone with
  | site | detached => exact linked
  | department id =>
    have ids : s.KeepsIds { s.withoutDepartment id with departments := s.departments } :=
      { s.keepsIds_refl with locations := Table.within_map, roleAssignments := Table.within_map }
    have rooms := linked.rooms.kept ids rfl
    have users := linked.users.kept ids rfl
    refine { linked with
      locations := fun e member => ?_, rooms := rooms, users := users, roleAssignments := roles }
    obtain ⟨old, here, rfl⟩ := Table.mem_map.1 member
    exact Table.resolves_erase (linked.locations old here)
  | location id =>
    have ids : s.KeepsIds { s.withoutLocation id with locations := s.locations } :=
      { s.keepsIds_refl with rooms := Table.within_map, roleAssignments := Table.within_map }
    have users := linked.users.kept ids rfl
    have equipment := linked.equipment.kept ids rfl
    have accessories := linked.accessories.kept ids rfl
    have consumables := linked.consumables.kept ids rfl
    refine { linked with
      locations := fun e member => linked.locations e (Table.mem_erase.1 member).1
      rooms := fun e member => ?_, users := users, roleAssignments := roles
      equipment := equipment, accessories := accessories, consumables := consumables }
    obtain ⟨old, here, rfl⟩ := Table.mem_map.1 member
    exact Table.resolves_erase (linked.rooms old here)
  | room id =>
    have ids : s.KeepsIds { s.withoutRoom id with rooms := s.rooms } :=
      { s.keepsIds_refl with
        users := Table.within_map, roleAssignments := Table.within_map
        equipment := Table.within_map, accessories := Table.within_map
        consumables := Table.within_map }
    have equipmentAssignments := linked.equipmentAssignments.kept ids rfl
    have equipmentEvents := linked.equipmentEvents.kept ids rfl
    have accessoryAssignments := linked.accessoryAssignments.kept ids rfl
    have accessoryEvents := linked.accessoryEvents.kept ids rfl
    have consumableIssues := linked.consumableIssues.kept ids rfl
    have consumableEvents := linked.consumableEvents.kept ids rfl
    refine ⟨linked.locations, fun e member => linked.rooms e (Table.mem_erase.1 member).1,
      fun e member => ?_, roles, fun e member => ?_, equipmentAssignments, equipmentEvents,
      fun e member => ?_, accessoryAssignments, accessoryEvents, fun e member => ?_,
      consumableIssues, consumableEvents⟩
    · obtain ⟨old, here, rfl⟩ := Table.mem_map.1 member
      have good := linked.users old here
      simp only [Record.refers, Bool.and_eq_true] at good ⊢
      exact ⟨Table.resolves_erase good.1, Table.within_map.resolves good.2⟩
    · obtain ⟨old, here, rfl⟩ := Table.mem_map.1 member
      exact Table.resolves_erase (linked.equipment old here)
    · obtain ⟨old, here, rfl⟩ := Table.mem_map.1 member
      exact Table.resolves_erase (linked.accessories old here)
    · obtain ⟨old, here, rfl⟩ := Table.mem_map.1 member
      exact Table.resolves_erase (linked.consumables old here)

/-- Withdrawing a role clears the pointers to it. -/
theorem Linked.withdrawn (linked : s.Linked) (id : RoleAssignmentId) :
    Linked { s with
      roleAssignments := s.roleAssignments.erase id
      users := s.users.map fun u => { u with active := Store.cleared id u.active } } := by
  let left : Store :=
    { s with users := s.users.map fun u => { u with active := Store.cleared id u.active } }
  have ids : s.KeepsIds left := { s.keepsIds_refl with users := Table.within_map }
  have roles := linked.roleAssignments.kept ids rfl
  have equipmentAssignments := linked.equipmentAssignments.kept ids rfl
  have equipmentEvents := linked.equipmentEvents.kept ids rfl
  have accessoryAssignments := linked.accessoryAssignments.kept ids rfl
  have accessoryEvents := linked.accessoryEvents.kept ids rfl
  have consumableIssues := linked.consumableIssues.kept ids rfl
  have consumableEvents := linked.consumableEvents.kept ids rfl
  refine { linked with
    users := fun e member => ?_
    roleAssignments := fun e member => roles e (Table.mem_erase.1 member).1
    equipmentAssignments := equipmentAssignments, equipmentEvents := equipmentEvents
    accessoryAssignments := accessoryAssignments, accessoryEvents := accessoryEvents
    consumableIssues := consumableIssues, consumableEvents := consumableEvents }
  obtain ⟨old, here, rfl⟩ := Table.mem_map.1 member
  have good := linked.users old here
  simp only [Record.refers, Bool.and_eq_true] at good ⊢
  exact ⟨good.1, Table.resolves_erase good.2⟩

end Store

/-! ## Rows that come in or are written again -/

/-- In a table of the kind, rows may come in and be written again. -/
class Grows (k : Kind) {α : outParam Type} [Record k α] : Prop where
  grows (s : Store) (t : Table k α) : (Record.table s).Within t →
    (∀ e ∈ t.entries, e ∈ (Record.table s).entries ∨ Record.refers k s e.val = true) →
      s.Extends (Record.setTable s t)

instance : Grows .department where
  grows s _ within _ :=
    { s.extends_refl with ids := { s.keepsIds_refl with departments := within } }

instance : Grows .location where
  grows s _ within checked :=
    { s.extends_refl with
      ids := { s.keepsIds_refl with locations := within }, locations := checked }

instance : Grows .room where
  grows s _ within checked :=
    { s.extends_refl with ids := { s.keepsIds_refl with rooms := within }, rooms := checked }

instance : Grows .user where
  grows s _ within checked :=
    { s.extends_refl with ids := { s.keepsIds_refl with users := within }, users := checked }

instance : Grows .roleAssignment where
  grows s _ within checked :=
    { s.extends_refl with
      ids := { s.keepsIds_refl with roleAssignments := within }, roleAssignments := checked }

instance : Grows .equipment where
  grows s _ within checked :=
    { s.extends_refl with
      ids := { s.keepsIds_refl with equipment := within }, equipment := checked }

instance : Grows .equipmentAssignment where
  grows s _ within checked :=
    { s.extends_refl with
      ids := { s.keepsIds_refl with equipmentAssignments := within }
      equipmentAssignments := checked }

instance : Grows .equipmentEvent where
  grows s _ _ checked :=
    { s.extends_refl with ids := { s.keepsIds_refl with }, equipmentEvents := checked }

instance : Grows .accessory where
  grows s _ within checked :=
    { s.extends_refl with
      ids := { s.keepsIds_refl with accessories := within }, accessories := checked }

instance : Grows .accessoryAssignment where
  grows s _ within checked :=
    { s.extends_refl with
      ids := { s.keepsIds_refl with accessoryAssignments := within }
      accessoryAssignments := checked }

instance : Grows .accessoryEvent where
  grows s _ _ checked :=
    { s.extends_refl with ids := { s.keepsIds_refl with }, accessoryEvents := checked }

instance : Grows .consumable where
  grows s _ within checked :=
    { s.extends_refl with
      ids := { s.keepsIds_refl with consumables := within }, consumables := checked }

instance : Grows .consumableIssue where
  grows s _ within checked :=
    { s.extends_refl with
      ids := { s.keepsIds_refl with consumableIssues := within }, consumableIssues := checked }

instance : Grows .consumableEvent where
  grows s _ _ checked :=
    { s.extends_refl with ids := { s.keepsIds_refl with }, consumableEvents := checked }

instance : Grows .audit where
  grows s _ _ _ := { s.extends_refl with ids := { s.keepsIds_refl with } }

namespace Store

variable {s s' : Store} {k : Kind} {α : Type} [Record k α] [Grows k]

/-- A row that is taken has good references. -/
theorem Linked.insert (linked : s.Linked) {row : α} (taken : s.insertFault k row = none) :
    (Record.setTable s ((Record.table s : Table k α).insert row)).Linked :=
  linked.extended <| Grows.grows s _ Table.within_insert <|
    Table.forall_insert (fun _ => .inl) (.inr (Table.insertFault_eq_none.1 taken).refers)

/-- So has a row whose new values break no rule. -/
theorem Linked.put (linked : s.Linked) {id : Id k} {row : α}
    (obeys : s.ruleFault k row = none) :
    (Record.setTable s ((Record.table s : Table k α).put id row)).Linked :=
  linked.extended <| Grows.grows s _ Table.within_put <|
    Table.forall_put (fun _ old _ => .inl old) (.inr (ruleFault_eq_none.1 obeys).2)

/-! ## Stores that arise -/

theorem Write.linked (w : s.Write s') (linked : s.Linked) : s'.Linked := by
  cases w with
  | tick =>
    exact linked.extended { s.extends_refl with ids := { s.keepsIds_refl with } }
  | addDepartment ok => exact linked.insert ok
  | addLocation ok => exact linked.insert ok
  | addRoom ok => exact linked.insert ok
  | addUser ok => exact linked.insert ok
  | addRole _ _ ok => exact linked.insert ok
  | addEquipment ok => exact linked.insert ok
  | addEquipmentAssignment ok => exact linked.insert ok
  | addEquipmentEvent ok => exact linked.insert ok
  | addAccessory ok => exact linked.insert ok
  | addAccessoryAssignment ok => exact linked.insert ok
  | addAccessoryEvent ok => exact linked.insert ok
  | addConsumable ok => exact linked.insert ok
  | addConsumableIssue ok => exact linked.insert ok
  | addConsumableEvent ok => exact linked.insert ok
  | addAudit ok => exact linked.insert ok
  | changeLocation _ ok => exact linked.put (ruleFault_of_update ok)
  | changeRoom _ ok => exact linked.put (ruleFault_of_update ok)
  | changeUser _ ok => exact linked.put (ruleFault_of_update ok)
  | changeEquipment _ ok => exact linked.put (ruleFault_of_update ok)
  | changeEquipmentAssignment _ _ ok => exact linked.put (ruleFault_of_update ok)
  | changeAccessory _ ok => exact linked.put (ruleFault_of_update ok)
  | changeAccessoryAssignment _ _ ok => exact linked.put (ruleFault_of_update ok)
  | changeConsumable _ ok => exact linked.put (ruleFault_of_update ok)
  | changeConsumableIssue _ _ ok => exact linked.put (ruleFault_of_update ok)
  | withdraw id => exact linked.withdrawn id
  | deleteNode => exact linked.without _

theorem Written.linked (h : s.Written s') (linked : s.Linked) : s'.Linked :=
  h.keeps (P := Linked) (fun _ _ linked w => w.linked linked) linked

/-- In a store that arises, every reference names a row. -/
theorem Arises.linked (h : s.Arises) : s.Linked :=
  h.invariant (fun _ _ _ => by constructor <;> exact List.forall_mem_nil _)
    fun _ _ _ linked w => w.linked linked

/-! ## The two ends of a custody row -/

theorem Linked.ends_of_equipment (linked : s.Linked) {a : Entry .equipmentAssignment EquipmentAssignment}
    (member : a ∈ s.equipmentAssignments.entries) :
    s.equipment.has a.val.equipment = true ∧ s.users.has a.val.holder = true := by
  have good := linked.equipmentAssignments a member
  simp only [Record.refers, Bool.and_eq_true] at good
  exact good.1

theorem Linked.ends_of_accessory (linked : s.Linked) {a : Entry .accessoryAssignment AccessoryAssignment}
    (member : a ∈ s.accessoryAssignments.entries) :
    s.accessories.has a.val.accessory = true ∧ s.users.has a.val.holder = true := by
  have good := linked.accessoryAssignments a member
  simp only [Record.refers, Bool.and_eq_true] at good
  exact good.1

theorem Linked.ends_of_issue (linked : s.Linked) {i : Entry .consumableIssue ConsumableIssue}
    (member : i ∈ s.consumableIssues.entries) :
    s.consumables.has i.val.consumable = true ∧ s.users.has i.val.holder = true := by
  have good := linked.consumableIssues i member
  simp only [Record.refers, Bool.and_eq_true] at good
  exact good.1

end Store

/-- A transaction that goes through from good references leaves good references. -/
theorem Tx.Composed.linked {α : Type} {s s' : Store} {x : Tx α} {a : α} [composed : x.Composed]
    (linked : s.Linked) (ran : x s = .ok (a, s')) : s'.Linked :=
  (composed.written ran).linked linked

/-- In a reachable store, every reference names a row. -/
theorem Reachable.linked {s : Store} (h : Reachable s) : s.Linked := h.arises.linked

end Quartermaster
