import Quartermaster.Proofs.Runs

/-!
# What lasts

People and assets are never removed and keep their public ids; a custody row is never removed either,
and stays with its asset. So what was found under an id, or under a public id, is found there again
however long ago that was, though everything else about it may have changed.

1. `OperationStep.lasting`, `Leads.lasting`: one step, and a whole run.
2. `Store.Lasting.named`: a row that was found by its public id is found by it again.
3. `Leads.knows`: a caller that was once told who it is goes on being that user.
-/

namespace Quartermaster

/-! ## Tables -/

namespace Table

variable {k : Kind} {α β : Type} {key : α → β} {t t' : Table k α} {row : α} {e : Entry k α}

/-- Every row of the one table is in the other under its id, with its key. -/
def Keeps (key : α → β) (t t' : Table k α) : Prop :=
  ∀ id e, t.get? id = some e → ∃ e', t'.get? id = some e' ∧ key e'.val = key e.val

theorem keeps_refl : t.Keeps key t := fun _ e found => ⟨e, found, rfl⟩

theorem Keeps.trans {t'' : Table k α} (h : t.Keeps key t') (h' : t'.Keeps key t'') :
    t.Keeps key t'' := by
  intro id e found
  obtain ⟨e', found', same⟩ := h id e found
  obtain ⟨e'', found'', same'⟩ := h' id e' found'
  exact ⟨e'', found'', same'.trans same⟩

theorem keeps_insert : t.Keeps key (t.insert row) :=
  fun _ e found => ⟨e, get?_insert_of_some found, rfl⟩

theorem keeps_put (found : t.get? e.id = some e) (same : key row = key e.val) :
    t.Keeps key (t.put e.id row) := by
  intro id x here
  by_cases changed : id = e.id
  · subst changed
    obtain rfl := Option.some.inj (found.symm.trans here)
    exact ⟨_, get?_put_self found, same⟩
  · exact ⟨x, (get?_put_of_ne changed).trans here, rfl⟩

theorem keeps_map {f : α → α} (same : ∀ a, key (f a) = key a) : t.Keeps key (t.map f) :=
  fun _ e found => ⟨_, get?_map_of_some found, same e.val⟩

/-- What keeps the whole key keeps what can be read off it. -/
theorem Keeps.part {γ : Type} (f : β → γ) (h : t.Keeps key t') :
    t.Keeps (fun a => f (key a)) t' := by
  intro id e found
  obtain ⟨e', found', same⟩ := h id e found
  exact ⟨e', found', congrArg f same⟩

end Table

/-! ## Stores -/

/-- Everybody and everything that was there is there under its id and its public id, and custody rows
are of the assets that they were of. -/
structure Store.Lasting (s s' : Store) : Prop where
  users : s.users.Keeps (·.publicId) s'.users
  equipment : s.equipment.Keeps (·.publicId) s'.equipment
  accessories : s.accessories.Keeps (·.publicId) s'.accessories
  consumables : s.consumables.Keeps (·.publicId) s'.consumables
  accessoryAssignments :
    s.accessoryAssignments.Keeps (fun a => (a.publicId, a.accessory)) s'.accessoryAssignments
  consumableIssues :
    s.consumableIssues.Keeps (fun i => (i.publicId, i.consumable)) s'.consumableIssues

namespace Store

variable {s s' s'' : Store}

theorem lasting_refl : s.Lasting s := by
  constructor <;> exact Table.keeps_refl

theorem Lasting.trans (h : s.Lasting s') (h' : s'.Lasting s'') : s.Lasting s'' where
  users := h.users.trans h'.users
  equipment := h.equipment.trans h'.equipment
  accessories := h.accessories.trans h'.accessories
  consumables := h.consumables.trans h'.consumables
  accessoryAssignments := h.accessoryAssignments.trans h'.accessoryAssignments
  consumableIssues := h.consumableIssues.trans h'.consumableIssues

theorem lasting_without (s : Store) (scope : Scope) : s.Lasting (s.without scope) := by
  cases scope with
  | site | detached | department | location => exact { lasting_refl (s := s) with }
  | room gone =>
    exact { lasting_refl (s := s) with
      users := Table.keeps_map fun _ => rfl
      equipment := Table.keeps_map fun _ => rfl
      accessories := Table.keeps_map fun _ => rfl
      consumables := Table.keeps_map fun _ => rfl }

end Store

section Steps

variable {d : Setting} {ctx : Context} {s s' : Store} {done : Committed Answer}

theorem DirectoryStep.lasting {op : DirectoryOp} (step : DirectoryStep s op done s')
    (sound : s.Sound) : s.Lasting s' := by
  have same := Store.lasting_refl (s := s)
  cases step with
  | chain | createDepartment | createLocation | createRoom | relocateRoom | relocateLocation =>
    exact { same with }
  | @deleteNode _ scope => exact s.lasting_without scope
  | createUser => exact { same with users := Table.keeps_insert }
  | moveUser named =>
    exact { same with users := Table.keeps_put (sound.users.get?_of_find? named) rfl }
  | bootstrapKnown _ named =>
    exact { same with users := Table.keeps_put (sound.users.get?_of_find? named) rfl }
  | bootstrapNew _ _ added =>
    have here := sound.users.numbered.get?_insert_self added
    exact { same with users := Table.keeps_insert.trans (Table.keeps_put here rfl) }

theorem RoleStep.lasting {op : RoleOp} (step : RoleStep ctx s op done s') (sound : s.Sound) :
    s.Lasting s' := by
  have same := Store.lasting_refl (s := s)
  cases step with
  | list | grantMore | activateUnknown => exact { same with }
  | grantFirst _ _ named =>
    exact { same with users := Table.keeps_put (sound.users.get?_of_find? named) rfl }
  | @activate _ u _ _ _ found =>
    obtain ⟨_, own⟩ := Table.mem_of_get? found
    have here : s.users.get? u.id = some u := own ▸ found
    refine { same with users := ?_ }
    rw [← own]
    exact Table.keeps_put here rfl
  | revoke => exact { same with users := Table.keeps_map fun _ => rfl }

theorem EquipmentStep.lasting {op : EquipmentOp} (step : EquipmentStep ctx s op done s')
    (sound : s.Sound) : s.Lasting s' := by
  have same := Store.lasting_refl (s := s)
  cases step with
  | read | assign | unassign | reassign => exact { same with }
  | register => exact { same with equipment := Table.keeps_insert }
  | changeStatus named _ _ _ _ _ changed =>
    subst changed
    exact { same with equipment := Table.keeps_put (sound.equipment.get?_of_find? named) rfl }

theorem AccessoryStep.lasting {op : AccessoryOp} (step : AccessoryStep ctx s op done s')
    (sound : s.Sound) : s.Lasting s' := by
  have same := Store.lasting_refl (s := s)
  cases step with
  | read => exact same
  | registerEmpty | registerStocked => exact { same with accessories := Table.keeps_insert }
  | assignMore _ _ _ _ _ _ held grown =>
    subst grown
    exact { same with
      accessoryAssignments := Table.keeps_put (sound.openAccessoryAssignment held).1 rfl }
  | assignNew => exact { same with accessoryAssignments := Table.keeps_insert }
  | takeBack _ named _ _ _ _ _ reduced =>
    subst reduced
    exact { same with
      accessoryAssignments :=
        Table.keeps_put (sound.accessoryAssignments.get?_of_find? named) rfl }
  | condemn _ named _ _ _ changed =>
    subst changed
    exact { same with accessories := Table.keeps_put (sound.accessories.get?_of_find? named) rfl }
  | restock _ named _ _ changed =>
    subst changed
    exact { same with accessories := Table.keeps_put (sound.accessories.get?_of_find? named) rfl }

theorem ConsumableStep.lasting {op : ConsumableOp} (step : ConsumableStep d ctx s op done s')
    (sound : s.Sound) : s.Lasting s' := by
  have same := Store.lasting_refl (s := s)
  -- a new stock, and an issue with units more or less
  have stock {item : String} {e : Entry .consumable Consumable} {v : Consumable}
      (named : s.named? .consumable item = some e) (is : v.publicId = e.val.publicId) :
      s.consumables.Keeps (·.publicId) (s.consumables.put e.id v) :=
    Table.keeps_put (sound.consumables.get?_of_find? named) is
  have issue {i : Entry .consumableIssue ConsumableIssue} {v : ConsumableIssue}
      (found : s.row? i.id = some i)
      (is : (v.publicId, v.consumable) = (i.val.publicId, i.val.consumable)) :
      s.consumableIssues.Keeps (fun i => (i.publicId, i.consumable))
        (s.consumableIssues.put i.id v) :=
    Table.keeps_put found is
  cases step with
  | read => exact same
  | registerEmpty | registerStocked => exact { same with consumables := Table.keeps_insert }
  | issueMore _ named _ _ _ held grown changed =>
    subst grown changed
    exact { same with
      consumables := stock named rfl
      consumableIssues := issue (sound.openIssue held).1 rfl }
  | issueNew _ named _ _ _ _ _ _ changed =>
    subst changed
    exact { same with consumables := stock named rfl, consumableIssues := Table.keeps_insert }
  | use _ _ own _ reduced =>
    subst reduced
    exact { same with consumableIssues := issue (sound.openIssue own).1 rfl }
  | takeBack _ named found _ _ _ _ _ reduced changed =>
    subst reduced changed
    have item := Table.mem_of_get? found
    exact { same with
      consumables := Table.keeps_put (item.2 ▸ found) rfl
      consumableIssues := issue (sound.consumableIssues.get?_of_find? named) rfl }
  | recordLoss _ named _ _ _ _ _ reduced =>
    subst reduced
    exact { same with
      consumableIssues := issue (sound.consumableIssues.get?_of_find? named) rfl }
  | reportLoss _ _ _ own _ reduced =>
    subst reduced
    exact { same with consumableIssues := issue (sound.openIssue own).1 rfl }
  | restock _ named _ _ changed =>
    subst changed
    exact { same with consumables := stock named rfl }

theorem OperationStep.lasting {op : Operation} (step : OperationStep d s op done s')
    (sound : s.Sound) : s.Lasting s' := by
  cases step with
  | directory step => exact step.lasting sound
  | caller step =>
    cases step with
    | holdings => exact Store.lasting_refl
    | roles step => exact step.lasting sound
    | equipment step => exact step.lasting sound
    | accessories step => exact step.lasting sound
    | consumables step => exact step.lasting sound

theorem Leads.lasting {may : Setting → Store → Operation → Prop} {s₀ : Store}
    (h : Leads may s₀ s) (sound : s₀.Sound) : s₀.Lasting s :=
  h.invariant (P := s₀.Lasting) sound Store.lasting_refl
    fun _ _ _ _ _ _ _ here before step => before.trans (step.lasting here)

end Steps

/-! ## Found again -/

/-- The kinds of rows that last. -/
class Lasts (k : Kind) {α : outParam Type} [Record k α] [Named k] : Prop extends Keyed k where
  sound {s : Store} : s.Sound → (Record.table s : Table k α).Sound
  keeps {s s' : Store} : s.Lasting s' →
    (Record.table s : Table k α).Keeps (Named.publicId k) (Record.table s')

instance : Lasts .user := { sound := (·.users), keeps := (·.users) }

instance : Lasts .equipment := { sound := (·.equipment), keeps := (·.equipment) }

instance : Lasts .accessory := { sound := (·.accessories), keeps := (·.accessories) }

instance : Lasts .consumable := { sound := (·.consumables), keeps := (·.consumables) }

instance : Lasts .accessoryAssignment :=
  { sound := (·.accessoryAssignments), keeps := (·.accessoryAssignments.part Prod.fst) }

instance : Lasts .consumableIssue :=
  { sound := (·.consumableIssues), keeps := (·.consumableIssues.part Prod.fst) }

namespace Store

variable {k : Kind} {α : Type} [Record k α] [Named k] {s s' : Store} {publicId : String}

/-- The row under the id has the public id. -/
def Calls (s : Store) {k : Kind} {α : Type} [Record k α] [Named k] (id : Id k)
    (publicId : String) : Prop :=
  ∃ e, s.row? id = some e ∧ Named.publicId k e.val = publicId

instance {id : Id k} : Decidable (s.Calls id publicId) :=
  inferInstanceAs (Decidable (∃ e ∈ s.row? id, Named.publicId k e.val = publicId))

theorem calls_of_row {e : Entry k α} {id : Id k} (found : s.row? id = some e) :
    s.Calls e.id (Named.publicId k e.val) := by
  obtain ⟨_, own⟩ := Table.mem_of_get? found
  exact ⟨e, own ▸ found, rfl⟩

theorem row_of_named [Lasts k] {e : Entry k α} (sound : s.Sound)
    (named : s.named? k publicId = some e) : s.row? e.id = some e :=
  (Lasts.sound sound).get?_of_find? named

theorem calls_of_named [Lasts k] {e : Entry k α} (sound : s.Sound)
    (named : s.named? k publicId = some e) : s.Calls e.id publicId :=
  ⟨e, row_of_named sound named, beq_iff_eq.1 (Table.mem_of_find? named).2⟩

/-- A row is found by the public id that it has. -/
theorem named_of_calls [Lasts k] {e : Entry k α} (sound : s.Sound) (found : s.row? e.id = some e)
    (calls : s.Calls e.id publicId) : s.named? k publicId = some e := by
  obtain ⟨e', here, rfl⟩ := calls
  obtain rfl := Option.some.inj (found.symm.trans here)
  exact named_ok.1 (named_of_mem (Lasts.sound sound) (Table.mem_of_get? found).1)

theorem Calls.unique {id : Id k} {other : String} (h : s.Calls id publicId)
    (h' : s.Calls id other) : publicId = other := by
  obtain ⟨e, found, rfl⟩ := h
  obtain ⟨e', found', rfl⟩ := h'
  obtain rfl := Option.some.inj (found.symm.trans found')
  rfl

theorem Lasting.calls [Lasts k] {id : Id k} (h : s.Lasting s') (calls : s.Calls id publicId) :
    s'.Calls id publicId := by
  obtain ⟨e, found, rfl⟩ := calls
  exact Lasts.keeps h id e found

/-- A row that was found by its public id is found by it again, under its id. -/
theorem Lasting.named [Lasts k] {e : Entry k α} (h : s.Lasting s') (sound : s.Sound)
    (sound' : s'.Sound) (named : s.named? k publicId = some e) :
    ∃ e', s'.named? k publicId = some e' ∧ e'.id = e.id ∧
      Named.publicId k e'.val = Named.publicId k e.val := by
  have own : Named.publicId k e.val = publicId := beq_iff_eq.1 (Table.mem_of_find? named).2
  obtain ⟨e', here, same⟩ := Lasts.keeps h e.id e ((Lasts.sound sound).get?_of_find? named)
  obtain ⟨member, number⟩ := Table.mem_of_get? here
  have again := named_of_mem (Lasts.sound sound') member
  rw [same, own] at again
  exact ⟨e', named_ok.1 again, number, same⟩

/-- The actor of the context is a user, with the actor's public id. -/
def Knows (s : Store) (ctx : Context) : Prop := s.Calls ctx.actor.id ctx.actor.publicId

instance {ctx : Context} : Decidable (s.Knows ctx) :=
  inferInstanceAs (Decidable (s.Calls ctx.actor.id ctx.actor.publicId))

/-- A context that is made from the store has a user of the store as its actor. -/
theorem knows_of_context {ctx : Context} {user : String} {chosen : Option String} (sound : s.Sound)
    (made : s.context user chosen = .ok ctx) : s.Knows ctx := by
  unfold context at made
  cases named : s.named? .user user with
  | none => simp [named] at made
  | some u =>
    have here : s.Calls u.id u.val.publicId := ⟨u, sound.users.get?_of_find? named, rfl⟩
    simp only [named] at made
    split at made
    · split at made
      · obtain rfl := Except.ok.inj made
        exact here
      · cases made
    · obtain rfl := Except.ok.inj made
      exact here

end Store

/-- A caller that was told who it is, however long ago, is that user still. -/
theorem Leads.knows {may : Setting → Store → Operation → Prop} {s₀ s : Store} {ctx : Context}
    {user : String} {chosen : Option String} (h : Leads may s₀ s) (sound : s₀.Sound)
    (made : s₀.context user chosen = .ok ctx) : s.Knows ctx :=
  (h.lasting sound).calls (Store.knows_of_context sound made)

end Quartermaster
