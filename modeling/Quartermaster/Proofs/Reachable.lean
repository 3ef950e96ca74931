import Quartermaster.Proofs.OperationStep
import Quartermaster.Store.Statement

/-!
# Stores that can come about

A store is seeded when it is made from the empty one by the statements that create rows, and
reachable when it comes from a seeded one by operations, in any order, under any settings and for
any callers. Refused operations are among them.

Results:

1. `Seeded.unused`, `Seeded.working`: a seeded store has no custody rows, no ledgers and no audit
   rows, and its items work.
2. `Reachable.sound`: every table is sound.
3. `Reachable.invariant`: what holds of seeded stores and is kept by every step holds of reachable
   stores. This is the one induction over how a store came about.
-/

namespace Quartermaster

/-- A store of rows that were created directly. -/
inductive Seeded : Store → Prop
  | empty (supply clock minted : Nat) : Seeded { supply, clock, minted }
  | department {s s' : Store} {input : NodeInput} {e : Entry .department Department} :
      Seeded s → Tx.createDepartment input s = .ok (e, s') → Seeded s'
  | location {s s' : Store} {input : NodeInput} {e : Entry .location Location} :
      Seeded s → Tx.createLocation input s = .ok (e, s') → Seeded s'
  | room {s s' : Store} {input : NodeInput} {e : Entry .room Room} :
      Seeded s → Tx.createRoom input s = .ok (e, s') → Seeded s'
  | user {s s' : Store} {input : UserInput} {e : Entry .user User} :
      Seeded s → Tx.createUser input s = .ok (e, s') → Seeded s'
  | role {s s' : Store} {publicId : Option String} {user : UserId} {binding : Binding}
      {grantedBy : Option UserId} {a : Entry .roleAssignment RoleAssignment} :
      Seeded s → Tx.createRoleAssignment publicId user binding grantedBy s = .ok (a, s') →
      Seeded s'
  /-- The first role that is created for a user is made active. -/
  | activeRole {s s' : Store} {input : GrantInput} {answer : StatementAnswer} :
      Seeded s → (PeopleStatement.grant input).run s = .ok (answer, s') → Seeded s'
  | equipment {s s' : Store} {publicId serialNumber : Option String} {name : String}
      {room : Option RoomId} {e : Entry .equipment Equipment} :
      Seeded s → Tx.createEquipment publicId name serialNumber room s = .ok (e, s') → Seeded s'
  | accessory {s s' : Store} {publicId : Option String} {name : String} {quantity : Int64}
      {room : Option RoomId} {e : Entry .accessory Accessory} :
      Seeded s → Tx.createAccessory publicId name quantity room s = .ok (e, s') → Seeded s'
  | consumable {s s' : Store} {input : ConsumableInput} {room : Option RoomId}
      {e : Entry .consumable Consumable} :
      Seeded s → Tx.createConsumable input room s = .ok (e, s') → Seeded s'

/-- A store that operations can leave. -/
inductive Reachable : Store → Prop
  | seeded {s : Store} : Seeded s → Reachable s
  | run {s : Store} (d : Setting) (op : Operation) : Reachable s → Reachable (op.run d s).store

/-- The store after operations in a row. -/
def Store.serve (s : Store) (d : Setting) : List Operation → Store
  | [] => s
  | op :: rest => (op.run d s).store.serve d rest

variable {s s' : Store}

theorem Reachable.serve {d : Setting} {ops : List Operation} (h : Reachable s) :
    Reachable (s.serve d ops) := by
  induction ops generalizing s with
  | nil => exact h
  | cons op rest ih => exact ih (h.run d op)

/-- A direct grant creates the assignment, and points a user without an active role at it. -/
theorem PeopleStatement.grant_ok {input : GrantInput} {answer : StatementAnswer}
    (h : (PeopleStatement.grant input).run s = .ok (answer, s')) :
    ∃ u b a s₁, s.named? .user input.user = some u ∧
      Tx.createRoleAssignment input.publicId u.id b none s = .ok (a, s₁) ∧
      (s' = s₁ ∨ Tx.setActive u.id (some a.id) s₁ = .ok ((), s')) := by
  simp only [run, Tx.bind_ok, Tx.read_ok, Store.named_ok] at h
  obtain ⟨u, _, ⟨named, rfl⟩, b, _, ⟨_, rfl⟩, a, s₁, created, h⟩ := h
  refine ⟨u, b, a, s₁, named, created, ?_⟩
  cases active : u.val.active with
  | none =>
    simp only [active, Option.isNone_none, if_true, Tx.bind_ok, Tx.pure_ok] at h
    obtain ⟨_, _, pointed, _, rfl⟩ := h
    exact .inr pointed
  | some id =>
    simp only [active, Option.isNone_some, Bool.false_eq_true, if_false, Tx.pure_ok] at h
    exact .inl h.2

/-- The tables that only operations write: nobody has anything, and nothing is recorded. -/
def Store.Unused (s : Store) : Prop :=
  (s.equipmentAssignments = {} ∧ s.accessoryAssignments = {} ∧ s.consumableIssues = {}) ∧
    (s.equipmentEvents = {} ∧ s.accessoryEvents = {} ∧ s.consumableEvents = {}) ∧ s.audit = {}

/-- What holds of the empty store, has nothing to do with the tree and with people, and is kept where
assets are added, holds of seeded stores. -/
theorem Seeded.invariant {P : Store → Prop} (h : Seeded s)
    (empty : ∀ supply clock minted, P { supply, clock, minted })
    (people : ∀ s departments locations rooms users roleAssignments clock minted, P s →
      P { s with departments, locations, rooms, users, roleAssignments, clock, minted })
    (equipment : ∀ (s : Store) (row : Equipment) clock minted, row.status = .ok → P s →
      P { s with equipment := s.equipment.insert row, clock, minted })
    (accessories : ∀ (s : Store) (row : Accessory) clock minted, P s →
      P { s with accessories := s.accessories.insert row, clock, minted })
    (consumables : ∀ (s : Store) (row : Consumable) clock minted, P s →
      P { s with consumables := s.consumables.insert row, clock, minted }) : P s := by
  induction h with
  | empty supply clock minted => exact empty supply clock minted
  | department _ created ih =>
    obtain ⟨_, _, _, rfl⟩ := Tx.createDepartment_ok created
    exact people _ _ _ _ _ _ _ _ ih
  | location _ created ih =>
    obtain ⟨_, _, _, rfl⟩ := Tx.createLocation_ok created
    exact people _ _ _ _ _ _ _ _ ih
  | room _ created ih =>
    obtain ⟨_, _, _, rfl⟩ := Tx.createRoom_ok created
    exact people _ _ _ _ _ _ _ _ ih
  | user _ created ih =>
    obtain ⟨_, _, _, _, rfl⟩ := Tx.createUser_ok created
    exact people _ _ _ _ _ _ _ _ ih
  | role _ created ih =>
    obtain ⟨_, _, _, _, _, rfl⟩ := Tx.createRoleAssignment_ok created
    exact people _ _ _ _ _ _ _ _ ih
  | activeRole _ granted ih =>
    obtain ⟨_, _, _, _, _, created, same⟩ := PeopleStatement.grant_ok granted
    obtain ⟨_, _, _, _, _, rfl⟩ := Tx.createRoleAssignment_ok created
    rcases same with rfl | pointed
    · exact people _ _ _ _ _ _ _ _ ih
    · obtain ⟨_, rfl⟩ | ⟨_, _, _, rfl⟩ := Tx.setActive_ok pointed
      · exact people _ _ _ _ _ _ _ _ ih
      · exact people _ _ _ _ _ _ _ _ (people _ _ _ _ _ _ _ _ ih)
  | equipment _ created ih =>
    obtain ⟨_, _, _, _, working, rfl⟩ := Tx.createEquipment_ok created
    exact equipment _ _ _ _ working ih
  | accessory _ created ih =>
    obtain ⟨_, _, _, _, _, _, rfl⟩ := Tx.createAccessory_ok created
    exact accessories _ _ _ _ ih
  | consumable _ created ih =>
    obtain ⟨_, _, _, _, _, _, rfl⟩ := Tx.createConsumable_ok created
    exact consumables _ _ _ _ ih

theorem Seeded.unused (h : Seeded s) : s.Unused := by
  refine h.invariant (P := Store.Unused) (fun _ _ _ => ?_) ?_ ?_ ?_ ?_
  · exact ⟨⟨rfl, rfl, rfl⟩, ⟨rfl, rfl, rfl⟩, rfl⟩
  · exact fun _ _ _ _ _ _ _ _ unused => unused
  · exact fun _ _ _ _ _ unused => unused
  · exact fun _ _ _ _ unused => unused
  · exact fun _ _ _ _ unused => unused

/-- Every item begins to work. -/
theorem Seeded.working (h : Seeded s) : ∀ e ∈ s.equipment.entries, e.val.status = .ok := by
  refine h.invariant (P := fun s => ∀ e ∈ s.equipment.entries, e.val.status = .ok)
    (fun _ _ _ => List.forall_mem_nil _) ?_ (fun _ _ _ _ working kept => ?_) ?_ ?_
  · exact fun _ _ _ _ _ _ _ _ kept => kept
  · exact Table.forall_insert kept working
  · exact fun _ _ _ _ kept => kept
  · exact fun _ _ _ _ kept => kept

/-! ## Soundness -/

theorem Seeded.sound (h : Seeded s) : s.Sound := by
  induction h with
  | empty supply clock minted => exact Store.sound_empty supply clock minted
  | department _ created ih => exact ih.after created
  | location _ created ih => exact ih.after created
  | room _ created ih => exact ih.after created
  | user _ created ih => exact ih.after created
  | role _ created ih => exact ih.after created
  | activeRole _ granted ih =>
    obtain ⟨u, b, a, s₁, _, created, rfl | pointed⟩ := PeopleStatement.grant_ok granted
    · exact ih.after created
    · exact (ih.after created).after pointed
  | equipment _ created ih => exact ih.after created
  | accessory _ created ih => exact ih.after created
  | consumable _ created ih => exact ih.after created

theorem Reachable.sound (h : Reachable s) : s.Sound := by
  induction h with
  | seeded h => exact h.sound
  | run d op _ ih => exact Operation.store_sound ih

/-- What holds of seeded stores and is kept by every step holds of reachable stores. -/
theorem Reachable.invariant {P : Store → Prop} (h : Reachable s) (start : ∀ s, Seeded s → P s)
    (step : ∀ d s op done s', s.Sound → P s → OperationStep d s op done s' → P s') : P s := by
  induction h with
  | seeded h => exact start _ h
  | @run s d op reached ih =>
    -- a refused operation leaves the store, so steps are all there is to look at
    cases answered : (op.run d s).answer with
    | ok answer =>
      obtain ⟨done, s', taken, _, out⟩ := Operation.run_ok reached.sound answered
      rw [out]
      exact step d s op done s' reached.sound ih taken
    | error why =>
      rw [(Operation.run_error answered).store]
      exact ih

end Quartermaster
