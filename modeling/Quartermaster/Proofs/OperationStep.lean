import Quartermaster.Proofs.Custody.AccessoryStep
import Quartermaster.Proofs.Custody.ConsumableStep
import Quartermaster.Proofs.Custody.EquipmentStep
import Quartermaster.Proofs.DirectoryStep
import Quartermaster.Proofs.RoleStep

/-!
# What an operation does

The steps of all operations under one relation, `OperationStep d s op done s'`.

Results:

1. `Operation.run_ok`: an operation that is not refused takes a step, and the store stays sound.
2. `OperationStep.equipment_cases` and its likes: a step on one kind of asset, or none that it notices.
3. `Operation.run_error`: an operation that is refused leaves the store and tells nothing.
4. `Operation.store_sound`: so soundness is kept by every operation.
-/

namespace Quartermaster

inductive CallerStep (d : Setting) (ctx : Context) (s : Store) :
    CallerOp → Committed Answer → Store → Prop
  | holdings {answer : Answer} : CallerStep d ctx s .holdings { answer } s
  | roles {op : RoleOp} {done : Committed Answer} {s' : Store} :
      RoleStep ctx s op done s' → CallerStep d ctx s (.roles op) done s'
  | equipment {op : EquipmentOp} {done : Committed Answer} {s' : Store} :
      EquipmentStep ctx s op done s' → CallerStep d ctx s (.equipment op) done s'
  | accessories {op : AccessoryOp} {done : Committed Answer} {s' : Store} :
      AccessoryStep ctx s op done s' → CallerStep d ctx s (.accessories op) done s'
  | consumables {op : ConsumableOp} {done : Committed Answer} {s' : Store} :
      ConsumableStep d ctx s op done s' → CallerStep d ctx s (.consumables op) done s'

inductive OperationStep (d : Setting) (s : Store) :
    Operation → Committed Answer → Store → Prop
  | directory {op : DirectoryOp} {done : Committed Answer} {s' : Store} :
      DirectoryStep s op done s' → OperationStep d s (.directory op) done s'
  | caller {ctx : Context} {op : CallerOp} {done : Committed Answer} {s' : Store} :
      CallerStep d ctx s op done s' → OperationStep d s (.caller ctx op) done s'

variable {d : Setting} {s : Store}

theorem CallerOp.run_ok {ctx : Context} {op : CallerOp} {answer : Answer} (sound : s.Sound)
    (h : (op.run d s ctx).answer = .ok answer) :
    ∃ done s', CallerStep d ctx s op done s' ∧ s'.Sound ∧ op.run d s ctx = d.outcome done s' := by
  cases op with
  | holdings => exact ⟨{ answer }, s, .holdings, sound, Setting.ofRead_ok h⟩
  | roles op =>
    obtain ⟨done, s', step, kept, out⟩ := RoleOp.run_ok sound h
    exact ⟨done, s', .roles step, kept, out⟩
  | equipment op =>
    obtain ⟨done, s', step, kept, out⟩ := EquipmentOp.run_ok sound h
    exact ⟨done, s', .equipment step, kept, out⟩
  | accessories op =>
    obtain ⟨done, s', step, kept, out⟩ := AccessoryOp.run_ok sound h
    exact ⟨done, s', .accessories step, kept, out⟩
  | consumables op =>
    obtain ⟨done, s', step, kept, out⟩ := ConsumableOp.run_ok sound h
    exact ⟨done, s', .consumables step, kept, out⟩

/-- An operation that is not refused takes a step. -/
theorem Operation.run_ok {op : Operation} {answer : Answer} (sound : s.Sound)
    (h : (op.run d s).answer = .ok answer) :
    ∃ done s', OperationStep d s op done s' ∧ s'.Sound ∧ op.run d s = d.outcome done s' := by
  cases op with
  | directory op =>
    obtain ⟨done, s', step, kept, out⟩ := DirectoryOp.run_ok sound h
    exact ⟨done, s', .directory step, kept, out⟩
  | caller ctx op =>
    obtain ⟨done, s', step, kept, out⟩ := CallerOp.run_ok sound h
    exact ⟨done, s', .caller step, kept, out⟩

/-! ## What a step leaves alone

Each equation says that everything but the tables it names is as it was. -/

section Frame

variable {ctx : Context} {done : Committed Answer} {s' : Store}

theorem RoleStep.frame {op : RoleOp} (step : RoleStep ctx s op done s') :
    s' = { s with
      roleAssignments := s'.roleAssignments, users := s'.users
      audit := s'.audit, clock := s'.clock, minted := s'.minted } := by
  cases step <;> rfl

theorem EquipmentStep.frame {op : EquipmentOp} (step : EquipmentStep ctx s op done s') :
    s' = { s with
      equipment := s'.equipment, equipmentAssignments := s'.equipmentAssignments
      equipmentEvents := s'.equipmentEvents
      audit := s'.audit, clock := s'.clock, minted := s'.minted } := by
  cases step <;> rfl

theorem AccessoryStep.frame {op : AccessoryOp} (step : AccessoryStep ctx s op done s') :
    s' = { s with
      accessories := s'.accessories, accessoryAssignments := s'.accessoryAssignments
      accessoryEvents := s'.accessoryEvents
      audit := s'.audit, clock := s'.clock, minted := s'.minted } := by
  cases step <;> rfl

theorem ConsumableStep.frame {op : ConsumableOp} (step : ConsumableStep d ctx s op done s') :
    s' = { s with
      consumables := s'.consumables, consumableIssues := s'.consumableIssues
      consumableEvents := s'.consumableEvents
      audit := s'.audit, clock := s'.clock, minted := s'.minted } := by
  cases step <;> rfl

/-- No custody row, ledger or audit row is touched by the directory. -/
theorem DirectoryStep.frame {op : DirectoryOp} (step : DirectoryStep s op done s') :
    s' = { s with
      departments := s'.departments, locations := s'.locations, rooms := s'.rooms
      users := s'.users, roleAssignments := s'.roleAssignments, equipment := s'.equipment
      accessories := s'.accessories, consumables := s'.consumables
      clock := s'.clock, minted := s'.minted } := by
  cases step with
  | @deleteNode _ scope => cases scope <;> rfl
  | _ => rfl

end Frame

/-! ## What becomes of assets

Assets are written by the operations on them. Of all else only the directory touches them, where it
takes the rooms that go out of their rows. -/

section Assets

variable {done : Committed Answer} {s' : Store}

theorem DirectoryStep.moves_assets {op : DirectoryOp} (step : DirectoryStep s op done s') :
    ∃ room : Option RoomId → Option RoomId,
      s'.equipment = s.equipment.map (fun e => { e with room := room e.room }) ∧
        s'.accessories = s.accessories.map (fun e => { e with room := room e.room }) ∧
          s'.consumables = s.consumables.map fun e => { e with room := room e.room } := by
  cases step with
  | @deleteNode _ scope =>
    cases scope with
    | room gone => exact ⟨Store.cleared gone, rfl, rfl, rfl⟩
    | site | detached | department | location =>
      exact ⟨id, Table.map_id.symm, Table.map_id.symm, Table.map_id.symm⟩
  | _ => exact ⟨id, Table.map_id.symm, Table.map_id.symm, Table.map_id.symm⟩

/-- An operation is one on equipment, or leaves custody and ledger of equipment, and of its items all
but the rooms. -/
theorem OperationStep.equipment_cases {op : Operation} (step : OperationStep d s op done s') :
    (∃ ctx act, op = .caller ctx (.equipment act) ∧ EquipmentStep ctx s act done s') ∨
      (∃ room : Option RoomId → Option RoomId,
        s'.equipment = s.equipment.map fun e => { e with room := room e.room }) ∧
      s'.equipmentAssignments = s.equipmentAssignments ∧ s'.equipmentEvents = s.equipmentEvents := by
  cases step with
  | directory step =>
    obtain ⟨room, items, _⟩ := step.moves_assets
    exact .inr ⟨⟨room, items⟩, by rw [step.frame], by rw [step.frame]⟩
  | caller step =>
    cases step with
    | equipment step => exact .inl ⟨_, _, rfl, step⟩
    | holdings => exact .inr ⟨⟨id, Table.map_id.symm⟩, rfl, rfl⟩
    | roles step =>
      rw [step.frame]
      exact .inr ⟨⟨id, Table.map_id.symm⟩, rfl, rfl⟩
    | accessories step =>
      rw [step.frame]
      exact .inr ⟨⟨id, Table.map_id.symm⟩, rfl, rfl⟩
    | consumables step =>
      rw [step.frame]
      exact .inr ⟨⟨id, Table.map_id.symm⟩, rfl, rfl⟩

/-- An operation is one on accessories, or leaves custody and ledger of accessories, and of the
accessories all but the rooms. -/
theorem OperationStep.accessory_cases {op : Operation} (step : OperationStep d s op done s') :
    (∃ ctx act, op = .caller ctx (.accessories act) ∧ AccessoryStep ctx s act done s') ∨
      (∃ room : Option RoomId → Option RoomId,
        s'.accessories = s.accessories.map fun e => { e with room := room e.room }) ∧
      s'.accessoryAssignments = s.accessoryAssignments ∧ s'.accessoryEvents = s.accessoryEvents := by
  cases step with
  | directory step =>
    obtain ⟨room, _, items, _⟩ := step.moves_assets
    exact .inr ⟨⟨room, items⟩, by rw [step.frame], by rw [step.frame]⟩
  | caller step =>
    cases step with
    | accessories step => exact .inl ⟨_, _, rfl, step⟩
    | holdings => exact .inr ⟨⟨id, Table.map_id.symm⟩, rfl, rfl⟩
    | roles step =>
      rw [step.frame]
      exact .inr ⟨⟨id, Table.map_id.symm⟩, rfl, rfl⟩
    | equipment step =>
      rw [step.frame]
      exact .inr ⟨⟨id, Table.map_id.symm⟩, rfl, rfl⟩
    | consumables step =>
      rw [step.frame]
      exact .inr ⟨⟨id, Table.map_id.symm⟩, rfl, rfl⟩

/-- An operation is one on consumables, or leaves issues and ledger of consumables, and of the
consumables all but the rooms. -/
theorem OperationStep.consumable_cases {op : Operation} (step : OperationStep d s op done s') :
    (∃ ctx act, op = .caller ctx (.consumables act) ∧ ConsumableStep d ctx s act done s') ∨
      (∃ room : Option RoomId → Option RoomId,
        s'.consumables = s.consumables.map fun e => { e with room := room e.room }) ∧
      s'.consumableIssues = s.consumableIssues ∧ s'.consumableEvents = s.consumableEvents := by
  cases step with
  | directory step =>
    obtain ⟨room, _, _, items⟩ := step.moves_assets
    exact .inr ⟨⟨room, items⟩, by rw [step.frame], by rw [step.frame]⟩
  | caller step =>
    cases step with
    | consumables step => exact .inl ⟨_, _, rfl, step⟩
    | holdings => exact .inr ⟨⟨id, Table.map_id.symm⟩, rfl, rfl⟩
    | roles step =>
      rw [step.frame]
      exact .inr ⟨⟨id, Table.map_id.symm⟩, rfl, rfl⟩
    | equipment step =>
      rw [step.frame]
      exact .inr ⟨⟨id, Table.map_id.symm⟩, rfl, rfl⟩
    | accessories step =>
      rw [step.frame]
      exact .inr ⟨⟨id, Table.map_id.symm⟩, rfl, rfl⟩

end Assets

/-! ## Refusals -/

/-- The store is as it was, nobody is told anything, and nothing is handed out. -/
structure Outcome.Void {α : Type} (s : Store) (o : Outcome α) : Prop where
  store : o.store = s
  events : o.events = []
  deliveries : o.deliveries = []

section Refused

variable {α β γ : Type} {why : Refusal}

theorem Outcome.void_ofRead {answer : α} : Void s (.ofRead s answer) := ⟨rfl, rfl, rfl⟩

/-- What leaves no trace is its answer alone. -/
theorem Outcome.Void.eq_ofRead {o : Outcome α} (h : o.Void s) : o = .ofRead s o.answer := by
  obtain ⟨answer, store, events, deliveries⟩ := o
  obtain ⟨rfl, rfl, rfl⟩ := h
  rfl

theorem Results.map_error {x : Except Refusal α} {f : α → β} :
    x.map f = .error why ↔ x = .error why := by
  cases x <;> simp [Except.map]

theorem Setting.void_commit {tx : Tx (Committed α)} {f : α → β}
    (h : ((d.commit s tx).mapOk f).answer = .error why) : ((d.commit s tx).mapOk f).Void s := by
  obtain ⟨store, events, deliveries⟩ := commit_error (Results.map_error.1 h)
  exact ⟨store, events, deliveries⟩

theorem Setting.void_run {p : TwoPhase γ α} {f : α → β}
    (h : ((d.run s p).mapOk f).answer = .error why) : ((d.run s p).mapOk f).Void s := by
  obtain ⟨store, events, deliveries⟩ := run_error (Results.map_error.1 h)
  exact ⟨store, events, deliveries⟩

/-- An operation that is refused leaves the store and tells nothing. -/
theorem Operation.run_error {op : Operation} (h : (op.run d s).answer = .error why) :
    (op.run d s).Void s := by
  cases op with
  | directory op =>
    cases op with
    | chain => exact Outcome.void_ofRead
    | createDepartment | createLocation | createRoom | relocateRoom | relocateLocation
    | deleteNode | createUser | moveUser | bootstrap => exact Setting.void_commit h
  | caller ctx op =>
    cases op with
    | holdings => exact Outcome.void_ofRead
    | roles op =>
      cases op with
      | list => exact Outcome.void_ofRead
      | grant | activate | revoke => exact Setting.void_commit h
    | equipment op =>
      cases op with
      | get | list | history => exact Outcome.void_ofRead
      | register => exact Setting.void_commit h
      | assign | unassign | reassign | changeStatus => exact Setting.void_run h
    | accessories op =>
      cases op with
      | get | list | history => exact Outcome.void_ofRead
      | register => exact Setting.void_commit h
      | assign | takeBack | condemn | restock => exact Setting.void_run h
    | consumables op =>
      cases op with
      | get | list | history => exact Outcome.void_ofRead
      | register => exact Setting.void_commit h
      | issue | use | takeBack | recordLoss | reportLoss | restock => exact Setting.void_run h

end Refused

/-- Every operation leaves the store sound. -/
theorem Operation.store_sound {op : Operation} (sound : s.Sound) : (op.run d s).store.Sound := by
  cases answered : (op.run d s).answer with
  | ok answer =>
    obtain ⟨_, s', _, kept, out⟩ := run_ok sound answered
    rw [out]
    exact kept
  | error why =>
    rw [(run_error answered).store]
    exact sound

end Quartermaster
