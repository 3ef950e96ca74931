import Quartermaster.Proofs.Linked

/-!
# The past stays

The three ledgers and the audit log are only ever added to, and a custody row that is closed stays in
its table as it is. This holds of every write of the storage, whatever asked for it, so it holds of
every operation, request, batch and transaction; and of any number of them in a row.

1. `Store.Write.past`, `Store.Written.past`: no write takes anything of the past back.
2. `Store.without_custody`, `RoleOp.custody`: what is deleted or withdrawn takes no custody row along.
3. `Store.Arises.past_stays`.
-/

namespace Quartermaster

/-! ## Tables -/

namespace Table

variable {k : Kind} {α : Type} {isOpen : α → Bool} {t t' : Table k α} {row : α} {e : Entry k α}

/-- Closed rows stay as they are, and no row goes out. -/
structure Settles (isOpen : α → Bool) (t t' : Table k α) : Prop where
  closed : ∀ e ∈ t.entries, isOpen e.val = false → e ∈ t'.entries
  ids : t.Within t'

theorem settles_refl : t.Settles isOpen t := ⟨fun _ member _ => member, within_refl⟩

theorem Settles.trans {t'' : Table k α} (h : t.Settles isOpen t') (h' : t'.Settles isOpen t'') :
    t.Settles isOpen t'' :=
  ⟨fun e member closed => h'.closed e (h.closed e member closed) closed,
    fun id here => h'.ids id (h.ids id here)⟩

theorem settles_insert : t.Settles isOpen (t.insert row) :=
  ⟨fun _ member _ => mem_insert.2 (.inl member), within_insert⟩

/-- Only an open row is written again. -/
theorem settles_put (numbered : t.Numbered) (member : e ∈ t.entries)
    (opened : isOpen e.val = true) : t.Settles isOpen (t.put e.id row) := by
  refine ⟨fun x here closed => mem_put.2 (.inl ⟨here, fun same => ?_⟩), within_put⟩
  rw [numbered.eq_of_id here member same, opened] at closed
  cases closed

end Table

/-! ## Stores -/

/-- What has been written to the ledgers and to the audit log is still there, in its order and before
all that came later; and closed custody rows are as they were. -/
structure Store.PastKept (s s' : Store) : Prop where
  equipmentEvents : s.equipmentEvents.entries <+: s'.equipmentEvents.entries
  accessoryEvents : s.accessoryEvents.entries <+: s'.accessoryEvents.entries
  consumableEvents : s.consumableEvents.entries <+: s'.consumableEvents.entries
  audit : s.audit.entries <+: s'.audit.entries
  equipmentAssignments : s.equipmentAssignments.Settles (·.isOpen) s'.equipmentAssignments
  accessoryAssignments : s.accessoryAssignments.Settles (·.isOpen) s'.accessoryAssignments
  consumableIssues : s.consumableIssues.Settles (·.isOpen) s'.consumableIssues

/-- The ledgers and all custody rows, open ones too, are as they were. -/
structure Store.SameCustody (s s' : Store) : Prop where
  equipmentEvents : s'.equipmentEvents = s.equipmentEvents
  accessoryEvents : s'.accessoryEvents = s.accessoryEvents
  consumableEvents : s'.consumableEvents = s.consumableEvents
  equipmentAssignments : s'.equipmentAssignments = s.equipmentAssignments
  accessoryAssignments : s'.accessoryAssignments = s.accessoryAssignments
  consumableIssues : s'.consumableIssues = s.consumableIssues

namespace Store

variable {s s' s'' : Store}

theorem pastKept_refl (s : Store) : s.PastKept s := by
  constructor <;> first | exact List.prefix_rfl | exact Table.settles_refl

theorem PastKept.trans (h : s.PastKept s') (h' : s'.PastKept s'') : s.PastKept s'' where
  equipmentEvents := h.equipmentEvents.trans h'.equipmentEvents
  accessoryEvents := h.accessoryEvents.trans h'.accessoryEvents
  consumableEvents := h.consumableEvents.trans h'.consumableEvents
  audit := h.audit.trans h'.audit
  equipmentAssignments := h.equipmentAssignments.trans h'.equipmentAssignments
  accessoryAssignments := h.accessoryAssignments.trans h'.accessoryAssignments
  consumableIssues := h.consumableIssues.trans h'.consumableIssues

theorem sameCustody_refl (s : Store) : s.SameCustody s := ⟨rfl, rfl, rfl, rfl, rfl, rfl⟩

/-- No custody row and no ledger refers to a node. -/
theorem without_custody (s : Store) (scope : Scope) :
    s.SameCustody (s.without scope) ∧ (s.without scope).audit = s.audit := by
  cases scope <;> exact ⟨⟨rfl, rfl, rfl, rfl, rfl, rfl⟩, rfl⟩

theorem SameCustody.past (h : s.SameCustody s') (audit : s'.audit = s.audit) : s.PastKept s' where
  equipmentEvents := h.equipmentEvents ▸ List.prefix_rfl
  accessoryEvents := h.accessoryEvents ▸ List.prefix_rfl
  consumableEvents := h.consumableEvents ▸ List.prefix_rfl
  audit := audit ▸ List.prefix_rfl
  equipmentAssignments := h.equipmentAssignments ▸ Table.settles_refl
  accessoryAssignments := h.accessoryAssignments ▸ Table.settles_refl
  consumableIssues := h.consumableIssues ▸ Table.settles_refl

/-- No write takes anything of the past back. -/
theorem Write.past (w : s.Write s') (sound : s.Sound) : s.PastKept s' := by
  have same := s.pastKept_refl
  cases w with
  | addEquipmentEvent => exact { same with equipmentEvents := List.prefix_append _ _ }
  | addAccessoryEvent => exact { same with accessoryEvents := List.prefix_append _ _ }
  | addConsumableEvent => exact { same with consumableEvents := List.prefix_append _ _ }
  | addAudit => exact { same with audit := List.prefix_append _ _ }
  | addEquipmentAssignment => exact { same with equipmentAssignments := Table.settles_insert }
  | addAccessoryAssignment => exact { same with accessoryAssignments := Table.settles_insert }
  | addConsumableIssue => exact { same with consumableIssues := Table.settles_insert }
  | changeEquipmentAssignment member opened =>
    exact { same with
      equipmentAssignments :=
        Table.settles_put sound.equipmentAssignments.numbered member opened }
  | changeAccessoryAssignment member opened =>
    exact { same with
      accessoryAssignments :=
        Table.settles_put sound.accessoryAssignments.numbered member opened }
  | changeConsumableIssue member opened =>
    exact { same with
      consumableIssues := Table.settles_put sound.consumableIssues.numbered member opened }
  | @deleteNode _ scope =>
    obtain ⟨custody, audit⟩ := s.without_custody scope
    exact custody.past audit
  | tick | addDepartment | addLocation | addRoom | addUser | addRole | addEquipment | addAccessory
  | addConsumable | changeLocation | changeRoom | changeUser | changeEquipment | changeAccessory
  | changeConsumable | withdraw => exact { same with }

/-- Writes in a row take nothing of the past back. -/
theorem Written.past (h : s.Written s') (sound : s.Sound) : s.PastKept s' := by
  have both : s'.Sound ∧ s.PastKept s' :=
    h.keeps (P := fun t => t.Sound ∧ s.PastKept t)
      (fun _ _ here w => ⟨w.sound here.1, here.2.trans (w.past here.1)⟩)
      ⟨sound, s.pastKept_refl⟩
  exact both.2

end Store

/-! ## What is deleted and withdrawn -/

section Operations

variable {d : Setting} {s : Store}

/-- Operations on the directory write no custody row, no ledger and no audit row. -/
theorem DirectoryOp.custody (op : DirectoryOp) (sound : s.Sound) :
    s.SameCustody (op.run d s).store ∧ (op.run d s).store.audit = s.audit := by
  cases answered : (op.run d s).answer with
  | ok answer =>
    obtain ⟨done, s', step, _, out⟩ := run_ok sound answered
    rw [show (op.run d s).store = s' by rw [out]; rfl, step.frame]
    exact ⟨⟨rfl, rfl, rfl, rfl, rfl, rfl⟩, rfl⟩
  | error why =>
    have refused : ((Operation.directory op).run d s).answer = .error why := answered
    rw [show (op.run d s).store = s from (Operation.run_error refused).store]
    exact ⟨s.sameCustody_refl, rfl⟩

/-- Operations on roles write no custody row and no ledger. -/
theorem RoleOp.custody {ctx : Context} (op : RoleOp) (sound : s.Sound) :
    s.SameCustody (op.run d s ctx).store := by
  cases answered : (op.run d s ctx).answer with
  | ok answer =>
    obtain ⟨done, s', step, _, out⟩ := run_ok sound answered
    rw [show (op.run d s ctx).store = s' by rw [out]; rfl, step.frame]
    exact ⟨rfl, rfl, rfl, rfl, rfl, rfl⟩
  | error why =>
    have refused : ((Operation.caller ctx (.roles op)).run d s).answer = .error why := answered
    rw [show (op.run d s ctx).store = s from (Operation.run_error refused).store]
    exact s.sameCustody_refl

end Operations

/-! ## Whatever is done -/

/-- Nothing that may be done to the store takes anything of its past back. -/
structure Store.KeepsPast (s : Store) : Prop where
  operation (d : Setting) (op : Operation) : s.PastKept (op.run d s).store
  request (d : Setting) (r : Http.Request) : s.PastKept (Http.handle d s r).store
  batch (batch : List Statement) : s.PastKept (s.runBatch batch).2
  /-- Calls of the repository in one transaction, with any arguments. -/
  transaction {α : Type} (tx : Tx α) : tx.Composed → s.PastKept (s.transact tx).2
  /-- Transactions in a row, as many as there may be. -/
  later (s' : Store) : s.Evolves s' → s.PastKept s'
  /-- Deleting a node leaves all rows of the past alone, by a call of the repository or as an
  operation. -/
  nodeDeleted (node : Locator) :
    s.SameCustody (s.transact (Tx.deleteNode node)).2 ∧
      (s.transact (Tx.deleteNode node)).2.audit = s.audit
  nodeDeletion (d : Setting) (node : Locator) :
    s.SameCustody ((DirectoryOp.deleteNode node).run d s).store ∧
      ((DirectoryOp.deleteNode node).run d s).store.audit = s.audit
  /-- So does withdrawing a role, though the operation is recorded. -/
  roleWithdrawn (id : RoleAssignmentId) :
    s.SameCustody (s.transact (Tx.deleteRoleAssignment id)).2 ∧
      (s.transact (Tx.deleteRoleAssignment id)).2.audit = s.audit
  revocation (d : Setting) (ctx : Context) (assignment : String) :
    s.SameCustody ((RoleOp.revoke assignment).run d s ctx).store
  /-- What would change or remove at least one row of the ledgers or of the audit log is refused by
  the name of the table. -/
  guarded (table : GrowingTable) (what : Alteration) (picks : Int → Bool) :
    (∃ row ∈ table.rows s, picks row = true) →
      s.transact (Tx.alterWhere table what picks) = (.error (.appendOnly table.name), s)

theorem Store.Arises.past_stays {s : Store} (h : s.Arises) : s.KeepsPast where
  operation d op := (op.commits (d := d)).written.past h.sound
  request d r := (Http.handle_commits (d := d) r).written.past h.sound
  batch batch := (s.runBatch_commits batch).written.past h.sound
  transaction tx composed := (s.transact_commits tx).written.past h.sound
  later s' evolves := evolves.written.past h.sound
  nodeDeleted node := by
    unfold transact
    cases ran : Tx.deleteNode node s with
    | ok r =>
      obtain ⟨scope, _, gone⟩ := Tx.deleteNode_ok.1 ran
      rw [show r.2 = s.without scope from gone]
      exact s.without_custody scope
    | error why => exact ⟨s.sameCustody_refl, rfl⟩
  nodeDeletion d node := (DirectoryOp.deleteNode node).custody h.sound
  roleWithdrawn id := ⟨⟨rfl, rfl, rfl, rfl, rfl, rfl⟩, rfl⟩
  revocation d ctx assignment := (RoleOp.revoke assignment).custody h.sound
  guarded table what picks met := Store.transact_refused (Tx.alterWhere_refused met)

/-- A shed from which a spade was lent and came back. -/
def shed : Store :=
  Store.serve {} {}
    [.directory (.bootstrap "root" "Root"),
     .directory (.createDepartment { publicId := some "garden", name := "Garden" }),
     .caller root (.equipment (.register { publicId := some "spade", name := "Spade" })),
     .caller root (.equipment (.assign "spade" "root" none)),
     .caller root (.equipment (.unassign "spade" "root" none))]
where
  root : Context := { actor := ⟨⟨1⟩, "root", "Root"⟩, binding := some .siteAdmin }
  /-- The spade is lent once more. -/
  again : Operation := .caller root (.equipment (.assign "spade" "root" none))

/-- That the spade was lent and came back stays written when it is lent once more and when the garden
is given up, and no statement strikes out the row that tells of it. -/
theorem shed_past_stays :
    shed.equipmentAssignments.entries.map (·.val.isOpen) = [false] ∧
      shed.PastKept (shed.again.run {} shed).store ∧
      (shed.again.run {} shed).store.equipmentAssignments.entries.map (·.val.isOpen) =
        [false, true] ∧
      shed.SameCustody ((DirectoryOp.deleteNode (.department "garden")).run {} shed).store ∧
      shed.transact (Tx.alterWhere .equipmentEvents .delete (· == 2)) =
        (.error (.appendOnly "equipment_events"), shed) := by
  have reachable : Reachable shed := Reachable.serve (.seeded (.empty 0 0 0))
  have kept := reachable.arises.past_stays
  exact ⟨by decide +kernel, kept.operation _ _, by decide +kernel,
    (kept.nodeDeletion _ _).1, kept.guarded _ _ _ ⟨2, by decide +kernel, rfl⟩⟩

end Quartermaster
