import Quartermaster.Proofs.Custody.Backed
import Quartermaster.Proofs.Refusals.Writes

/-!
# Operations on equipment are refused ordinarily

`s.Ready ctx`: what an operation for the caller `ctx` may rely on. Custody rows refer to rows that are
there, so what is written about an item that was found, its holder and the caller meets every rule of
the storage.
-/

namespace Quartermaster

/-- The store is sound, its references are good, no accessory has more units in custody than in all,
and the caller is one of its users. -/
structure Store.Ready (s : Store) (ctx : Context) : Prop where
  sound : s.Sound
  linked : s.Linked
  backed : Backed s.accessories s.accessoryAssignments
  caller : s.users.has ctx.actor.id = true

open Results (Ordinary ordinary_ok ordinary_error)
open Tx (ordinary_pure ordinary_bind ordinary_look)
open Custody (lock_ok reload_ok)

variable {d : Setting} {ctx : Context} {s : Store}

namespace Custody

theorem findItem_ordinary {required : Role} {item : String} :
    Ordinary (findItem ctx required item s) :=
  s.named_ordinary.bind fun _ _ => s.demand_ordinary.bind fun _ _ => ordinary_ok

theorem registerEquipment_ordinary {input : EquipmentInput} (logged : d.audit = .log) :
    Ordinary (registerEquipment d ctx input s) := by
  unfold registerEquipment
  exact ordinary_look fun _ _ => ordinary_look fun _ _ =>
    ordinary_bind Tx.createEquipment_ordinary fun _ _ _ =>
      ordinary_bind (Tx.record_ordinary logged) fun _ _ _ => ordinary_pure

theorem assignEquipment_ordinary {item user : String} {notes : Option String}
    {found : Entry .equipment Equipment × Entry .user User} (ready : s.Ready ctx)
    (logged : d.audit = .log) :
    Ordinary ((assignEquipment d ctx item user notes).commit found s) := by
  unfold assignEquipment
  refine ordinary_look fun e locked => ordinary_look fun holder reloaded =>
    ordinary_look fun _ _ => ordinary_look fun _ _ => ordinary_look fun _ _ =>
    ordinary_look fun _ _ => ordinary_bind Tx.openEquipmentAssignment_ordinary fun a s₁ opened => ?_
  obtain ⟨_, _, _, rfl, _, rfl⟩ := Tx.openEquipmentAssignment_ok opened
  have item_there := Store.has_of_row (lock_ok.1 locked).1
  have holder_there := Store.has_of_row (reload_ok.1 reloaded).1
  exact ordinary_bind
    (Tx.appendEquipmentEvent_ordinary (by decide) item_there Table.has_insert holder_there
      ready.caller) fun _ _ _ =>
    ordinary_bind (Tx.record_ordinary logged) fun _ _ _ => ordinary_pure

theorem unassignEquipment_ordinary {item user : String} {notes : Option String}
    {found : Entry .equipment Equipment × Entry .user User} (ready : s.Ready ctx)
    (logged : d.audit = .log)
    (reads : (unassignEquipment d ctx item user notes).read s = .ok found) :
    Ordinary ((unassignEquipment d ctx item user notes).commit found s) := by
  simp only [unassignEquipment, Results.bind_ok, Store.named_ok, Results.pure_ok] at reads
  obtain ⟨_, _, u, user_named, rfl⟩ := reads
  unfold unassignEquipment
  refine ordinary_look fun e locked => ordinary_look fun _ _ => ordinary_look fun _ _ =>
    ordinary_look fun held _ => ordinary_look fun _ _ =>
    ordinary_bind (Tx.closeEquipmentAssignment_ordinary ready.linked) fun closed s₁ returned => ?_
  obtain ⟨a, row, _, rfl, _, rfl⟩ := Tx.closeEquipmentAssignment_ok returned
  have item_there := Store.has_of_row (lock_ok.1 locked).1
  have row_there : s.equipmentAssignments.has a.id = true := Store.has_of_row row
  exact ordinary_bind
    (Tx.appendEquipmentEvent_ordinary (by decide) item_there (Table.within_put _ row_there)
      (Store.has_of_named user_named) ready.caller) fun _ _ _ =>
    ordinary_bind (Tx.record_ordinary logged) fun _ _ _ => ordinary_pure

theorem reassignEquipment_ordinary {item giver receiver : String} {notes : Option String}
    {found : Entry .equipment Equipment × Entry .user User × Entry .user User}
    (ready : s.Ready ctx) (logged : d.audit = .log) :
    Ordinary ((reassignEquipment d ctx item giver receiver notes).commit found s) := by
  unfold reassignEquipment
  refine ordinary_look fun e locked => ordinary_look fun u reloaded => ordinary_look fun _ _ =>
    ordinary_look fun _ _ => ordinary_look fun t here => ordinary_look fun held is_held =>
    ordinary_look fun _ by_giver => ?_
  obtain rfl := (Tx.get_ok.1 here).1
  have is_held := (Tx.present_ok.1 is_held).1
  have by_giver := (Tx.require_ok.1 by_giver).1
  have item_there := Store.has_of_row (lock_ok.1 locked).1
  have receiver_there := Store.has_of_row (reload_ok.1 reloaded).1
  have member := (Table.mem_of_find? is_held).1
  have row_there : t.equipmentAssignments.has held.id = true := Table.has_iff.2 ⟨held, member, rfl⟩
  -- the giver is there because it is the holder
  have giver_there := (ready.linked.ends_of_equipment member).2
  rw [beq_iff_eq.1 by_giver] at giver_there
  refine ordinary_bind
    (Tx.appendEquipmentEvent_ordinary (by decide) item_there row_there giver_there ready.caller)
    fun _ s₁ first => ?_
  have linked : s₁.Linked := Tx.Composed.linked ready.linked first
  have sound := ready.sound.after first
  obtain ⟨_, _, rfl⟩ := Tx.appendEquipmentEvent_ok first
  refine ordinary_bind
    (Tx.transferEquipmentAssignment_ordinary sound linked receiver_there ready.caller)
    fun moved s₂ handed => ?_
  obtain ⟨a, row, _, rfl, _, rfl⟩ := Tx.transferEquipmentAssignment_ok handed
  have moved_there : t.equipmentAssignments.has a.id = true := Store.has_of_row row
  exact ordinary_bind
    (Tx.appendEquipmentEvent_ordinary (by decide) item_there (Table.within_put _ moved_there)
      receiver_there ready.caller) fun _ _ _ =>
    ordinary_bind (Tx.record_ordinary logged) fun _ _ _ => ordinary_pure

theorem changeEquipmentStatus_ordinary {item : String} {status : EquipmentStatus}
    {notes : Option String} {found : Entry .equipment Equipment} (ready : s.Ready ctx)
    (logged : d.audit = .log) :
    Ordinary ((changeEquipmentStatus d ctx item status notes).commit found s) := by
  unfold changeEquipmentStatus
  refine ordinary_look fun e locked => ordinary_look fun _ _ => ordinary_look fun _ _ =>
    ordinary_look fun _ _ => ordinary_look fun t here => ordinary_look fun _ _ =>
    ordinary_bind (Tx.setEquipmentStatus_ordinary ready.linked) fun _ s₁ changed => ?_
  obtain rfl := (Tx.get_ok.1 here).1
  have row : t.row? e.id = some e := Store.row_self (lock_ok.1 locked).1
  obtain ⟨_, rfl⟩ := Tx.setEquipmentStatus_ok row changed
  -- the item may have a holder meanwhile, and then both the row and the holder are there
  have custody : t.equipmentAssignments.resolves ((t.openEquipmentAssignment e.id).map (·.id)) = true
      ∧ t.users.resolves ((t.openEquipmentAssignment e.id).map (·.val.holder)) = true := by
    cases is_held : t.openEquipmentAssignment e.id with
    | none => exact ⟨rfl, rfl⟩
    | some held =>
      have member := (Table.mem_of_find? is_held).1
      exact ⟨Table.has_iff.2 ⟨held, member, rfl⟩, (ready.linked.ends_of_equipment member).2⟩
  exact ordinary_bind
    (Tx.appendEquipmentEvent_ordinary (by decide) (Table.within_put _ (Store.has_of_row row)) custody.1
      custody.2 ready.caller)
    fun _ _ _ => ordinary_look fun _ _ =>
    ordinary_bind (Tx.record_ordinary logged) fun _ _ _ => ordinary_look fun _ _ => ordinary_pure

end Custody

/-- An operation on equipment is refused ordinarily if at all. -/
theorem EquipmentOp.ordinary (op : EquipmentOp) (ready : s.Ready ctx) (logged : d.audit = .log) :
    Ordinary (op.run d s ctx).answer := by
  cases op with
  | get item => exact (Custody.findItem_ordinary.bind fun _ _ => ordinary_ok).map
  | list => exact ordinary_ok
  | history item => exact (Custody.findItem_ordinary.bind fun _ _ => ordinary_ok).map
  | register input => exact Setting.commit_ordinary (Custody.registerEquipment_ordinary logged)
  | assign item user notes =>
    refine Setting.run_ordinary ?_ fun _ _ => Custody.assignEquipment_ordinary ready logged
    exact Custody.findItem_ordinary.bind fun _ _ => s.named_ordinary.bind fun _ _ =>
      s.demand_ordinary.bind fun _ _ => ordinary_ok
  | unassign item user notes =>
    refine Setting.run_ordinary ?_ fun _ reads =>
      Custody.unassignEquipment_ordinary ready logged reads
    exact Custody.findItem_ordinary.bind fun _ _ => s.named_ordinary.bind fun _ _ => ordinary_ok
  | reassign item giver receiver notes =>
    refine Setting.run_ordinary ?_ fun _ _ => Custody.reassignEquipment_ordinary ready logged
    dsimp only [Custody.reassignEquipment]
    split
    · exact ordinary_error rfl
    · exact Custody.findItem_ordinary.bind fun _ _ => s.named_ordinary.bind fun _ _ =>
        s.named_ordinary.bind fun _ _ => s.demand_ordinary.bind fun _ _ => ordinary_ok
  | changeStatus item status notes =>
    exact Setting.run_ordinary Custody.findItem_ordinary fun _ _ =>
      Custody.changeEquipmentStatus_ordinary ready logged

end Quartermaster
