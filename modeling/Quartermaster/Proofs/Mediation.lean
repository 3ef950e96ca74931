import Quartermaster.Proofs.Mediation.Consumable
import Quartermaster.Proofs.Mediation.Role
import Quartermaster.Proofs.Reachable

/-!
# Complete mediation

Whatever an operation changes, it was permitted to change by a check of the caller's binding in the
store before it. There is no way around the checks: every file of an asset that differs, every
assignment that differs and every moved pointer to an active assignment has its warrant.

Result: `Operation.complete_mediation`.
-/

namespace Quartermaster

/-- All that `op` changed on the way from `s` to `s'` it had a warrant for. -/
structure Mediated (s : Store) (op : Operation) (s' : Store) : Prop where
  equipment : ∀ id, s'.equipmentFile id ≠ s.equipmentFile id → EquipmentWarrant s s' op id
  accessories : ∀ id, s'.accessoryFile id ≠ s.accessoryFile id → AccessoryWarrant s s' op id
  consumables : ∀ id, s'.consumableFile id ≠ s.consumableFile id → ConsumableWarrant s s' op id
  roles : ∀ id, s'.roleAssignments.get? id ≠ s.roleAssignments.get? id → RoleWarrant s s' op id
  active : ∀ user, s'.activeOf user ≠ s.activeOf user → ActiveWarrant s s' op user
  /-- The tree, and who is in which room, change only by way of the directory. -/
  tree : ∀ ctx act, op = .caller ctx act →
    s'.departments = s.departments ∧ s'.locations = s.locations ∧ s'.rooms = s.rooms ∧
      ∀ user, (s'.users.get? user).map (·.val.room) = (s.users.get? user).map (·.val.room)

variable {d : Setting} {s s' : Store} {done : Committed Answer}

theorem DirectoryStep.mediated {op : DirectoryOp} (step : DirectoryStep s op done s')
    (sound : s.Sound) : Mediated s (.directory op) s' where
  equipment _ := step.equipment_warrant
  accessories _ := step.accessory_warrant
  consumables _ := step.consumable_warrant
  roles _ := step.role_warrant sound
  active _ := step.active_warrant sound
  tree _ _ other := by cases other

/-- A step on equipment leaves all but the files of equipment. -/
theorem EquipmentStep.mediated {ctx : Context} {op : EquipmentOp}
    (step : EquipmentStep ctx s op done s') (sound : s.Sound) :
    Mediated s (.caller ctx (.equipment op)) s' where
  equipment _ := step.warrant sound
  accessories _ changed := absurd (by rw [step.frame]; rfl) changed
  consumables _ changed := absurd (by rw [step.frame]; rfl) changed
  roles _ changed := absurd (by rw [step.frame]) changed
  active _ changed := absurd (by rw [step.frame]; rfl) changed
  tree _ _ _ := by
    rw [step.frame]
    exact ⟨rfl, rfl, rfl, fun _ => rfl⟩

theorem AccessoryStep.mediated {ctx : Context} {op : AccessoryOp}
    (step : AccessoryStep ctx s op done s') (sound : s.Sound) :
    Mediated s (.caller ctx (.accessories op)) s' where
  equipment _ changed := absurd (by rw [step.frame]; rfl) changed
  accessories _ := step.warrant sound
  consumables _ changed := absurd (by rw [step.frame]; rfl) changed
  roles _ changed := absurd (by rw [step.frame]) changed
  active _ changed := absurd (by rw [step.frame]; rfl) changed
  tree _ _ _ := by
    rw [step.frame]
    exact ⟨rfl, rfl, rfl, fun _ => rfl⟩

theorem ConsumableStep.mediated {ctx : Context} {op : ConsumableOp}
    (step : ConsumableStep d ctx s op done s') (sound : s.Sound) :
    Mediated s (.caller ctx (.consumables op)) s' where
  equipment _ changed := absurd (by rw [step.frame]; rfl) changed
  accessories _ changed := absurd (by rw [step.frame]; rfl) changed
  consumables _ := step.warrant sound
  roles _ changed := absurd (by rw [step.frame]) changed
  active _ changed := absurd (by rw [step.frame]; rfl) changed
  tree _ _ _ := by
    rw [step.frame]
    exact ⟨rfl, rfl, rfl, fun _ => rfl⟩

/-- A step on roles moves nobody to another room. -/
theorem RoleStep.placed {ctx : Context} {op : RoleOp} (step : RoleStep ctx s op done s')
    (sound : s.Sound) (user : UserId) :
    (s'.users.get? user).map (·.val.room) = (s.users.get? user).map (·.val.room) := by
  have put {u : Entry .user User} {active : Option RoleAssignmentId}
      (found : s.users.get? u.id = some u) :
      ((s.users.put u.id { u.val with active }).get? user).map (·.val.room) =
        (s.users.get? user).map (·.val.room) := by
    by_cases same : user = u.id
    · subst same
      rw [Table.get?_put_self found, found]
      rfl
    · rw [Table.get?_put_of_ne same]
  cases step with
  | list | grantMore | activateUnknown => rfl
  | grantFirst _ _ user_named => exact put (sound.users.get?_of_find? user_named)
  | activate _ _ found =>
    obtain ⟨_, same⟩ := Table.mem_of_get? found
    rw [← same] at found ⊢
    exact put found
  | revoke =>
    show ((s.users.map _).get? user).map _ = _
    rw [Table.get?_map, Option.map_map]
    rfl

theorem RoleStep.mediated {ctx : Context} {op : RoleOp} (step : RoleStep ctx s op done s')
    (sound : s.Sound) : Mediated s (.caller ctx (.roles op)) s' where
  equipment _ changed := absurd (by rw [step.frame]; rfl) changed
  accessories _ changed := absurd (by rw [step.frame]; rfl) changed
  consumables _ changed := absurd (by rw [step.frame]; rfl) changed
  roles _ := step.warrant sound
  active _ := step.active_warrant sound
  tree _ _ _ := by
    refine ⟨?_, ?_, ?_, step.placed sound⟩ <;> rw [step.frame]

theorem OperationStep.mediated {op : Operation} (step : OperationStep d s op done s')
    (sound : s.Sound) : Mediated s op s' := by
  cases step with
  | directory step => exact step.mediated sound
  | caller step =>
    cases step with
    | holdings =>
      exact ⟨fun _ h => absurd rfl h, fun _ h => absurd rfl h, fun _ h => absurd rfl h,
        fun _ h => absurd rfl h, fun _ h => absurd rfl h, fun _ _ _ => ⟨rfl, rfl, rfl, fun _ => rfl⟩⟩
    | roles step => exact step.mediated sound
    | equipment step => exact step.mediated sound
    | accessories step => exact step.mediated sound
    | consumables step => exact step.mediated sound

/-- Every operation on a reachable store had a warrant for all that it changed. -/
theorem Operation.complete_mediation {op : Operation} {answer : Answer} (reachable : Reachable s)
    (succeeds : (op.run d s).answer = .ok answer) : Mediated s op (op.run d s).store := by
  obtain ⟨done, s', step, _, out⟩ := Operation.run_ok reachable.sound succeeds
  rw [out]
  exact OperationStep.mediated step reachable.sound

/-- A room with its clerk and a guest, and a lamp that the clerk has. -/
def lentLamp : Store :=
  Store.serve {} {}
    [.directory (.createDepartment { publicId := some "physics", name := "Physics" }),
     .directory (.createLocation
       { publicId := some "lab", name := "Lab", parent := some "physics" }),
     .directory (.createRoom { publicId := some "dark", name := "Dark room", parent := some "lab" }),
     .directory (.bootstrap "root" "Root"),
     .directory (.createUser
       { publicId := some "clerk", displayName := "Clerk", room := some "dark" }),
     .directory (.createUser
       { publicId := some "guest", displayName := "Guest", room := some "dark" }),
     .caller root (.roles (.grant
       { user := "clerk", role := .roomClerk, scope := some (.room "dark") })),
     .caller root (.equipment (.register
       { publicId := some "lamp", name := "Lamp", room := some "dark" })),
     .caller clerk (.equipment (.assign "lamp" "clerk" none))]
where
  root : Context := { actor := ⟨⟨1⟩, "root", "Root"⟩, binding := some .siteAdmin }
  clerk : Context :=
    { actor := ⟨⟨2⟩, "clerk", "Clerk"⟩, binding := some ⟨.roomClerk, .room ⟨1⟩, .inl rfl⟩ }

/-- The clerk hands the lamp on. -/
def handOn : Operation :=
  .caller lentLamp.clerk (.equipment (.reassign "lamp" "clerk" "guest" none))

/-- The clerk may hand the lamp on, being clerk of the room of the lamp and of the guest. -/
theorem handOn_mediated :
    (handOn.run {} lentLamp).answer.isOk = true ∧
      EquipmentWarrant lentLamp (handOn.run {} lentLamp).store handOn ⟨1⟩ := by
  have succeeds : (handOn.run {} lentLamp).answer.isOk = true := by decide +kernel
  obtain ⟨answer, answered⟩ := Results.isOk_iff.1 succeeds
  have seeded : Reachable lentLamp := Reachable.serve (.seeded (.empty 0 0 0))
  have mediated := Operation.complete_mediation seeded answered
  exact ⟨succeeds, mediated.equipment ⟨1⟩ (by decide +kernel)⟩

end Quartermaster
