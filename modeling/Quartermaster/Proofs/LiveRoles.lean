import Quartermaster.Proofs.Aging
import Quartermaster.Proofs.OwnRoles

/-!
# Requests act under live roles

A request acts under a role assignment of its own user that is there when the request is made. An
assignment that was revoked governs no request again: its number is not given out a second time, also
not to an assignment with the same public id.

1. `RoleOp.revoke_gone`: what is revoked is out.
2. `Store.Evolves.role_gone`: what is out stays out.
3. `Reachable.acts_live`.
-/

namespace Quartermaster

variable {d : Setting} {s s' : Store} {ctx : Context}

/-- Revoking takes out the assignment that was named. -/
theorem RoleOp.revoke_gone {assignment : String} (sound : s.Sound)
    (done : ((RoleOp.revoke assignment).run d s ctx).answer.isOk = true) :
    ∃ a, s.named? .roleAssignment assignment = some a ∧
      ((RoleOp.revoke assignment).run d s ctx).store.row? a.id = none := by
  obtain ⟨answer, answered⟩ := Results.isOk_iff.1 done
  obtain ⟨_, s', step, _, out⟩ := RoleOp.run_ok sound answered
  rw [out]
  cases step with
  | @revoke _ a _ _ _ _ named => exact ⟨a, named, Table.get?_erase.trans (if_pos rfl)⟩

/-- An assignment that is out stays out, whatever is done. -/
theorem Store.Evolves.role_gone {s₀ : Store} {a : Entry .roleAssignment RoleAssignment}
    (h : s.Evolves s') (first : s₀.Evolves s) (sound : s₀.Sound)
    (was : a ∈ s₀.roleAssignments.entries) (gone : s.row? a.id = none) : s'.row? a.id = none :=
  first.written.ages.role_gone h.written.ages sound (Table.has_iff.2 ⟨a, was, rfl⟩) gone

/-- Nobody acts under what is not, or no longer, an own role. -/
structure Store.ActsLive (s : Store) : Prop where
  /-- Every pointer to an active role is empty or names a role of the user that is there. -/
  pointers : OwnRoles s.users s.roleAssignments
  /-- A request is refused as unauthenticated, or acts as its user, under no role or under one of the
  user's that is there. -/
  resolves (user : String) (chosen : Option String) :
    s.Resolves user chosen (s.context user chosen)
  /-- What is revoked governs no request again, whatever is done later. -/
  revoked (d : Setting) (ctx : Context) (assignment : String) :
    ((RoleOp.revoke assignment).run d s ctx).answer.isOk = true →
    ∃ a, s.named? .roleAssignment assignment = some a ∧
      ∀ s', Store.Evolves ((RoleOp.revoke assignment).run d s ctx).store s' →
        s'.row? a.id = none ∧ ∀ u chosen b, s'.Governs u chosen b → b.id ≠ a.id

theorem Reachable.acts_live (h : Reachable s) : s.ActsLive where
  pointers := h.ownRoles
  resolves := h.resolves
  revoked d ctx assignment done := by
    obtain ⟨a, named, gone⟩ := RoleOp.revoke_gone h.sound done
    refine ⟨a, named, fun s' later => ?_⟩
    have commits : s.Commits _ := (Operation.caller ctx (.roles (.revoke assignment))).commits (d := d)
    have out : s'.row? a.id = none :=
      later.role_gone (.single commits) h.sound (Table.mem_of_find? named).1 gone
    refine ⟨out, fun u chosen b governs same => ?_⟩
    have there := governs.there
    rw [same, out] at there
    cases there

/-- A lodge where ada has a seat. -/
def lodge : Store :=
  Store.serve {} {}
    [.directory (.bootstrap "root" "Root"),
     .directory (.createDepartment { publicId := some "lodge", name := "Lodge" }),
     .directory (.createUser { publicId := some "ada", displayName := "Ada" }),
     .caller root (.roles seat)]
where
  root : Context := { actor := ⟨⟨1⟩, "root", "Root"⟩, binding := some .siteAdmin }
  seat : RoleOp := .grant
    { publicId := some "seat", user := "ada", role := .departmentViewer
      scope := some (.department "lodge") }
  /-- The seat is taken away, and ada is given another one by the same name. -/
  vacated : Store := ((RoleOp.revoke "seat").run {} lodge root).store
  refilled : Store := vacated.serve {} [.caller root (.roles seat)]

/-- When her seat is taken away, ada acts under no role, and then under the other seat: the first one
governs nothing any more. -/
theorem lodge_acts_live :
    ∃ a, lodge.named? .roleAssignment "seat" = some a ∧
      (lodge.vacated.context "ada" none).toOption.map (·.binding) = some none ∧
      ∃ (u : Entry .user User) (b : Entry .roleAssignment RoleAssignment),
        lodge.refilled.context "ada" (some "seat") = .ok (u.acting b) ∧
          b.val.publicId = "seat" ∧ b.id ≠ a.id := by
  have reachable : Reachable lodge := Reachable.serve (.seeded (.empty 0 0 0))
  have vacated : Reachable lodge.vacated :=
    reachable.run {} (.caller lodge.root (.roles (.revoke "seat")))
  have refilled : Reachable lodge.refilled := vacated.serve
  obtain ⟨a, named, later⟩ := reachable.acts_live.revoked {} lodge.root "seat" (by decide +kernel)
  refine ⟨a, named, by decide +kernel, ?_⟩
  have answered : (lodge.refilled.context "ada" (some "seat")).isOk = true := by decide +kernel
  have resolves := refilled.acts_live.resolves "ada" (some "seat")
  generalize lodge.refilled.context "ada" (some "seat") = answer at answered resolves
  cases resolves with
  | refused => cases answered
  | idle _ unchosen => cases unchosen
  | @acting u b _ governs =>
    have after : Store.Evolves lodge.vacated lodge.refilled := Leads.refl.serve.evolves
    exact ⟨u, b, rfl, governs.asked _ rfl, (later _ after).2 u _ b governs⟩

end Quartermaster
