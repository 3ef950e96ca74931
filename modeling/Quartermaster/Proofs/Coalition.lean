import Quartermaster.Proofs.Containment
import Quartermaster.Proofs.OwnRoles

/-!
# No escalation by a coalition

Whatever a set of people do together with their own roles, and with those they hand each other on
the way, they make and withdraw only what one of them could have made or withdrawn in the beginning.

The invariant of a run (`Coalition.Sanctioned`) speaks of the assignments of the first store only:
each assignment that is new since then lies strictly under one that a member held there. What a
member is handed on the way is strictly under a first assignment too, and domination is transitive,
so the members gain nothing by handing roles on.

Result: `Coalition.no_escalation`.
-/

namespace Quartermaster

/-- The binding outranks the other strictly, and covers its node. -/
structure Store.Dominates (s : Store) (above below : Binding) : Prop where
  rank : below.role.rank < above.role.rank
  node : s.Below below.scope above.scope

theorem Store.Dominates.trans {s : Store} {a b c : Binding} (h : s.Dominates a b)
    (h' : s.Dominates b c) : s.Dominates a c :=
  ⟨Nat.lt_trans h'.rank h.rank, h'.node.trans h.node⟩

/-- Nodes lie where they lay while the parent links stay. -/
theorem Store.Below.congr {s s' : Store} {n m : Scope} (h : s.Below n m)
    (locations : s'.locations = s.locations) (rooms : s'.rooms = s.rooms) : s'.Below n m := by
  induction h with
  | department id => exact .department id
  | location id => exact .location id
  | room id => exact .room id
  | inDepartment parent _ ih =>
    refine .inDepartment ?_ ih
    rw [departmentOf, locations]
    exact parent
  | inLocation parent _ ih =>
    refine .inLocation ?_ ih
    rw [locationOf, rooms]
    exact parent

/-- Only the highest role is bound to the whole site. -/
theorem Binding.scope_ne_site {b : Binding} (h : b.role ≠ .siteAdmin) : b.scope ≠ .site := by
  intro at_site
  have fits := b.fits
  rw [at_site] at fits
  rcases fits with tier | gone
  · cases role : b.role <;> simp_all [Scope.tier, Role.tier]
  · cases gone

/-- Whoever has the rank above a role, and not the highest, outranks the role strictly. -/
theorem Role.rank_lt_of_successor {r held : Role} (h : r.successor.rank ≤ held.rank)
    (lower : held ≠ .siteAdmin) : r.rank < held.rank := by
  by_cases highest : r = .siteAdmin
  · subst highest
    cases held with
    | siteAdmin => exact absurd rfl lower
    | _ => exact absurd h (by decide)
  · rw [rank_successor highest] at h
    omega

namespace Coalition

/-- Calls that members of `S` make, each with the context that the store gives them at that moment.
Refused calls are among them. -/
inductive Run (S : UserId → Prop) (s₀ : Store) : Store → Prop
  | start : Run S s₀ s₀
  | call {s : Store} {user : String} {assignment : Option String} {ctx : Context} (d : Setting)
      (op : RoleOp) :
      Run S s₀ s → s.context user assignment = .ok ctx → S ctx.actor.id →
      Run S s₀ (op.run d s ctx).store

/-- A member holds an assignment in `s` that dominates the binding. -/
def Sanctions (S : UserId → Prop) (s : Store) (b : Binding) : Prop :=
  ∃ a ∈ s.roleAssignments.entries, S a.val.user ∧ s.Dominates a.val.binding b

/-- No member holds the highest role. -/
def Unprivileged (S : UserId → Prop) (s : Store) : Prop :=
  ∀ a ∈ s.roleAssignments.entries, S a.val.user → a.val.binding.role ≠ .siteAdmin

/-- What came and what went since `s₀`. -/
structure Sanctioned (S : UserId → Prop) (s₀ s : Store) : Prop where
  links : s.departments = s₀.departments ∧ s.locations = s₀.locations ∧ s.rooms = s₀.rooms
  came : ∀ a ∈ s.roleAssignments.entries,
    a ∈ s₀.roleAssignments.entries ∨ Sanctions S s₀ a.val.binding
  went : ∀ a ∈ s₀.roleAssignments.entries,
    a ∈ s.roleAssignments.entries ∨ Sanctions S s₀ a.val.binding

variable {S : UserId → Prop} {s₀ s s' : Store} {ctx : Context}

theorem Run.reachable (run : Run S s₀ s) (h : Reachable s₀) : Reachable s := by
  induction run with
  | start => exact h
  | @call s _ _ ctx d op _ _ _ ih => exact ih.run d (.caller ctx (.roles op))

/-- The binding of a context that the store gives is one of an assignment of the caller. -/
theorem binding_held {user : String} {assignment : Option String} {b : Binding}
    (reachable : Reachable s) (resolved : s.context user assignment = .ok ctx)
    (bound : ctx.binding = some b) :
    ∃ a ∈ s.roleAssignments.entries, a.val.user = ctx.actor.id ∧ a.val.binding = b := by
  have resolves := reachable.resolves user assignment
  rw [resolved] at resolves
  cases resolves with
  | idle => cases bound
  | @acting u a _ governs =>
    exact ⟨a, (Table.mem_of_get? governs.there).1, governs.own, Option.some.inj bound⟩

/-- Who outranks a binding without the highest role dominates it. -/
theorem dominates_of_outranks {b held : Binding} (outranks : s.Outranks ctx b)
    (bound : ctx.binding = some held) (unprivileged : held.role ≠ .siteAdmin) :
    s.Dominates held b := by
  unfold Store.Outranks Ancestry.permits at outranks
  rw [bound] at outranks
  simp only at outranks
  split at outranks
  · next rank =>
    rw [Role.hasRank_iff] at rank
    have at_node := Binding.scope_ne_site unprivileged
    exact ⟨Role.rank_lt_of_successor rank unprivileged, (Store.covers_iff at_node).1 outranks⟩
  · cases outranks

/-- What a member may make or withdraw now, some member could have in the beginning. -/
theorem Sanctioned.of_outranks {user : String} {assignment : Option String} {b : Binding}
    (h : Sanctioned S s₀ s) (reachable : Reachable s) (unprivileged : Unprivileged S s₀)
    (resolved : s.context user assignment = .ok ctx) (member : S ctx.actor.id)
    (outranks : s.Outranks ctx b) : Sanctions S s₀ b := by
  obtain ⟨_, locations, rooms⟩ := h.links
  have dominates {held : Binding} (bound : ctx.binding = some held)
      (lower : held.role ≠ .siteAdmin) : s₀.Dominates held b := by
    obtain ⟨rank, node⟩ := dominates_of_outranks outranks bound lower
    exact ⟨rank, node.congr locations.symm rooms.symm⟩
  cases bound : ctx.binding with
  | none =>
    -- nobody outranks anything without a binding
    unfold Store.Outranks Ancestry.permits at outranks
    rw [bound] at outranks
    cases outranks
  | some held =>
    obtain ⟨a, here, mine, rfl⟩ := binding_held reachable resolved bound
    have in_coalition : S a.val.user := mine ▸ member
    rcases h.came a here with first | ⟨c, first, c_member, above⟩
    · exact ⟨a, first, in_coalition, dominates bound (unprivileged a first in_coalition)⟩
    · -- a role that was handed over on the way is under one of the first, and so below the highest
      have lower : a.val.binding.role ≠ .siteAdmin := by
        intro highest
        have rank := above.rank
        rw [highest] at rank
        cases role : c.val.binding.role <;> rw [role] at rank <;> exact absurd rank (by decide)
      exact ⟨c, first, c_member, above.trans (dominates bound lower)⟩

/-- One call of a member keeps the invariant. -/
theorem Sanctioned.step {user : String} {assignment : Option String} {op : RoleOp}
    {done : Committed Answer} (h : Sanctioned S s₀ s) (reachable : Reachable s)
    (unprivileged : Unprivileged S s₀) (resolved : s.context user assignment = .ok ctx)
    (member : S ctx.actor.id) (step : RoleStep ctx s op done s') : Sanctioned S s₀ s' := by
  have sanctioned {b : Binding} (outranks : s.Outranks ctx b) : Sanctions S s₀ b :=
    h.of_outranks reachable unprivileged resolved member outranks
  have made {a : RoleAssignment} (outranks : s.Outranks ctx a.binding) :
      ∀ x ∈ (s.roleAssignments.insert a).entries,
        x ∈ s₀.roleAssignments.entries ∨ Sanctions S s₀ x.val.binding := by
    intro x here
    rcases Table.mem_insert.1 here with old | rfl
    · exact h.came x old
    · exact .inr (sanctioned outranks)
  have stays {a : RoleAssignment} : ∀ x ∈ s₀.roleAssignments.entries,
      x ∈ (s.roleAssignments.insert a).entries ∨ Sanctions S s₀ x.val.binding :=
    fun x first => (h.went x first).imp_left fun here => Table.mem_insert.2 (.inl here)
  cases step with
  | list | activateUnknown => exact h
  | activate => exact ⟨h.links, h.came, h.went⟩
  | @grantFirst _ b _ a _ _ _ _ _ _ outranks _ attached granted
  | @grantMore _ b _ a _ _ _ _ _ _ outranks _ attached granted =>
    have bound : a.val.binding = b :=
      RoleAssignment.binding_of attached (by rw [granted]) (by rw [granted])
    exact ⟨h.links, made (bound ▸ outranks), stays⟩
  | @revoke _ a _ _ _ _ named outranks =>
    -- nothing came, and only the assignment went that the caller outranked
    refine ⟨h.links, fun x here => h.came x (Table.mem_erase.1 here).1, fun x first => ?_⟩
    rcases h.went x first with here | above
    · by_cases same : x.id = a.id
      · have numbered := reachable.sound.roleAssignments.numbered
        obtain rfl := numbered.eq_of_id here (Table.mem_of_find? named).1 same
        exact .inr (sanctioned outranks)
      · exact .inl (Table.mem_erase.2 ⟨here, same⟩)
    · exact .inr above

theorem Run.sanctioned (run : Run S s₀ s) (reachable : Reachable s₀)
    (unprivileged : Unprivileged S s₀) : Sanctioned S s₀ s := by
  induction run with
  | start => exact ⟨⟨rfl, rfl, rfl⟩, fun _ => .inl, fun _ => .inl⟩
  | @call s _ _ ctx d op before resolved member ih =>
    have here := before.reachable reachable
    cases answered : (op.run d s ctx).answer with
    | ok answer =>
      obtain ⟨done, s', step, _, out⟩ := RoleOp.run_ok here.sound answered
      rw [out]
      exact ih.step here unprivileged resolved member step
    | error why =>
      have refused : (Operation.run d s (.caller ctx (.roles op))).answer = .error why := answered
      rw [show (op.run d s ctx).store = s from (Operation.run_error refused).store]
      exact ih

/-- A coalition without the highest role makes and withdraws only what strictly under one of its
members' first roles lies. -/
theorem no_escalation (reachable : Reachable s₀) (unprivileged : Unprivileged S s₀)
    (run : Run S s₀ s) :
    (∀ a ∈ s.roleAssignments.entries, a ∉ s₀.roleAssignments.entries →
      Sanctions S s₀ a.val.binding) ∧
    ∀ a ∈ s₀.roleAssignments.entries, a ∉ s.roleAssignments.entries →
      Sanctions S s₀ a.val.binding := by
  have sanctioned := run.sanctioned reachable unprivileged
  refine ⟨fun a here new => ?_, fun a first gone => ?_⟩
  · exact (sanctioned.came a here).resolve_left new
  · exact (sanctioned.went a first).resolve_left gone

/-- Ada administers the lab, and of its dark room nobody else has a role. -/
def lab : Store :=
  Store.serve {} {}
    [.directory (.createDepartment { publicId := some "physics", name := "Physics" }),
     .directory (.createLocation
       { publicId := some "lab", name := "Lab", parent := some "physics" }),
     .directory (.createRoom { publicId := some "dark", name := "Dark room", parent := some "lab" }),
     .directory (.bootstrap "root" "Root"),
     .directory (.createUser { publicId := some "ada", displayName := "Ada" }),
     .directory (.createUser { publicId := some "bob", displayName := "Bob" }),
     .directory (.createUser { publicId := some "cyd", displayName := "Cyd" }),
     .caller { actor := ⟨⟨1⟩, "root", "Root"⟩, binding := some .siteAdmin } (.roles (.grant
       { user := "ada", role := .locationAdmin, scope := some (.location "lab") }))]

/-- Ada and Bob. -/
def pair (user : UserId) : Prop := user = ⟨2⟩ ∨ user = ⟨3⟩

instance : DecidablePred pair := fun user => inferInstanceAs (Decidable (user = ⟨2⟩ ∨ user = ⟨3⟩))

/-- Ada as the store knows her, with what she has in the beginning. -/
def ada : Context :=
  { actor := ⟨⟨2⟩, "ada", "Ada"⟩, binding := some ⟨.locationAdmin, .location ⟨1⟩, .inl rfl⟩ }

/-- Bob, with what Ada handed him. -/
def bob : Context :=
  { actor := ⟨⟨3⟩, "bob", "Bob"⟩, binding := some ⟨.roomAdmin, .room ⟨1⟩, .inl rfl⟩ }

/-- Makes somebody administrator, or clerk, of the dark room. -/
def handOut (user : String) (role : Role) : RoleOp :=
  .grant { user, role, scope := some (.room "dark") }

def afterAda : Store := ((handOut "bob" .roomAdmin).run {} lab ada).store

def afterBob : Store := ((handOut "cyd" .roomClerk).run {} afterAda bob).store

/-- Two roles came, one handed on by the other's holder, and Ada's first role is above both. -/
theorem lab_no_escalation :
    (lab.roleAssignments.entries.length, afterBob.roleAssignments.entries.length) = (2, 4) ∧
      ∀ a ∈ afterBob.roleAssignments.entries, a ∉ lab.roleAssignments.entries →
        Sanctions pair lab a.val.binding := by
  have reachable : Reachable lab := Reachable.serve (.seeded (.empty 0 0 0))
  have unprivileged : Unprivileged pair lab := by
    unfold Unprivileged
    decide +kernel
  have ada_resolved : lab.context "ada" none = .ok ada := Results.toOption_iff.1 (by decide +kernel)
  have bob_resolved : afterAda.context "bob" none = .ok bob :=
    Results.toOption_iff.1 (by decide +kernel)
  have first : Run pair lab afterAda := .call {} _ .start ada_resolved (by decide)
  have second : Run pair lab afterBob := .call {} _ first bob_resolved (by decide)
  exact ⟨by decide +kernel, (no_escalation reachable unprivileged second).1⟩

end Coalition

end Quartermaster
