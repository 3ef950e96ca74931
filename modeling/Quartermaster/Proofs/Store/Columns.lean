import Quartermaster.Store.Tree

/-!
# The columns of roles

An assignment keeps its node in one of three columns, and a column is cleared when its node is
deleted. What is written is written from a binding, so that it is read back as it was
(`RoleAssignment.Readable`), and stays so whatever is deleted.

1. `ScopeColumns.without_self`, `ScopeColumns.without_of_ne`: what is cleared.
2. `Store.detached_readable`: clearing a column leaves the rest readable.
3. `Store.detached_holds`, `Store.detached_clashes`: it breaks no rule of the storage.
-/

namespace Quartermaster

namespace ScopeColumns

variable {c : ScopeColumns} {scope gone : Scope}

theorem count_ofScope : (ofScope scope).count ≤ 1 := by
  cases scope <;> simp [ofScope, count]

theorem count_eq_zero : c.count = 0 ↔ c = {} := by
  obtain ⟨department, location, room⟩ := c
  cases department <;> cases location <;> cases room <;> simp [count]

/-- No column is set by clearing one. -/
theorem count_without_le : (c.without gone).count ≤ c.count := by
  have fewer {k : Kind} (id : Id k) (reference : Option (Id k)) :
      (Store.cleared id reference).toList.length ≤ reference.toList.length := by
    unfold Store.cleared
    split <;> simp
  cases gone with
  | site | detached => exact Nat.le_refl _
  | department id =>
    have := fewer id c.department
    simp only [count, without]
    omega
  | location id =>
    have := fewer id c.location
    simp only [count, without]
    omega
  | room id =>
    have := fewer id c.room
    simp only [count, without]
    omega

/-- Where a column is left of one, nothing was cleared. -/
theorem without_of_left (one : c.count ≤ 1) (left : (c.without gone).count ≠ 0) :
    c.without gone = c := by
  obtain ⟨department, location, room⟩ := c
  cases gone <;> cases department <;> cases location <;> cases room <;>
    simp_all [count, without, Store.cleared]

theorem without_self (gone : Scope) : (ofScope gone).without gone = {} := by
  cases gone <;> simp [ofScope, without, Store.cleared]

theorem without_of_ne (other : scope ≠ gone) : (ofScope scope).without gone = ofScope scope := by
  cases gone <;> cases scope <;> simp_all [ofScope, without, Store.cleared]

end ScopeColumns

/-! ## Reading the columns -/

/-- A role that is not the highest is read as detached where all columns are empty. -/
theorem Binding.ofColumns_empty {role : Role} (lower : role ≠ .siteAdmin) :
    (ofColumns role {}).scope = .detached := by
  cases role <;> first | rfl | exact absurd rfl lower

namespace RoleAssignment

variable {a : RoleAssignment} {gone : Scope}

/-- The columns are those of the binding that is read from them. -/
def Readable (a : RoleAssignment) : Prop := a.columns = .ofScope a.binding.scope

/-- What was made of a binding is readable. -/
theorem Readable.of {b : Binding} (attached : b.scope ≠ .detached) (role : a.role = b.role)
    (columns : a.columns = .ofScope b.scope) : a.Readable := by
  rw [Readable, binding_of attached role columns, columns]

/-- The highest role is over the whole tree. -/
theorem binding_of_highest (highest : a.role = .siteAdmin) : a.binding = .siteAdmin := by
  rw [binding, highest, Binding.ofColumns_siteAdmin]

theorem Readable.empty_of_highest (h : a.Readable) (highest : a.role = .siteAdmin) :
    a.columns = {} := by
  rw [show a.columns = _ from h, binding_of_highest highest]
  rfl

/-- The assignment without a node. -/
def detach (a : RoleAssignment) : RoleAssignment := { a with columns := {} }

/-- A role that is not the highest covers nothing when its node is gone. -/
theorem detach_binding (lower : a.role ≠ .siteAdmin) : a.detach.binding = a.binding.detach := by
  have role : a.detach.binding.role = a.binding.role := by
    rw [binding_role, binding_role]
    rfl
  exact Binding.ext role (Binding.ofColumns_empty lower)

theorem detach_readable (a : RoleAssignment) : a.detach.Readable := by
  by_cases highest : a.role = .siteAdmin
  · rw [Readable, binding_of_highest (by exact highest)]
    rfl
  · rw [Readable, detach_binding highest]
    rfl

end RoleAssignment

/-! ## Clearing the column of a node -/

namespace Store

/-- Whether the node of a scope is in the store. -/
def hasNode (s : Store) : Scope → Bool
  | .site | .detached => true
  | .department id => s.departments.has id
  | .location id => s.locations.has id
  | .room id => s.rooms.has id

variable {a b : RoleAssignment} {gone : Scope}

/-- Without a column, no node is missing. -/
theorem hasNode_of_empty {s : Store} (empty : a.columns = {}) : s.hasNode a.binding.scope = true := by
  rw [RoleAssignment.binding, empty]
  cases a.role <;> rfl

/-- What is at the node that goes away is left without a node. -/
theorem detached_self (h : a.Readable) (here : a.binding.scope = gone) :
    detached gone a = a.detach := by
  rw [detached, show a.columns = _ from h, here, ScopeColumns.without_self]
  rfl

/-- What is elsewhere stays as it is. -/
theorem detached_of_ne (h : a.Readable) (elsewhere : a.binding.scope ≠ gone) :
    detached gone a = a := by
  rw [detached, show a.columns = _ from h, ScopeColumns.without_of_ne elsewhere,
    ← show a.columns = _ from h]

theorem detached_readable (h : a.Readable) : (detached gone a).Readable := by
  by_cases here : a.binding.scope = gone
  · rw [detached_self h here]
    exact a.detach_readable
  · rw [detached_of_ne h here]
    exact h

theorem detached_holds (good : Record.holds .roleAssignment a = true) :
    Record.holds .roleAssignment (detached gone a) = true := by
  have fewer : (detached gone a).columns.count ≤ a.columns.count := ScopeColumns.count_without_le
  simp only [Record.holds, Bool.and_eq_true, decide_eq_true_eq, Bool.or_eq_true, beq_iff_eq]
    at good ⊢
  exact ⟨Nat.le_trans fewer good.1, good.2.imp_right fun empty : a.columns.count = 0 => by omega⟩

/-- Every unique key stays as it was, or one is taken away. -/
theorem detached_clashes (one : Record.holds .roleAssignment a = true)
    (other : Record.holds .roleAssignment b = true)
    (clash : Record.clashes .roleAssignment (detached gone b) (detached gone a) = true) :
    Record.clashes .roleAssignment b a = true := by
  simp only [Record.holds, Record.clashes, detached, Bool.and_eq_true, Bool.or_eq_true,
    decide_eq_true_eq, beq_iff_eq, bne_iff_ne] at one other clash ⊢
  refine clash.imp_right fun ⟨same, key⟩ => ⟨same, key.imp_right fun ⟨columns, left⟩ => ?_⟩
  -- a column is left, so that none was cleared in either row
  have kept_b := ScopeColumns.without_of_left other.1 left
  have kept_a := ScopeColumns.without_of_left one.1 (columns ▸ left)
  rw [kept_a, kept_b] at columns
  rw [kept_b] at left
  exact ⟨columns, left⟩

end Store

end Quartermaster
