import Quartermaster.Proofs.Linked

/-!
# Ids do not come back

Rows of nodes and of roles go out, and their ids go with them: what is given out later is always a
higher number. So an id that named a row once, and names none now, never names one again.

1. `Table.Ages`: how a table stands to itself at a later time; `Table.Ages.gone`.
2. `Store.Write.ages`, `Store.Written.ages`: every write ages the tables of nodes and of roles.
3. `Store.Ages.hasNode_gone`: a node that is gone stays gone.
-/

namespace Quartermaster

/-! ## Tables -/

namespace Table

variable {k : Kind} {α : Type} {t t' t'' t₀ : Table k α} {row : α} {id : Id k}

/-- Ids are given out in ascending order, and of those that were given out none comes back. -/
structure Ages (t t' : Table k α) : Prop where
  last : t.last ≤ t'.last
  back : ∀ id, id.row ≤ t.last → t'.has id = true → t.has id = true

theorem ages_refl : t.Ages t := ⟨Int.le_refl _, fun _ _ here => here⟩

theorem Ages.trans (h : t.Ages t') (h' : t'.Ages t'') : t.Ages t'' where
  last := Int.le_trans h.last h'.last
  back id given here := h.back id given (h'.back id (Int.le_trans given h.last) here)

theorem ages_insert : t.Ages (t.insert row) where
  last := by rw [last_insert]; omega
  back id given here := by
    obtain ⟨e, member, rfl⟩ := has_iff.1 here
    rcases mem_insert.1 member with old | rfl
    · exact has_iff.2 ⟨e, old, rfl⟩
    · -- the id of the new row was not given out before
      simp only [next] at given
      omega

theorem ages_put : t.Ages (t.put id row) where
  last := Int.le_refl _
  back other _ here := by
    obtain ⟨e, member, rfl⟩ := has_iff.1 here
    rcases mem_put.1 member with ⟨old, _⟩ | ⟨_, same, x, old, rfl⟩
    · exact has_iff.2 ⟨e, old, rfl⟩
    · exact has_iff.2 ⟨x, old, same.symm⟩

theorem ages_map (f : α → α) : t.Ages (t.map f) where
  last := Int.le_refl _
  back other _ here := by
    obtain ⟨e, member, rfl⟩ := has_iff.1 here
    obtain ⟨old, was, rfl⟩ := mem_map.1 member
    exact has_iff.2 ⟨old, was, rfl⟩

theorem ages_erase : t.Ages (t.erase id) where
  last := Int.le_refl _
  back other _ here := by
    obtain ⟨e, member, rfl⟩ := has_iff.1 here
    exact has_iff.2 ⟨e, (mem_erase.1 member).1, rfl⟩

theorem has_erase_self : (t.erase id).has id = false := by
  rw [has, get?_erase, if_pos rfl]
  rfl

/-- An id that named a row, and then none, names none later on. -/
theorem Ages.gone (first : t₀.Ages t) (next : t.Ages t') (numbered : t₀.Numbered)
    (was : t₀.has id = true) (gone : t.has id = false) : t'.has id = false := by
  obtain ⟨e, member, rfl⟩ := has_iff.1 was
  have given := Int.le_trans (numbered.bounded e member).2 first.last
  refine Bool.eq_false_iff.2 fun here => ?_
  rw [next.back e.id given here] at gone
  cases gone

end Table

/-! ## Stores -/

/-- The tables from which rows go out have aged. -/
structure Store.Ages (s s' : Store) : Prop where
  departments : s.departments.Ages s'.departments
  locations : s.locations.Ages s'.locations
  rooms : s.rooms.Ages s'.rooms
  roleAssignments : s.roleAssignments.Ages s'.roleAssignments

namespace Store

variable {s s' s'' s₀ : Store} {scope : Scope}

theorem ages_refl (s : Store) : s.Ages s := by
  constructor <;> exact Table.ages_refl

theorem Ages.trans (h : s.Ages s') (h' : s'.Ages s'') : s.Ages s'' where
  departments := h.departments.trans h'.departments
  locations := h.locations.trans h'.locations
  rooms := h.rooms.trans h'.rooms
  roleAssignments := h.roleAssignments.trans h'.roleAssignments

theorem ages_without (s : Store) (gone : Scope) : s.Ages (s.without gone) := by
  have same := s.ages_refl
  cases gone with
  | site | detached => exact same
  | department id =>
    exact { same with
      departments := Table.ages_erase
      locations := Table.ages_map fun l : Location =>
        { l with department := cleared id l.department }
      roleAssignments := Table.ages_map (detached (.department id)) }
  | location id =>
    exact { same with
      locations := Table.ages_erase
      rooms := Table.ages_map fun r : Room => { r with location := cleared id r.location }
      roleAssignments := Table.ages_map (detached (.location id)) }
  | room id =>
    exact { same with
      rooms := Table.ages_erase, roleAssignments := Table.ages_map (detached (.room id)) }

theorem Write.ages (w : s.Write s') : s.Ages s' := by
  have same := s.ages_refl
  cases w with
  | addDepartment => exact { same with departments := Table.ages_insert }
  | addLocation => exact { same with locations := Table.ages_insert }
  | addRoom => exact { same with rooms := Table.ages_insert }
  | addRole => exact { same with roleAssignments := Table.ages_insert }
  | changeLocation => exact { same with locations := Table.ages_put }
  | changeRoom => exact { same with rooms := Table.ages_put }
  | withdraw => exact { same with roleAssignments := Table.ages_erase }
  | deleteNode => exact s.ages_without _
  | tick | addUser | addEquipment | addEquipmentAssignment | addEquipmentEvent | addAccessory
  | addAccessoryAssignment | addAccessoryEvent | addConsumable | addConsumableIssue
  | addConsumableEvent | addAudit | changeUser | changeEquipment | changeEquipmentAssignment
  | changeAccessory | changeAccessoryAssignment | changeConsumable | changeConsumableIssue =>
    exact { same with }

theorem Written.ages (h : s.Written s') : s.Ages s' :=
  h.keeps (P := s.Ages) (fun _ _ before w => before.trans w.ages) s.ages_refl

/-- A node that is gone stays gone. -/
theorem Ages.hasNode_gone (first : s₀.Ages s) (next : s.Ages s') (sound : s₀.Sound)
    (was : s₀.hasNode scope = true) (gone : s.hasNode scope = false) :
    s'.hasNode scope = false := by
  cases scope with
  | site | detached => cases gone
  | department => exact first.departments.gone next.departments sound.departments.numbered was gone
  | location => exact first.locations.gone next.locations sound.locations.numbered was gone
  | room => exact first.rooms.gone next.rooms sound.rooms.numbered was gone

/-- An assignment that is withdrawn stays so. -/
theorem Ages.role_gone {id : RoleAssignmentId} (first : s₀.Ages s) (next : s.Ages s')
    (sound : s₀.Sound) (was : s₀.roleAssignments.has id = true) (gone : s.row? id = none) :
    s'.row? id = none := by
  have none_here : s.roleAssignments.has id = false := by
    rw [Table.has, show s.roleAssignments.get? id = none from gone]
    rfl
  have none_later :=
    first.roleAssignments.gone next.roleAssignments sound.roleAssignments.numbered was none_here
  exact Option.not_isSome_iff_eq_none.1 (Bool.eq_false_iff.1 none_later)

end Store

end Quartermaster
