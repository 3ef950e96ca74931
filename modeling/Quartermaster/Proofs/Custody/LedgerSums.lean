import Quartermaster.Proofs.Store.Tables

/-!
# Sums over a ledger

What a ledger of units records in all: of an asset (`unitsOf`), against one custody row
(`unitsAgainst`), and as the change of what is kept of an asset (`changeOf`), each under some types
of rows. A row that is added counts under its own type (`unitsOf_insert`, ...), types can be counted
one by one (`unitsOf_eq_foldr`, `changeOf_eq_foldr`), and where the change of a row is its units with a
sign, so is the sum (`changeOf_of_signed`).
-/

namespace Quartermaster

namespace Table

variable {k : Kind} {α : Type} {f g : α → Int}

theorem totalOf_filter_or {p q : α → Bool} {t : Table k α} (apart : ∀ a, p a = true → q a = false) :
    totalOf f (t.filter fun a => p a || q a) = totalOf f (t.filter p) + totalOf f (t.filter q) := by
  unfold filter
  induction t.entries with
  | nil => rfl
  | cons e rest ih =>
    cases first : p e.val with
    | true =>
      simp only [List.filter_cons, apart _ first, Bool.or_false, first, if_true, Bool.false_eq_true,
        if_false, totalOf, ih, Int.add_assoc]
    | false =>
      cases second : q e.val with
      | true =>
        simp only [List.filter_cons, first, second, Bool.false_or, if_true, Bool.false_eq_true,
          if_false, totalOf, ih, Int.add_left_comm]
      | false => simpa [first, second] using ih

theorem totalOf_scale {c : Int} {rows : List (Entry k α)}
    (scaled : ∀ e ∈ rows, f e.val = c * g e.val) : totalOf f rows = c * totalOf g rows := by
  induction rows with
  | nil => simp [totalOf]
  | cons e rest ih =>
    simp only [totalOf, scaled e (List.mem_cons_self ..), Int.mul_add,
      ih fun x later => scaled x (List.mem_cons_of_mem _ later)]

end Table

namespace Ledger

variable {k asset custody : Kind} {rows : Table k (UnitEvent asset custody)} {item : Id asset}
  {row : Id custody} {type : EventType} {types : List EventType} {r : UnitEvent asset custody}

/-- The units recorded of an asset under some types. -/
def unitsOf (rows : Table k (UnitEvent asset custody)) (item : Id asset)
    (types : List EventType) : Int :=
  Table.totalOf (·.quantity) (rows.filter fun r => r.asset == item && types.contains r.type)

/-- The units recorded against a custody row under some types. -/
def unitsAgainst (rows : Table k (UnitEvent asset custody)) (row : Id custody)
    (types : List EventType) : Int :=
  Table.totalOf (·.quantity) (rows.filter fun r => r.custody == some row && types.contains r.type)

/-- The change recorded of what is kept of an asset, under some types. -/
def changeOf (rows : Table k (UnitEvent asset custody)) (item : Id asset)
    (types : List EventType) : Int :=
  Table.totalOf (·.quantityChange) (rows.filter fun r => r.asset == item && types.contains r.type)

/-! ## A row that is added -/

theorem unitsOf_insert : unitsOf (rows.insert r) item types =
    unitsOf rows item types + if r.asset = item ∧ r.type ∈ types then r.quantity else 0 := by
  simp only [unitsOf, Table.totalOf_filter_insert, Bool.and_eq_true, beq_iff_eq,
    List.contains_iff_mem]

theorem unitsAgainst_insert : unitsAgainst (rows.insert r) row types =
    unitsAgainst rows row types +
      if r.custody = some row ∧ r.type ∈ types then r.quantity else 0 := by
  simp only [unitsAgainst, Table.totalOf_filter_insert, Bool.and_eq_true, beq_iff_eq,
    List.contains_iff_mem]

theorem changeOf_insert : changeOf (rows.insert r) item types =
    changeOf rows item types +
      if r.asset = item ∧ r.type ∈ types then r.quantityChange else 0 := by
  simp only [changeOf, Table.totalOf_filter_insert, Bool.and_eq_true, beq_iff_eq,
    List.contains_iff_mem]

/-- Nothing is recorded against a custody row that no row of the ledger names. -/
theorem unitsAgainst_of_unnamed (unnamed : ∀ e ∈ rows.entries, e.val.custody ≠ some row) :
    unitsAgainst rows row types = 0 := by
  unfold unitsAgainst Table.filter
  rw [List.filter_eq_nil_iff.2 fun e member => by simp [unnamed e member]]
  rfl

theorem changeOf_of_unnamed (unnamed : ∀ e ∈ rows.entries, e.val.asset ≠ item) :
    changeOf rows item types = 0 := by
  unfold changeOf Table.filter
  rw [List.filter_eq_nil_iff.2 fun e member => by simp [unnamed e member]]
  rfl

/-! ## Types one by one -/

/-- A type that is not among others is counted apart from them. -/
theorem totalOf_cons {f : UnitEvent asset custody → Int} (new : type ∉ types) :
    Table.totalOf f (rows.filter fun r => r.asset == item && (type :: types).contains r.type) =
      Table.totalOf f (rows.filter fun r => r.asset == item && [type].contains r.type) +
        Table.totalOf f (rows.filter fun r => r.asset == item && types.contains r.type) := by
  rw [← Table.totalOf_filter_or fun r one => ?_]
  · congr 2
    funext r
    simp only [List.contains_cons, List.contains_nil, Bool.or_false, ← Bool.and_or_distrib_left]
  · simp only [List.contains_cons, List.contains_nil, Bool.or_false, Bool.and_eq_true,
      beq_iff_eq] at one
    simp [one.2, new]

/-- A sum under different types is the sum of those under each. -/
theorem totalOf_eq_foldr {f : UnitEvent asset custody → Int} (different : types.Nodup) :
    Table.totalOf f (rows.filter fun r => r.asset == item && types.contains r.type) =
      types.foldr (fun type rest => Table.totalOf f
        (rows.filter fun r => r.asset == item && [type].contains r.type) + rest) 0 := by
  induction types with
  | nil =>
    unfold Table.filter
    rw [List.filter_eq_nil_iff.2 fun e _ => by simp]
    rfl
  | cons type rest ih =>
    obtain ⟨new, others⟩ := List.nodup_cons.1 different
    rw [totalOf_cons new, ih others, List.foldr_cons]

theorem unitsOf_eq_foldr (different : types.Nodup) :
    unitsOf rows item types = types.foldr (fun type rest => unitsOf rows item [type] + rest) 0 :=
  totalOf_eq_foldr different

theorem changeOf_eq_foldr (different : types.Nodup) :
    changeOf rows item types = types.foldr (fun type rest => changeOf rows item [type] + rest) 0 :=
  totalOf_eq_foldr different

/-- Where every row of a type changes what is kept by its units with one sign, so do all of them. -/
theorem changeOf_of_signed {sign : Int}
    (signed : ∀ e ∈ rows.entries, e.val.type = type →
      e.val.quantityChange = sign * e.val.quantity) :
    changeOf rows item [type] = sign * unitsOf rows item [type] := by
  refine Table.totalOf_scale fun e among => ?_
  obtain ⟨member, chosen⟩ := Table.mem_filter.1 among
  simp only [List.contains_cons, List.contains_nil, Bool.or_false, Bool.and_eq_true,
    beq_iff_eq] at chosen
  exact signed e member chosen.2

end Ledger

end Quartermaster
