import Quartermaster.Id

/-!
# Tables

A table keeps its rows in the order in which they came, under ids that count up from one. The
number of the last id is kept apart from the rows, so the id of a row that is gone is never given
out again (`Table.Numbered`).
-/

namespace Quartermaster

/-- A row under its id. -/
structure Entry (k : Kind) (α : Type) where
  id : Id k
  val : α
  deriving DecidableEq, Repr

structure Table (k : Kind) (α : Type) where
  entries : List (Entry k α) := []
  /-- The row number of the newest id, zero before the first. -/
  last : Int := 0
  deriving DecidableEq, Repr

namespace Table

variable {k : Kind} {α : Type}

/-- The row under an id. -/
def get? (t : Table k α) (id : Id k) : Option (Entry k α) :=
  t.entries.find? fun e => e.id == id

def has (t : Table k α) (id : Id k) : Bool := (t.get? id).isSome

/-- Whether a reference points at a row, or at nothing on purpose. -/
def resolves (t : Table k α) (id : Option (Id k)) : Bool := id.all t.has

/-- The first row with a property. -/
def find? (t : Table k α) (p : α → Bool) : Option (Entry k α) :=
  t.entries.find? fun e => p e.val

/-- The rows with a property, in order. -/
def filter (t : Table k α) (p : α → Bool) : List (Entry k α) :=
  t.entries.filter fun e => p e.val

/-- The id of the next row. -/
def next (t : Table k α) : Id k := ⟨t.last + 1⟩

/-- Appends a row under the next id. -/
def insert (t : Table k α) (row : α) : Table k α :=
  { entries := t.entries ++ [⟨t.next, row⟩], last := t.last + 1 }

/-- Replaces the row under an id. -/
def put (t : Table k α) (id : Id k) (row : α) : Table k α :=
  { t with entries := t.entries.map fun e => if e.id = id then { e with val := row } else e }

/-- Removes the row under an id; its number stays used. -/
def erase (t : Table k α) (id : Id k) : Table k α :=
  { t with entries := t.entries.filter fun e => e.id != id }

/-- Changes every row. -/
def map (t : Table k α) (f : α → α) : Table k α :=
  { t with entries := t.entries.map fun e => { e with val := f e.val } }

/-- The sum of a number over rows. -/
def totalOf (f : α → Int) : List (Entry k α) → Int
  | [] => 0
  | e :: rest => f e.val + totalOf f rest

/-- The ids are those of one to `last`, each at most once, in ascending order. -/
structure Numbered (t : Table k α) : Prop where
  ascending : (t.entries.map (·.id.row)).Pairwise (· < ·)
  bounded : ∀ e ∈ t.entries, 1 ≤ e.id.row ∧ e.id.row ≤ t.last

theorem numbered_empty : Numbered ({} : Table k α) :=
  ⟨List.Pairwise.nil, by simp⟩

theorem Numbered.insert {t : Table k α} (h : t.Numbered) (row : α) (hl : 0 ≤ t.last) :
    (t.insert row).Numbered := by
  refine ⟨?_, ?_⟩
  · simp only [Table.insert, List.map_append, List.map_cons, List.map_nil, List.pairwise_append,
      List.pairwise_cons, List.Pairwise.nil]
    refine ⟨h.ascending, by simp, ?_⟩
    intro n hn m hm
    obtain ⟨e, he, rfl⟩ := List.mem_map.1 hn
    have := (h.bounded e he).2
    simp only [List.mem_singleton] at hm
    subst hm
    simp only [next]
    omega
  · intro e he
    simp only [Table.insert, List.mem_append, List.mem_singleton] at he ⊢
    rcases he with he | rfl
    · have := h.bounded e he
      omega
    · simp only [next]
      omega

theorem Numbered.put {t : Table k α} (h : t.Numbered) (id : Id k) (row : α) :
    (t.put id row).Numbered := by
  have same : (t.put id row).entries.map (·.id.row) = t.entries.map (·.id.row) := by
    simp only [Table.put, List.map_map]
    apply List.map_congr_left
    intro e _
    simp only [Function.comp_apply]
    split <;> rfl
  refine ⟨same ▸ h.ascending, ?_⟩
  intro e he
  simp only [Table.put, List.mem_map] at he
  obtain ⟨e', he', rfl⟩ := he
  have := h.bounded e' he'
  split <;> exact this

theorem Numbered.erase {t : Table k α} (h : t.Numbered) (id : Id k) : (t.erase id).Numbered :=
  ⟨h.ascending.sublist (List.Sublist.map _ List.filter_sublist),
    fun e he => h.bounded e (List.mem_filter.1 he).1⟩

@[simp] theorem entries_insert (t : Table k α) (row : α) :
    (t.insert row).entries = t.entries ++ [⟨t.next, row⟩] := rfl

@[simp] theorem last_insert (t : Table k α) (row : α) : (t.insert row).last = t.last + 1 := rfl

@[simp] theorem last_put (t : Table k α) (id : Id k) (row : α) : (t.put id row).last = t.last := rfl

@[simp] theorem last_erase (t : Table k α) (id : Id k) : (t.erase id).last = t.last := rfl

@[simp] theorem totalOf_append (f : α → Int) (xs ys : List (Entry k α)) :
    totalOf f (xs ++ ys) = totalOf f xs + totalOf f ys := by
  induction xs with
  | nil => simp [totalOf]
  | cons e rest ih => simp only [List.cons_append, totalOf, ih]; omega

end Table

end Quartermaster
