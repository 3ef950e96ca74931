import Quartermaster.Proofs.Toml.Documents
import Quartermaster.Toml.Codec

/-!
# What a codec is relied on for

Of a codec it is asked that plain values under distinct bare keys are read as they were written, and
that it writes no integer beyond 64 bits (`Codec.RoundTrips`). Nothing is asked of what it makes of
other documents. The codec of this library is such a one (`codec_roundTrips`), and it does not read
larger integers either (`parse_of_large`).
-/

namespace Quartermaster.Toml

/-- A text, a truth value, or an integer of 64 bits. -/
def Value.Plain : Value → Prop
  | .text _ | .boolean _ => True
  | .integer n => fitsWord n = true
  | _ => False

/-- Plain values under distinct keys that stand without quotes. -/
structure Entries.Plain (es : Entries) : Prop where
  distinct : (es.map (·.1)).Nodup
  bare : ∀ e ∈ es, Bare e.1
  plain : ∀ e ∈ es, e.2.Plain

structure Codec.RoundTrips (codec : Codec) : Prop where
  /-- Plain entries have a document, and of that they are read again. -/
  reads_back (es : Entries) : es.Plain → ∃ document table, codec.print es = some document ∧
    codec.parse document = some table ∧ ∀ key, table.get? key = es.get? key
  /-- A larger integer has no document. -/
  refuses (es : Entries) (key : String) (n : Int) : (key, .integer n) ∈ es → fitsWord n = false →
    codec.print es = none

/-! ## Entries -/

namespace Entries

variable {es es' : Entries} {key : String} {v : Value}

theorem get?_cons {first : String × Value} :
    get? (first :: es) key = if first.1 = key then some first.2 else get? es key := by
  by_cases own : first.1 = key <;> simp [get?, own]

/-- Under distinct keys, every entry is found. -/
theorem get?_eq_some_iff (distinct : (es.map (·.1)).Nodup) :
    es.get? key = some v ↔ (key, v) ∈ es := by
  induction es with
  | nil => exact iff_of_false nofun nofun
  | cons first rest ih =>
    obtain ⟨name, value⟩ := first
    obtain ⟨once, others⟩ := List.nodup_cons.1 distinct
    rw [get?_cons, List.mem_cons, Prod.mk.injEq]
    by_cases own : name = key
    · subst own
      have elsewhere : (name, v) ∉ rest :=
        fun among => once (List.mem_map.2 ⟨(name, v), among, rfl⟩)
      simp [elsewhere, eq_comm]
    · simp [own, ih others, Ne.symm own]

theorem get?_eq_none_iff : es.get? key = none ↔ key ∉ es.map (·.1) := by
  rw [get?, Option.map_eq_none_iff, List.find?_eq_none, List.mem_map, not_exists]
  exact forall_congr' fun e => by rw [not_and, beq_iff_eq]

/-- A key that the later entries do not have is looked up in the earlier ones. -/
theorem get?_append_of_none (absent : es'.get? key = none) : (es ++ es').get? key = es.get? key := by
  unfold get? at absent ⊢
  rw [List.find?_append, Option.map_or, absent, Option.or_none]

/-- The order of entries under distinct keys does not matter. -/
theorem get?_of_perm (same : es.Perm es') (distinct : (es'.map (·.1)).Nodup) :
    es.get? key = es'.get? key := by
  have distinct' : (es.map (·.1)).Nodup := (same.map _).nodup_iff.2 distinct
  refine Option.ext fun v => ?_
  rw [get?_eq_some_iff distinct, get?_eq_some_iff distinct', same.mem_iff]

end Entries

/-! ## The codec of this library -/

theorem isBare_of_bare {key : String} (bare : Bare key) : isBare key = true := by
  have nonempty : key.toList.isEmpty = false := List.isEmpty_eq_false_iff.2 bare.nonempty
  rw [isBare, nonempty]
  exact List.all_eq_true.2 bare.bare

/-- A plain value is read as it is written. -/
theorem Value.Plain.written {v : Value} (plain : v.Plain) :
    ∃ written, v.written? = some written ∧ Reads written (some v) := by
  cases v with
  | text s => exact ⟨_, rfl, reads_quote s⟩
  | boolean b => exact ⟨_, rfl, reads_boolean b⟩
  | integer n =>
    have fits : fitsWord n = true := plain
    have read := reads_integer n
    rw [if_pos fits] at read
    exact ⟨_, if_pos fits, read⟩
  | _ => cases plain

/-- Plain entries are written as lines. -/
theorem mapM_lineOf {es : Entries} (bare : ∀ e ∈ es, Bare e.1) (plain : ∀ e ∈ es, e.2.Plain) :
    ∃ ls : List Line, es.mapM lineOf = some (ls.map Line.text) ∧
      ls.map (·.name) = es.map (·.1) ∧ ∀ l ∈ ls, ∃ v, (l.name, v) ∈ es ∧ Reads l.written (some v) := by
  induction es with
  | nil => exact ⟨[], rfl, rfl, nofun⟩
  | cons e es ih =>
    obtain ⟨first_bare, bare⟩ := List.forall_mem_cons.1 bare
    obtain ⟨first, plain⟩ := List.forall_mem_cons.1 plain
    obtain ⟨ls, lines, names, read⟩ := ih bare plain
    obtain ⟨written, is_written, reads⟩ := first.written
    have line : lineOf e = some (assignment e.1 written) := by
      rw [lineOf, if_pos (isBare_of_bare first_bare), is_written]
      rfl
    refine ⟨{ name := e.1, written } :: ls, ?_, congrArg (e.1 :: ·) names, ?_⟩
    · rw [List.mapM_cons, line, lines]
      rfl
    · refine List.forall_mem_cons.2 ⟨⟨e.2, List.mem_cons_self .., reads⟩, fun l among => ?_⟩
      obtain ⟨v, entry, reads⟩ := read l among
      exact ⟨v, List.mem_cons_of_mem _ entry, reads⟩

/-- One entry that cannot be written is enough. -/
theorem print_of_none {es : Entries} {e : String × Value} (entry : e ∈ es)
    (refused : lineOf e = none) : print es = none := by
  have unwritten : es.mapM lineOf = none := by
    induction es with
    | nil => cases entry
    | cons first rest ih =>
      rw [List.mapM_cons]
      rcases List.mem_cons.1 entry with rfl | later
      · rw [refused]
        rfl
      · rw [ih later]
        cases lineOf first <;> rfl
  rw [print, unwritten]
  rfl

theorem codec_roundTrips : codec.RoundTrips where
  reads_back es plain := by
    obtain ⟨ls, lines, names, read⟩ := mapM_lineOf plain.bare plain.plain
    have found {l : Line} {v : Value} (entry : (l.name, v) ∈ es) : es.get? l.name = some v :=
      (Entries.get?_eq_some_iff plain.distinct).2 entry
    have all : AllRead ls fun l => es.get? l.name := by
      intro l among
      obtain ⟨v, entry, reads⟩ := read l among
      have read_as : Reads l.written (es.get? l.name) := by rwa [found entry]
      exact ⟨plain.bare _ entry, read_as⟩
    have given : ∀ l ∈ ls, (es.get? l.name).isSome = true := fun l among => by
      obtain ⟨v, entry, _⟩ := read l among
      rw [found entry]
      rfl
    have fresh : ∀ l ∈ ls, Entries.get? [] l.name = none := fun _ _ => rfl
    obtain ⟨table, made⟩ := table_read given (names ▸ plain.distinct) fresh
    refine ⟨document ls, table, ?_, (parse_document all).trans made, fun key => ?_⟩
    · show (es.mapM lineOf).map String.join = _
      rw [lines]
      rfl
    · have extends_none := Extends.of_table made
      by_cases among : key ∈ ls.map (·.name)
      · obtain ⟨l, line_among, rfl⟩ := List.mem_map.1 among
        obtain ⟨v, read_as, given⟩ := extends_none.given l line_among
        exact given.trans read_as.symm
      · rw [names] at among
        exact (extends_none.others _ (names ▸ among)).trans (Entries.get?_eq_none_iff.2 among).symm
  refuses es key n entry large := print_of_none entry <| by
    unfold lineOf
    split
    · simp [Value.written?, large]
    · rfl

/-- A document with a line with a larger integer, among lines that may give anything, has no
table. -/
theorem parse_of_large {ls : List Line} {values : Line → Option Value} (read : AllRead ls values)
    {key : String} {n : Int} (among : { name := key, written := toString n } ∈ ls)
    (large : fitsWord n = false) : parse (document ls) = none := by
  have refused := reads_integer n
  rw [if_neg (Bool.eq_false_iff.1 large)] at refused
  rw [parse_document read]
  cases made : table values ls [] with
  | none => rfl
  | some es =>
    obtain ⟨v, read_as, _⟩ := (Extends.of_table made).given _ among
    cases read_as.symm.trans ((read _ among).2.unique refused)

end Quartermaster.Toml
