import Quartermaster.Proofs.Toml.Numbers
import Quartermaster.Proofs.Toml.Strings
import Quartermaster.Toml.Document

/-!
# Documents are read as they were written

A document of lines that each give a value to a bare key makes the table of these keys and values.

1. `Reads`: what is read of a text behind a key, and of the texts of strings, integers and truth
   values.
2. `parse_document`: the table of a document of such lines.
-/

namespace Quartermaster.Toml

variable {rest : List Char} {room : Nat}

/-! ## Values -/

/-- The reader of values that begin with a character. -/
def valueFrom (room : Nat) : Option Char → Reader Value
  | some '"' | some '\'' => .text <$> string
  | some 't' => word "true" (.boolean true)
  | some 'f' => word "false" (.boolean false)
  | some '[' => array room
  | some '\x7b' => inlineTable room
  | _ => scalar

theorem value_eq (text : List Char) : value room text = valueFrom room text.head? text := by
  rw [value]
  rfl

theorem valueFrom_digit {c : Char} (digit : c.isDigit = true) :
    valueFrom room (some c) = scalar := by
  unfold valueFrom
  split
  all_goals first
    | rfl
    | next same => cases same; exact absurd digit (by decide)

theorem quote_head (s : String) :
    ∃ tail, (quote s).toList = '"' :: tail ∨ (quote s).toList = '\'' :: tail := by
  cases quotes : quotesFor s.toList <;> simp [quote, quotes]

theorem value_quote (s : String) (stops : ∀ c ∈ rest.head?, c ≠ '"' ∧ c ≠ '\'') :
    value room ((quote s).toList ++ rest) = some (.text s, rest) := by
  have read := string_quote s stops
  obtain ⟨tail, spelled | spelled⟩ := quote_head s
  all_goals
    rw [spelled] at read ⊢
    rw [value_eq]
    exact Reader.map_of_some read

theorem value_boolean (b : Bool) :
    value room ((toString b).toList ++ rest) = some (.boolean b, rest) := by
  rw [value_eq]
  cases b with
  | true => exact Reader.bind_of_some (Reader.exactly_append "true".toList)
  | false => exact Reader.bind_of_some (Reader.exactly_append "false".toList)

theorem value_integer (n : Int) : value room ((toString n).toList ++ '\n' :: rest) =
    if fitsWord n then some (.integer n, '\n' :: rest) else none := by
  rw [← scalar_toString, value_eq]
  obtain ⟨negative, ds, digits, _, spelled⟩ := toList_toString n
  rw [spelled]
  cases negative with
  | true => rfl
  | false =>
    obtain ⟨c, cs, rfl, digit, _⟩ := digits.cons
    exact congrFun (valueFrom_digit digit) _

/-! ## Behind a key -/

/-- What is read of a text behind an equals sign and a blank, up to the end of the line; nothing if
the text is refused. -/
def Reads (written : String) (v : Option Value) : Prop :=
  ∀ rest, (do blanks; value (depthLimit - 1)) (' ' :: (written.toList ++ '\n' :: rest)) =
    v.map (·, '\n' :: rest)

theorem reads_of_value {written : String} {v : Option Value}
    (first : ∀ c ∈ written.toList.head?, isBlankChar c = false)
    (read : ∀ rest, value (depthLimit - 1) (written.toList ++ '\n' :: rest) =
      v.map (·, '\n' :: rest)) : Reads written v := by
  intro rest
  refine (Reader.bind_of_some (blanks_space ?_)).trans (read rest)
  cases spelled : written.toList with
  | nil => simp [isBlankChar]
  | cons c cs => exact fun x is_first => first x (spelled ▸ is_first)

theorem reads_quote (s : String) : Reads (quote s) (some (.text s)) := by
  refine reads_of_value ?_ fun rest => value_quote s (by simp)
  obtain ⟨tail, spelled | spelled⟩ := quote_head s <;> simp [spelled, isBlankChar]

theorem reads_boolean (b : Bool) : Reads (toString b) (some (.boolean b)) :=
  reads_of_value (by cases b <;> rintro _ ⟨⟩ <;> rfl) fun _ => value_boolean b

theorem reads_integer (n : Int) :
    Reads (toString n) (if fitsWord n then some (.integer n) else none) := by
  refine reads_of_value ?_ fun rest => ?_
  · obtain ⟨negative, ds, digits, _, spelled⟩ := toList_toString n
    rw [spelled]
    cases negative with
    | true => rintro _ ⟨⟩; rfl
    | false =>
      obtain ⟨c, cs, rfl, digit, _⟩ := digits.cons
      rintro _ ⟨⟩
      rw [isBlankChar, Bool.or_eq_false_iff, beq_eq_false_iff_ne, beq_eq_false_iff_ne]
      constructor <;> rintro rfl <;> exact absurd digit (by decide)
  · rw [value_integer]
    split <;> rfl

/-- What is read of a text is one thing. -/
theorem Reads.unique {written : String} {v v' : Option Value} (h : Reads written v)
    (h' : Reads written v') : v = v' := by
  have same := (h []).symm.trans (h' [])
  cases v <;> cases v' <;> simp_all

/-! ## Lines -/

/-- A key that stands without quotes. -/
structure Bare (key : String) : Prop where
  nonempty : key.toList ≠ []
  bare : ∀ c ∈ key.toList, isBareChar c = true

theorem isBareChar_ne {c mark : Char} (bare : isBareChar c = true)
    (other : isBareChar mark = false) : c ≠ mark := by
  rintro rfl
  rw [other] at bare
  cases bare

/-- The first character of a bare key, and what comes behind it. -/
theorem Bare.cons {name : String} (bare : Bare name) : ∃ c cs, name.toList = c :: cs ∧
    isBareChar c = true ∧ ∀ x ∈ cs, isBareChar x = true := by
  obtain ⟨c, cs, spelled⟩ := List.exists_cons_of_ne_nil bare.nonempty
  exact ⟨c, cs, spelled, List.forall_mem_cons.1 (spelled ▸ bare.bare)⟩

theorem isBlankChar_of_isBareChar {c : Char} (bare : isBareChar c = true) :
    isBlankChar c = false := by
  have no_space : c ≠ ' ' := isBareChar_ne bare (by decide)
  have no_tab : c ≠ '\t' := isBareChar_ne bare (by decide)
  simp [isBlankChar, no_space, no_tab]

theorem simpleKey_bare {name : String} (bare : Bare name)
    (stops : ∀ c ∈ rest.head?, isBareChar c = false) :
    simpleKey (name.toList ++ rest) = some (name, rest) := by
  obtain ⟨c, cs, spelled, first, others⟩ := bare.cons
  have named : String.ofList (c :: cs) = name := by rw [← spelled, String.ofList_toList]
  have no_double : c ≠ '"' := isBareChar_ne first (by decide)
  have no_single : c ≠ '\'' := isBareChar_ne first (by decide)
  rw [spelled]
  refine (Reader.bind_of_some (a := some c) rfl).trans ?_
  simp only [Option.some.injEq, no_double, no_single, imp_self]
  refine (Reader.bind_of_some (Reader.satisfy_of_pos first)).trans ?_
  refine (Reader.bind_of_some (Reader.run_append others stops)).trans ?_
  rw [named]
  rfl

theorem key_bare {name : String} (bare : Bare name) :
    key (name.toList ++ ' ' :: '=' :: rest) = some ([name], '=' :: rest) := by
  have unblanked : ∀ c ∈ (name.toList ++ ' ' :: '=' :: rest).head?, isBlankChar c = false := by
    obtain ⟨c, cs, spelled, first, _⟩ := bare.cons
    rw [spelled]
    rintro _ ⟨⟩
    exact isBlankChar_of_isBareChar first
  have part : (do blanks; let k ← simpleKey; blanks; return k : Reader String)
      (name.toList ++ ' ' :: '=' :: rest) = some (name, '=' :: rest) := by
    refine (Reader.bind_of_some (blanks_of_stop unblanked)).trans ?_
    refine (Reader.bind_of_some (simpleKey_bare bare ?_)).trans ?_
    · rintro _ ⟨⟩; rfl
    · refine (Reader.bind_of_some (blanks_space ?_)).trans rfl
      rintro _ ⟨⟩; rfl
  refine (Reader.bind_of_some (Reader.separated_one part (Reader.char_of_ne (by decide)))).trans ?_
  rfl

/-- A key with the text that is written behind it. -/
structure Line where
  name : String
  written : String
  deriving DecidableEq, Repr

namespace Line

def text (l : Line) : String := assignment l.name l.written

/-- Gives the key its value, if it is new. -/
def put (l : Line) (es : Entries) (v : Value) : Option Entries :=
  if (es.get? l.name).isSome then none else some (es ++ [(l.name, v)])

theorem toList_text (l : Line) : l.text.toList ++ rest =
    l.name.toList ++ ' ' :: '=' :: ' ' :: (l.written.toList ++ '\n' :: rest) := by
  simp [text, assignment]

theorem splitKey_singleton (name : String) : splitKey [name] = ([], name) := rfl

theorem put_root (l : Line) (es : Entries) (v : Value) :
    Entries.descend false (Entries.put [] l.name v) [] .header es = l.put es v := rfl

variable {l : Line} {v : Option Value}

theorem keyValue_text (bare : Bare l.name) (reads : Reads l.written v) (es : Entries) :
    keyValue { entries := es } (l.text.toList ++ rest) =
      (v.bind (l.put es)).map fun es => ({ entries := es }, rest) := by
  rw [toList_text]
  refine (Reader.bind_of_some (key_bare bare)).trans ?_
  refine (Reader.bind_of_some Reader.char_self).trans ?_
  -- The blanks and the value behind them are read as one, which is what `Reads` is about.
  rw [← bind_assoc]
  cases v with
  | none => exact Reader.bind_of_none (reads rest)
  | some v =>
    refine (Reader.bind_of_some (reads rest)).trans ?_
    refine (Reader.bind_of_some endOfLine_newline).trans ?_
    simp only [splitKey_singleton, put_root, Option.bind_some]
    cases l.put es v <;> rfl

/-- A line that begins with a bare key is neither a header nor empty. -/
theorem line_text (bare : Bare l.name) (reads : Reads l.written v) (es : Entries) :
    line { entries := es } (l.text.toList ++ rest) =
      (v.bind (l.put es)).map fun es => ({ entries := es }, rest) := by
  rw [← keyValue_text bare reads, toList_text]
  obtain ⟨c, cs, spelled, first, _⟩ := bare.cons
  have no_comment : c ≠ '#' := isBareChar_ne first (by decide)
  have no_end : c ≠ '\n' := isBareChar_ne first (by decide)
  have no_return : c ≠ '\r' := isBareChar_ne first (by decide)
  have no_header : c ≠ '[' := isBareChar_ne first (by decide)
  rw [spelled]
  unfold line
  refine (Reader.bind_of_some rfl).trans ?_
  simp only [List.cons_append, List.cons.injEq, no_comment, no_end, no_return, no_header,
    false_and, imp_self, implies_true]

end Line

/-! ## Documents -/

/-- The document of some lines. -/
def document (ls : List Line) : String := String.join (ls.map Line.text)

section Lines

variable {ls : List Line} {values : Line → Option Value}

theorem toList_document : (document ls).toList = ls.flatMap (·.text.toList) := by
  simp [document, List.flatMap_map]

/-- What is written behind the keys is read as these values, or is refused. -/
def AllRead (ls : List Line) (values : Line → Option Value) : Prop :=
  ∀ l ∈ ls, Bare l.name ∧ Reads l.written (values l)

/-- The table of some lines, below what is there before them. -/
def table (values : Line → Option Value) (ls : List Line) (es : Entries) : Option Entries :=
  ls.foldlM (fun es l => (values l).bind (l.put es)) es

theorem lines_document (read : AllRead ls values) (es : Entries) {fuel : Nat}
    (enough : ls.length ≤ fuel) : lines { entries := es } fuel (ls.flatMap (·.text.toList)) =
      (table values ls es).map fun es => ({ entries := es }, []) := by
  induction ls generalizing es fuel with
  | nil => cases fuel <;> rfl
  | cons l ls ih =>
    obtain ⟨⟨bare, reads⟩, others⟩ := List.forall_mem_cons.1 read
    obtain ⟨fuel, rfl⟩ := Nat.exists_eq_add_one.2 (Nat.zero_lt_of_lt enough)
    obtain ⟨c, cs, spelled, first, _⟩ := bare.cons
    have behind : line { entries := es } (l.text.toList ++ ls.flatMap (·.text.toList)) = _ :=
      Line.line_text bare reads es
    have there : (l.text.toList ++ ls.flatMap (·.text.toList)).head? = some c := by
      rw [Line.toList_text, spelled]
      rfl
    rw [List.flatMap_cons, lines]
    refine (Reader.bind_of_some (blanks_of_stop ?_)).trans ?_
    · rw [there]
      rintro _ ⟨⟩
      exact isBlankChar_of_isBareChar first
    refine (Reader.bind_of_some (a := some c) (by rw [Reader.peek, there])).trans ?_
    show (line { entries := es } >>= fun d => lines d fuel) _ = _
    rw [table, List.foldlM_cons]
    cases made : (values l).bind (l.put es) with
    | none =>
      rw [made] at behind
      exact Reader.bind_of_none behind
    | some es' =>
      rw [made] at behind
      exact (Reader.bind_of_some behind).trans (ih others es' (Nat.le_of_succ_le_succ enough))

/-- There are no more lines than characters. -/
theorem length_le_document : ls.length ≤ (document ls).toList.length := by
  rw [toList_document]
  induction ls with
  | nil => exact Nat.le_refl 0
  | cons l ls ih =>
    have end_of_line : 1 ≤ l.text.toList.length := by
      simp only [Line.text, assignment, String.toList_append, List.length_append]
      exact Nat.le_add_left 1 _
    rw [List.flatMap_cons, List.length_append, List.length_cons]
    omega

/-- A document of lines is read as the table of the lines. -/
theorem parse_document (read : AllRead ls values) :
    parse (document ls) = table values ls [] := by
  have unmarked : ∀ rest, (document ls).toList ≠ '\ufeff' :: rest := by
    intro rest marked
    cases ls with
    | nil => cases marked
    | cons l ls =>
      obtain ⟨c, cs, spelled, first, _⟩ := (read l (List.mem_cons_self ..)).1.cons
      rw [toList_document, List.flatMap_cons, Line.toList_text, spelled] at marked
      exact isBareChar_ne first (by decide) (List.cons.inj marked).1
  have whole : Reader.all (lines {} (document ls).toList.length) (document ls).toList =
      (table values ls []).map fun es => { entries := es } := by
    have read_lines := lines_document read [] length_le_document
    unfold Reader.all
    rw [toList_document] at read_lines ⊢
    rw [read_lines]
    cases table values ls [] <;> rfl
  unfold parse
  split
  · next marked => exact absurd marked (unmarked _)
  · show (Reader.all _ _).map _ = _
    rw [whole, Option.map_map]
    exact Option.map_id'

theorem get?_append {es : Entries} {key name : String} {v : Value} :
    Entries.get? (es ++ [(key, v)]) name =
      (es.get? name).or (if key = name then some v else none) := by
  unfold Entries.get?
  rw [List.find?_append]
  cases List.find? (·.1 == name) es with
  | some e => rfl
  | none => by_cases same : key = name <;> simp [same]

theorem Line.put_eq_some {l : Line} {es es' : Entries} {v : Value} (made : l.put es v = some es') :
    es.get? l.name = none ∧ es' = es ++ [(l.name, v)] := by
  unfold put at made
  split at made
  · cases made
  · next fresh => exact ⟨Option.not_isSome_iff_eq_none.1 fresh, (Option.some.inj made).symm⟩

/-- A table has what was there before, and what the lines give. -/
structure Extends (ls : List Line) (values : Line → Option Value) (es es' : Entries) : Prop where
  kept : ∀ name v, es.get? name = some v → es'.get? name = some v
  others : ∀ name, name ∉ ls.map (·.name) → es'.get? name = es.get? name
  given : ∀ l ∈ ls, ∃ v, values l = some v ∧ es'.get? l.name = some v

theorem Extends.of_table {es es' : Entries} (made : table values ls es = some es') :
    Extends ls values es es' := by
  induction ls generalizing es with
  | nil =>
    obtain rfl := Option.some.inj made
    exact ⟨fun _ _ => id, fun _ _ => rfl, nofun⟩
  | cons l ls ih =>
    rw [table, List.foldlM_cons] at made
    obtain ⟨es₁, put, made⟩ := Option.bind_eq_some_iff.1 made
    obtain ⟨v, read, put⟩ := Option.bind_eq_some_iff.1 put
    obtain ⟨fresh, rfl⟩ := Line.put_eq_some put
    have later := ih made
    have own : es'.get? l.name = some v := later.kept _ _ (by rw [get?_append, fresh]; simp)
    refine ⟨fun name v there => later.kept _ _ (by rw [get?_append, there]; rfl),
      fun name absent => ?_, List.forall_mem_cons.2 ⟨⟨v, read, own⟩, later.given⟩⟩
    obtain ⟨other, absent⟩ := not_or.1 (mt List.mem_cons.2 absent)
    rw [later.others name absent, get?_append, if_neg (Ne.symm other), Option.or_none]

/-- Distinct keys can all be given their values. -/
theorem table_read (read : ∀ l ∈ ls, (values l).isSome = true) (distinct : (ls.map (·.name)).Nodup)
    {es : Entries} (fresh : ∀ l ∈ ls, es.get? l.name = none) :
    ∃ es', table values ls es = some es' := by
  induction ls generalizing es with
  | nil => exact ⟨es, rfl⟩
  | cons l ls ih =>
    obtain ⟨read_first, read_others⟩ := List.forall_mem_cons.1 read
    obtain ⟨new, others_new⟩ := List.forall_mem_cons.1 fresh
    obtain ⟨once, distinct⟩ := List.nodup_cons.1 distinct
    obtain ⟨v, read_first⟩ := Option.isSome_iff_exists.1 read_first
    have put : (values l).bind (l.put es) = some (es ++ [(l.name, v)]) := by
      rw [read_first, Option.bind_some, Line.put, new]
      rfl
    have still_fresh : ∀ x ∈ ls, Entries.get? (es ++ [(l.name, v)]) x.name = none := by
      intro x among
      have other : l.name ≠ x.name := fun same => once (List.mem_map.2 ⟨x, among, same.symm⟩)
      rw [get?_append, others_new x among, if_neg other]
      rfl
    obtain ⟨es', made⟩ := ih read_others distinct still_fresh
    refine ⟨es', ?_⟩
    rw [table, List.foldlM_cons, put]
    exact made

end Lines

end Quartermaster.Toml
