import Quartermaster.Toml.Printer
import Quartermaster.Toml.Text

/-!
# Strings are read as they were written

Of every string, in whichever quotes it is written, the same string is read.
-/

namespace Quartermaster.Toml

variable {c : Char} {cs found rest tail : List Char}

/-! ## Escapes -/

/-- What behind a backslash, or in the middle of a code point, stands for a character. -/
inductive Spells (c : Char) : Escape → List Char → Prop
  | sign {e : Char} : escapeStep? e = some ([c], .plain) → Spells c .escape [e]
  | mark {e : Char} {phase : Escape} {cs : List Char} :
      escapeStep? e = some ([], phase) → Spells c phase cs → Spells c .escape (e :: cs)
  | digit {left value : Nat} {d : Char} {phase : Escape} {cs : List Char} :
      codeStep? left value d = some ([], phase) → Spells c phase cs →
      Spells c (.code left value) (d :: cs)
  | last {left value : Nat} {d : Char} :
      codeStep? left value d = some ([c], .plain) → Spells c (.code left value) [d]

theorem digitValue?_toUpper {n : Nat} (h : n < 16) :
    Text.Hex.digitValue? (Text.Hex.digit n).toUpper = some n := by
  have all : ∀ m : Fin 16, Text.Hex.digitValue? (Text.Hex.digit m).toUpper = some m.val := by decide
  exact all ⟨n, h⟩

/-- A number of two digits at most, behind zeros. -/
theorem padded_four {n : Nat} (h : n < 256) : Text.Hex.padded 4 n =
    ['0', '0', Text.Hex.digit (n / 16), Text.Hex.digit (n % 16)] := by
  by_cases small : n < 16
  · have digits : Text.Hex.digits n = [Text.Hex.digit n] := by rw [Text.Hex.digits, if_pos small]
    rw [Text.Hex.padded, digits, Nat.div_eq_of_lt small, Nat.mod_eq_of_lt small]
    rfl
  · have high : n / 16 < 16 := Nat.div_lt_of_lt_mul h
    have digits : Text.Hex.digits n = [Text.Hex.digit (n / 16), Text.Hex.digit (n % 16)] := by
      rw [Text.Hex.digits, if_neg small, Text.Hex.digits, if_pos high]
      rfl
    rw [Text.Hex.padded, digits]
    rfl

/-- Four digits spell any of the first two hundred and fifty-six characters. -/
theorem spells_padded (h : c.toNat < 256) :
    Spells c .escape ('u' :: (Text.Hex.padded 4 c.toNat).map Char.toUpper) := by
  have high : c.toNat / 16 < 16 := Nat.div_lt_of_lt_mul h
  have low : c.toNat % 16 < 16 := Nat.mod_lt _ (by decide)
  have value : c.toNat / 16 * 16 + c.toNat % 16 = c.toNat := Nat.div_add_mod' ..
  have third : codeStep? 2 0 (Text.Hex.digit (c.toNat / 16)).toUpper =
      some ([], .code 1 (c.toNat / 16)) := by
    simp [codeStep?, digitValue?_toUpper high]
  have fourth : codeStep? 1 (c.toNat / 16) (Text.Hex.digit (c.toNat % 16)).toUpper =
      some ([c], .plain) := by
    have valid : c.toNat.isValidChar := .inl (by omega)
    simp [codeStep?, digitValue?_toUpper low, value, valid]
  have first : codeStep? 4 0 '0' = some ([], .code 3 0) := by decide
  have second : codeStep? 3 0 '0' = some ([], .code 2 0) := by decide
  rw [padded_four h]
  exact .mark rfl (.digit first (.digit second (.digit third (.last fourth))))

theorem toNat_lt_of_needsEscape (h : needsEscape c = true) : c.toNat < 256 := by
  simp only [needsEscape, Bool.and_eq_true, Bool.or_eq_true, decide_eq_true_eq, beq_iff_eq] at h
  rcases h.2 with control | rfl
  · exact Nat.lt_trans control (by decide)
  · decide

theorem isLineChar_of_needsEscape (h : needsEscape c = false) (within : c ≠ '\n') :
    isLineChar c = true := by
  cases tab : c == '\t' with
  | true => simp [isLineChar, tab]
  | false =>
    simp only [needsEscape, bne, tab, beq_false_of_ne within, Bool.not_false, Bool.true_and,
      Bool.or_eq_false_iff, decide_eq_false_iff_not, beq_eq_false_iff_ne] at h
    simp only [isLineChar, tab, Bool.false_or, Bool.and_eq_true, decide_eq_true_eq]
    exact ⟨Char.not_lt.1 h.1, h.2⟩

/-- Outside of the quotes themselves a character stands for itself or is spelled. -/
theorem escape_spells (lines : Bool) (unquoted : c ≠ '"') :
    (escape lines c = [c] ∧ c ≠ '\\' ∧ (isLineChar c = true ∨ lines = true ∧ c = '\n')) ∨
      ∃ cs, escape lines c = '\\' :: cs ∧ Spells c .escape cs := by
  unfold escape
  split
  · exact .inr ⟨_, rfl, .sign rfl⟩
  · exact .inr ⟨_, rfl, .sign rfl⟩
  · cases lines with
    | false => exact .inr ⟨_, rfl, .sign rfl⟩
    | true => exact .inl ⟨rfl, by decide, .inr ⟨rfl, rfl⟩⟩
  · exact .inr ⟨_, rfl, .sign rfl⟩
  · exact .inr ⟨_, rfl, .sign rfl⟩
  · exact .inr ⟨_, rfl, .sign rfl⟩
  · next no_newline _ _ no_backslash =>
    cases control : needsEscape c with
    | true => exact .inr ⟨_, rfl, spells_padded (toNat_lt_of_needsEscape control)⟩
    | false => exact .inl ⟨rfl, no_backslash, .inl (isLineChar_of_needsEscape control no_newline)⟩

/-! ## Double quotes -/

theorem basicRest_spells {phase : Escape} (spells : Spells c phase cs) :
    basicRest found phase (cs ++ tail) = basicRest (c :: found) .plain tail := by
  induction spells with
  | sign step => simp [basicRest, step]
  | mark step _ ih => simp [basicRest, step, ih]
  | digit step _ ih => simp [basicRest, step, ih]
  | last step => simp [basicRest, step]

theorem basicRest_backslash :
    basicRest found .plain ('\\' :: tail) = basicRest found .escape tail := by
  simp [basicRest]

/-- A character as it is written in double quotes is read back. -/
theorem basicRest_escape (unquoted : c ≠ '"') :
    basicRest found .plain (escape false c ++ tail) = basicRest (c :: found) .plain tail := by
  rcases escape_spells false unquoted with ⟨same, unescaped, line | ⟨⟨⟩, _⟩⟩ | ⟨cs, spelled, spells⟩
  · rw [same]
    simp [basicRest, unquoted, unescaped, line]
  · rw [spelled, List.cons_append, basicRest_backslash, basicRest_spells spells]

/-- A string in double quotes is read up to its end. -/
theorem basicRest_escapeAll (cs found : List Char) (row : Nat) :
    basicRest found .plain (escapeAll false 0 row cs ++ '"' :: rest) =
      some (textOf (cs.reverse ++ found), rest) := by
  induction cs generalizing found row with
  | nil => simp [escapeAll, basicRest]
  | cons c cs ih =>
    by_cases quoted : c = '"'
    · subst quoted
      have spells : Spells '"' .escape ['"'] := .sign rfl
      rw [escapeAll, if_neg (Nat.not_lt_zero row), List.cons_append, basicRest_backslash,
        List.cons_append, ← List.singleton_append, basicRest_spells spells, ih,
        List.reverse_cons, List.append_assoc, List.singleton_append]
    · rw [escapeAll, List.append_assoc, basicRest_escape quoted, ih, List.reverse_cons,
        List.append_assoc, List.singleton_append]
      exact quoted

/-! ## Three double quotes -/

theorem basicLinesRest_mark {e : Char} {new : List Char} {phase : Escape}
    (step : escapeStep? e = some (new, phase)) :
    basicLinesRest found 0 .escape (e :: tail) = basicLinesRest (new ++ found) 0 phase tail := by
  have no_return : e ≠ '\r' := by
    rintro rfl
    cases step
  rw [basicLinesRest, step]
  exact fun _ is_return => absurd is_return no_return

theorem basicLinesRest_spells {phase : Escape} (spells : Spells c phase cs) :
    basicLinesRest found 0 phase (cs ++ tail) = basicLinesRest (c :: found) 0 .plain tail := by
  induction spells with
  | sign step => exact basicLinesRest_mark step
  | mark step _ ih => exact (basicLinesRest_mark step).trans ih
  | digit step _ ih => simp [basicLinesRest, step, ih]
  | last step => simp [basicLinesRest, step]

theorem basicLinesRest_backslash {row : Nat} (few : row ≤ 2) :
    basicLinesRest found row .plain ('\\' :: tail) = basicLinesRest found 0 .escape tail := by
  have open_still : ¬ 3 ≤ row := by omega
  simp [basicLinesRest, open_still]

theorem basicLinesRest_escape {row : Nat} (few : row ≤ 2) (unquoted : c ≠ '"') :
    basicLinesRest found row .plain (escape true c ++ tail) =
      basicLinesRest (c :: found) 0 .plain tail := by
  have open_still : ¬ 3 ≤ row := by omega
  rcases escape_spells true unquoted with ⟨same, unescaped, line⟩ | ⟨cs, spelled, spells⟩
  · have allowed : (c == '\n' || isLineChar c) = true := by
      rcases line with line | ⟨_, rfl⟩
      · simp [line]
      · rfl
    have no_return : c ≠ '\r' := by
      rintro rfl
      exact absurd allowed (by decide)
    rw [same, List.singleton_append, basicLinesRest]
    · simp [unquoted, unescaped, open_still, allowed]
    · exact fun _ is_return => absurd is_return no_return
  · rw [spelled, List.cons_append, basicLinesRest_backslash few, basicLinesRest_spells spells]

/-- Of up to five quotes in a row the last three are the end. -/
theorem basicLinesRest_close {row : Nat} (few : row ≤ 2) (stops : rest.head? ≠ some '"') :
    basicLinesRest found row .plain ('"' :: '"' :: '"' :: rest) = some (textOf found, rest) := by
  have after {quotes : Nat} (ended : 3 ≤ quotes) :
      basicLinesRest ('"' :: '"' :: '"' :: found) quotes .plain rest =
        some (textOf found, rest) := by
    cases rest with
    | nil => simp [basicLinesRest, ended]
    | cons c rest =>
      have unquoted : c ≠ '"' := fun same => stops (congrArg some same)
      unfold basicLinesRest
      simp [unquoted, ended]
  match row, few with
  | 0, _ => simp [basicLinesRest, after]
  | 1, _ => simp [basicLinesRest, after]
  | 2, _ => simp [basicLinesRest]

/-- A string in three double quotes is read up to its end. -/
theorem basicLinesRest_escapeAll (cs found : List Char) {row : Nat} (few : row ≤ 2)
    (stops : rest.head? ≠ some '"') :
    basicLinesRest found row .plain (escapeAll true 2 row cs ++ '"' :: '"' :: '"' :: rest) =
      some (textOf (cs.reverse ++ found), rest) := by
  induction cs generalizing found row with
  | nil => exact basicLinesRest_close few stops
  | cons c cs ih =>
    rw [List.reverse_cons, List.append_assoc, List.singleton_append]
    by_cases quoted : c = '"'
    · subst quoted
      rw [escapeAll]
      split
      · next more =>
        -- Two in a row stand for themselves at most, so this is never the last of five.
        have not_fifth : row ≠ 4 := by omega
        simp [basicLinesRest, not_fifth, ih _ more]
      · have spells : Spells '"' .escape ['"'] := .sign rfl
        rw [List.cons_append, basicLinesRest_backslash few, List.cons_append,
          ← List.singleton_append, basicLinesRest_spells spells]
        exact ih _ (Nat.zero_le 2)
    · rw [escapeAll, List.append_assoc, basicLinesRest_escape few quoted]
      · exact ih _ (Nat.zero_le 2)
      · exact quoted

/-! ## Single quotes -/

/-- A string in single quotes is read up to its end. -/
theorem literalRest_append (cs found : List Char)
    (plain : ∀ c ∈ cs, c ≠ '\'' ∧ isLineChar c = true) :
    literalRest found (cs ++ '\'' :: rest) = some (textOf (cs.reverse ++ found), rest) := by
  induction cs generalizing found with
  | nil => simp [literalRest]
  | cons c cs ih =>
    obtain ⟨⟨unquoted, line⟩, others⟩ := List.forall_mem_cons.1 plain
    simp [literalRest, unquoted, line, ih _ others]

/-- The longest row of a mark, given the longest one so far and how many marks come right before. -/
def rowFrom (mark : Char) (longest row : Nat) (cs : List Char) : Nat :=
  (cs.foldl (fun (longest, row) c =>
    if c == mark then (max longest (row + 1), row + 1) else (longest, 0)) (longest, row)).1

section Rows

variable {mark : Char} {longest row : Nat}

theorem rowFrom_mark :
    rowFrom mark longest row (mark :: cs) = rowFrom mark (max longest (row + 1)) (row + 1) cs := by
  simp [rowFrom]

theorem rowFrom_other (h : c ≠ mark) :
    rowFrom mark longest row (c :: cs) = rowFrom mark longest 0 cs := by
  simp [rowFrom, h]

theorem le_rowFrom : longest ≤ rowFrom mark longest row cs := by
  induction cs generalizing longest row with
  | nil => exact Nat.le_refl longest
  | cons c cs ih =>
    by_cases same : c = mark
    · rw [same, rowFrom_mark]
      exact Nat.le_trans (Nat.le_max_left ..) ih
    · rw [rowFrom_other same]
      exact ih

/-- A mark is in a row of its own at least. -/
theorem lt_rowFrom_mark : row < rowFrom mark longest row (mark :: cs) := by
  rw [rowFrom_mark]
  exact Nat.le_trans (Nat.le_max_right ..) le_rowFrom

theorem notMem_of_rowFrom (none_of_it : rowFrom mark longest row cs = 0) : mark ∉ cs := by
  induction cs generalizing longest row with
  | nil => exact List.not_mem_nil
  | cons c cs ih =>
    by_cases same : c = mark
    · subst same
      exact absurd none_of_it (Nat.ne_zero_of_lt lt_rowFrom_mark)
    · rw [rowFrom_other same] at none_of_it
      exact List.not_mem_cons_of_ne_of_not_mem (Ne.symm same) (ih none_of_it)

end Rows

theorem literalLinesRest_close {row : Nat} (few : row ≤ 2) (stops : rest.head? ≠ some '\'') :
    literalLinesRest found row ('\'' :: '\'' :: '\'' :: rest) = some (textOf found, rest) := by
  have after {quotes : Nat} (ended : 3 ≤ quotes) :
      literalLinesRest ('\'' :: '\'' :: '\'' :: found) quotes rest =
        some (textOf found, rest) := by
    cases rest with
    | nil => simp [literalLinesRest, ended]
    | cons c rest =>
      have unquoted : c ≠ '\'' := fun same => stops (congrArg some same)
      unfold literalLinesRest
      simp [unquoted, ended]
  match row, few with
  | 0, _ => simp [literalLinesRest, after]
  | 1, _ => simp [literalLinesRest, after]
  | 2, _ => simp [literalLinesRest]

/-- A string in three single quotes is read up to its end. -/
theorem literalLinesRest_append (cs found : List Char) {longest row : Nat} (few : row ≤ 2)
    (rows : rowFrom '\'' longest row cs ≤ 2)
    (allowed : ∀ c ∈ cs, (c == '\n' || isLineChar c) = true) (stops : rest.head? ≠ some '\'') :
    literalLinesRest found row (cs ++ '\'' :: '\'' :: '\'' :: rest) =
      some (textOf (cs.reverse ++ found), rest) := by
  induction cs generalizing found longest row with
  | nil => exact literalLinesRest_close few stops
  | cons c cs ih =>
    obtain ⟨first, others⟩ := List.forall_mem_cons.1 allowed
    rw [List.reverse_cons, List.append_assoc, List.singleton_append, List.cons_append]
    unfold literalLinesRest
    by_cases quoted : c = '\''
    · subst quoted
      have more : row + 1 ≤ 2 := Nat.le_trans lt_rowFrom_mark rows
      have not_fifth : row ≠ 4 := by omega
      rw [rowFrom_mark] at rows
      simp [not_fifth, ih _ more rows others]
    · have open_still : ¬ 3 ≤ row := by omega
      rw [rowFrom_other quoted] at rows
      simp [quoted, open_still, first, ih _ (Nat.zero_le 2) rows others]

/-! ## Strings as they are written -/

theorem string_basic (h : ∀ tail, cs ≠ '"' :: '"' :: tail) :
    string ('"' :: cs) = basicRest [] .plain cs := by
  unfold string
  split <;> simp_all [shortString]

theorem string_literal (h : ∀ tail, cs ≠ '\'' :: '\'' :: tail) :
    string ('\'' :: cs) = literalRest [] cs := by
  unfold string
  split <;> simp_all [shortString]

/-- The line end behind three quotes is no part of the string. -/
theorem string_basicLines {margin : List Char} (h : margin = ['\n'] ∨
    margin = [] ∧ ∀ c ∈ cs.head?, c ≠ '\n' ∧ c ≠ '\r') :
    string ('"' :: '"' :: '"' :: (margin ++ cs)) = basicLinesRest [] 0 .plain cs := by
  rcases h with rfl | ⟨rfl, first⟩
  · rfl
  · rw [List.nil_append]
    unfold string
    split <;> simp_all

theorem string_literalLines {margin : List Char} (h : margin = ['\n'] ∨
    margin = [] ∧ ∀ c ∈ cs.head?, c ≠ '\n' ∧ c ≠ '\r') :
    string ('\'' :: '\'' :: '\'' :: (margin ++ cs)) = literalLinesRest [] 0 cs := by
  rcases h with rfl | ⟨rfl, first⟩
  · rfl
  · rw [List.nil_append]
    unfold string
    split <;> simp_all

/-- Without escapes a character of the string stands for itself on every line. -/
theorem plain_of_quotesFor (h : quotesFor cs = .single ∨ quotesFor cs = .threeSingle) :
    ∀ c ∈ cs, c = '\n' ∨ isLineChar c = true := by
  have none_escaped : cs.any needsEscape = false := by grind [quotesFor]
  intro c among
  by_cases line_end : c = '\n'
  · exact .inl line_end
  · have unescaped := Bool.eq_false_iff.2 (List.any_eq_false.1 none_escaped c among)
    exact .inr (isLineChar_of_needsEscape unescaped line_end)

theorem of_quotesFor_single (h : quotesFor cs = .single) :
    '\n' ∉ cs ∧ longestRow '\'' cs = 0 := by
  grind [quotesFor]

theorem of_quotesFor_threeSingle (h : quotesFor cs = .threeSingle) : longestRow '\'' cs ≤ 2 := by
  grind [quotesFor]

/-- What is closed by a mark, and neither begins with it nor is followed by it, is no longer row. -/
theorem ne_marks {mark : Char} (first : cs.head? ≠ some mark) (stops : rest.head? ≠ some mark)
    (tail : List Char) : cs ++ mark :: rest ≠ mark :: mark :: tail := by
  intro same
  cases cs with
  | nil =>
    obtain ⟨_, rfl⟩ := List.cons.inj same
    exact stops rfl
  | cons c cs => exact first (congrArg some (List.cons.inj same).1)

theorem head_escapeAll_ne : (escapeAll false 0 0 cs).head? ≠ some '"' := by
  cases cs with
  | nil => exact nofun
  | cons c cs =>
    by_cases quoted : c = '"'
    · subst quoted
      simp [escapeAll]
    · rw [escapeAll]
      · rcases escape_spells false quoted with ⟨same, _⟩ | ⟨_, spelled, _⟩
        · simpa [same] using quoted
        · simp [spelled]
      · exact quoted

theorem isLineChar_ne (h : isLineChar c = true) : c ≠ '\n' ∧ c ≠ '\r' := by
  constructor <;> rintro rfl <;> exact absurd h (by decide)

/-- Of a string on one line no line end is written. -/
theorem head_escapeAll_lines (one_line : '\n' ∉ cs) :
    ∀ c ∈ (escapeAll true 2 0 cs ++ '"' :: '"' :: '"' :: rest).head?, c ≠ '\n' ∧ c ≠ '\r' := by
  cases cs with
  | nil => simp [escapeAll]
  | cons c cs =>
    by_cases quoted : c = '"'
    · subst quoted
      simp [escapeAll]
    · rw [escapeAll]
      · rcases escape_spells true quoted with ⟨same, _, line | ⟨_, rfl⟩⟩ | ⟨_, spelled, _⟩
        · simpa [same] using isLineChar_ne line
        · simp at one_line
        · simp [spelled]
      · exact quoted

theorem head_plain (plain : ∀ c ∈ cs, c = '\n' ∨ isLineChar c = true) (one_line : '\n' ∉ cs) :
    ∀ c ∈ (cs ++ '\'' :: '\'' :: '\'' :: rest).head?, c ≠ '\n' ∧ c ≠ '\r' := by
  cases cs with
  | nil => simp
  | cons c cs =>
    rintro _ ⟨⟩
    refine isLineChar_ne ((plain c (List.mem_cons_self ..)).resolve_left ?_)
    rintro rfl
    exact one_line (List.mem_cons_self ..)

/-- A string with line ends begins on a line of its own. -/
def margin (cs : List Char) : List Char := if cs.contains '\n' then ['\n'] else []

theorem margin_cases {text : List Char}
    (h : '\n' ∉ cs → ∀ c ∈ text.head?, c ≠ '\n' ∧ c ≠ '\r') :
    margin cs = ['\n'] ∨ margin cs = [] ∧ ∀ c ∈ text.head?, c ≠ '\n' ∧ c ≠ '\r' := by
  by_cases lines : '\n' ∈ cs
  · simp [margin, lines]
  · exact .inr ⟨by simp [margin, lines], h lines⟩

/-- A string is read as it was written, if no quote follows. -/
theorem string_quote (s : String) (stops : ∀ c ∈ rest.head?, c ≠ '"' ∧ c ≠ '\'') :
    string ((quote s).toList ++ rest) = some (s, rest) := by
  have whole : textOf (s.toList.reverse ++ []) = s := by
    rw [textOf, List.append_nil, List.reverse_reverse, String.ofList_toList]
  have no_double : rest.head? ≠ some '"' := fun same => (stops _ same).1 rfl
  have no_single : rest.head? ≠ some '\'' := fun same => (stops _ same).2 rfl
  cases quotes : quotesFor s.toList with
  | double =>
    have spelled : (quote s).toList ++ rest =
        '"' :: (escapeAll false 0 0 s.toList ++ '"' :: rest) := by
      simp [quote, quotes]
    rw [spelled, string_basic (ne_marks head_escapeAll_ne no_double), basicRest_escapeAll, whole]
  | single =>
    obtain ⟨one_line, none_within⟩ := of_quotesFor_single quotes
    have unquoted := notMem_of_rowFrom none_within
    have spelled : (quote s).toList ++ rest = '\'' :: (s.toList ++ '\'' :: rest) := by
      simp [quote, quotes]
    have first : s.toList.head? ≠ some '\'' := fun same => unquoted (List.mem_of_head? same)
    rw [spelled, string_literal (ne_marks first no_single), literalRest_append, whole]
    intro c among
    refine ⟨fun same => unquoted (same ▸ among), ?_⟩
    refine (plain_of_quotesFor (.inl quotes) c among).resolve_left fun same => ?_
    exact one_line (same ▸ among)
  | threeDouble =>
    have spelled : (quote s).toList ++ rest = '"' :: '"' :: '"' ::
        (margin s.toList ++ (escapeAll true 2 0 s.toList ++ '"' :: '"' :: '"' :: rest)) := by
      cases lines : s.toList.contains '\n' <;> simp_all [quote, margin]
    rw [spelled, string_basicLines (margin_cases head_escapeAll_lines),
      basicLinesRest_escapeAll _ _ (Nat.zero_le 2) no_double, whole]
  | threeSingle =>
    have plain := plain_of_quotesFor (.inr quotes)
    have allowed : ∀ c ∈ s.toList, (c == '\n' || isLineChar c) = true := by simpa using plain
    have spelled : (quote s).toList ++ rest = '\'' :: '\'' :: '\'' ::
        (margin s.toList ++ (s.toList ++ '\'' :: '\'' :: '\'' :: rest)) := by
      cases lines : s.toList.contains '\n' <;> simp_all [quote, margin]
    rw [spelled, string_literalLines (margin_cases (head_plain plain)),
      literalLinesRest_append _ _ (Nat.zero_le 2) (of_quotesFor_threeSingle quotes) allowed
        no_single, whole]

end Quartermaster.Toml
