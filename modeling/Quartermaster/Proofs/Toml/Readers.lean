import Mathlib.Data.List.TakeDrop
import Quartermaster.Toml.Reader

/-!
# How readers run

What the combinators do on a text whose front is known, and of the readers that are made of them:
`blanks`, `newline`, `endOfLine`.
-/

namespace Quartermaster.Toml

variable {α β : Type} {text rest : List Char} {c mark : Char} {p : Char → Bool}

namespace Reader

variable {r r' : Reader α} {f : α → Reader β} {a : α}

theorem bind_of_some (h : r text = some (a, rest)) : (r >>= f) text = f a rest := by
  show (r text).bind _ = _
  rw [h]
  rfl

theorem bind_of_none (h : r text = none) : (r >>= f) text = none := by
  show (r text).bind _ = _
  rw [h]
  rfl

theorem map_of_some {g : α → β} (h : r text = some (a, rest)) :
    (g <$> r) text = some (g a, rest) := by
  show (r text).bind _ = _
  rw [h]
  rfl

theorem map_of_none {g : α → β} (h : r text = none) : (g <$> r) text = none := by
  show (r text).bind _ = _
  rw [h]
  rfl

theorem orElse_of_some (h : r text = some (a, rest)) : (r <|> r') text = some (a, rest) := by
  show (r text).orElse _ = _
  rw [h]
  rfl

theorem orElse_of_none (h : r text = none) : (r <|> r') text = r' text := by
  show (r text).orElse _ = _
  rw [h]
  rfl

/-! ## Characters -/

theorem satisfy_of_pos (h : p c = true) : satisfy p (c :: rest) = some (c, rest) := by
  rw [satisfy, if_pos h]

theorem satisfy_of_neg (h : p c = false) : satisfy p (c :: rest) = none := by
  rw [satisfy, if_neg (Bool.eq_false_iff.1 h)]

theorem char_self : char c (c :: rest) = some ((), rest) :=
  bind_of_some (satisfy_of_pos (beq_self_eq_true c))

theorem char_of_ne (h : c ≠ mark) : char mark (c :: rest) = none :=
  bind_of_none (satisfy_of_neg (beq_false_of_ne h))

theorem exactly_append (cs : List Char) : exactly cs (cs ++ rest) = some ((), rest) := by
  induction cs with
  | nil => rfl
  | cons c cs ih => exact (bind_of_some char_self).trans ih

/-- The front of a text that is the longest one of characters with a property. -/
theorem run_append {taken : List Char} (all : ∀ c ∈ taken, p c = true)
    (stops : ∀ c ∈ rest.head?, p c = false) : run p (taken ++ rest) = some (taken, rest) := by
  have stopped : rest.takeWhile p = [] ∧ rest.dropWhile p = rest := by
    cases rest with
    | nil => exact ⟨rfl, rfl⟩
    | cons c rest =>
      have refused : ¬ p c = true := Bool.eq_false_iff.1 (stops c rfl)
      exact ⟨List.takeWhile_cons_of_neg refused, List.dropWhile_cons_of_neg refused⟩
  rw [run, List.span_eq_takeWhile_dropWhile, List.takeWhile_append_of_pos all,
    List.dropWhile_append_of_pos all, stopped.1, stopped.2, List.append_nil]

/-! ## Repetition -/

theorem optional_of_none (h : r text = none) : optional r text = some (none, text) :=
  orElse_of_none (map_of_none h)

theorem many_of_none (h : r text = none) : many r text = some ([], text) := by
  unfold many
  cases text with
  | nil => rfl
  | cons c rest =>
    rw [List.length_cons, repeated, h]

theorem separated_one {separator : Reader Unit} (first : r text = some (a, rest))
    (alone : separator rest = none) : separated r separator text = some ([a], rest) :=
  (bind_of_some first).trans (bind_of_some (many_of_none (bind_of_none alone)))

end Reader

/-! ## Blanks and the ends of lines -/

theorem blanks_of_stop (stops : ∀ c ∈ text.head?, isBlankChar c = false) :
    blanks text = some ((), text) := by
  have nothing : Reader.run isBlankChar ([] ++ text) = some ([], text) :=
    Reader.run_append (by simp) stops
  exact Reader.bind_of_some nothing

theorem blanks_space (stops : ∀ c ∈ text.head?, isBlankChar c = false) :
    blanks (' ' :: text) = some ((), text) := by
  have space : Reader.run isBlankChar ([' '] ++ text) = some ([' '], text) :=
    Reader.run_append (List.forall_mem_singleton.2 rfl) stops
  exact Reader.bind_of_some space

theorem newline_self : newline ('\n' :: rest) = some ((), rest) :=
  Reader.orElse_of_some Reader.char_self

theorem endOfLine_newline : endOfLine ('\n' :: rest) = some ((), rest) := by
  have no_blank : blanks ('\n' :: rest) = some ((), '\n' :: rest) :=
    blanks_of_stop (by simp [isBlankChar])
  have no_comment : comment ('\n' :: rest) = none :=
    Reader.bind_of_none (Reader.char_of_ne (by decide))
  exact (Reader.bind_of_some no_blank).trans ((Reader.bind_of_some
    (Reader.optional_of_none no_comment)).trans (Reader.orElse_of_some newline_self))

end Quartermaster.Toml
