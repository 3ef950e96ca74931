import Mathlib.Data.List.Basic
import Quartermaster.Proofs.Toml.Readers
import Quartermaster.Toml.Number

/-!
# Integers are read as they were written

An integer at the end of a line is read if it has 64 bits, and is refused otherwise. Everything that
is tried before it, dates and times and floats, refuses it.
-/

namespace Quartermaster.Toml

variable {α : Type} {ds rest : List Char} {mark : Char}

/-- The sign of an integer, as it is written. -/
def minus (negative : Bool) : List Char := if negative then ['-'] else []

/-- Digits of an integer: there are some, and the first one is zero only if it is alone. -/
structure Digits (ds : List Char) : Prop where
  digits : ∀ c ∈ ds, c.isDigit = true
  nonempty : ds ≠ []
  leading : ds.head? = some '0' → ds.length = 1

/-! ## Digits -/

/-- A mark is neither a digit nor the end of a line. -/
def IsMark (mark : Char) : Prop := mark.isDigit = false ∧ mark ≠ '\n'

/-- No mark follows digits. -/
theorem char_refuses (digits : ∀ c ∈ ds, c.isDigit = true) (is_mark : IsMark mark)
    {r : Reader α} : (do Reader.char mark; r) (ds ++ '\n' :: rest) = none := by
  cases ds with
  | nil => exact Reader.bind_of_none (Reader.char_of_ne (Ne.symm is_mark.2))
  | cons c ds =>
    have digit := digits c (List.mem_cons_self ..)
    refine Reader.bind_of_none (Reader.char_of_ne ?_)
    rintro rfl
    rw [is_mark.1] at digit
    cases digit

/-- What is taken off digits leaves digits. -/
theorem times_digits (rest : List Char) (digits : ∀ c ∈ ds, c.isDigit = true) (n : Nat) :
    Reader.times n Char.isDigit (ds ++ '\n' :: rest) = none ∨
      ∃ taken left, (∀ c ∈ left, c.isDigit = true) ∧
        Reader.times n Char.isDigit (ds ++ '\n' :: rest) = some (taken, left ++ '\n' :: rest) := by
  induction n generalizing ds with
  | zero => exact .inr ⟨[], ds, digits, rfl⟩
  | succ n ih =>
    cases ds with
    | nil => exact .inl (Reader.bind_of_none (Reader.satisfy_of_neg (by decide)))
    | cons c ds =>
      obtain ⟨digit, others⟩ := List.forall_mem_cons.1 digits
      have first : Reader.satisfy Char.isDigit (c :: (ds ++ '\n' :: rest)) = _ :=
        Reader.satisfy_of_pos digit
      rcases ih others with refused | ⟨taken, left, all, took⟩
      · exact .inl ((Reader.bind_of_some first).trans (Reader.bind_of_none refused))
      · exact .inr ⟨c :: taken, left, all,
          (Reader.bind_of_some first).trans (Reader.bind_of_some took)⟩

/-- A number of so many digits, and a mark behind it, is nothing that digits begin with. -/
theorem field_refuses (negative : Bool) (digits : ∀ c ∈ ds, c.isDigit = true)
    (is_mark : IsMark mark) {width low high : Nat} {k : Nat → Reader α} :
    (do let n ← field (width + 1) low high
        Reader.char mark
        k n) (minus negative ++ (ds ++ '\n' :: rest)) = none := by
  cases negative with
  | true =>
    have refused : field (width + 1) low high ('-' :: (ds ++ '\n' :: rest)) = none :=
      Reader.bind_of_none (Reader.bind_of_none (Reader.satisfy_of_neg (by decide)))
    exact Reader.bind_of_none refused
  | false =>
    show (field (width + 1) low high >>= _) (ds ++ '\n' :: rest) = none
    rcases times_digits rest digits (width + 1) with refused | ⟨taken, left, all, took⟩
    · exact Reader.bind_of_none (Reader.bind_of_none refused)
    · by_cases within : low ≤ decimal taken ∧ decimal taken ≤ high
      · have read : field (width + 1) low high (ds ++ '\n' :: rest) =
            some (decimal taken, left ++ '\n' :: rest) := by
          refine (Reader.bind_of_some took).trans ?_
          rw [if_pos within]
          rfl
        exact (Reader.bind_of_some read).trans (char_refuses all is_mark)
      · have refused : field (width + 1) low high (ds ++ '\n' :: rest) = none := by
          refine (Reader.bind_of_some took).trans ?_
          rw [if_neg within]
          rfl
        exact Reader.bind_of_none refused

theorem dateTime_refuses (negative : Bool) (digits : ∀ c ∈ ds, c.isDigit = true) :
    dateTime (minus negative ++ (ds ++ '\n' :: rest)) = none := by
  have no_date : date (minus negative ++ (ds ++ '\n' :: rest)) = none :=
    field_refuses negative digits ⟨by decide, by decide⟩
  have no_time : time (minus negative ++ (ds ++ '\n' :: rest)) = none :=
    field_refuses negative digits ⟨by decide, by decide⟩
  exact (Reader.orElse_of_none (Reader.bind_of_none no_date)).trans no_time

/-! ## Integers -/

section Integers

variable (negative : Bool) (number : Digits ds)

include number

/-- The first digit of a number, and what comes behind it. -/
theorem Digits.cons : ∃ c cs, ds = c :: cs ∧ c.isDigit = true ∧ ∀ x ∈ cs, x.isDigit = true := by
  obtain ⟨c, cs, rfl⟩ := List.exists_cons_of_ne_nil number.nonempty
  exact ⟨c, cs, rfl, List.forall_mem_cons.1 number.digits⟩

theorem sign_digits :
    sign (minus negative ++ (ds ++ '\n' :: rest)) = some (negative, ds ++ '\n' :: rest) := by
  cases negative with
  | true => rfl
  | false =>
    obtain ⟨c, cs, rfl, digit, _⟩ := number.cons
    have unsigned : (c == '+' || c == '-') = false := by
      rw [Bool.or_eq_false_iff, beq_eq_false_iff_ne, beq_eq_false_iff_ne]
      constructor <;> rintro rfl <;> exact absurd digit (by decide)
    exact Reader.bind_of_some (Reader.optional_of_none (Reader.satisfy_of_neg unsigned))

omit number in
theorem wellSpaced_of_notMem (nonempty : ds ≠ []) (spaceless : '_' ∉ ds) :
    wellSpaced ds = true := by
  fun_induction wellSpaced ds <;> simp_all [@eq_comm _ '_']

theorem digits_digits : digits Char.isDigit (ds ++ '\n' :: rest) = some (ds, '\n' :: rest) := by
  have spaceless : '_' ∉ ds := fun among => absurd (number.digits _ among) (by decide)
  have taken : ∀ c ∈ ds, (c.isDigit || c == '_') = true := fun c among =>
    Bool.or_eq_true_iff.2 (.inl (number.digits c among))
  have kept : ds.filter (· != '_') = ds :=
    List.filter_eq_self.2 fun c among => bne_iff_ne.2 fun same => spaceless (same ▸ among)
  have read : Reader.run _ (ds ++ '\n' :: rest) = _ := Reader.run_append taken (by simp)
  refine (Reader.bind_of_some read).trans ?_
  rw [if_pos (wellSpaced_of_notMem number.nonempty spaceless), kept]
  rfl

theorem wholeDigits_digits : wholeDigits (ds ++ '\n' :: rest) = some (ds, '\n' :: rest) := by
  have not_padded : ¬ (ds.head? == some '0' && decide (1 < ds.length)) = true := by
    intro padded
    simp only [Bool.and_eq_true, beq_iff_eq, decide_eq_true_eq] at padded
    exact absurd (number.leading padded.1) (Nat.ne_of_gt padded.2)
  refine (Reader.bind_of_some (digits_digits number)).trans ?_
  rw [if_neg not_padded]
  rfl

/-- Without a fraction and an exponent there is no float. -/
theorem plainFloat_refuses : plainFloat (minus negative ++ (ds ++ '\n' :: rest)) = none := by
  have no_fraction : (do Reader.char '.'; digits Char.isDigit) ('\n' :: rest) = none :=
    Reader.bind_of_none (Reader.char_of_ne (by decide))
  have no_exponent : exponent ('\n' :: rest) = none :=
    Reader.bind_of_none (Reader.satisfy_of_neg (by decide))
  refine (Reader.bind_of_some (sign_digits negative number)).trans ?_
  refine (Reader.bind_of_some (wholeDigits_digits number)).trans ?_
  refine (Reader.bind_of_some (Reader.optional_of_none no_fraction)).trans ?_
  exact (Reader.bind_of_some (Reader.optional_of_none no_exponent)).trans rfl

theorem based_refuses (is_mark : IsMark mark) (base : Nat) :
    based mark base (minus negative ++ (ds ++ '\n' :: rest)) = none := by
  have unmarked : Reader.exactly ['0', mark] (minus negative ++ (ds ++ '\n' :: rest)) = none := by
    cases negative with
    | true => rfl
    | false =>
      obtain ⟨c, cs, rfl, digit, digits⟩ := number.cons
      by_cases zero : c = '0'
      · subst zero
        exact (Reader.bind_of_some Reader.char_self).trans (char_refuses digits is_mark)
      · exact Reader.bind_of_none (Reader.char_of_ne zero)
  exact Reader.bind_of_none unmarked

theorem namedFloat_refuses : namedFloat (minus negative ++ (ds ++ '\n' :: rest)) = none := by
  refine (Reader.bind_of_some (sign_digits negative number)).trans ?_
  obtain ⟨c, cs, rfl, digit, _⟩ := number.cons
  have unnamed {mark : Char} {name : List Char} (is_mark : mark.isDigit = false) :
      Reader.exactly (mark :: name) (c :: cs ++ '\n' :: rest) = none := by
    refine Reader.bind_of_none (Reader.char_of_ne ?_)
    rintro rfl
    rw [is_mark] at digit
    cases digit
  exact (Reader.orElse_of_none (unnamed (by decide))).trans (unnamed (by decide))

/-- The number that is written. -/
def valueOf (negative : Bool) (ds : List Char) : Int :=
  if negative then -decimal ds else decimal ds

theorem integer_digits : integer (minus negative ++ (ds ++ '\n' :: rest)) =
    if fitsWord (valueOf negative ds) then some (valueOf negative ds, '\n' :: rest) else none := by
  have no_base {mark : Char} (is_mark : IsMark mark) (base : Nat) :
      based mark base (minus negative ++ (ds ++ '\n' :: rest)) = none :=
    based_refuses negative number is_mark base
  refine (Reader.bind_of_some
    (show _ = some (valueOf negative ds, '\n' :: rest) from ?_)).trans ?_
  · refine (Reader.orElse_of_none (no_base ⟨by decide, by decide⟩ 16)).trans ?_
    refine (Reader.orElse_of_none (no_base ⟨by decide, by decide⟩ 8)).trans ?_
    refine (Reader.orElse_of_none (no_base ⟨by decide, by decide⟩ 2)).trans ?_
    refine (Reader.bind_of_some (sign_digits negative number)).trans ?_
    exact Reader.bind_of_some (wholeDigits_digits number)
  · split <;> rfl

theorem scalar_digits : scalar (minus negative ++ (ds ++ '\n' :: rest)) =
    if fitsWord (valueOf negative ds) then some (.integer (valueOf negative ds), '\n' :: rest)
    else none := by
  have no_dateTime : written dateTime (minus negative ++ (ds ++ '\n' :: rest)) = none := by
    rw [written, dateTime_refuses negative number.digits]
    rfl
  have no_float {r : Reader Unit} (refused : r (minus negative ++ (ds ++ '\n' :: rest)) = none) :
      (Value.float <$> written r) (minus negative ++ (ds ++ '\n' :: rest)) = none := by
    refine Reader.map_of_none ?_
    rw [written, refused]
    rfl
  have read : integer (minus negative ++ (ds ++ '\n' :: rest)) = _ :=
    integer_digits negative number
  refine (Reader.orElse_of_none (Reader.map_of_none no_dateTime)).trans ?_
  refine (Reader.orElse_of_none (no_float (plainFloat_refuses negative number))).trans ?_
  by_cases fits : fitsWord (valueOf negative ds) = true
  · rw [if_pos fits] at read ⊢
    exact Reader.orElse_of_some (Reader.map_of_some read)
  · rw [if_neg fits] at read ⊢
    exact (Reader.orElse_of_none (Reader.map_of_none read)).trans
      (no_float (namedFloat_refuses negative number))

end Integers

/-! ## The text of an integer -/

theorem head_toDigits {n : Nat} (positive : 0 < n) : (Nat.toDigits 10 n).head? ≠ some '0' := by
  induction n using Nat.strongRecOn with
  | ind n ih =>
    by_cases single : n < 10
    · rw [Nat.toDigits_of_lt_base single]
      have all : ∀ m : Fin 10, 0 < m.val → [m.val.digitChar].head? ≠ some '0' := by decide
      exact all ⟨n, single⟩ positive
    · have shorter : n / 10 < n := Nat.div_lt_self positive (by decide)
      rw [Nat.toDigits_of_base_le (by decide) (Nat.le_of_not_lt single),
        List.head?_append_of_ne_nil _ Nat.toDigits_ne_nil]
      exact ih _ shorter (Nat.div_pos (Nat.le_of_not_lt single) (by decide))

theorem digits_toDigits (n : Nat) : Digits (Nat.toDigits 10 n) where
  digits _ among := Nat.isDigit_of_mem_toDigits (by decide) (by decide) among
  nonempty := Nat.toDigits_ne_nil
  leading zero := by
    obtain rfl : n = 0 := by
      by_contra positive
      exact head_toDigits (Nat.pos_of_ne_zero positive) zero
    rfl

theorem decimal_toDigits (n : Nat) : decimal (Nat.toDigits 10 n) = n := by
  have same : decimal (Nat.toDigits 10 n) = Nat.ofDigitChars 10 (Nat.toDigits 10 n) 0 := by
    unfold decimal Nat.ofDigitChars
    congr 1
    funext sofar c
    rw [Nat.mul_comm]
    rfl
  rw [same, Nat.ofDigitChars_toDigits (by decide) (by decide)]

/-- An integer is written as its sign and its digits. -/
theorem toList_toString (n : Int) : ∃ negative ds, Digits ds ∧ valueOf negative ds = n ∧
    (toString n).toList = minus negative ++ ds := by
  cases n with
  | ofNat m =>
    exact ⟨false, Nat.toDigits 10 m, digits_toDigits m, congrArg _ (decimal_toDigits m),
      Nat.toList_repr⟩
  | negSucc m =>
    refine ⟨true, Nat.toDigits 10 (m + 1), digits_toDigits _, ?_, ?_⟩
    · show -(decimal (Nat.toDigits 10 (m + 1)) : Int) = _
      rw [decimal_toDigits]
      rfl
    · show ("-" ++ (m + 1).repr).toList = _
      rw [String.toList_append, Nat.toList_repr]
      rfl

/-- An integer at the end of a line is read if it has 64 bits. -/
theorem scalar_toString (n : Int) : scalar ((toString n).toList ++ '\n' :: rest) =
    if fitsWord n then some (.integer n, '\n' :: rest) else none := by
  obtain ⟨negative, ds, digits, rfl, spelled⟩ := toList_toString n
  rw [spelled, List.append_assoc, scalar_digits negative digits]

end Quartermaster.Toml
