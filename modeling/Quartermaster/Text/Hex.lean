/-!
# Hexadecimal digits

Lower-case hexadecimal text of a natural number, and its value. Reading gives back the number
that was written (`value?_digits`), also behind leading zeros (`value?_padded`), so two numbers
never share a text.
-/

namespace Quartermaster.Text.Hex

/-- The digit for a value below sixteen. -/
def digit (n : Nat) : Char :=
  if n < 10 then Char.ofNat (48 + n) else Char.ofNat (87 + n)

/-- The value of a digit in either case. -/
def digitValue? (c : Char) : Option Nat :=
  if '0' ≤ c ∧ c ≤ '9' then some (c.toNat - 48)
  else if 'a' ≤ c ∧ c ≤ 'f' then some (c.toNat - 87)
  else if 'A' ≤ c ∧ c ≤ 'F' then some (c.toNat - 55)
  else none

/-- The digits of `n`, most significant first; zero has one digit. -/
def digits (n : Nat) : List Char :=
  if n < 16 then [digit n] else digits (n / 16) ++ [digit (n % 16)]

/-- At least `width` digits, with leading zeros. -/
def padded (width n : Nat) : List Char :=
  List.replicate (width - (digits n).length) '0' ++ digits n

/-- The value of digits that follow digits of value `acc`. -/
def valueFrom? (acc : Nat) : List Char → Option Nat
  | [] => some acc
  | c :: rest => (digitValue? c).bind fun d => valueFrom? (acc * 16 + d) rest

/-- The number that the digits write; `none` when one of them is no digit. -/
def value? (cs : List Char) : Option Nat :=
  valueFrom? 0 cs

theorem digitValue?_digit {n : Nat} (h : n < 16) : digitValue? (digit n) = some n := by
  have all : ∀ m : Fin 16, digitValue? (digit m) = some m.val := by decide
  exact all ⟨n, h⟩

theorem valueFrom?_append (acc : Nat) (xs ys : List Char) :
    valueFrom? acc (xs ++ ys) = (valueFrom? acc xs).bind fun v => valueFrom? v ys := by
  induction xs generalizing acc with
  | nil => rfl
  | cons c rest ih =>
    cases hd : digitValue? c with
    | none => simp [valueFrom?, hd]
    | some d => simp [valueFrom?, hd, ih]

theorem value?_digits (n : Nat) : value? (digits n) = some n := by
  induction n using digits.induct with
  | case1 n h => rw [digits, if_pos h]; simp [value?, valueFrom?, digitValue?_digit h]
  | case2 n h ih =>
    have hlt : n % 16 < 16 := Nat.mod_lt _ (by decide)
    rw [digits, if_neg h, value?, valueFrom?_append, ← value?, ih]
    simp [valueFrom?, digitValue?_digit hlt]
    omega

theorem value?_padded (width n : Nat) : value? (padded width n) = some n := by
  have zeros : ∀ k, valueFrom? 0 (List.replicate k '0') = some 0 := by
    intro k
    induction k with
    | zero => rfl
    | succ k ih =>
      have : digitValue? '0' = some 0 := by decide
      simpa [List.replicate_succ, valueFrom?, this] using ih
  rw [padded, value?, valueFrom?_append, zeros]
  exact value?_digits n

end Quartermaster.Text.Hex
