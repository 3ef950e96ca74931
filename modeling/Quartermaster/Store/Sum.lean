import Quartermaster.Word

/-!
# Sums in the storage

A column of numbers is not limited to words. When the storage itself adds to what is kept there, and
the sum is not a word, it goes on in doubles, and what it keeps is the double next to the sum
(`storedSum`). Such a number cannot be read as a word any more.
-/

namespace Quartermaster

namespace Double

/-- How far the doubles of the size of a number are apart; they have 53 bits. -/
def spacing (n : Nat) : Nat := 1 <<< (n.log2 - 52)

/-- The nearest double, of two that are as near the even one. -/
def nearestNat (n : Nat) : Nat :=
  let whole := n / spacing n
  let rest := n % spacing n
  if 2 * rest < spacing n ∨ (2 * rest = spacing n ∧ whole % 2 = 0) then whole * spacing n
  else (whole + 1) * spacing n

/-- The double nearest to a number with a sign. -/
def nearest (n : Int) : Int := n.sign * nearestNat n.natAbs

end Double

/-- What is kept when the storage changes a number by another one. Words are added without loss as
long as the sum is a word; all other sums are sums of doubles. -/
def storedSum (kept change : Int) : Int :=
  if fitsWord kept && fitsWord (kept + change) then kept + change
  else Double.nearest (Double.nearest kept + Double.nearest change)

end Quartermaster
