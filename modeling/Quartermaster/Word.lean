/-!
# Words

The integers that are kept and exchanged have 64 bits with a sign. Sums are made without a limit and
then have to fit (`fitsWord`).
-/

namespace Quartermaster

/-- Whether a number has 64 bits with a sign. -/
def fitsWord (n : Int) : Bool := -0x8000000000000000 ≤ n && n < 0x8000000000000000

theorem fitsWord_iff {n : Int} :
    fitsWord n = true ↔ -9223372036854775808 ≤ n ∧ n < 9223372036854775808 := by
  simp [fitsWord]

theorem fitsWord_toInt (w : Int64) : fitsWord w.toInt = true :=
  fitsWord_iff.2 ⟨w.le_toInt, w.toInt_lt⟩

end Quartermaster
