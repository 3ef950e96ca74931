import Mathlib.Algebra.Group.Nat.Defs
import Mathlib.Data.Nat.Log
import Quartermaster.Store.Sum

/-!
# When a sum in the storage is exact

A sum that is not a word is rounded twice, and rounding must not bring it back into the words: then
it would be read as if nothing had happened. It does not (`nearest_carry`), so a sum that can be read
as a word is the sum (`storedSum_eq`).

1. `Double.nearest_mono`: rounding keeps the order.
2. `Double.nearest_carry`: what adds up to 2^63 or more still does so when it is rounded.
3. `storedSum_eq`, `storedSum_mono`.
-/

namespace Quartermaster

namespace Double

variable {m n k : Nat}

theorem spacing_eq (n : Nat) : spacing n = 2 ^ (n.log2 - 52) := Nat.one_shiftLeft _

theorem spacing_pos (n : Nat) : 0 < spacing n := by
  rw [spacing_eq]
  exact Nat.two_pow_pos _

/-- Rounding does not go beyond a multiple of the spacing. -/
theorem nearestNat_le (h : n ≤ k * spacing n) : nearestNat n ≤ k * spacing n := by
  have pos := spacing_pos n
  have parts := Nat.div_add_mod' n (spacing n)
  unfold nearestNat
  dsimp only
  split
  · exact Nat.mul_le_mul_right _ (Nat.div_le_of_le_mul (by rwa [Nat.mul_comm]))
  · next up =>
    -- rounded up, the number is no multiple itself
    have rest : 0 < n % spacing n := by
      by_contra none
      exact up (.inl (by omega))
    have below : n / spacing n < k := by
      by_contra above
      have := Nat.mul_le_mul_right (spacing n) (Nat.le_of_not_lt above)
      omega
    exact Nat.mul_le_mul_right _ below

theorem le_nearestNat (h : k * spacing n ≤ n) : k * spacing n ≤ nearestNat n := by
  have below : k ≤ n / spacing n := (Nat.le_div_iff_mul_le (spacing_pos n)).2 h
  unfold nearestNat
  dsimp only
  split
  · exact Nat.mul_le_mul_right _ below
  · exact Nat.mul_le_mul_right _ (Nat.le_succ_of_le below)

/-- A multiple of the spacing is a double. -/
theorem nearestNat_of_dvd (h : spacing n ∣ n) : nearestNat n = n := by
  obtain ⟨k, eq⟩ := h
  have eq : n = k * spacing n := eq.trans (Nat.mul_comm _ _)
  exact Nat.le_antisymm ((nearestNat_le (Nat.le_of_eq eq)).trans_eq eq.symm)
    (eq.le.trans (le_nearestNat (Nat.le_of_eq eq.symm)))

@[simp] theorem nearestNat_zero : nearestNat 0 = 0 := nearestNat_of_dvd (Nat.dvd_zero _)

/-- A power of two that is not smaller than the number bounds what it is rounded to. -/
theorem nearestNat_le_two_pow (h : n < 2 ^ k) : nearestNat n ≤ 2 ^ k := by
  by_cases zero : n = 0
  · simp [zero]
  have size : n.log2 < k := (Nat.log2_lt zero).2 h
  have split : 2 ^ k = 2 ^ (k - (n.log2 - 52)) * spacing n := by
    rw [spacing_eq, ← Nat.pow_add]
    congr 1
    omega
  rw [split]
  exact nearestNat_le (split ▸ h.le)

theorem two_pow_le_nearestNat (h : 2 ^ k ≤ n) : 2 ^ k ≤ nearestNat n := by
  have zero : n ≠ 0 := (Nat.lt_of_lt_of_le (Nat.two_pow_pos k) h).ne'
  have split : 2 ^ n.log2 = 2 ^ (n.log2 - (n.log2 - 52)) * spacing n := by
    rw [spacing_eq, ← Nat.pow_add]
    congr 1
    omega
  calc 2 ^ k
    _ ≤ 2 ^ n.log2 := Nat.pow_le_pow_right (by decide) ((Nat.le_log2 zero).2 h)
    _ = 2 ^ (n.log2 - (n.log2 - 52)) * spacing n := split
    _ ≤ nearestNat n := le_nearestNat (split ▸ Nat.log2_self_le zero)

/-- Rounding keeps the order. -/
theorem nearestNat_mono (h : m ≤ n) : nearestNat m ≤ nearestNat n := by
  by_cases zero : m = 0
  · simp [zero]
  have zero' : n ≠ 0 := by omega
  by_cases size : m.log2 < n.log2
  · -- a power of two lies between them
    exact (nearestNat_le_two_pow (Nat.lt_log2_self)).trans
      ((Nat.pow_le_pow_right (by decide) size).trans
        (two_pow_le_nearestNat (Nat.log2_self_le zero')))
  have same : spacing m = spacing n := by
    have := (Nat.le_log2 zero').2 ((Nat.log2_self_le zero).trans h)
    rw [spacing_eq, spacing_eq, show m.log2 = n.log2 by omega]
  have pos := spacing_pos n
  have parts_m := Nat.div_add_mod' m (spacing n)
  have parts_n := Nat.div_add_mod' n (spacing n)
  by_cases whole : m / spacing n = n / spacing n
  · unfold nearestNat
    dsimp only
    rw [same, whole]
    rw [whole] at parts_m
    split
    · split
      · exact Nat.le_refl _
      · exact Nat.mul_le_mul_right _ (Nat.le_succ _)
    · rw [if_neg (by omega)]
  · have next : m / spacing n + 1 ≤ n / spacing n :=
      Nat.lt_of_le_of_ne (Nat.div_le_div_right h) whole
    have above : m ≤ n / spacing n * spacing m := by
      have := Nat.mul_le_mul_right (spacing n) next
      rw [Nat.add_mul] at this
      have := Nat.mod_lt m pos
      rw [same]
      omega
    calc nearestNat m
      _ ≤ n / spacing n * spacing m := nearestNat_le above
      _ = n / spacing n * spacing n := by rw [same]
      _ ≤ nearestNat n := le_nearestNat (Nat.div_mul_le_self n _)

/-- Below 2^63 the doubles are 1024 apart, below 2^62 they are nearer. -/
theorem spacing_top (low : 0x4000000000000000 ≤ n) (high : n < 0x8000000000000000) :
    spacing n = 1024 := by
  have size : n.log2 = 62 := (Nat.log2_eq_iff (by omega)).2 ⟨low, high⟩
  simp [spacing_eq, size]

theorem spacing_dvd (h : n ≤ 0x4000000000000000) (fine : 512 ∣ n) : spacing n ∣ n := by
  by_cases top : n = 0x4000000000000000
  · rw [top]
    decide
  by_cases zero : n = 0
  · exact zero ▸ Nat.dvd_zero _
  have size : n.log2 < 62 := (Nat.log2_lt zero).2 (Nat.lt_of_le_of_ne h top)
  rw [spacing_eq]
  exact Nat.dvd_trans (Nat.pow_dvd_pow 2 (show n.log2 - 52 ≤ 9 by omega)) fine

/-- Of two numbers that add up to 2^63, rounding loses at most half of the spacing there. -/
theorem nearestNat_add {a b : Nat} (sum : 0x8000000000000000 ≤ a + b) (le : b ≤ a) :
    0x8000000000000000 - 512 ≤ nearestNat a + nearestNat b := by
  by_cases large : 0x8000000000000000 ≤ a
  · have : 0x8000000000000000 ≤ nearestNat a := two_pow_le_nearestNat (k := 63) large
    omega
  have top : spacing a = 1024 := spacing_top (by omega) (by omega)
  have parts := Nat.div_add_mod' a 1024
  have near : ∃ q, nearestNat a = q * 1024 ∧ nearestNat a ≤ a + 512 ∧ a ≤ nearestNat a + 512 := by
    unfold nearestNat
    dsimp only
    rw [top]
    split
    · exact ⟨_, rfl, by omega, by omega⟩
    · exact ⟨_, rfl, by omega, by omega⟩
  obtain ⟨q, multiple, above, below⟩ := near
  by_cases enough : 0x8000000000000000 ≤ nearestNat a + 512
  · omega
  -- what is missing at 2^63, less half of the spacing, is a double not larger than `b`
  have missing : 0x8000000000000000 - 512 - nearestNat a ≤ b := by omega
  have exact' := nearestNat_of_dvd
    (spacing_dvd (n := 0x8000000000000000 - 512 - nearestNat a) (by omega) (by omega))
  have := nearestNat_mono missing
  omega

/-- What adds up to 2^63 or more still does so when it is rounded: the one double that half of the
spacing could lead to is odd. -/
theorem nearestNat_carry {a b : Nat} (sum : 0x8000000000000000 ≤ a + b) :
    0x8000000000000000 ≤ nearestNat (nearestNat a + nearestNat b) := by
  have most : 0x8000000000000000 - 512 ≤ nearestNat a + nearestNat b := by
    rcases Nat.le_total b a with le | le
    · exact nearestNat_add sum le
    · rw [Nat.add_comm] at sum ⊢
      exact nearestNat_add sum le
  exact nearestNat_mono most

/-! ## Numbers with a sign -/

variable {i j : Int}

@[simp] theorem nearest_natCast (n : Nat) : nearest n = nearestNat n := by
  by_cases zero : n = 0
  · rw [zero]
    rfl
  · rw [nearest, Int.natAbs_natCast, Int.sign_natCast_of_ne_zero zero, Int.one_mul]

theorem nearest_neg (i : Int) : nearest (-i) = -nearest i := by
  rw [nearest, nearest, Int.sign_neg, Int.natAbs_neg, Int.neg_mul]

theorem nearest_nonneg (h : 0 ≤ i) : 0 ≤ nearest i := by
  obtain ⟨n, rfl⟩ := Int.eq_ofNat_of_zero_le h
  simp

/-- Rounding keeps the order. -/
theorem nearest_mono (h : i ≤ j) : nearest i ≤ nearest j := by
  have whole {i j : Int} (nonneg : 0 ≤ i) (h : i ≤ j) : nearest i ≤ nearest j := by
    obtain ⟨m, rfl⟩ := Int.eq_ofNat_of_zero_le nonneg
    obtain ⟨n, rfl⟩ := Int.eq_ofNat_of_zero_le (nonneg.trans h)
    simpa using nearestNat_mono (Int.ofNat_le.1 h)
  rcases Int.le_total 0 i with nonneg | negative
  · exact whole nonneg h
  rcases Int.le_total 0 j with nonneg' | negative'
  · have := nearest_nonneg (i := -i) (by omega)
    have := nearest_nonneg nonneg'
    rw [nearest_neg] at *
    omega
  · have := whole (i := -j) (j := -i) (by omega) (by omega)
    rw [nearest_neg, nearest_neg] at this
    omega

theorem nearest_carry (nonneg : 0 ≤ i) (nonneg' : 0 ≤ j) (sum : 0x8000000000000000 ≤ i + j) :
    0x8000000000000000 ≤ nearest (nearest i + nearest j) := by
  obtain ⟨a, rfl⟩ := Int.eq_ofNat_of_zero_le nonneg
  obtain ⟨b, rfl⟩ := Int.eq_ofNat_of_zero_le nonneg'
  have := nearestNat_carry (a := a) (b := b) (by omega)
  rw [nearest_natCast, nearest_natCast, ← Int.natCast_add, nearest_natCast]
  omega

theorem nearest_neg_of_neg (h : i < 0) : nearest i < 0 := by
  have one : nearest 1 = 1 := by decide
  have := nearest_mono (i := 1) (j := -i) (by omega)
  rw [nearest_neg] at this
  omega

/-- A number below 2^63 stays below one that is 2^63 larger. -/
theorem nearest_lt (high : i < 0x8000000000000000) (h : i + 0x8000000000000000 ≤ j)
    (nonneg : 0 ≤ i) : nearest i < nearest j := by
  by_cases low : i ≤ 0x4000000000000000
  · have below : nearest 0x4000000000000000 < nearest 0x8000000000000000 := by decide
    have := nearest_mono low
    have := nearest_mono (i := 0x8000000000000000) (j := j) (by omega)
    omega
  · have below : nearest 0x8000000000000000 < nearest 0xC000000000000000 := by decide
    have := nearest_mono high.le
    have := nearest_mono (i := 0xC000000000000000) (j := j) (by omega)
    omega

end Double

/-! ## Sums -/

section Sums

variable {kept change : Int}

theorem storedSum_of_word (word : fitsWord kept = true) (sum : fitsWord (kept + change) = true) :
    storedSum kept change = kept + change := by
  rw [storedSum, word, sum]
  rfl

/-- A sum that is too large for a word is kept as a number that is too large for one. -/
theorem le_storedSum (nonneg : 0 ≤ kept) (beyond : 0x8000000000000000 ≤ kept + change)
    (word : fitsWord kept = true) : 0x8000000000000000 ≤ storedSum kept change := by
  have bound := fitsWord_iff.1 word
  have large : ¬fitsWord (kept + change) = true := fun fits => by
    have := fitsWord_iff.1 fits
    omega
  rw [storedSum, word, Bool.eq_false_iff.2 large]
  exact Double.nearest_carry nonneg (by omega) beyond

/-- A sum that is too small for a word is kept as a number below zero. -/
theorem storedSum_neg (nonneg : 0 ≤ kept) (under : kept + change < -0x8000000000000000)
    (word : fitsWord kept = true) : storedSum kept change < 0 := by
  have bound := fitsWord_iff.1 word
  have small : ¬fitsWord (kept + change) = true := fun fits => by
    have := fitsWord_iff.1 fits
    omega
  have := Double.nearest_lt (i := kept) (j := -change) bound.2 (by omega) nonneg
  rw [Double.nearest_neg] at this
  rw [storedSum, word, Bool.eq_false_iff.2 small]
  exact Double.nearest_neg_of_neg (by omega)

/-- A sum that is not below zero and can be read as a word is the sum. -/
theorem storedSum_eq (word : fitsWord kept = true) (nonneg : 0 ≤ kept)
    (reads : fitsWord (storedSum kept change) = true) (nonneg' : 0 ≤ storedSum kept change) :
    storedSum kept change = kept + change := by
  have bound := fitsWord_iff.1 reads
  refine storedSum_of_word word (fitsWord_iff.2 ⟨?_, ?_⟩)
  · by_contra under
    have := storedSum_neg nonneg (Int.not_le.1 under) word
    omega
  · by_contra beyond
    have := le_storedSum nonneg (Int.not_lt.1 beyond) word
    omega

theorem le_storedSum_self (nonneg : 0 ≤ kept) (added : 0 ≤ change) (word : fitsWord kept = true) :
    kept ≤ storedSum kept change := by
  have bound := fitsWord_iff.1 word
  by_cases sum : fitsWord (kept + change) = true
  · rw [storedSum_of_word word sum]
    omega
  · have beyond : 0x8000000000000000 ≤ kept + change := by
      rw [fitsWord_iff] at sum
      omega
    have := le_storedSum nonneg beyond word
    omega

/-- A larger number stays the larger one when the same is added to both. -/
theorem storedSum_mono {more : Int} (nonneg : 0 ≤ kept) (le : kept ≤ more) (added : 0 ≤ change)
    (word : fitsWord kept = true) (word' : fitsWord more = true) :
    storedSum kept change ≤ storedSum more change := by
  by_cases sum : fitsWord (kept + change) = true
  · have bound := fitsWord_iff.1 sum
    rw [storedSum_of_word word sum]
    by_cases sum' : fitsWord (more + change) = true
    · rw [storedSum_of_word word' sum']
      omega
    · have beyond : 0x8000000000000000 ≤ more + change := by
        rw [fitsWord_iff] at sum'
        omega
      have := le_storedSum (nonneg.trans le) beyond word'
      omega
  · have sum' : ¬fitsWord (more + change) = true := by
      rw [fitsWord_iff] at sum ⊢
      omega
    rw [storedSum, storedSum, word, word', Bool.eq_false_iff.2 sum, Bool.eq_false_iff.2 sum']
    exact Double.nearest_mono (Int.add_le_add_right (Double.nearest_mono le) _)

end Sums

end Quartermaster
