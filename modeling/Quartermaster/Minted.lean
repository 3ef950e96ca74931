import Quartermaster.Text.Hex

/-!
# Minted public ids

A row whose creator gives it no public id gets a minted one. Minted ids come from a supply and are
numbered in it from zero; each has the layout of a version 4 UUID whose last group is the number. No
text is minted twice (`text_injective`), and a number whose text is in use is passed over, so a
minted id is new (`text_firstFree`).
-/

namespace Quartermaster.Minted

/-- All of a minted id but the digits of its number. -/
def stem (supply : Nat) : List Char :=
  Text.Hex.padded 8 (supply / 0x10000000000) ++ '-' :: Text.Hex.padded 4 (supply / 0x1000000 % 0x10000)
    ++ '-' :: '4' :: Text.Hex.padded 3 (supply / 0x1000 % 0x1000)
    ++ '-' :: '8' :: Text.Hex.padded 3 (supply % 0x1000) ++ ['-']

/-- The public id with number `n`. -/
def text (supply n : Nat) : String :=
  String.ofList (stem supply ++ Text.Hex.padded 12 n)

/-- The first number from `n` on whose text is not in use, if there is one within `fuel` numbers. -/
def firstFree (supply : Nat) : Nat → List String → Nat → Nat
  | 0, _, n => n
  | fuel + 1, used, n =>
    if text supply n ∈ used then firstFree supply fuel (used.erase (text supply n)) (n + 1) else n

theorem text_injective {supply m n : Nat} (h : text supply m = text supply n) : m = n := by
  have same := List.append_cancel_left (String.ofList_injective h)
  have := congrArg Text.Hex.value? same
  simpa [Text.Hex.value?_padded] using this

theorem le_firstFree (supply fuel : Nat) (used : List String) (n : Nat) :
    n ≤ firstFree supply fuel used n := by
  induction fuel generalizing used n with
  | zero => exact Nat.le_refl n
  | succ fuel ih =>
    rw [firstFree]
    split
    · exact Nat.le_of_succ_le (ih _ (n + 1))
    · exact Nat.le_refl n

/-- As many numbers as there are texts in use are enough to find a text that is not. -/
theorem text_firstFree {supply fuel : Nat} {used : List String} (n : Nat)
    (enough : used.length ≤ fuel) : text supply (firstFree supply fuel used n) ∉ used := by
  induction fuel generalizing used n with
  | zero => simp [List.length_eq_zero_iff.1 (Nat.le_zero.1 enough)]
  | succ fuel ih =>
    rw [firstFree]
    split
    · next taken =>
      intro member
      have fewer : (used.erase (text supply n)).length ≤ fuel := by
        rw [List.length_erase_of_mem taken]
        omega
      refine ih (n + 1) fewer ((List.mem_erase_of_ne ?_).2 member)
      intro same
      have := le_firstFree supply fuel (used.erase (text supply n)) (n + 1)
      have := text_injective same
      omega
    · assumption

end Quartermaster.Minted
