/-!
# Blank text

A name or a public id that a caller gives must hold at least one character that is not white
space. White space is the Unicode property `White_Space`, so a no-break space or an ideographic
space does not make a name.

Text with one other character is not blank (`isBlank_eq_false_iff`).
-/

namespace Quartermaster.Text

/-- The code points of the Unicode property `White_Space`, as closed ranges in ascending order. -/
def whiteSpaceRanges : List (Nat × Nat) :=
  [(0x09, 0x0D), (0x20, 0x20), (0x85, 0x85), (0xA0, 0xA0), (0x1680, 0x1680), (0x2000, 0x200A),
   (0x2028, 0x2029), (0x202F, 0x202F), (0x205F, 0x205F), (0x3000, 0x3000)]

example : whiteSpaceRanges.foldl (fun n r => n + (r.2 + 1 - r.1)) 0 = 25 := by decide

def isWhiteSpace (c : Char) : Bool :=
  whiteSpaceRanges.any fun r => r.1 ≤ c.toNat && c.toNat ≤ r.2

/-- Text is blank when nothing but white space is in it. -/
def isBlank (s : String) : Bool :=
  s.toList.all isWhiteSpace

theorem isBlank_eq_false_iff {s : String} :
    isBlank s = false ↔ ∃ c ∈ s.toList, isWhiteSpace c = false := by
  simp [isBlank]

end Quartermaster.Text
