import Mathlib.Data.List.Basic
import Mathlib.Data.List.TakeWhile
import Quartermaster.Http.Target
import Quartermaster.Text.Hex

/-!
# Segments of a path

Text is written as one segment of a path with some characters as they are and the bytes of all
others as a percent sign and two digits. Whichever characters are left as they are, so written text
is one segment. Nothing takes that back: the segment that is found is the written text.

1. `Segment.encode_eq_self`, `Segment.encode_ne_self`: text is written as itself just if all of its
   characters are left as they are.
2. `Segment.whole_encode`: written text is one segment.
3. `Spells.segments_eq`: of a path of names between slashes, whatever slashes are around them and
   whatever query or fragment is behind, the names are the segments.
-/

namespace Quartermaster.Http

/-- Characters that may stand in a segment as they are. -/
def isSegmentChar (c : Char) : Bool :=
  c.isAlphanum || "-._~!$&'()*+,;=:@".toList.contains c

namespace Segment

/-- A byte as a percent sign and two digits. -/
def escape (b : UInt8) : List Char :=
  ['%', (Text.Hex.digit (b.toNat / 16)).toUpper, (Text.Hex.digit (b.toNat % 16)).toUpper]

/-- A character of a segment. -/
def write (plain : Char → Bool) (c : Char) : List Char :=
  if plain c then [c] else (String.utf8EncodeChar c).flatMap escape

/-- Text as one segment of a path, in which the `plain` characters are left as they are. -/
def encode (plain : Char → Bool) (text : String) : String :=
  String.ofList (text.toList.flatMap (write plain))

/-- Whether a character can stand within a segment: it begins no other one, and does not end the
path. -/
def isInner (c : Char) : Bool := c != '/' && c != '?' && c != '#'

/-- Text that is one segment. -/
structure Whole (text : String) : Prop where
  nonempty : text.toList ≠ []
  inner : ∀ c ∈ text.toList, isInner c = true

variable {plain : Char → Bool} {text : String} {c : Char}

/-! ## Written text -/

theorem write_of_plain (h : plain c = true) : write plain c = [c] := if_pos h

theorem write_of_escaped (h : plain c = false) :
    write plain c = (String.utf8EncodeChar c).flatMap escape :=
  if_neg (Bool.eq_false_iff.1 h)

/-- What is escaped takes three characters at least. -/
theorem length_escaped (c : Char) : 3 ≤ ((String.utf8EncodeChar c).flatMap escape).length := by
  have bytes : 0 < (String.utf8EncodeChar c).length := by
    rw [String.length_utf8EncodeChar]
    exact c.utf8Size_pos
  obtain ⟨b, rest, spelled⟩ := List.exists_cons_of_length_pos bytes
  rw [spelled, List.flatMap_cons, List.length_append]
  exact Nat.le_add_right 3 _

theorem length_write (plain : Char → Bool) (c : Char) : 1 ≤ (write plain c).length := by
  cases h : plain c with
  | true =>
    rw [write_of_plain h]
    exact Nat.le_refl 1
  | false =>
    rw [write_of_escaped h]
    exact Nat.le_trans (by decide) (length_escaped c)

theorem length_le_flatMap_write (plain : Char → Bool) (cs : List Char) :
    cs.length ≤ (cs.flatMap (write plain)).length := by
  induction cs with
  | nil => exact Nat.le_refl 0
  | cons c rest ih =>
    have one := length_write plain c
    rw [List.flatMap_cons, List.length_append, List.length_cons]
    omega

theorem length_lt_flatMap_write {cs : List Char} (among : c ∈ cs) (escaped : plain c = false) :
    cs.length < (cs.flatMap (write plain)).length := by
  induction cs with
  | nil => cases among
  | cons first rest ih =>
    rw [List.flatMap_cons, List.length_append, List.length_cons]
    rcases List.mem_cons.1 among with rfl | later
    · have three := length_escaped c
      have others := length_le_flatMap_write plain rest
      rw [write_of_escaped escaped]
      omega
    · have one := length_write plain first
      have others := ih later
      omega

theorem encode_eq_self (left : ∀ c ∈ text.toList, plain c = true) : encode plain text = text := by
  have same : text.toList.flatMap (write plain) = text.toList := by
    generalize text.toList = cs at left
    induction cs with
    | nil => rfl
    | cons c rest ih =>
      obtain ⟨first, others⟩ := List.forall_mem_cons.1 left
      rw [List.flatMap_cons, write_of_plain first, ih others, List.singleton_append]
  rw [encode, same, String.ofList_toList]

theorem encode_ne_self (among : c ∈ text.toList) (escaped : plain c = false) :
    encode plain text ≠ text := by
  intro same
  have longer := length_lt_flatMap_write among escaped
  rw [← String.toList_ofList (l := text.toList.flatMap (write plain)), ← encode, same] at longer
  exact Nat.lt_irrefl _ longer

theorem isInner_of_isSegmentChar (h : isSegmentChar c = true) : isInner c = true := by
  simp only [isInner, Bool.and_eq_true, bne_iff_ne]
  refine ⟨⟨?_, ?_⟩, ?_⟩ <;> rintro rfl <;> exact absurd h (by decide)

theorem isInner_escape {b : UInt8} : ∀ c ∈ escape b, isInner c = true := by
  have digits : ∀ n : Fin 16, isInner (Text.Hex.digit n).toUpper = true := by decide
  have high : b.toNat / 16 < 16 := Nat.div_lt_of_lt_mul b.toNat_lt
  have low : b.toNat % 16 < 16 := Nat.mod_lt _ (by decide)
  exact List.forall_mem_cons.2 ⟨by decide, List.forall_mem_cons.2
    ⟨digits ⟨_, high⟩, List.forall_mem_singleton.2 (digits ⟨_, low⟩)⟩⟩

/-- Text that is not empty is written as one segment. -/
theorem whole_encode (allowed : ∀ c, plain c = true → isSegmentChar c = true)
    (nonempty : text.toList ≠ []) : Whole (encode plain text) where
  nonempty := by
    have positive : 0 < text.toList.length := List.length_pos_iff.2 nonempty
    have longer := length_le_flatMap_write plain text.toList
    rw [encode, String.toList_ofList]
    exact List.length_pos_iff.1 (Nat.lt_of_lt_of_le positive longer)
  inner x among := by
    rw [encode, String.toList_ofList, List.mem_flatMap] at among
    obtain ⟨c, _, within⟩ := among
    cases h : plain c with
    | true =>
      rw [write_of_plain h, List.mem_singleton] at within
      exact isInner_of_isSegmentChar (allowed x (within ▸ h))
    | false =>
      rw [write_of_escaped h, List.mem_flatMap] at within
      obtain ⟨b, _, digit⟩ := within
      exact isInner_escape x digit

end Segment

/-! ## Finding segments -/

/-- The target is a path of names between slashes. There may be more slashes in front of them and
behind them, and a query or a fragment at the end. -/
structure Spells (target : String) (names : List String) : Prop where
  nonempty : names ≠ []
  inner : ∀ name ∈ names, ∀ c ∈ name.toList, Segment.isInner c = true
  first : ∀ name ∈ names.head?, name.toList ≠ []
  last : ∀ name ∈ names.getLast?, name.toList ≠ []
  text : ∃ (front back : Nat) (tail : List Char),
    target.toList = List.replicate (front + 1) '/' ++ ("/".intercalate names).toList ++
      List.replicate back '/' ++ tail ∧
    ∀ c ∈ tail.head?, c = '?' ∨ c = '#'

section Text

variable {text tail : List Char} {names : List String}

theorem split_of_notMem {sep : Char} {piece : List Char} (h : sep ∉ piece) :
    split sep piece = [piece] := by
  induction piece with
  | nil => rfl
  | cons c rest ih =>
    rw [List.mem_cons, not_or] at h
    rw [split, if_neg (Ne.symm h.1), ih h.2]

theorem split_append {sep : Char} {piece rest : List Char} (h : sep ∉ piece) :
    split sep (piece ++ sep :: rest) = piece :: split sep rest := by
  induction piece with
  | nil => rw [List.nil_append, split, if_pos rfl]
  | cons c others ih =>
    rw [List.mem_cons, not_or] at h
    rw [List.cons_append, split, if_neg (Ne.symm h.1), ih h.2]

theorem toList_intercalate_cons (name next : String) (names : List String) :
    ("/".intercalate (name :: next :: names)).toList =
      name.toList ++ '/' :: ("/".intercalate (next :: names)).toList := by
  simp [String.intercalate_cons_cons]

/-- Names with slashes between them are split into the names. -/
theorem split_intercalate (nonempty : names ≠ []) (apart : ∀ name ∈ names, '/' ∉ name.toList) :
    split '/' ("/".intercalate names).toList = names.map String.toList := by
  induction names with
  | nil => exact absurd rfl nonempty
  | cons name others ih =>
    obtain ⟨here, apart⟩ := List.forall_mem_cons.1 apart
    cases others with
    | nil =>
      rw [String.intercalate_singleton, split_of_notMem here]
      rfl
    | cons next others =>
      rw [toList_intercalate_cons, split_append here, ih (List.cons_ne_nil _ _) apart]
      rfl

theorem mem_intercalate {c : Char} (among : c ∈ ("/".intercalate names).toList) :
    c = '/' ∨ ∃ name ∈ names, c ∈ name.toList := by
  induction names with
  | nil => cases among
  | cons name others ih =>
    cases others with
    | nil =>
      rw [String.intercalate_singleton] at among
      exact .inr ⟨name, List.mem_cons_self .., among⟩
    | cons next others =>
      rw [toList_intercalate_cons, List.mem_append, List.mem_cons] at among
      obtain here | slash | later := among
      · exact .inr ⟨name, List.mem_cons_self .., here⟩
      · exact .inl slash
      · obtain slash | ⟨x, named, within⟩ := ih later
        · exact .inl slash
        · exact .inr ⟨x, List.mem_cons_of_mem _ named, within⟩

theorem exists_intercalate_first (name : String) (names : List String) :
    ∃ rest, ("/".intercalate (name :: names)).toList = name.toList ++ rest := by
  cases names with
  | nil => exact ⟨[], by simp⟩
  | cons next others => exact ⟨_, toList_intercalate_cons ..⟩

theorem exists_intercalate_last {name : String} (last : names.getLast? = some name) :
    ∃ rest, ("/".intercalate names).toList = rest ++ name.toList := by
  induction names with
  | nil => cases last
  | cons first others ih =>
    cases others with
    | nil =>
      cases last
      exact ⟨[], by simp⟩
    | cons next others =>
      obtain ⟨rest, spelled⟩ := ih (by simpa using last)
      exact ⟨first.toList ++ '/' :: rest, by rw [toList_intercalate_cons, spelled]; simp⟩

/-- The slashes around text that neither begins nor ends with one are what is taken. -/
theorem trimSlashes_replicate {front back : Nat} (nonempty : text ≠ [])
    (first : ∀ c ∈ text.head?, c ≠ '/') (last : ∀ c ∈ text.getLast?, c ≠ '/') :
    trimSlashes (List.replicate front '/' ++ text ++ List.replicate back '/') = text := by
  have dropped {n : Nat} {cs : List Char} (h : ∀ c ∈ cs.head?, c ≠ '/') :
      (List.replicate n '/' ++ cs).dropWhile (· == '/') = cs := by
    rw [List.dropWhile_append_of_pos fun c among => by simp [List.eq_of_mem_replicate among]]
    cases cs with
    | nil => rfl
    | cons c rest => exact List.dropWhile_cons_of_neg (by simpa using h c rfl)
  have front_first : ∀ c ∈ (text ++ List.replicate back '/').head?, c ≠ '/' := by
    rwa [List.head?_append_of_ne_nil _ nonempty]
  rw [trimSlashes, List.append_assoc, dropped front_first, List.reverse_append,
    List.reverse_replicate, dropped (by simpa using last), List.reverse_reverse]

/-- The path of a target ends where its query or its fragment begins. -/
theorem path_of_inner {target : String} (spelled : target.toList = '/' :: (text ++ tail))
    (inner : ∀ c ∈ text, c ≠ '?' ∧ c ≠ '#') (behind : ∀ c ∈ tail.head?, c = '?' ∨ c = '#') :
    path target = '/' :: text := by
  have whole : before (fun c => c == '?' || c == '#') target.toList = '/' :: text := by
    have taken : ∀ c ∈ '/' :: text, (!(c == '?' || c == '#')) = true :=
      List.forall_mem_cons.2 ⟨rfl, fun c among => by simp [inner c among]⟩
    have left : tail.takeWhile (fun c => !(c == '?' || c == '#')) = [] := by
      cases tail with
      | nil => rfl
      | cons c rest =>
        refine List.takeWhile_cons_of_neg ?_
        rcases behind c rfl with rfl | rfl <;> decide
    rw [before, spelled, ← List.cons_append, List.takeWhile_append_of_pos taken, left,
      List.append_nil]
  unfold path
  rw [whole]
  rfl

end Text

namespace Spells

variable {target : String} {names : List String}

theorem apart (h : Spells target names) : ∀ name ∈ names, '/' ∉ name.toList := by
  intro name among slash
  exact absurd (h.inner name among '/' slash) (by decide)

theorem inside (h : Spells target names) {c : Char}
    (among : c ∈ ("/".intercalate names).toList) : c ≠ '?' ∧ c ≠ '#' := by
  obtain rfl | ⟨name, named, within⟩ := mem_intercalate among
  · decide
  · have inner := h.inner name named c within
    simp only [Segment.isInner, Bool.and_eq_true, bne_iff_ne] at inner
    exact ⟨inner.1.2, inner.2⟩

/-- The text between the outer slashes begins with a name and ends with one. -/
theorem text_first (h : Spells target names) :
    ("/".intercalate names).toList ≠ [] ∧ ∀ c ∈ ("/".intercalate names).toList.head?, c ≠ '/' := by
  obtain ⟨name, others, rfl⟩ := List.exists_cons_of_ne_nil h.nonempty
  obtain ⟨rest, spelled⟩ := exists_intercalate_first name others
  have nonempty : name.toList ≠ [] := h.first name rfl
  rw [spelled, List.head?_append_of_ne_nil _ nonempty]
  refine ⟨List.append_ne_nil_of_left_ne_nil nonempty _, ?_⟩
  rintro _ is_first rfl
  exact h.apart name (List.mem_cons_self ..) (List.mem_of_mem_head? is_first)

theorem text_last (h : Spells target names) :
    ∀ c ∈ ("/".intercalate names).toList.getLast?, c ≠ '/' := by
  obtain ⟨name, is_last⟩ := Option.ne_none_iff_exists'.1 (mt List.getLast?_eq_none_iff.1 h.nonempty)
  obtain ⟨rest, spelled⟩ := exists_intercalate_last is_last
  have nonempty : name.toList ≠ [] := h.last name is_last
  rw [spelled, List.getLast?_append_of_ne_nil _ nonempty]
  rintro _ ends rfl
  exact h.apart name (List.mem_of_getLast? is_last) (List.mem_of_getLast? ends)

/-- The names are what is found, each as it is. -/
theorem segments_eq (h : Spells target names) : segments target = names := by
  obtain ⟨front, back, tail, spelled, behind⟩ := h.text
  have path_all : path target = '/' :: (List.replicate front '/' ++
      ("/".intercalate names).toList ++ List.replicate back '/') := by
    refine path_of_inner (spelled.trans (by simp [List.replicate_succ])) (fun c among => ?_) behind
    rw [List.mem_append, List.mem_append, List.mem_replicate, List.mem_replicate] at among
    obtain (⟨_, rfl⟩ | inside) | ⟨_, rfl⟩ := among
    · decide
    · exact h.inside inside
    · decide
  rw [segments, path_all, ← List.cons_append, ← List.cons_append, ← List.replicate_succ,
    trimSlashes_replicate h.text_first.1 h.text_first.2 h.text_last,
    split_intercalate h.nonempty h.apart, List.map_map]
  exact List.map_id'' (fun name => String.ofList_toList) names

end Spells

/-- Of a path of two segments each is found as it is. -/
theorem segments_pair {a b : String} (ha : Segment.Whole a) (hb : Segment.Whole b) :
    segments ("/" ++ a ++ "/" ++ b) = [a, b] :=
  Spells.segments_eq {
    nonempty := List.cons_ne_nil _ _
    inner := List.forall_mem_cons.2 ⟨ha.inner, List.forall_mem_singleton.2 hb.inner⟩
    first := by rintro _ ⟨⟩; exact ha.nonempty
    last := by rintro _ ⟨⟩; exact hb.nonempty
    text := ⟨0, 0, [], by simp, nofun⟩ }

end Quartermaster.Http
