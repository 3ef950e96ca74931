import Quartermaster.Store.Basic

/-!
# Tables under their operations

What a look-up and a selection answer after a row was added, changed or removed (`get?_insert`,
`get?_put`, `filter_insert`, `filter_put`, ...), and the soundness of one table: its rows are
numbered, meet their own rules, and share no unique key (`Table.Sound`). Adding a row that has no
fault keeps a table sound (`Sound.insert`), and so does every change of a row that gives it no new
key (`Sound.put`, `Sound.map`).
-/

namespace Quartermaster

namespace Table

variable {k : Kind} {α : Type} {t : Table k α} {id other : Id k} {row : α} {e : Entry k α}

/-! ## Look-ups -/

theorem mem_of_get? (h : t.get? id = some e) : e ∈ t.entries ∧ e.id = id :=
  ⟨List.mem_of_find?_eq_some h, by simpa using List.find?_some h⟩

theorem mem_filter {p : α → Bool} : e ∈ t.filter p ↔ e ∈ t.entries ∧ p e.val = true :=
  List.mem_filter

theorem mem_of_find? {p : α → Bool} (h : t.find? p = some e) : e ∈ t.entries ∧ p e.val = true := by
  have chosen := List.find?_some h
  exact ⟨List.mem_of_find?_eq_some h, chosen⟩

/-- Ids in ascending order name at most one row. -/
theorem Numbered.eq_of_id {a b : Entry k α} (h : t.Numbered) (ha : a ∈ t.entries)
    (hb : b ∈ t.entries) (same : a.id = b.id) : a = b := by
  have apart : t.entries.Pairwise fun x y => x.id ≠ y.id :=
    (List.pairwise_map.1 h.ascending).imp fun {x y} less eq => by
      rw [eq] at less
      omega
  have unique : t.entries.Pairwise fun x y => x.id = y.id → x = y :=
    apart.imp fun ne eq => absurd eq ne
  exact unique.forall_of_forall_of_flip (fun _ _ _ => rfl)
    (apart.imp fun ne eq => absurd eq.symm ne) ha hb same

theorem Numbered.get?_of_mem (h : t.Numbered) (he : e ∈ t.entries) : t.get? e.id = some e := by
  cases found : t.get? e.id with
  | none => simpa using List.find?_eq_none.1 found e he
  | some a =>
    obtain ⟨ha, same⟩ := mem_of_get? found
    rw [h.eq_of_id ha he same]

theorem Numbered.get?_iff (h : t.Numbered) : t.get? id = some e ↔ e ∈ t.entries ∧ e.id = id :=
  ⟨mem_of_get?, fun ⟨he, same⟩ => same ▸ h.get?_of_mem he⟩

theorem Numbered.get?_next (h : t.Numbered) : t.get? t.next = none := by
  refine List.find?_eq_none.2 fun e he => ?_
  have bound := (h.bounded e he).2
  intro same
  have : e.id.row = t.last + 1 := by rw [eq_of_beq same, next]
  omega

theorem Numbered.get?_of_next (h : t.Numbered) (added : id = t.next) : t.get? id = none :=
  added ▸ h.get?_next

theorem get?_insert : (t.insert row).get? id =
    (t.get? id).or (if t.next = id then some ⟨t.next, row⟩ else none) := by
  simp only [get?, entries_insert, List.find?_append, List.find?_singleton, beq_iff_eq]

theorem Numbered.get?_insert_next (h : t.Numbered) :
    (t.insert row).get? t.next = some ⟨t.next, row⟩ := by
  simp [get?_insert, h.get?_next]

theorem Numbered.get?_insert_self (h : t.Numbered) (added : e.id = t.next) :
    (t.insert e.val).get? e.id = some e := by
  rw [added, h.get?_insert_next, ← added]

theorem get?_insert_of_ne (ne : id ≠ t.next) : (t.insert row).get? id = t.get? id := by
  simp [get?_insert, ne.symm]

/-- What an added row makes different is the row that was added. -/
theorem Numbered.of_insert_changed {W : Id k → Prop} (h : t.Numbered) (added : e.id = t.next)
    (here : t.get? e.id = none → (t.insert e.val).get? e.id = some e → W e.id)
    (changed : (t.insert e.val).get? id ≠ t.get? id) : W id := by
  by_cases same : id = e.id
  · exact same ▸ here (h.get?_of_next added) (h.get?_insert_self added)
  · exact absurd (get?_insert_of_ne (added ▸ same)) changed

theorem get?_insert_of_some (h : t.get? id = some e) : (t.insert row).get? id = some e := by
  simp [get?_insert, h]

theorem get?_put : (t.put id row).get? other =
    if other = id then (t.get? id).map fun e => { e with val := row } else t.get? other := by
  simp only [get?, put, List.find?_map]
  by_cases same : other = id
  · subst same
    rw [if_pos rfl]
    have find : (t.entries.find? ((fun e : Entry k α => e.id == other) ∘
        fun e => if e.id = other then { e with val := row } else e)) =
        t.entries.find? fun e => e.id == other := by
      congr 1
      funext e
      by_cases h : e.id = other <;> simp [h]
    rw [find]
    cases found : t.entries.find? fun e => e.id == other with
    | none => rfl
    | some e =>
      have : e.id = other := by simpa using List.find?_some found
      simp [this]
  · rw [if_neg same]
    have find : (t.entries.find? ((fun e : Entry k α => e.id == other) ∘
        fun e => if e.id = id then { e with val := row } else e)) =
        t.entries.find? fun e => e.id == other := by
      congr 1
      funext e
      by_cases h : e.id = id <;> simp [h]
    rw [find]
    cases found : t.entries.find? fun e => e.id == other with
    | none => rfl
    | some e =>
      have : e.id = other := by simpa using List.find?_some found
      simp [this, same]

theorem get?_put_of_ne (ne : other ≠ id) : (t.put id row).get? other = t.get? other := by
  rw [get?_put, if_neg ne]

theorem get?_put_self (h : t.get? id = some e) :
    (t.put id row).get? id = some { e with val := row } := by
  rw [get?_put, if_pos rfl, h, Option.map_some]

theorem get?_erase : (t.erase id).get? other = if other = id then none else t.get? other := by
  simp only [get?, erase, List.find?_filter]
  by_cases same : other = id
  · subst same
    simp
  · rw [if_neg same]
    congr 1
    funext e
    by_cases h : e.id = other
    · simp [h, same]
    · simp [h]

theorem get?_map {f : α → α} :
    (t.map f).get? id = (t.get? id).map fun e => { e with val := f e.val } := by
  simp only [get?, map, List.find?_map]
  rfl

theorem get?_map_of_some {f : α → α} (found : t.get? id = some e) :
    (t.map f).get? id = some { e with val := f e.val } := by
  rw [get?_map, found, Option.map_some]

theorem map_id : (t.map fun a => a) = t := by
  simp [map]

/-- What a change of all rows makes different was there, and is moved by the change. -/
theorem exists_of_map_changed {f : α → α} (changed : (t.map f).get? id ≠ t.get? id) :
    ∃ e, t.get? id = some e ∧ f e.val ≠ e.val := by
  cases found : t.get? id with
  | none => exact absurd (by rw [get?_map, found]; rfl) changed
  | some e =>
    refine ⟨e, rfl, fun same => changed ?_⟩
    rw [get?_map_of_some found, same, found]

/-- Of a family that is different at one id only, what holds of that id holds wherever it is
different. -/
theorem of_changed {β : Type} {W : Id k → Prop} {before after : Id k → β} (subject : Id k)
    (others : ∀ other, other ≠ subject → after other = before other) (here : W subject)
    (changed : after id ≠ before id) : W id := by
  by_cases same : id = subject
  · exact same ▸ here
  · exact absurd (others id same) changed

/-! ## Selections -/

theorem find?_eq_head? {p : α → Bool} : t.find? p = (t.filter p).head? := List.head?_filter.symm

theorem filter_insert {p : α → Bool} :
    (t.insert row).filter p = t.filter p ++ if p row then [⟨t.next, row⟩] else [] := by
  simp only [filter, entries_insert, List.filter_append, List.filter_cons, List.filter_nil]

theorem filter_insert_of_neg {p : α → Bool} (out : p row = false) :
    (t.insert row).filter p = t.filter p := by
  simp [filter_insert, out]

/-- A change that is selected as its row was shows in place of the row. -/
theorem filter_put_of_same {p : α → Bool} (numbered : t.Numbered) (found : t.get? id = some e)
    (same : p row = p e.val) : (t.put id row).filter p =
      (t.filter p).map fun a => if a.id = id then { a with val := row } else a := by
  simp only [filter, put, List.filter_map]
  refine congrArg (List.map _) (List.filter_congr fun a member => ?_)
  by_cases here : a.id = id
  · obtain rfl := Option.some.inj ((here ▸ numbered.get?_of_mem member).symm.trans found)
    simp [here, same]
  · simp [here]

/-- A row that is selected neither before nor after its change does not show in a selection. -/
theorem filter_put_of_neg {p : α → Bool} (numbered : t.Numbered) (found : t.get? id = some e)
    (before : p e.val = false) (after : p row = false) : (t.put id row).filter p = t.filter p := by
  rw [filter_put_of_same numbered found (after.trans before.symm)]
  refine (List.map_congr_left fun a member => ?_).trans (List.map_id _)
  obtain ⟨there, chosen⟩ := mem_filter.1 member
  refine if_neg fun here => ?_
  obtain rfl := Option.some.inj ((here ▸ numbered.get?_of_mem there).symm.trans found)
  rw [before] at chosen
  cases chosen

section Key

variable {β : Type} [BEq β] [LawfulBEq β] {key : α → β} {b : β}

theorem filter_insert_of_ne (ne : key row ≠ b) :
    (t.insert row).filter (key · == b) = t.filter (key · == b) :=
  filter_insert_of_neg (beq_eq_false_iff_ne.2 ne)

theorem filter_put_of_ne (numbered : t.Numbered) (found : t.get? id = some e)
    (before : key e.val ≠ b) (after : key row ≠ b) :
    (t.put id row).filter (key · == b) = t.filter (key · == b) :=
  filter_put_of_neg numbered found (beq_eq_false_iff_ne.2 before) (beq_eq_false_iff_ne.2 after)

end Key

theorem find?_insert {p : α → Bool} : (t.insert row).find? p =
    (t.find? p).or (if p row then some ⟨t.next, row⟩ else none) := by
  simp only [find?, entries_insert, List.find?_append, List.find?_singleton]

/-- A row that is selected neither before nor after its change is not found either way. -/
theorem find?_put_of_neg {p : α → Bool} (numbered : t.Numbered) (found : t.get? id = some e)
    (before : p e.val = false) (after : p row = false) : (t.put id row).find? p = t.find? p := by
  rw [find?_eq_head?, find?_eq_head?, filter_put_of_neg numbered found before after]

/-- A change that is selected as its row was is found in place of the row. -/
theorem find?_put_of_same {p : α → Bool} (numbered : t.Numbered) (found : t.get? id = some e)
    (same : p row = p e.val) : (t.put id row).find? p =
      (t.find? p).map fun a => if a.id = id then { a with val := row } else a := by
  rw [find?_eq_head?, find?_eq_head?, filter_put_of_same numbered found same, List.head?_map]

theorem find?_map {p : α → Bool} {f : α → α} (same : ∀ a, p (f a) = p a) :
    (t.map f).find? p = (t.find? p).map fun a => { a with val := f a.val } := by
  simp only [find?, map, List.find?_map, Function.comp_def, same]

theorem mem_insert : e ∈ (t.insert row).entries ↔ e ∈ t.entries ∨ e = ⟨t.next, row⟩ := by
  simp

theorem mem_put : e ∈ (t.put id row).entries ↔
    (e ∈ t.entries ∧ e.id ≠ id) ∨ (e.val = row ∧ e.id = id ∧ ∃ old ∈ t.entries, old.id = id) := by
  simp only [put, List.mem_map]
  constructor
  · rintro ⟨old, member, rfl⟩
    by_cases same : old.id = id
    · exact .inr (by simpa [same] using ⟨old, member, same⟩)
    · exact .inl (by simpa [same] using member)
  · rintro (⟨member, ne⟩ | ⟨rfl, same, old, member, rfl⟩)
    · exact ⟨e, member, by simp [ne]⟩
    · exact ⟨old, member, by simp [← same]⟩

theorem mem_erase : e ∈ (t.erase id).entries ↔ e ∈ t.entries ∧ e.id ≠ id := by
  simp [erase]

theorem mem_map {f : α → α} :
    e ∈ (t.map f).entries ↔ ∃ old ∈ t.entries, { old with val := f old.val } = e := by
  simp [map]

theorem map_insert (f : α → α) : (t.insert row).map f = (t.map f).insert (f row) := by
  simp [map, insert, next]

theorem map_put (f : α → α) : (t.put id row).map f = (t.map f).put id (f row) := by
  simp only [map, put, List.map_map, Table.mk.injEq, and_true]
  refine List.map_congr_left fun e _ => ?_
  by_cases same : e.id = id <;> simp [same]

theorem resolves_map (f : α → α) (reference : Option (Id k)) :
    (t.map f).resolves reference = t.resolves reference := by
  cases reference with
  | none => rfl
  | some id => simp [resolves, has, get?_map]

/-- A row that is there is not the next one. -/
theorem Numbered.ne_next (h : t.Numbered) (member : e ∈ t.entries) : e.id ≠ t.next := by
  intro same
  have := (h.bounded e member).2
  rw [same] at this
  simp only [next] at this
  omega

theorem forall_insert {P : Entry k α → Prop} (old : ∀ e ∈ t.entries, P e)
    (new : P ⟨t.next, row⟩) : ∀ e ∈ (t.insert row).entries, P e := by
  intro e member
  rcases mem_insert.1 member with here | rfl
  · exact old e here
  · exact new

theorem forall_put {P : Entry k α → Prop} (others : ∀ e ∈ t.entries, e.id ≠ id → P e)
    (new : P ⟨id, row⟩) : ∀ e ∈ (t.put id row).entries, P e := by
  intro e member
  rcases mem_put.1 member with ⟨here, ne⟩ | ⟨rfl, rfl, _⟩
  · exact others e here ne
  · exact new

/-- Where no other row than the changed one can be selected, the change is found or nothing is. -/
theorem find?_put_of_only {p : α → Bool} (found : t.get? id = some e)
    (only : ∀ a ∈ t.entries, p a.val = true → a.id = id) :
    (t.put id row).find? p = if p row then some ⟨id, row⟩ else none := by
  obtain ⟨member, rfl⟩ := mem_of_get? found
  have here : ⟨e.id, row⟩ ∈ (t.put e.id row).entries := mem_put.2 (.inr ⟨rfl, rfl, e, member, rfl⟩)
  have chosen : ∀ a ∈ (t.put e.id row).entries, p a.val = true → a = ⟨e.id, row⟩ :=
    forall_put (fun a old other selected => absurd (only a old selected) other) fun _ => rfl
  cases selected : p row with
  | true =>
    cases search : (t.put e.id row).find? p with
    | none => exact absurd selected (by simpa using List.find?_eq_none.1 search _ here)
    | some a =>
      obtain ⟨among, picked⟩ := mem_of_find? search
      rw [chosen a among picked, if_pos rfl]
  | false =>
    refine List.find?_eq_none.2 fun a among picked => ?_
    rw [chosen a among picked, selected] at picked
    cases picked

/-! ## Sums -/

/-- A change of one row, seen in the list of rows. -/
theorem Numbered.split_put (h : t.Numbered) (found : t.get? e.id = some e) (row : α) :
    ∃ before after, t.entries = before ++ e :: after ∧
      (t.put e.id row).entries = before ++ { e with val := row } :: after := by
  obtain ⟨before, after, split⟩ := List.append_of_mem (mem_of_get? found).1
  have apart := List.pairwise_map.1 h.ascending
  rw [split, List.pairwise_append] at apart
  obtain ⟨_, behind, across⟩ := apart
  have other {x : Entry k α} (hx : x ∈ before ∨ x ∈ after) : x.id ≠ e.id := by
    intro same
    rcases hx with hx | hx
    · have := across x hx e (List.mem_cons_self ..)
      rw [same] at this
      omega
    · have := List.rel_of_pairwise_cons behind hx
      rw [same] at this
      omega
  have kept {l : List (Entry k α)} (hl : ∀ x ∈ l, x.id ≠ e.id) :
      l.map (fun x => if x.id = e.id then { x with val := row } else x) = l := by
    refine (List.map_congr_left fun x hx => ?_).trans (List.map_id _)
    rw [if_neg (hl x hx)]
    rfl
  refine ⟨before, after, split, ?_⟩
  rw [Table.put, split, List.map_append, List.map_cons, if_pos rfl, kept fun x hx => other (.inl hx),
    kept fun x hx => other (.inr hx)]

theorem totalOf_nonneg {f : α → Int} {rows : List (Entry k α)} (h : ∀ e ∈ rows, 0 ≤ f e.val) :
    0 ≤ totalOf f rows := by
  induction rows with
  | nil => exact Int.le_refl 0
  | cons e rest ih =>
    have first := h e (List.mem_cons_self ..)
    have others := ih fun e member => h e (List.mem_cons_of_mem _ member)
    simp only [totalOf]
    omega

/-- One of several numbers that are not negative is at most their sum. -/
theorem le_totalOf {f : α → Int} {rows : List (Entry k α)} (h : ∀ e ∈ rows, 0 ≤ f e.val)
    (member : e ∈ rows) : f e.val ≤ totalOf f rows := by
  induction rows with
  | nil => cases member
  | cons x rest ih =>
    have others (y : Entry k α) (later : y ∈ rest) := h y (List.mem_cons_of_mem _ later)
    simp only [totalOf]
    rcases List.mem_cons.1 member with rfl | later
    · have := totalOf_nonneg others
      omega
    · have first := h x (List.mem_cons_self ..)
      have := ih others later
      omega

theorem totalOf_filter_insert {f : α → Int} {p : α → Bool} : totalOf f ((t.insert row).filter p) =
    totalOf f (t.filter p) + if p row then f row else 0 := by
  rw [filter_insert, totalOf_append]
  cases p row with
  | true => simp [totalOf]
  | false => rfl

theorem Numbered.totalOf_filter_put {f : α → Int} {p : α → Bool} (h : t.Numbered)
    (found : t.get? e.id = some e) :
    totalOf f ((t.put e.id row).filter p) =
      totalOf f (t.filter p) - (if p e.val then f e.val else 0) + if p row then f row else 0 := by
  obtain ⟨before, after, split, changed⟩ := h.split_put found row
  simp only [filter, split, changed, List.filter_append, List.filter_cons, totalOf_append]
  cases p e.val <;> cases p row <;> simp [totalOf] <;> omega

/-! ## Soundness of one table -/

variable [Record k α]

/-- The row meets its rules, refers to rows that are there, and shares no key with one of them. -/
structure Takes (s : Store) (k : Kind) {α : Type} [Record k α] (row : α) : Prop where
  fits : Record.fits k row = true
  holds : Record.holds k row = true
  refers : Record.refers k s row = true
  alone : ∀ e ∈ (Record.table s : Table k α).entries, Record.clashes k row e.val = false

theorem insertFault_eq_none {s : Store} : s.insertFault k row = none ↔ Takes s k row := by
  have alone : ((Record.table s : Table k α).find? (Record.clashes k row)).isSome = false ↔
      ∀ e ∈ (Record.table s : Table k α).entries, Record.clashes k row e.val = false := by
    simp [find?]
  unfold Store.insertFault
  cases fits : Record.fits k row <;> cases holds : Record.holds k row <;>
    cases refers : Record.refers k s row <;>
    cases clash : ((Record.table s : Table k α).find? (Record.clashes k row)).isSome
  all_goals first
    | exact iff_of_true rfl ⟨fits, holds, refers, alone.1 clash⟩
    | refine iff_of_false nofun fun ⟨hf, hh, hr, ha⟩ => ?_
      simp_all

/-- The rows are numbered, meet their own rules, and no later one shares a unique key with an
earlier one. -/
structure Sound (t : Table k α) : Prop where
  numbered : t.Numbered
  counted : 0 ≤ t.last
  valid : ∀ e ∈ t.entries, Record.fits k e.val = true ∧ Record.holds k e.val = true
  distinct : t.entries.Pairwise fun a b => Record.clashes k b.val a.val = false

theorem Sound.get?_of_find? {p : α → Bool} (h : t.Sound) (found : t.find? p = some e) :
    t.get? e.id = some e :=
  h.numbered.get?_of_mem (mem_of_find? found).1

/-- The new values of a row have no unique key that the old values did not have. -/
structure KeepsKeys (k : Kind) {α : Type} [Record k α] (old new : α) : Prop where
  left : ∀ b, Record.clashes k new b = true → Record.clashes k old b = true
  right : ∀ b, Record.clashes k b new = true → Record.clashes k b old = true

theorem sound_empty : Sound ({} : Table k α) :=
  ⟨numbered_empty, Int.le_refl 0, by simp, List.Pairwise.nil⟩

theorem Sound.insert {s : Store} (h : t.Sound) (here : Record.table s = t)
    (faultless : s.insertFault k row = none) : (t.insert row).Sound := by
  obtain ⟨fits, holds, _, alone⟩ := insertFault_eq_none.1 faultless
  refine ⟨h.numbered.insert row h.counted, ?_, ?_, ?_⟩
  · have := h.counted
    simp only [last_insert]
    omega
  · intro e he
    rcases mem_insert.1 he with old | rfl
    · exact h.valid e old
    · exact ⟨fits, holds⟩
  · rw [entries_insert, List.pairwise_append]
    refine ⟨h.distinct, List.pairwise_singleton _ _, ?_⟩
    intro a ha b hb
    obtain rfl := List.mem_singleton.1 hb
    exact alone a (here ▸ ha)

theorem Sound.put (h : t.Sound) (found : t.get? id = some e) (fits : Record.fits k row = true)
    (holds : Record.holds k row = true) (keys : KeepsKeys k e.val row) : (t.put id row).Sound := by
  obtain ⟨member, rfl⟩ := mem_of_get? found
  refine ⟨h.numbered.put e.id row, h.counted, ?_, ?_⟩
  · intro e' he'
    rcases mem_put.1 he' with ⟨old, _⟩ | ⟨rfl, _, _⟩
    · exact h.valid e' old
    · exact ⟨fits, holds⟩
  · simp only [Table.put, List.pairwise_map]
    refine h.distinct.imp_of_mem fun {a b} ha hb apart => ?_
    -- only the changed row can clash anew, and it has no new key
    by_cases same : a.id = e.id
    · obtain rfl := h.numbered.eq_of_id ha member same
      by_cases both : b.id = a.id
      · obtain rfl := h.numbered.eq_of_id hb ha both
        simp only
        rw [Bool.eq_false_iff] at apart ⊢
        exact fun clash => apart (keys.right _ (keys.left _ clash))
      · simp only [if_neg both]
        rw [Bool.eq_false_iff] at apart ⊢
        exact fun clash => apart (keys.right _ clash)
    · by_cases both : b.id = e.id
      · obtain rfl := h.numbered.eq_of_id hb member both
        simp only [if_neg same]
        rw [Bool.eq_false_iff] at apart ⊢
        exact fun clash => apart (keys.left _ clash)
      · simpa only [if_neg same, if_neg both] using apart

theorem Sound.erase (h : t.Sound) (id : Id k) : (t.erase id).Sound :=
  ⟨h.numbered.erase id, h.counted, fun e he => h.valid e (mem_erase.1 he).1,
    h.distinct.sublist List.filter_sublist⟩

omit [Record k α] in
theorem Numbered.map (h : t.Numbered) (f : α → α) : (t.map f).Numbered := by
  refine ⟨by simpa [Table.map, Function.comp_def] using h.ascending, ?_⟩
  intro e he
  obtain ⟨old, member, rfl⟩ := mem_map.1 he
  exact h.bounded old member

theorem Sound.map (h : t.Sound) (f : α → α)
    (fits : ∀ a, Record.fits k a = true → Record.fits k (f a) = true)
    (holds : ∀ a, Record.holds k a = true → Record.holds k (f a) = true)
    (keys : ∀ a b, Record.holds k a = true → Record.holds k b = true →
      Record.clashes k (f b) (f a) = true → Record.clashes k b a = true) :
    (t.map f).Sound := by
  refine ⟨h.numbered.map f, h.counted, ?_, ?_⟩
  · intro e he
    obtain ⟨old, member, rfl⟩ := mem_map.1 he
    exact (h.valid old member).imp (fits _) (holds _)
  · simp only [Table.map, List.pairwise_map]
    refine h.distinct.imp_of_mem fun {a b} ha hb apart => ?_
    rw [Bool.eq_false_iff] at apart ⊢
    exact fun clash => apart (keys _ _ (h.valid a ha).2 (h.valid b hb).2 clash)

/-- At most one row has a property that makes any two rows clash. -/
theorem Sound.filter_subsingleton (h : t.Sound) {p : α → Bool}
    (keyed : ∀ a ∈ t.entries, ∀ b ∈ t.entries, p a.val = true → p b.val = true →
      Record.clashes k b.val a.val = true) : (t.filter p).length ≤ 1 := by
  -- two selected rows would both clash and stand beside each other
  have apart := h.distinct.sublist (List.filter_sublist (p := fun e : Entry k α => p e.val))
  match found : t.filter p with
  | [] => simp
  | [_] => simp
  | a :: b :: rest =>
    have ha : a ∈ t.filter p := by simp [found]
    have hb : b ∈ t.filter p := by simp [found]
    rw [show List.filter (fun e : Entry k α => p e.val) t.entries = t.filter p from rfl, found]
      at apart
    obtain ⟨mem_a, chosen_a⟩ := mem_filter.1 ha
    obtain ⟨mem_b, chosen_b⟩ := mem_filter.1 hb
    have clash := keyed a mem_a b mem_b chosen_a chosen_b
    rw [List.rel_of_pairwise_cons apart (List.mem_cons_self ..)] at clash
    cases clash

/-- Among rows that clash with each other, one that is there is the one that is found. -/
theorem Sound.find?_of_mem (h : t.Sound) {p : α → Bool}
    (keyed : ∀ a b, p a = true → p b = true → Record.clashes k b a = true) (member : e ∈ t.entries)
    (chosen : p e.val = true) : t.find? p = some e := by
  have among : e ∈ t.filter p := mem_filter.2 ⟨member, chosen⟩
  have alone := h.filter_subsingleton fun a _ b _ => keyed a.val b.val
  match found : t.filter p with
  | [] => simp [found] at among
  | [_] =>
    rw [found, List.mem_singleton] at among
    rw [find?_eq_head?, found, among]
    rfl
  | _ :: _ :: _ => simp [found] at alone

end Table

end Quartermaster
