import Quartermaster.Proofs.Reachable

/-!
# Units in custody are backed

No more units of an accessory are in custody than there are in all. Handing out asks what is on the
shelf, which is the total less what is in custody, and so does writing off; all else only moves away
from the bound.

Results:

1. `Reachable.backed`: the units in custody are at most the total. With it the sums of the storage
   never leave the word (`Reachable.available`).
2. `Reachable.never_overcommitted`: what is in custody and what is on the shelf lie between nothing
   and the total, in every reachable store and in what every operation on accessories leaves.
-/

namespace Quartermaster

/-- The units of an accessory in open assignments of a table. -/
def unitsOut (custody : Table .accessoryAssignment AccessoryAssignment) (item : AccessoryId) : Int :=
  Table.totalOf (·.quantity) (custody.filter fun a => a.accessory == item && a.isOpen)

/-- What an assignment counts for among the units of an accessory. -/
def AccessoryAssignment.unitsOf (a : AccessoryAssignment) (item : AccessoryId) : Int :=
  if a.accessory == item && a.isOpen then a.quantity else 0

theorem unitsOut_insert {custody : Table .accessoryAssignment AccessoryAssignment}
    {a : AccessoryAssignment} {item : AccessoryId} :
    unitsOut (custody.insert a) item = unitsOut custody item + a.unitsOf item :=
  Table.totalOf_filter_insert

theorem unitsOut_put {custody : Table .accessoryAssignment AccessoryAssignment}
    {a : Entry .accessoryAssignment AccessoryAssignment} {v : AccessoryAssignment}
    {item : AccessoryId} (numbered : custody.Numbered) (found : custody.get? a.id = some a) :
    unitsOut (custody.put a.id v) item =
      unitsOut custody item - a.val.unitsOf item + v.unitsOf item :=
  numbered.totalOf_filter_put found

theorem AccessoryAssignment.unitsOf_of_ne {a : AccessoryAssignment} {item : AccessoryId}
    (other : a.accessory ≠ item) : a.unitsOf item = 0 := by
  simp [unitsOf, other]

theorem AccessoryAssignment.unitsOf_of_open {a : AccessoryAssignment} {item : AccessoryId}
    (same : a.accessory = item) (opened : a.isOpen = true) : a.unitsOf item = a.quantity := by
  simp [unitsOf, same, opened]

/-- Closed or not, an assignment counts for what is left of it. -/
theorem AccessoryAssignment.unitsOf_less {a : AccessoryAssignment} {item : AccessoryId}
    (same : a.accessory = item) (opened : a.isOpen = true) (units : Int) (until' : Stamp) :
    (a.less units until').unitsOf item = a.quantity - units := by
  have still : a.state = .opened := beq_iff_eq.1 opened
  by_cases rest : a.quantity - units = 0
  · simp [unitsOf, less, isOpen, rest]
  · simp [unitsOf, less, isOpen, rest, same, still]

/-- No assignment is of an accessory that is yet to come, and no accessory has more units in custody
than in all. -/
structure Backed (items : Table .accessory Accessory)
    (custody : Table .accessoryAssignment AccessoryAssignment) : Prop where
  known : ∀ a ∈ custody.entries, a.val.accessory.row ≤ items.last
  covered : ∀ e ∈ items.entries, unitsOut custody e.id ≤ e.val.quantity

namespace Backed

variable {items : Table .accessory Accessory}
  {custody : Table .accessoryAssignment AccessoryAssignment}

/-- Nothing is out yet of an accessory that is to come. -/
theorem unitsOut_next (h : Backed items custody) : unitsOut custody items.next = 0 := by
  unfold unitsOut Table.filter
  rw [List.filter_eq_nil_iff.2 fun c member => ?_]
  · rfl
  · have := h.known c member
    simp only [Bool.and_eq_true, beq_iff_eq, not_and]
    intro same
    rw [same] at this
    simp only [Table.next] at this
    omega

theorem addItem {a : Accessory} (h : Backed items custody) (not_negative : 0 ≤ a.quantity) :
    Backed (items.insert a) custody := by
  refine ⟨fun c member => ?_, fun e member => ?_⟩
  · have := h.known c member
    simp only [Table.last_insert]
    omega
  · rcases Table.mem_insert.1 member with old | rfl
    · exact h.covered e old
    · rw [h.unitsOut_next]
      exact not_negative

theorem setItem {e : Entry .accessory Accessory} {v : Accessory} (h : Backed items custody)
    (enough : unitsOut custody e.id ≤ v.quantity) : Backed (items.put e.id v) custody := by
  refine ⟨h.known, fun x member => ?_⟩
  rcases Table.mem_put.1 member with ⟨old, _⟩ | ⟨rfl, same, _⟩
  · exact h.covered x old
  · rw [same]
    exact enough

theorem mapItems {f : Accessory → Accessory} (h : Backed items custody)
    (kept : ∀ a, (f a).quantity = a.quantity) : Backed (items.map f) custody := by
  refine ⟨h.known, fun x member => ?_⟩
  obtain ⟨old, here, rfl⟩ := Table.mem_map.1 member
  show unitsOut custody old.id ≤ (f old.val).quantity
  rw [kept]
  exact h.covered old here

/-- Assignments are of known accessories, and a new one leaves its accessory covered. -/
theorem addCustody {e : Entry .accessory Accessory} {a : AccessoryAssignment}
    (h : Backed items custody) (numbered : items.Numbered) (found : items.get? e.id = some e)
    (subject : a.accessory = e.id)
    (enough : unitsOut custody e.id + a.unitsOf e.id ≤ e.val.quantity) :
    Backed items (custody.insert a) := by
  have member := (Table.mem_of_get? found).1
  refine ⟨fun c here => ?_, fun x here => ?_⟩
  · rcases Table.mem_insert.1 here with old | rfl
    · exact h.known c old
    · rw [subject]
      exact (numbered.bounded e member).2
  · rw [unitsOut_insert]
    by_cases same : x.id = e.id
    · obtain rfl := numbered.eq_of_id here member same
      exact enough
    · rw [AccessoryAssignment.unitsOf_of_ne (subject ▸ Ne.symm same), Int.add_zero]
      exact h.covered x here

/-- New values of an assignment, if they leave its accessory covered. -/
theorem setCustody {e : Entry .accessory Accessory} {v : AccessoryAssignment}
    {a : Entry .accessoryAssignment AccessoryAssignment} (h : Backed items custody)
    (numbered : items.Numbered) (rows : custody.Numbered) (member : e ∈ items.entries)
    (found : custody.get? a.id = some a) (subject : a.val.accessory = e.id)
    (still : v.accessory = e.id)
    (enough : unitsOut custody e.id - a.val.unitsOf e.id + v.unitsOf e.id ≤ e.val.quantity) :
    Backed items (custody.put a.id v) := by
  refine ⟨fun c here => ?_, fun x here => ?_⟩
  · rcases Table.mem_put.1 here with ⟨old, _⟩ | ⟨rfl, _⟩
    · exact h.known c old
    · rw [still]
      exact (numbered.bounded e member).2
  · rw [unitsOut_put rows found]
    by_cases same : x.id = e.id
    · obtain rfl := numbered.eq_of_id here member same
      exact enough
    · rw [AccessoryAssignment.unitsOf_of_ne (subject ▸ Ne.symm same),
        AccessoryAssignment.unitsOf_of_ne (still ▸ Ne.symm same), Int.sub_zero, Int.add_zero]
      exact h.covered x here

/-- Units that come back are no longer out. -/
theorem takeBack {e : Entry .accessory Accessory}
    {a : Entry .accessoryAssignment AccessoryAssignment} {units : Int} (h : Backed items custody)
    (numbered : items.Numbered) (rows : custody.Numbered) (member : e ∈ items.entries)
    (found : custody.get? a.id = some a) (subject : a.val.accessory = e.id)
    (opened : a.val.isOpen = true) (positive : 0 < units) (until' : Stamp) :
    Backed items (custody.put a.id (a.val.less units until')) := by
  have covered := h.covered e member
  refine h.setCustody numbered rows member found subject subject ?_
  rw [AccessoryAssignment.unitsOf_of_open subject opened, AccessoryAssignment.unitsOf_less subject opened]
  omega

end Backed

variable {s s' : Store}

theorem Store.available_ok {e : Entry .accessory Accessory} {left : Int} :
    s.available e = .ok left ↔
      fitsWord (unitsOut s.accessoryAssignments e.id) = true ∧
        left = e.val.quantity - unitsOut s.accessoryAssignments e.id := by
  rw [Store.available, Store.assigned]
  show (if fitsWord (unitsOut s.accessoryAssignments e.id) = true then
    .ok (unitsOut s.accessoryAssignments e.id) else .error _ : Except Refusal Int).map _ = _ ↔ _
  by_cases fits : fitsWord (unitsOut s.accessoryAssignments e.id) = true
  · rw [if_pos fits]
    simp [Except.map, fits, eq_comm]
  · rw [if_neg fits]
    simp [Except.map, fits]

theorem AccessoryStep.backed {ctx : Context} {op : AccessoryOp} {done : Committed Answer}
    (step : AccessoryStep ctx s op done s') (sound : s.Sound)
    (h : Backed s.accessories s.accessoryAssignments) :
    Backed s'.accessories s'.accessoryAssignments := by
  have items := sound.accessories.numbered
  have rows := sound.accessoryAssignments.numbered
  cases step with
  | read => exact h
  | registerEmpty _ _ _ _ units => exact h.addItem (by omega)
  | registerStocked _ _ _ _ units => exact h.addItem (by omega)
  | @assignMore _ _ quantity _ e _ held _ _ _ _ _ _ item_named _ _ shelf enough is_held grown =>
    obtain ⟨row, subject, _, is_open⟩ := sound.openAccessoryAssignment is_held
    obtain ⟨_, rfl⟩ := Store.available_ok.1 shelf
    subst grown
    refine h.setCustody items rows (Table.mem_of_find? item_named).1 row subject subject ?_
    -- what is handed out was on the shelf, and the shelf is the total less what is out
    have more : AccessoryAssignment.unitsOf
        { held.val with quantity := held.val.quantity + quantity.toInt } e.id =
        held.val.quantity + quantity.toInt := AccessoryAssignment.unitsOf_of_open subject is_open
    rw [AccessoryAssignment.unitsOf_of_open subject is_open, more]
    omega
  | @assignNew _ _ _ _ e _ _ _ _ _ _ _ _ _ item_named _ _ shelf enough _ _ opened =>
    obtain ⟨_, rfl⟩ := Store.available_ok.1 shelf
    subst opened
    refine h.addCustody items (sound.accessories.get?_of_find? item_named) rfl ?_
    rw [AccessoryAssignment.unitsOf_of_open rfl rfl]
    simp only
    omega
  | @takeBack _ _ _ e _ a _ _ _ _ _ _ positive custody_named item_found _ opened enough _ reduced =>
    obtain ⟨member, subject⟩ := Table.mem_of_get? item_found
    subst reduced
    exact h.takeBack items rows member (sound.accessoryAssignments.get?_of_find? custody_named)
      subject.symm opened positive _
  | condemn _ _ _ shelf enough changed =>
    obtain ⟨_, rfl⟩ := Store.available_ok.1 shelf
    subst changed
    refine h.setItem ?_
    simp only
    omega
  | @restock _ _ _ e _ _ _ _ _ _ positive item_named _ _ changed =>
    have covered := h.covered e (Table.mem_of_find? item_named).1
    subst changed
    refine h.setItem ?_
    simp only
    omega

theorem OperationStep.backed {d : Setting} {op : Operation} {done : Committed Answer}
    (step : OperationStep d s op done s') (sound : s.Sound)
    (h : Backed s.accessories s.accessoryAssignments) :
    Backed s'.accessories s'.accessoryAssignments := by
  obtain ⟨_, _, _, step⟩ | ⟨⟨room, items⟩, custody, _⟩ := step.accessory_cases
  · exact step.backed sound h
  · rw [items, custody]
    exact h.mapItems fun _ => rfl

theorem Seeded.backed (h : Seeded s) : Backed s.accessories s.accessoryAssignments := by
  obtain ⟨⟨_, nothing, _⟩, _⟩ := h.unused
  rw [nothing]
  refine ⟨List.forall_mem_nil _, fun e member => ?_⟩
  have holds := (h.sound.accessories.valid e member).2
  exact of_decide_eq_true holds

/-- In a reachable store no accessory has more units in custody than in all. -/
theorem Reachable.backed (h : Reachable s) : Backed s.accessories s.accessoryAssignments :=
  h.invariant (fun _ seeded => seeded.backed) fun _ _ _ _ _ sound covered step =>
    step.backed sound covered

namespace Store.Sound

/-- Only open assignments are counted, and each of them holds units. -/
theorem counted_nonneg (sound : s.Sound) {item : AccessoryId}
    {a : Entry .accessoryAssignment AccessoryAssignment}
    (member : a ∈ s.accessoryAssignments.filter fun a => a.accessory == item && a.isOpen) :
    0 ≤ a.val.quantity := by
  -- an open assignment that holds nothing would break its own rule
  obtain ⟨here, counted⟩ := Table.mem_filter.1 member
  have opened : a.val.isOpen = true := (Bool.and_eq_true_iff.1 counted).2
  have holds := (AccessoryAssignment.holds_opened opened).1 (sound.accessoryAssignments.valid a here).2
  omega

theorem unitsOut_nonneg (sound : s.Sound) (item : AccessoryId) :
    0 ≤ unitsOut s.accessoryAssignments item :=
  Table.totalOf_nonneg fun _ member => sound.counted_nonneg member

/-- What one holder has is among the units that are out. -/
theorem quantity_le_unitsOut (sound : s.Sound) {item : AccessoryId} {holder : UserId}
    {held : Entry .accessoryAssignment AccessoryAssignment}
    (found : s.openAccessoryAssignment item holder = some held) :
    held.val.quantity ≤ unitsOut s.accessoryAssignments item := by
  obtain ⟨row, subject, _, opened⟩ := sound.openAccessoryAssignment found
  refine Table.le_totalOf (fun _ member => sound.counted_nonneg member) ?_
  exact Table.mem_filter.2 ⟨(Table.mem_of_get? row).1, by simp [subject, opened]⟩

/-- The units on the shelf can be told while no accessory has more units in custody than in all. -/
theorem available (sound : s.Sound) (backed : Backed s.accessories s.accessoryAssignments)
    {e : Entry .accessory Accessory} (member : e ∈ s.accessories.entries) :
    s.available e = .ok (e.val.quantity - unitsOut s.accessoryAssignments e.id) := by
  have nonneg := sound.unitsOut_nonneg e.id
  have covered := backed.covered e member
  have total := fitsWord_iff.1 (sound.accessories.valid e member).1
  exact Store.available_ok.2 ⟨fitsWord_iff.2 (by omega), rfl⟩

end Store.Sound

/-- In a reachable store the units on the shelf can always be told. -/
theorem Reachable.available (h : Reachable s) {e : Entry .accessory Accessory}
    (member : e ∈ s.accessories.entries) :
    s.available e = .ok (e.val.quantity - unitsOut s.accessoryAssignments e.id) :=
  h.sound.available h.backed member

/-- The units of an accessory in custody and on the shelf are told by the storage, fit a word, and
lie between nothing and the total. -/
structure Store.Covers (s : Store) (e : Entry .accessory Accessory) : Prop where
  assigned : s.assigned e.id = .ok (s.assignedUnits e.id)
  custody : 0 ≤ s.assignedUnits e.id ∧ s.assignedUnits e.id ≤ e.val.quantity
  available : s.available e = .ok (e.val.quantity - s.assignedUnits e.id)
  shelf : 0 ≤ e.val.quantity - s.assignedUnits e.id ∧
    e.val.quantity - s.assignedUnits e.id ≤ e.val.quantity
  fits : fitsWord (s.assignedUnits e.id) = true ∧
    fitsWord (e.val.quantity - s.assignedUnits e.id) = true

theorem Reachable.covers (h : Reachable s) {e : Entry .accessory Accessory}
    (member : e ∈ s.accessories.entries) : s.Covers e := by
  have nonneg : 0 ≤ s.assignedUnits e.id := h.sound.unitsOut_nonneg e.id
  have covered : s.assignedUnits e.id ≤ e.val.quantity := h.backed.covered e member
  have total := fitsWord_iff.1 (h.sound.accessories.valid e member).1
  have units : fitsWord (s.assignedUnits e.id) = true := fitsWord_iff.2 (by omega)
  exact {
    assigned := by rw [Store.assigned, if_pos units]
    custody := ⟨nonneg, covered⟩
    available := h.available member
    shelf := by omega
    fits := ⟨units, fitsWord_iff.2 (by omega)⟩ }

/-- Accessories are never over-committed: not in a reachable store, and not in what an operation on
accessories leaves, whoever asked for it and for whatever quantity. -/
theorem Reachable.never_overcommitted (h : Reachable s) :
    (∀ e ∈ s.accessories.entries, s.Covers e) ∧
      ∀ (d : Setting) (ctx : Context) (op : AccessoryOp),
        ∀ e ∈ (op.run d s ctx).store.accessories.entries, (op.run d s ctx).store.Covers e :=
  ⟨fun _ member => h.covers member, fun d ctx op _ member =>
    (h.run d (.caller ctx (.accessories op))).covers member⟩

/-- A box of ten pens: four are handed to somebody, two more to the same person, one comes back and
three are written off. -/
def penBox : Store :=
  Store.serve {} {}
    [.directory (.bootstrap "root" "Root"),
     .caller root (.accessories (.register
       { publicId := some "pens", name := "Pens", quantity := 10 })),
     .caller root (.accessories (.assign "pens" "root" 4)),
     .caller root (.accessories (.assign "pens" "root" 2)),
     .caller root (.accessories (.takeBack (Minted.text 0 2) 1)),
     .caller root (.accessories (.condemn "pens" 3))]
where
  root : Context := { actor := ⟨⟨1⟩, "root", "Root"⟩, binding := some .siteAdmin }

/-- Five of seven pens are out. Three more cannot be written off, and two can be handed out, after
which none is left. -/
theorem penBox_never_overcommitted :
    penBox.accessories.entries.map (fun e => (e.val.quantity, penBox.assignedUnits e.id)) = [(7, 5)] ∧
      (AccessoryOp.run {} penBox penBox.root (.condemn "pens" 3)).answer.isOk = false ∧
      (AccessoryOp.run {} penBox penBox.root (.assign "pens" "root" 2)).answer.isOk = true ∧
      ∀ e ∈ (AccessoryOp.run {} penBox penBox.root (.assign "pens" "root" 2)).store.accessories.entries,
        (AccessoryOp.run {} penBox penBox.root (.assign "pens" "root" 2)).store.Covers e := by
  have reachable : Reachable penBox := Reachable.serve (.seeded (.empty 0 0 0))
  exact ⟨by decide +kernel, by decide +kernel, by decide +kernel,
    reachable.never_overcommitted.2 _ _ _⟩

end Quartermaster
