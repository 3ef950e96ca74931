import Quartermaster.Proofs.Custody.LedgerSums
import Quartermaster.Proofs.Runs

/-!
# No unit of a consumable is lost

The ledger of the consumables accounts for every unit. Along a run from a seeded store it is kept in
step with the stock of each consumable (`Stocked`) and with each issue, and with what is held of a
consumable in all (`Accounted`). An operation adds at most one row to the ledger, so both say what
one row that is added has to come with.

Results:

1. `ConsumableStep.stocked`, `ConsumableStep.accounted`: every step keeps both.
2. `Seeded.units_conserved`: the ledger of a consumable replays to its stock and to each of its
   issues, and what it began with and was restocked is in stock, in custody, or recorded as gone.
-/

namespace Quartermaster

open Ledger

namespace EventType

/-- The types of rows that change a stock. -/
def stocking : List EventType := [.restocked, .issued, .returned]

/-- The types of rows that take units out of custody. -/
def leaving : List EventType := [.returned, .used, .lost, .damaged, .expired, .condemned]

end EventType

/-- The units of a consumable in open issues of a table. -/
def unitsHeld (issues : Table .consumableIssue ConsumableIssue) (item : ConsumableId) : Int :=
  Table.totalOf (·.quantity) (issues.filter fun i => i.consumable == item && i.isOpen)

/-- What an issue counts for among the units of a consumable. -/
def ConsumableIssue.unitsOf (i : ConsumableIssue) (item : ConsumableId) : Int :=
  if i.consumable == item && i.isOpen then i.quantity else 0

theorem unitsHeld_insert {issues : Table .consumableIssue ConsumableIssue} {i : ConsumableIssue}
    {item : ConsumableId} : unitsHeld (issues.insert i) item = unitsHeld issues item + i.unitsOf item :=
  Table.totalOf_filter_insert

theorem unitsHeld_put {issues : Table .consumableIssue ConsumableIssue}
    {i : Entry .consumableIssue ConsumableIssue} {v : ConsumableIssue} {item : ConsumableId}
    (numbered : issues.Numbered) (found : issues.get? i.id = some i) :
    unitsHeld (issues.put i.id v) item = unitsHeld issues item - i.val.unitsOf item + v.unitsOf item :=
  numbered.totalOf_filter_put found

theorem ConsumableIssue.unitsOf_of_ne {i : ConsumableIssue} {item : ConsumableId}
    (other : i.consumable ≠ item) : i.unitsOf item = 0 := by
  simp [unitsOf, other]

theorem ConsumableIssue.unitsOf_of_open {i : ConsumableIssue} (opened : i.isOpen = true) :
    i.unitsOf i.consumable = i.quantity := by
  simp [unitsOf, opened]

/-- Closed or not, an issue counts for what is left of it. -/
theorem ConsumableIssue.unitsOf_less {i : ConsumableIssue} (opened : i.isOpen = true) (units : Int)
    (until' : Stamp) : (i.less units until').unitsOf i.consumable = i.quantity - units := by
  have still : i.state = .opened := beq_iff_eq.1 opened
  by_cases rest : i.quantity - units = 0
  · simp [unitsOf, less, isOpen, rest]
  · simp [unitsOf, less, isOpen, rest, still]

/-- The units of a row under some types. -/
def UnitEvent.unitsIn {asset custody : Kind} (r : UnitEvent asset custody)
    (types : List EventType) : Int :=
  if r.type ∈ types then r.quantity else 0

/-- What a row changes of what is kept of its asset, under some types. -/
def UnitEvent.changeIn {asset custody : Kind} (r : UnitEvent asset custody)
    (types : List EventType) : Int :=
  if r.type ∈ types then r.quantityChange else 0

section Of

variable {asset custody : Kind} {r : UnitEvent asset custody} {item : Id asset}
  {row : Option (Id custody)} {type : EventType} {holder : Option UserId} {units change : Int}
  {by' : UserId}

theorem UnitEvent.Of.changeIn (h : r.Of item row type holder units change by')
    (types : List EventType) : r.changeIn types = if type ∈ types then change else 0 := by
  rw [UnitEvent.changeIn, h.type, h.change]

theorem UnitEvent.Of.unitsIn (h : r.Of item row type holder units change by')
    (types : List EventType) : r.unitsIn types = if type ∈ types then units else 0 := by
  rw [UnitEvent.unitsIn, h.type, h.quantity]

end Of

/-- What comes into the stock is written with its own sign, and what leaves the stock or the custody
of somebody with the other. -/
def ConsumableEvent.Signed (r : ConsumableEvent) : Prop :=
  r.quantityChange = if r.type ∈ [.restocked, .returned] then r.quantity else -r.quantity

/-! ## The stock -/

/-- The stock of every consumable is what it began with and what the ledger adds to it. No row is
about a consumable that is yet to come, and those begin with nothing. -/
structure Stocked (start : ConsumableId → Int) (items : Table .consumable Consumable)
    (rows : Table .consumableEvent ConsumableEvent) : Prop where
  known : ∀ r ∈ rows.entries, r.val.asset.row ≤ items.last
  unseeded : ∀ id, items.last < id.row → start id = 0
  signed : ∀ r ∈ rows.entries, ConsumableEvent.Signed r.val
  stock : ∀ e ∈ items.entries, e.val.quantity = start e.id + changeOf rows e.id EventType.stocking

namespace Stocked

variable {start : ConsumableId → Int} {items : Table .consumable Consumable}
  {rows : Table .consumableEvent ConsumableEvent} {r : ConsumableEvent}
  {e : Entry .consumable Consumable} {v : Consumable}

/-- A consumable that is new began with nothing, and nothing is recorded of it yet. -/
theorem nothing_of_next (h : Stocked start items rows) :
    start items.next + changeOf rows items.next EventType.stocking = 0 := by
  have begun : start items.next = 0 := h.unseeded _ (by simp only [Table.next]; omega)
  have unnamed : changeOf rows items.next EventType.stocking = 0 := by
    refine changeOf_of_unnamed fun e member same => ?_
    have := h.known e member
    rw [same] at this
    simp only [Table.next] at this
    omega
  rw [begun, unnamed, Int.add_zero]

theorem addItem (h : Stocked start items rows) (empty : v.quantity = 0) :
    Stocked start (items.insert v) rows where
  known r member := Int.le_trans (h.known r member) (by simp only [Table.last_insert]; omega)
  unseeded id beyond := h.unseeded id (by simp only [Table.last_insert] at beyond; omega)
  signed := h.signed
  stock := Table.forall_insert h.stock (empty.trans h.nothing_of_next.symm)

/-- A new consumable with the row that records its first units. -/
theorem addStocked (h : Stocked start items rows) (numbered : items.Numbered)
    (subject : r.asset = items.next) (signed : r.Signed)
    (first : v.quantity = r.changeIn EventType.stocking) :
    Stocked start (items.insert v) (rows.insert r) where
  known := by
    refine Table.forall_insert (fun x here => ?_) ?_
    · exact Int.le_trans (h.known x here) (by simp only [Table.last_insert]; omega)
    · simp only [subject, Table.next, Table.last_insert, Int.le_refl]
  unseeded id beyond := h.unseeded id (by simp only [Table.last_insert] at beyond; omega)
  signed := Table.forall_insert h.signed signed
  stock := by
    refine Table.forall_insert (fun e here => ?_) ?_
    · rw [changeOf_insert, if_neg fun key => numbered.ne_next here (key.1.symm.trans subject),
        Int.add_zero]
      exact h.stock e here
    · have := h.nothing_of_next
      simp only [UnitEvent.changeIn] at first
      simp only [changeOf_insert, subject, true_and]
      omega

/-- A row about a consumable, together with the stock that it leaves. -/
theorem move (h : Stocked start items rows) (numbered : items.Numbered)
    (member : e ∈ items.entries) (subject : r.asset = e.id) (signed : r.Signed)
    (left : v.quantity = e.val.quantity + r.changeIn EventType.stocking) :
    Stocked start (items.put e.id v) (rows.insert r) where
  known := Table.forall_insert h.known (subject ▸ (numbered.bounded e member).2)
  unseeded := h.unseeded
  signed := Table.forall_insert h.signed signed
  stock := by
    refine Table.forall_put (fun x here other => ?_) ?_
    · rw [changeOf_insert, if_neg fun key => other (key.1.symm.trans subject), Int.add_zero]
      exact h.stock x here
    · have := h.stock e member
      simp only [UnitEvent.changeIn] at left
      simp only [changeOf_insert, subject, true_and]
      omega

/-- A row about a known consumable that leaves its stock alone. -/
theorem note (h : Stocked start items rows) (numbered : items.Numbered)
    (member : e ∈ items.entries) (subject : r.asset = e.id) (signed : r.Signed)
    (apart : r.type ∉ EventType.stocking) : Stocked start items (rows.insert r) where
  known := Table.forall_insert h.known (subject ▸ (numbered.bounded e member).2)
  unseeded := h.unseeded
  signed := Table.forall_insert h.signed signed
  stock x here := by
    rw [changeOf_insert, if_neg fun key => apart key.2, Int.add_zero]
    exact h.stock x here

theorem mapItems {f : Consumable → Consumable} (h : Stocked start items rows)
    (kept : ∀ c, (f c).quantity = c.quantity) : Stocked start (items.map f) rows := by
  refine ⟨h.known, h.unseeded, h.signed, fun x member => ?_⟩
  obtain ⟨old, here, rfl⟩ := Table.mem_map.1 member
  exact (kept old.val).trans (h.stock old here)

end Stocked

/-! ## Issues -/

/-- Every issue is what the ledger records against it, under the name of its holder, and what is
held of a consumable in all is what was issued of it and has not left custody. No row names an issue
that is yet to come. -/
structure Accounted (issues : Table .consumableIssue ConsumableIssue)
    (rows : Table .consumableEvent ConsumableEvent) : Prop where
  known : ∀ r ∈ rows.entries, ∀ id, r.val.custody = some id → id.row ≤ issues.last
  issued : ∀ i ∈ issues.entries, i.val.issuedQuantity = unitsAgainst rows i.id [.issued]
  left : ∀ i ∈ issues.entries,
    i.val.quantity = i.val.issuedQuantity - unitsAgainst rows i.id EventType.leaving
  named : ∀ i ∈ issues.entries, ∀ r ∈ rows.entries, r.val.custody = some i.id →
    r.val.holder = some i.val.holder ∧ r.val.asset = i.val.consumable
  held : ∀ item, unitsHeld issues item =
    unitsOf rows item [.issued] - unitsOf rows item EventType.leaving

namespace Accounted

variable {issues : Table .consumableIssue ConsumableIssue}
  {rows : Table .consumableEvent ConsumableEvent} {r : ConsumableEvent}
  {i : Entry .consumableIssue ConsumableIssue} {v : ConsumableIssue}

theorem unnamed_of_next (h : Accounted issues rows) :
    ∀ e ∈ rows.entries, e.val.custody ≠ some issues.next := by
  intro e member same
  have := h.known e member _ same
  simp only [Table.next] at this
  omega

/-- A row that is about the stock only. -/
theorem note (h : Accounted issues rows) (nobody : r.custody = none)
    (apart : r.type ≠ .issued ∧ r.type ∉ EventType.leaving) : Accounted issues (rows.insert r) where
  known := Table.forall_insert h.known fun id same => by simp [nobody] at same
  issued i here := by
    rw [unitsAgainst_insert, if_neg fun key => by simp [nobody] at key, Int.add_zero]
    exact h.issued i here
  left i here := by
    rw [unitsAgainst_insert, if_neg fun key => by simp [nobody] at key, Int.add_zero]
    exact h.left i here
  named i here := Table.forall_insert (h.named i here) fun same => by simp [nobody] at same
  held item := by
    rw [unitsOf_insert, unitsOf_insert, if_neg fun key => apart.1 (List.mem_singleton.1 key.2),
      if_neg fun key => apart.2 key.2, Int.add_zero, Int.add_zero]
    exact h.held item

/-- A new issue with the row that records it. -/
theorem opens (h : Accounted issues rows) (numbered : issues.Numbered)
    (row : r.custody = some issues.next) (type : r.type = .issued)
    (holder : r.holder = some v.holder) (subject : r.asset = v.consumable)
    (opened : v.isOpen = true) (all : v.issuedQuantity = v.quantity)
    (units : v.quantity = r.quantity) : Accounted (issues.insert v) (rows.insert r) where
  known := by
    refine Table.forall_insert (fun x here id same => ?_) fun id same => ?_
    · exact Int.le_trans (h.known x here id same) (by simp only [Table.last_insert]; omega)
    · obtain rfl := Option.some.inj (row.symm.trans same)
      simp only [Table.next, Table.last_insert, Int.le_refl]
  issued := by
    refine Table.forall_insert (fun x here => ?_) ?_
    · rw [unitsAgainst_insert, if_neg fun key => numbered.ne_next here
        (Option.some.inj (key.1.symm.trans row)), Int.add_zero]
      exact h.issued x here
    · rw [unitsAgainst_insert, unitsAgainst_of_unnamed h.unnamed_of_next]
      simp only [row, type, List.mem_singleton, and_self, if_true]
      omega
  left := by
    refine Table.forall_insert (fun x here => ?_) ?_
    · rw [unitsAgainst_insert, if_neg fun key => numbered.ne_next here
        (Option.some.inj (key.1.symm.trans row)), Int.add_zero]
      exact h.left x here
    · rw [unitsAgainst_insert, unitsAgainst_of_unnamed h.unnamed_of_next, type]
      simp [EventType.leaving, all]
  named := by
    refine Table.forall_insert (fun x here => ?_) ?_
    · refine Table.forall_insert (h.named x here) fun same => ?_
      exact absurd (Option.some.inj (same.symm.trans row)) (numbered.ne_next here)
    · refine Table.forall_insert (fun e here same => absurd same (h.unnamed_of_next e here)) ?_
      exact fun _ => ⟨holder, subject⟩
  held item := by
    have before := h.held item
    have stays : EventType.issued ∉ EventType.leaving := by decide
    simp only [unitsHeld_insert, unitsOf_insert, type, stays, subject, ConsumableIssue.unitsOf,
      opened, units, Bool.and_true, beq_iff_eq, List.mem_singleton, and_true, and_false, if_false]
    omega

/-- A row against an issue, together with what it leaves of the issue. -/
theorem moves (h : Accounted issues rows) (numbered : issues.Numbered)
    (found : issues.get? i.id = some i) (row : r.custody = some i.id)
    (holder : r.holder = some i.val.holder) (subject : r.asset = i.val.consumable)
    (same : v.holder = i.val.holder ∧ v.consumable = i.val.consumable)
    (issued : v.issuedQuantity = i.val.issuedQuantity + r.unitsIn [.issued])
    (left : v.quantity = i.val.quantity + r.unitsIn [.issued] - r.unitsIn EventType.leaving)
    (counts : i.val.unitsOf i.val.consumable = i.val.quantity ∧
      v.unitsOf i.val.consumable = v.quantity) :
    Accounted (issues.put i.id v) (rows.insert r) := by
  have member := (Table.mem_of_get? found).1
  refine ⟨?_, ?_, ?_, ?_, fun item => ?_⟩
  · refine Table.forall_insert h.known fun id named => ?_
    obtain rfl := Option.some.inj (row.symm.trans named)
    exact (numbered.bounded i member).2
  · refine Table.forall_put (fun x here other => ?_) ?_
    · rw [unitsAgainst_insert, if_neg fun key => other (Option.some.inj (key.1.symm.trans row)),
        Int.add_zero]
      exact h.issued x here
    · have before := h.issued i member
      simp only [UnitEvent.unitsIn] at issued
      simp only [unitsAgainst_insert, row, true_and]
      omega
  · refine Table.forall_put (fun x here other => ?_) ?_
    · rw [unitsAgainst_insert, if_neg fun key => other (Option.some.inj (key.1.symm.trans row)),
        Int.add_zero]
      exact h.left x here
    · have before := h.left i member
      simp only [UnitEvent.unitsIn] at issued left
      simp only [unitsAgainst_insert, row, true_and]
      omega
  · refine Table.forall_put (fun x here other => ?_) ?_
    · refine Table.forall_insert (h.named x here) fun named => ?_
      exact absurd (Option.some.inj (named.symm.trans row)) other
    · rw [same.1, same.2]
      exact Table.forall_insert (h.named i member) fun _ => ⟨holder, subject⟩
  · have before := h.held item
    rw [unitsHeld_put numbered found, unitsOf_insert, unitsOf_insert]
    by_cases own : item = i.val.consumable
    · subst own
      simp only [UnitEvent.unitsIn] at left
      simp only [counts, subject, true_and]
      omega
    · rw [ConsumableIssue.unitsOf_of_ne (Ne.symm own),
        ConsumableIssue.unitsOf_of_ne (same.2 ▸ Ne.symm own),
        if_neg fun key => own (key.1.symm.trans subject),
        if_neg fun key => own (key.1.symm.trans subject)]
      omega

end Accounted

/-! ## Steps -/

section Steps

variable {d : Setting} {ctx : Context} {s s' : Store} {done : Committed Answer}
  {start : ConsumableId → Int}

theorem LossKind.eventType_leaves (kind : LossKind) :
    kind.eventType ∈ EventType.leaving ∧ kind.eventType ∉ EventType.stocking ∧
      kind.eventType ∉ [EventType.restocked, .returned] ∧ kind.eventType ≠ .issued := by
  cases kind <;> decide

section Appended

variable {r : ConsumableEvent} {item : ConsumableId} {row : Option ConsumableIssueId}
  {type : EventType} {holder : Option UserId} {units change : Int} {by' : UserId}

theorem UnitEvent.Of.signed (h : r.Of item row type holder units change by')
    (sign : change = if type ∈ [EventType.restocked, .returned] then units else -units) :
    ConsumableEvent.Signed r := by
  rw [ConsumableEvent.Signed, h.change, h.type, h.quantity]
  exact sign

/-- A row about units that leave the custody of somebody. -/
theorem Accounted.takes {issues : Table .consumableIssue ConsumableIssue}
    {rows : Table .consumableEvent ConsumableEvent} {i : Entry .consumableIssue ConsumableIssue}
    {until' : Stamp} (h : Accounted issues rows) (numbered : issues.Numbered)
    (found : issues.get? i.id = some i) (opened : i.val.isOpen = true)
    (appended : r.Of i.val.consumable (some i.id) type (some i.val.holder) units change by')
    (leaves : type ∈ EventType.leaving) (taken : type ≠ .issued) :
    Accounted (issues.put i.id (i.val.less units until')) (rows.insert r) := by
  have none_issued : r.unitsIn [.issued] = 0 := by
    rw [appended.unitsIn, if_neg (by simpa using taken)]
  refine h.moves numbered found appended.custody appended.holder appended.asset ⟨rfl, rfl⟩ ?_ ?_
    ⟨i.val.unitsOf_of_open opened, i.val.unitsOf_less opened units until'⟩
  · rw [none_issued, Int.add_zero]
    rfl
  · rw [none_issued, appended.unitsIn, if_pos leaves, Int.add_zero]
    rfl

end Appended

theorem ConsumableStep.stocked {op : ConsumableOp} (step : ConsumableStep d ctx s op done s')
    (sound : s.Sound) (h : Stocked start s.consumables s.consumableEvents) :
    Stocked start s'.consumables s'.consumableEvents := by
  have items := sound.consumables.numbered
  cases step with
  | read => exact h
  | registerEmpty _ _ _ _ empty => exact h.addItem empty
  | registerStocked _ _ added _ _ appended =>
    exact h.addStocked items (appended.asset.trans added) (appended.signed rfl)
      ((appended.changeIn _).trans (if_pos (by decide))).symm
  | issueMore _ item_named _ _ _ _ _ changed appended
  | issueNew _ item_named _ _ _ _ _ _ changed appended =>
    subst changed
    refine h.move items (Table.mem_of_find? item_named).1 appended.asset (appended.signed rfl) ?_
    rw [appended.changeIn]
    exact Int.sub_eq_add_neg
  | takeBack _ _ item_found _ _ _ _ _ _ changed appended =>
    subst changed
    refine h.move items (Table.mem_of_get? item_found).1 appended.asset (appended.signed rfl) ?_
    rw [appended.changeIn]
    rfl
  | restock _ item_named _ _ changed appended =>
    subst changed
    refine h.move items (Table.mem_of_find? item_named).1 appended.asset (appended.signed rfl) ?_
    rw [appended.changeIn]
    rfl
  | use _ item_named _ _ _ appended =>
    refine h.note items (Table.mem_of_find? item_named).1 appended.asset (appended.signed rfl) ?_
    rw [appended.type]
    decide
  | @recordLoss _ _ kind _ _ _ _ _ _ _ _ _ _ _ item_found _ _ _ _ _ appended =>
    obtain ⟨_, apart, out, _⟩ := kind.eventType_leaves
    refine h.note items (Table.mem_of_get? item_found).1 appended.asset
      (appended.signed (if_neg out).symm) ?_
    exact appended.type ▸ apart
  | @reportLoss _ _ kind _ _ _ _ _ _ _ _ _ _ _ item_named _ _ _ _ appended =>
    obtain ⟨_, apart, out, _⟩ := kind.eventType_leaves
    refine h.note items (Table.mem_of_find? item_named).1 appended.asset
      (appended.signed (if_neg out).symm) ?_
    exact appended.type ▸ apart

theorem ConsumableStep.accounted {op : ConsumableOp} (step : ConsumableStep d ctx s op done s')
    (sound : s.Sound) (h : Accounted s.consumableIssues s.consumableEvents) :
    Accounted s'.consumableIssues s'.consumableEvents := by
  have issues := sound.consumableIssues.numbered
  cases step with
  | read | registerEmpty => exact h
  | registerStocked _ _ _ _ _ appended | restock _ _ _ _ _ appended =>
    refine h.note appended.custody ?_
    rw [appended.type]
    decide
  | @issueMore _ _ quantity _ _ _ _ held _ _ _ _ _ _ _ _ _ _ _ _ is_held grown _ appended =>
    obtain ⟨found, subject, holder, opened⟩ := sound.openIssue is_held
    subst grown
    refine h.moves issues found appended.custody (appended.holder.trans (congrArg some holder.symm))
      (appended.asset.trans subject.symm) ⟨rfl, rfl⟩ ?_ ?_
      ⟨held.val.unitsOf_of_open opened, ConsumableIssue.unitsOf_of_open (i := { held.val with
        quantity := held.val.quantity + quantity.toInt
        issuedQuantity := held.val.issuedQuantity + quantity.toInt }) opened⟩
    · rw [appended.unitsIn]
      rfl
    · rw [appended.unitsIn, appended.unitsIn]
      exact (Int.sub_zero _).symm
  | issueNew _ _ _ _ _ _ _ opened _ appended =>
    subst opened
    exact h.opens issues appended.custody appended.type appended.holder appended.asset rfl rfl
      appended.quantity.symm
  | use _ _ own _ reduced appended =>
    obtain ⟨found, subject, holder, opened⟩ := sound.openIssue own
    subst reduced
    exact h.takes issues found opened (holder ▸ subject ▸ appended) (by decide) (by decide)
  | takeBack _ issue_named item_found _ opened _ _ _ reduced _ appended =>
    have found := sound.consumableIssues.get?_of_find? issue_named
    have subject := (Table.mem_of_get? item_found).2
    subst reduced
    exact h.takes issues found opened (subject ▸ appended) (by decide) (by decide)
  | @recordLoss _ _ kind _ _ _ _ _ _ _ _ _ _ issue_named item_found _ opened _ _ reduced appended =>
    obtain ⟨leaves, _, _, taken⟩ := kind.eventType_leaves
    have found := sound.consumableIssues.get?_of_find? issue_named
    have subject := (Table.mem_of_get? item_found).2
    subst reduced
    exact h.takes issues found opened (subject ▸ appended) leaves taken
  | @reportLoss _ _ kind _ _ _ _ _ _ _ _ _ _ _ _ _ own _ reduced appended =>
    obtain ⟨leaves, _, _, taken⟩ := kind.eventType_leaves
    obtain ⟨found, subject, holder, opened⟩ := sound.openIssue own
    subst reduced
    exact h.takes issues found opened (holder ▸ subject ▸ appended) leaves taken

end Steps

/-! ## Runs -/

/-- The stock under an id, nothing where there is no such consumable. -/
def Store.stockOf (s : Store) (item : ConsumableId) : Int :=
  (s.consumables.get? item).elim 0 (·.val.quantity)

/-- The ledger of the consumables is in step with the stock and the issues. -/
structure Store.Balanced (s : Store) (start : ConsumableId → Int) : Prop where
  stocked : Stocked start s.consumables s.consumableEvents
  accounted : Accounted s.consumableIssues s.consumableEvents

section Runs

variable {s₀ s s' : Store} {start : ConsumableId → Int}

theorem OperationStep.balanced {d : Setting} {op : Operation} {done : Committed Answer}
    (step : OperationStep d s op done s') (sound : s.Sound) (h : s.Balanced start) :
    s'.Balanced start := by
  obtain ⟨_, _, _, step⟩ | ⟨⟨room, items⟩, issues, rows⟩ := step.consumable_cases
  · exact ⟨step.stocked sound h.stocked, step.accounted sound h.accounted⟩
  · refine ⟨?_, ?_⟩
    · rw [items, rows]
      exact h.stocked.mapItems fun _ => rfl
    · rw [issues, rows]
      exact h.accounted

/-- Before the first operation the ledger is empty and nothing is issued. -/
theorem Seeded.balanced (seeded : Seeded s) : s.Balanced s.stockOf := by
  obtain ⟨⟨_, _, no_issues⟩, ⟨_, _, no_rows⟩, _⟩ := seeded.unused
  have numbered := seeded.sound.consumables.numbered
  constructor
  · rw [no_rows]
    refine ⟨List.forall_mem_nil _, fun id beyond => ?_, List.forall_mem_nil _, fun e member => ?_⟩
    · have absent : s.consumables.get? id = none := by
        refine List.find?_eq_none.2 fun e member same => ?_
        have := (numbered.bounded e member).2
        rw [eq_of_beq same] at this
        omega
      rw [Store.stockOf, absent]
      rfl
    · rw [Store.stockOf, numbered.get?_of_mem member]
      exact (Int.add_zero _).symm
  · rw [no_rows, no_issues]
    exact ⟨List.forall_mem_nil _, List.forall_mem_nil _, List.forall_mem_nil _,
      List.forall_mem_nil _, fun _ => rfl⟩

/-- Along every run from a seeded store the ledger stays in step. -/
theorem Leads.balanced (run : Leads Anything s₀ s) (seeded : Seeded s₀) :
    s.Balanced s₀.stockOf :=
  run.invariant seeded.sound seeded.balanced fun _ _ _ _ _ _ _ sound kept step =>
    step.balanced sound kept

end Runs

/-! ## What the ledger replays to -/

/-- An issue is what the ledger records against it. -/
structure Store.IssueReplayed (s : Store) (i : Entry .consumableIssue ConsumableIssue) : Prop where
  issued : i.val.issuedQuantity = unitsAgainst s.consumableEvents i.id [.issued]
  left : i.val.quantity = i.val.issuedQuantity -
    unitsAgainst s.consumableEvents i.id [.returned, .used, .lost, .damaged, .expired, .condemned]
  named : ∀ r ∈ s.consumableEvents.entries, r.val.custody = some i.id →
    r.val.holder = some i.val.holder ∧ r.val.asset = i.val.consumable
  closed : i.val.isOpen = false ↔ i.val.quantity = 0

/-- Of a consumable that began with `start` units none is created, lost or counted twice. -/
structure Store.Conserves (s : Store) (start : Int) (c : Entry .consumable Consumable) : Prop where
  stock : c.val.quantity =
    start + changeOf s.consumableEvents c.id [.restocked, .issued, .returned]
  issues : ∀ i ∈ s.consumableIssues.entries, i.val.consumable = c.id → s.IssueReplayed i
  units : start + unitsOf s.consumableEvents c.id [.restocked] =
    c.val.quantity + unitsHeld s.consumableIssues c.id
      + unitsOf s.consumableEvents c.id [.used] + unitsOf s.consumableEvents c.id [.lost]
      + unitsOf s.consumableEvents c.id [.damaged] + unitsOf s.consumableEvents c.id [.expired]
      + unitsOf s.consumableEvents c.id [.condemned]

section Replay

variable {s₀ s : Store} {start : ConsumableId → Int}

/-- An issue is closed exactly when nothing is left of it. -/
theorem Store.Sound.issue_closed {i : Entry .consumableIssue ConsumableIssue} (sound : s.Sound)
    (member : i ∈ s.consumableIssues.entries) : i.val.isOpen = false ↔ i.val.quantity = 0 := by
  have holds := (sound.consumableIssues.valid i member).2
  cases state : i.val.state with
  | opened =>
    have opened : i.val.isOpen = true := beq_iff_eq.2 state
    obtain ⟨_, _, some_held, _⟩ := (ConsumableIssue.holds_opened opened).1 holds
    simp only [opened, Bool.true_eq_false, false_iff]
    omega
  | closed =>
    obtain ⟨_, _, none_held, _⟩ := (ConsumableIssue.holds_closed state).1 holds
    simp [none_held, ConsumableIssue.isOpen, state]

theorem Accounted.issueReplayed {i : Entry .consumableIssue ConsumableIssue}
    (h : Accounted s.consumableIssues s.consumableEvents) (sound : s.Sound)
    (member : i ∈ s.consumableIssues.entries) : s.IssueReplayed i :=
  ⟨h.issued i member, h.left i member, h.named i member, sound.issue_closed member⟩

/-- The types that change a stock, one by one: what came, went and came back. -/
theorem Stocked.change (h : Stocked start s.consumables s.consumableEvents) (item : ConsumableId) :
    changeOf s.consumableEvents item EventType.stocking =
      unitsOf s.consumableEvents item [.restocked] - unitsOf s.consumableEvents item [.issued]
        + unitsOf s.consumableEvents item [.returned] := by
  have signed (type : EventType) (sign : Int)
      (own : ∀ r : ConsumableEvent, r.type = type → r.Signed → r.quantityChange = sign * r.quantity) :
      changeOf s.consumableEvents item [type] = sign * unitsOf s.consumableEvents item [type] :=
    changeOf_of_signed fun e member same => own e.val same (h.signed e member)
  have restocked := signed .restocked 1 fun r same sign => by
    simpa [ConsumableEvent.Signed, same] using sign
  have issued := signed .issued (-1) fun r same sign => by
    simpa [ConsumableEvent.Signed, same] using sign
  have returned := signed .returned 1 fun r same sign => by
    simpa [ConsumableEvent.Signed, same] using sign
  rw [changeOf_eq_foldr (by decide)]
  simp only [EventType.stocking, List.foldr_cons, List.foldr_nil]
  omega

/-- What was restocked is in stock, in custody, or gone. -/
theorem Store.Balanced.units {c : Entry .consumable Consumable} (h : s.Balanced start)
    (member : c ∈ s.consumables.entries) :
    start c.id + unitsOf s.consumableEvents c.id [.restocked] =
      c.val.quantity + unitsHeld s.consumableIssues c.id
        + unitsOf s.consumableEvents c.id [.used] + unitsOf s.consumableEvents c.id [.lost]
        + unitsOf s.consumableEvents c.id [.damaged] + unitsOf s.consumableEvents c.id [.expired]
        + unitsOf s.consumableEvents c.id [.condemned] := by
  have stock := h.stocked.stock c member
  have held := h.accounted.held c.id
  rw [h.stocked.change] at stock
  rw [unitsOf_eq_foldr (show EventType.leaving.Nodup by decide)] at held
  simp only [EventType.leaving, List.foldr_cons, List.foldr_nil] at held
  omega

/-- Along every run from a seeded store no unit of a consumable is created, lost or counted twice:
the ledger replays to the stock and to every issue. -/
theorem Seeded.units_conserved (seeded : Seeded s₀) (run : Leads Anything s₀ s) :
    ∀ c ∈ s.consumables.entries, s.Conserves (s₀.stockOf c.id) c := by
  intro c member
  have balanced := run.balanced seeded
  have sound := run.sound seeded.sound
  exact {
    stock := balanced.stocked.stock c member
    issues := fun i here _ => balanced.accounted.issueReplayed sound here
    units := balanced.units member }

end Replay

/-- Ten rolls of tape, put on the shelf before anybody is there. -/
def tapeShelf : Store :=
  (Store.transact {} (Tx.createConsumable
    { publicId := some "tape", name := "Tape", quantity := 10 } none)).2

/-- Of the tape four rolls are issued, then two more; one is used, two are lost, the rest comes back,
and one roll is issued again. Some glue joins the tape. -/
def busyShelf : Store :=
  tapeShelf.serve {}
    [.directory (.bootstrap "root" "Root"),
     .caller root (.consumables (.register
       { publicId := some "glue", name := "Glue", quantity := 5 })),
     .caller root (.consumables (.issue "tape" "root" 4 none)),
     .caller root (.consumables (.issue "tape" "root" 2 none)),
     .caller root (.consumables (.use "tape" 1)),
     .caller root (.consumables (.reportLoss "tape" 2 .lost)),
     .caller root (.consumables (.takeBack (Minted.text 0 2) 3)),
     .caller root (.consumables (.issue "tape" "root" 1 none))]
where
  root : Context := { actor := ⟨⟨1⟩, "root", "Root"⟩, binding := some .siteAdmin }

theorem tapeShelf_seeded : Seeded tapeShelf := by
  have succeeds : (Tx.createConsumable { publicId := some "tape", name := "Tape", quantity := 10 }
      none {}).isOk = true := by decide +kernel
  obtain ⟨⟨e, s⟩, created⟩ := Results.isOk_iff.1 succeeds
  have same : tapeShelf = s := by rw [tapeShelf, Store.transact, created]
  exact same ▸ .consumable (.empty 0 0 0) created

/-- Six rolls are in stock and one is in custody, of ten; the first issue is closed, the second is
not. The glue began with nothing. -/
theorem busyShelf_units_conserved :
    busyShelf.consumables.entries.map (·.val.quantity) = [6, 5] ∧
      busyShelf.consumableIssues.entries.map (·.val.isOpen) = [false, true] ∧
      busyShelf.consumables.entries.map (fun c => tapeShelf.stockOf c.id) = [10, 0] ∧
      ∀ c ∈ busyShelf.consumables.entries, busyShelf.Conserves (tapeShelf.stockOf c.id) c := by
  have run : Leads Anything tapeShelf busyShelf := Leads.serve .refl
  exact ⟨by decide +kernel, by decide +kernel, by decide +kernel,
    tapeShelf_seeded.units_conserved run⟩

end Quartermaster
