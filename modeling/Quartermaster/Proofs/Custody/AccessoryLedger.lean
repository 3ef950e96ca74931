import Quartermaster.Proofs.Custody.Conservation

/-!
# The ledger of the accessories replays

What is stored of accessories can be computed from their ledger. Along a run from a seeded store the
total of each accessory, what each holder has of it, and what is left of each assignment are the
sums of the rows about them (`Replayed`). An operation adds at most one row, so each sum changes at
one key, and what is stored has to change there by the same.

Results:

1. `AccessoryStep.replayed`: every step keeps the ledger in step with what is stored.
2. `Seeded.ledger_replays`: in every store that a run leads to, the ledger of an accessory replays to
   its total, to the open assignment of each holder, and to every assignment, closed ones included.
-/

namespace Quartermaster

open Ledger

/-! ## Amounts under an id -/

namespace Table

variable {k : Kind} {α : Type} {t : Table k α} {id : Id k} {e : Entry k α} {v : α} {f : α → Int}
  {p q : α → Bool}

/-- A number of the row under an id, zero where there is no row. -/
def amount (f : α → Int) (t : Table k α) (id : Id k) : Int := (t.get? id).elim 0 fun e => f e.val

theorem amount_of_get? (found : t.get? id = some e) : t.amount f id = f e.val := by
  rw [amount, found, Option.elim_some]

theorem Numbered.amount_of_mem (h : t.Numbered) (member : e ∈ t.entries) :
    t.amount f e.id = f e.val :=
  amount_of_get? (h.get?_of_mem member)

theorem Numbered.amount_insert (h : t.Numbered) :
    (t.insert v).amount f id = t.amount f id + if t.next = id then f v else 0 := by
  by_cases here : t.next = id
  · subst here
    rw [amount_of_get? h.get?_insert_next, amount, h.get?_next, if_pos rfl, Option.elim_none,
      Int.zero_add]
  · rw [amount, get?_insert_of_ne (Ne.symm here), if_neg here, Int.add_zero, amount]

theorem amount_put {c : Int} (found : t.get? e.id = some e) (changed : f v = f e.val + c) :
    (t.put e.id v).amount f id = t.amount f id + if e.id = id then c else 0 := by
  by_cases here : e.id = id
  · subst here
    rw [amount_of_get? (get?_put_self found), amount_of_get? found, if_pos rfl]
    exact changed
  · rw [amount, get?_put_of_ne (Ne.symm here), if_neg here, Int.add_zero, amount]

theorem amount_map {g : α → α} (kept : ∀ a, f (g a) = f a) : (t.map g).amount f id = t.amount f id := by
  rw [amount, get?_map, amount]
  cases t.get? id with
  | none => rfl
  | some e => exact kept e.val

/-- Rows that count for nothing can be left out of a sum. -/
theorem totalOf_filter_and (nothing : ∀ e ∈ t.entries, q e.val = false → f e.val = 0) :
    totalOf f (t.filter fun a => p a && q a) = totalOf f (t.filter p) := by
  unfold filter
  revert nothing
  induction t.entries with
  | nil => exact fun _ => rfl
  | cons e rest ih =>
    intro nothing
    obtain ⟨first, later⟩ := List.forall_mem_cons.1 nothing
    have ih := ih later
    simp only [List.filter_cons]
    cases p e.val with
    | false => exact ih
    | true =>
      cases counts : q e.val with
      | true => exact congrArg (f e.val + ·) ih
      | false => exact ih.trans (by rw [if_pos rfl, totalOf, first counts, Int.zero_add])

/-- The sum over at most one row is that row. -/
theorem totalOf_of_subsingleton (one : (t.filter p).length ≤ 1) :
    totalOf f (t.filter p) = (t.find? p).elim 0 fun e => f e.val := by
  rw [find?_eq_head?]
  match found : t.filter p with
  | [] => rfl
  | [e] => exact Int.add_zero _
  | _ :: _ :: _ => simp [found] at one

end Table

/-! ## Sums over the ledger -/

namespace Ledger

variable {k asset custody : Kind} {rows : Table k (UnitEvent asset custody)} {item : Id asset}
  {holder : UserId} {types : List EventType} {r : UnitEvent asset custody}

/-- The change recorded of what is kept of an asset. -/
def recordedChange (rows : Table k (UnitEvent asset custody)) (item : Id asset) : Int :=
  Table.totalOf (·.quantityChange) (rows.filter (·.asset == item))

/-- The units of an asset recorded under the name of a holder, under some types. -/
def unitsToward (rows : Table k (UnitEvent asset custody)) (item : Id asset) (holder : UserId)
    (types : List EventType) : Int :=
  Table.totalOf (·.quantity)
    (rows.filter fun r => r.asset == item && r.holder == some holder && types.contains r.type)

theorem recordedChange_insert : recordedChange (rows.insert r) item =
    recordedChange rows item + if r.asset = item then r.quantityChange else 0 := by
  simp only [recordedChange, Table.totalOf_filter_insert, beq_iff_eq]

theorem unitsToward_insert : unitsToward (rows.insert r) item holder types =
    unitsToward rows item holder types +
      if (r.asset = item ∧ r.holder = some holder) ∧ r.type ∈ types then r.quantity else 0 := by
  simp only [unitsToward, Table.totalOf_filter_insert, Bool.and_eq_true, beq_iff_eq,
    List.contains_iff_mem]

end Ledger

/-- The units of an accessory in the assignments of a holder; closed ones have none. -/
def unitsWith (custody : Table .accessoryAssignment AccessoryAssignment) (item : AccessoryId)
    (holder : UserId) : Int :=
  Table.totalOf (·.quantity) (custody.filter fun a => a.accessory == item && a.holder == holder)

section Custody

variable {custody : Table .accessoryAssignment AccessoryAssignment} {item : AccessoryId}
  {holder : UserId} {a : Entry .accessoryAssignment AccessoryAssignment} {v : AccessoryAssignment}

theorem unitsWith_insert : unitsWith (custody.insert v) item holder =
    unitsWith custody item holder +
      if v.accessory = item ∧ v.holder = holder then v.quantity else 0 := by
  simp only [unitsWith, Table.totalOf_filter_insert, Bool.and_eq_true, beq_iff_eq]

/-- A change that leaves accessory and holder of an assignment. -/
theorem unitsWith_put {c : Int} (numbered : custody.Numbered) (found : custody.get? a.id = some a)
    (same : v.accessory = a.val.accessory ∧ v.holder = a.val.holder)
    (changed : v.quantity = a.val.quantity + c) :
    unitsWith (custody.put a.id v) item holder = unitsWith custody item holder +
      if a.val.accessory = item ∧ a.val.holder = holder then c else 0 := by
  simp only [unitsWith, numbered.totalOf_filter_put found, same, Bool.and_eq_true, beq_iff_eq]
  by_cases own : a.val.accessory = item ∧ a.val.holder = holder
  · simp only [own, and_self, if_true]
    omega
  · simp only [own, if_false, Int.sub_zero]

end Custody

/-- What a row adds to what its holder has. -/
def UnitEvent.handed {asset custody : Kind} (r : UnitEvent asset custody) : Int :=
  r.unitsIn [.assigned] - r.unitsIn [.returned]

/-- What is assigned or comes back leaves the total, what is condemned leaves it, and what is
restocked is added; there are no other rows. -/
structure AccessoryEvent.Signed (r : AccessoryEvent) : Prop where
  types : r.type ∈ [.assigned, .returned, .condemned, .restocked]
  handed : r.type ∈ [.assigned, .returned] → r.quantityChange = 0
  condemned : r.type = .condemned → r.quantityChange = -r.quantity
  restocked : r.type = .restocked → r.quantityChange = r.quantity

/-! ## The ledger in step with what is stored -/

/-- The total of every accessory is what it began with and what the ledger adds to it, and what a
holder has of it, and what is left of an assignment, is what was assigned and has not come back. -/
structure Replayed (start : AccessoryId → Int) (items : Table .accessory Accessory)
    (custody : Table .accessoryAssignment AccessoryAssignment)
    (rows : Table .accessoryEvent AccessoryEvent) : Prop where
  total : ∀ item, items.amount (·.quantity) item = start item + recordedChange rows item
  held : ∀ item holder, unitsWith custody item holder =
    unitsToward rows item holder [.assigned] - unitsToward rows item holder [.returned]
  left : ∀ row, custody.amount (·.quantity) row =
    unitsAgainst rows row [.assigned] - unitsAgainst rows row [.returned]
  signed : ∀ r ∈ rows.entries, AccessoryEvent.Signed r.val

namespace Replayed

variable {start : AccessoryId → Int} {items items' : Table .accessory Accessory}
  {custody custody' : Table .accessoryAssignment AccessoryAssignment}
  {rows : Table .accessoryEvent AccessoryEvent} {r : AccessoryEvent}

/-- What is stored of the totals may change as long as the totals do not. -/
theorem sameTotals (h : Replayed start items custody rows)
    (same : ∀ item, items'.amount (·.quantity) item = items.amount (·.quantity) item) :
    Replayed start items' custody rows :=
  ⟨fun item => (same item).trans (h.total item), h.held, h.left, h.signed⟩

/-- A row about the total of its accessory. -/
theorem restates (h : Replayed start items custody rows) (signed : AccessoryEvent.Signed r)
    (nobody : r.custody = none ∧ r.holder = none)
    (total : ∀ item, items'.amount (·.quantity) item =
      items.amount (·.quantity) item + if r.asset = item then r.quantityChange else 0) :
    Replayed start items' custody (rows.insert r) where
  total item := by
    rw [total, h.total, recordedChange_insert, Int.add_assoc]
  held item holder := by
    simp only [unitsToward_insert, nobody, reduceCtorEq, and_false, false_and, if_false,
      Int.add_zero]
    exact h.held item holder
  left row := by
    simp only [unitsAgainst_insert, nobody, reduceCtorEq, false_and, if_false, Int.add_zero]
    exact h.left row
  signed := Table.forall_insert h.signed signed

/-- A row about units that change hands, together with what it leaves of the assignment it is
against. -/
theorem hands (h : Replayed start items custody rows) (signed : AccessoryEvent.Signed r)
    {row : AccessoryAssignmentId} {holder : UserId} (against : r.custody = some row)
    (toward : r.holder = some holder) (apart : r.quantityChange = 0)
    (held : ∀ item user, unitsWith custody' item user = unitsWith custody item user +
      if r.asset = item ∧ holder = user then r.handed else 0)
    (left : ∀ id, custody'.amount (·.quantity) id =
      custody.amount (·.quantity) id + if row = id then r.handed else 0) :
    Replayed start items custody' (rows.insert r) where
  total item := by
    rw [recordedChange_insert, apart, ite_self, Int.add_zero]
    exact h.total item
  held item user := by
    have before := h.held item user
    simp only [UnitEvent.handed, UnitEvent.unitsIn] at held
    simp only [held, unitsToward_insert, toward, Option.some.injEq]
    by_cases own : r.asset = item ∧ holder = user
    · simp only [own, and_self, true_and, if_true]
      omega
    · simp only [own, false_and, if_false, Int.add_zero]
      exact before
  left id := by
    have before := h.left id
    simp only [UnitEvent.handed, UnitEvent.unitsIn] at left
    simp only [left, unitsAgainst_insert, against, Option.some.injEq]
    by_cases own : row = id
    · simp only [own, true_and, if_true]
      omega
    · simp only [own, false_and, if_false, Int.add_zero]
      exact before
  signed := Table.forall_insert h.signed signed

end Replayed

/-! ## Steps -/

section Steps

variable {d : Setting} {ctx : Context} {s s' : Store} {done : Committed Answer}
  {start : AccessoryId → Int} {r : AccessoryEvent} {item : AccessoryId}
  {row : Option AccessoryAssignmentId} {type : EventType} {holder : Option UserId}
  {units change : Int} {by' : UserId}

theorem UnitEvent.Of.handed_assigned (h : r.Of item row .assigned holder units change by') :
    r.handed = units := by
  rw [UnitEvent.handed, h.unitsIn, h.unitsIn, if_pos (by decide), if_neg (by decide), Int.sub_zero]

theorem UnitEvent.Of.handed_returned (h : r.Of item row .returned holder units change by') :
    r.handed = -units := by
  rw [UnitEvent.handed, h.unitsIn, h.unitsIn, if_neg (by decide), if_pos (by decide), Int.zero_sub]

theorem UnitEvent.Of.signed_assigned (h : r.Of item row .assigned holder units 0 by') :
    AccessoryEvent.Signed r := by
  constructor <;> simp [h.type, h.change]

theorem UnitEvent.Of.signed_returned (h : r.Of item row .returned holder units 0 by') :
    AccessoryEvent.Signed r := by
  constructor <;> simp [h.type, h.change]

theorem UnitEvent.Of.signed_condemned (h : r.Of item row .condemned holder units (-units) by') :
    AccessoryEvent.Signed r := by
  constructor <;> simp [h.type, h.change, h.quantity]

theorem UnitEvent.Of.signed_restocked (h : r.Of item row .restocked holder units units by') :
    AccessoryEvent.Signed r := by
  constructor <;> simp [h.type, h.change, h.quantity]

section Tables

variable {items : Table .accessory Accessory}
  {custody : Table .accessoryAssignment AccessoryAssignment}
  {rows : Table .accessoryEvent AccessoryEvent} {e : Entry .accessory Accessory} {v : Accessory}
  {a : Entry .accessoryAssignment AccessoryAssignment} {w : AccessoryAssignment}

/-- An accessory with another total, and the row that tells the change. -/
theorem Replayed.setTotal (h : Replayed start items custody rows)
    (found : items.get? e.id = some e)
    (appended : r.Of e.id none type none units change by') (signed : AccessoryEvent.Signed r)
    (total : v.quantity = e.val.quantity + change) :
    Replayed start (items.put e.id v) custody (rows.insert r) := by
  refine h.restates signed ⟨appended.custody, appended.holder⟩ fun id => ?_
  rw [Table.amount_put found total, appended.asset, appended.change]

/-- An assignment with more or fewer units, and the row that tells the change. -/
theorem Replayed.setLeft (h : Replayed start items custody rows) (numbered : custody.Numbered)
    (found : custody.get? a.id = some a)
    (appended : r.Of a.val.accessory (some a.id) type (some a.val.holder) units 0 by')
    (signed : AccessoryEvent.Signed r)
    (same : w.accessory = a.val.accessory ∧ w.holder = a.val.holder)
    (left : w.quantity = a.val.quantity + r.handed) :
    Replayed start items (custody.put a.id w) (rows.insert r) := by
  refine h.hands signed appended.custody appended.holder appended.change
    (fun item user => ?_) fun id => Table.amount_put found left
  rw [unitsWith_put numbered found same left, appended.asset]

/-- A new assignment, and the row that tells of it. -/
theorem Replayed.opens (h : Replayed start items custody rows) (numbered : custody.Numbered)
    (appended : r.Of w.accessory (some custody.next) .assigned (some w.holder) w.quantity 0 by') :
    Replayed start items (custody.insert w) (rows.insert r) := by
  have handed := appended.handed_assigned
  refine h.hands appended.signed_assigned appended.custody appended.holder appended.change
    (fun item user => ?_) fun id => ?_
  · rw [unitsWith_insert, appended.asset, handed]
  · rw [numbered.amount_insert, handed]

end Tables

theorem AccessoryStep.replayed {op : AccessoryOp} (step : AccessoryStep ctx s op done s')
    (sound : s.Sound)
    (h : Replayed start s.accessories s.accessoryAssignments s.accessoryEvents) :
    Replayed start s'.accessories s'.accessoryAssignments s'.accessoryEvents := by
  have items := sound.accessories.numbered
  have custody := sound.accessoryAssignments.numbered
  cases step with
  | read => exact h
  | registerEmpty _ _ _ _ empty =>
    refine h.sameTotals fun id => ?_
    rw [items.amount_insert, empty, ite_self, Int.add_zero]
  | registerStocked _ _ added _ _ appended =>
    refine h.restates appended.signed_restocked ⟨appended.custody, appended.holder⟩ fun id => ?_
    rw [items.amount_insert, appended.asset, appended.change, added]
  | condemn _ item_named _ _ _ changed appended =>
    subst changed
    exact h.setTotal (sound.accessories.get?_of_find? item_named) appended
      appended.signed_condemned rfl
  | restock _ item_named _ _ changed _ appended =>
    subst changed
    exact h.setTotal (sound.accessories.get?_of_find? item_named) appended
      appended.signed_restocked rfl
  | assignMore _ _ _ _ _ _ is_held grown appended =>
    obtain ⟨found, subject, holder, _⟩ := sound.openAccessoryAssignment is_held
    subst grown
    refine h.setLeft custody found (subject.symm ▸ holder.symm ▸ appended)
      appended.signed_assigned ⟨rfl, rfl⟩ ?_
    rw [appended.handed_assigned]
  | assignNew _ _ _ _ _ _ _ _ opened appended =>
    subst opened
    exact h.opens custody appended
  | takeBack _ custody_named item_found _ _ _ _ reduced _ appended =>
    have found := sound.accessoryAssignments.get?_of_find? custody_named
    have subject := (Table.mem_of_get? item_found).2
    subst reduced
    refine h.setLeft custody found (subject ▸ appended) appended.signed_returned ⟨rfl, rfl⟩ ?_
    rw [appended.handed_returned]
    exact Int.sub_eq_add_neg

end Steps

/-! ## Runs -/

section Runs

variable {s₀ s s' : Store} {start : AccessoryId → Int}

/-- The total under an id, nothing where there is no such accessory. -/
def Store.totalUnits (s : Store) (item : AccessoryId) : Int :=
  s.accessories.amount (·.quantity) item

/-- The ledger of the accessories is in step with what is stored. -/
abbrev Store.Replays (s : Store) (start : AccessoryId → Int) : Prop :=
  Replayed start s.accessories s.accessoryAssignments s.accessoryEvents

theorem OperationStep.replays {d : Setting} {op : Operation} {done : Committed Answer}
    (step : OperationStep d s op done s') (sound : s.Sound) (h : s.Replays start) :
    s'.Replays start := by
  obtain ⟨_, _, _, step⟩ | ⟨⟨room, items⟩, custody, rows⟩ := step.accessory_cases
  · exact step.replayed sound h
  · rw [Store.Replays, items, custody, rows]
    exact h.sameTotals fun _ => Table.amount_map fun _ => rfl

/-- Before the first operation the ledger is empty and nobody has anything. -/
theorem Seeded.replays (seeded : Seeded s) : s.Replays s.totalUnits := by
  obtain ⟨⟨_, no_custody, _⟩, ⟨_, no_rows, _⟩, _⟩ := seeded.unused
  rw [Store.Replays, no_custody, no_rows]
  exact ⟨fun _ => (Int.add_zero _).symm, fun _ _ => rfl, fun _ => rfl, List.forall_mem_nil _⟩

theorem Leads.replays (run : Leads Anything s₀ s) (seeded : Seeded s₀) :
    s.Replays s₀.totalUnits :=
  run.invariant seeded.sound seeded.replays fun _ _ _ _ _ _ _ sound kept step =>
    step.replays sound kept

end Runs

/-! ## What the ledger replays to -/

/-- An assignment is what the ledger records against it, and closed when that is nothing. -/
structure Store.AssignmentReplayed (s : Store)
    (a : Entry .accessoryAssignment AccessoryAssignment) : Prop where
  left : a.val.quantity = unitsAgainst s.accessoryEvents a.id [.assigned] -
    unitsAgainst s.accessoryEvents a.id [.returned]
  closed : a.val.isOpen = false ↔ unitsAgainst s.accessoryEvents a.id [.assigned] =
    unitsAgainst s.accessoryEvents a.id [.returned]

/-- The ledger of an accessory that began with `start` units replays to what is stored of it. -/
structure Store.LedgerReplays (s : Store) (start : Int) (e : Entry .accessory Accessory) : Prop where
  total : e.val.quantity = start + recordedChange s.accessoryEvents e.id
  held : ∀ holder : UserId,
    unitsToward s.accessoryEvents e.id holder [.assigned] -
        unitsToward s.accessoryEvents e.id holder [.returned] =
      (s.openAccessoryAssignment e.id holder).elim 0 (·.val.quantity)
  assignments : ∀ a ∈ s.accessoryAssignments.entries, a.val.accessory = e.id →
    s.AssignmentReplayed a
  signed : ∀ r ∈ s.accessoryEvents.entries, r.val.asset = e.id → AccessoryEvent.Signed r.val

section Replay

variable {s₀ s : Store} {start : AccessoryId → Int}

/-- An assignment is closed exactly when nothing is left of it. -/
theorem Store.Sound.assignment_closed {a : Entry .accessoryAssignment AccessoryAssignment}
    (sound : s.Sound) (member : a ∈ s.accessoryAssignments.entries) :
    a.val.isOpen = false ↔ a.val.quantity = 0 := by
  have holds := (sound.accessoryAssignments.valid a member).2
  cases state : a.val.state with
  | opened =>
    have opened : a.val.isOpen = true := beq_iff_eq.2 state
    have some_held := ((AccessoryAssignment.holds_opened opened).1 holds).1
    simp only [opened, Bool.true_eq_false, false_iff]
    omega
  | closed =>
    have none_held := ((AccessoryAssignment.holds_closed state).1 holds).1
    simp [none_held, AccessoryAssignment.isOpen, state]

/-- What a holder has of an accessory is in the open assignment. -/
theorem Store.Sound.unitsWith_eq (sound : s.Sound) {item : AccessoryId} {holder : UserId} :
    unitsWith s.accessoryAssignments item holder =
      (s.openAccessoryAssignment item holder).elim 0 (·.val.quantity) := by
  rw [unitsWith, ← Table.totalOf_filter_and fun a here => (sound.assignment_closed here).1]
  refine Table.totalOf_of_subsingleton ?_
  -- two open assignments of one accessory to one holder clash
  refine sound.accessoryAssignments.filter_subsingleton fun a _ b _ one other => ?_
  simp only [Bool.and_eq_true, beq_iff_eq] at one other
  simp [Record.clashes, one, other]

/-- In every store that a run from a seeded one leads to, the ledger of every accessory replays to
what is stored: its total, what every holder has of it, and what is left of every assignment. -/
theorem Seeded.ledger_replays (seeded : Seeded s₀) (run : Leads Anything s₀ s) :
    ∀ e ∈ s.accessories.entries, s.LedgerReplays (s₀.totalUnits e.id) e := by
  intro e member
  have sound := run.sound seeded.sound
  have replays := run.replays seeded
  refine ⟨?_, fun holder => ?_, fun a here _ => ?_, fun r here _ => replays.signed r here⟩
  · rw [← sound.accessories.numbered.amount_of_mem (f := (·.quantity)) member]
    exact replays.total e.id
  · exact (replays.held e.id holder).symm.trans sound.unitsWith_eq
  · have left : a.val.quantity = _ :=
      (sound.accessoryAssignments.numbered.amount_of_mem here).symm.trans (replays.left a.id)
    refine ⟨left, (sound.assignment_closed here).trans ?_⟩
    omega

end Replay

/-- Ten cables, put on the shelf before anybody is there. -/
def cableShelf : Store :=
  (Store.transact {} (Tx.createAccessory (some "cable") "Cable" 10 none)).2

/-- Four cables are assigned to one user, then two more into the same assignment, and one to another
user. All that the first has comes back, and three are assigned anew. Two cables are condemned, five
restocked. Some adapters join the cables. -/
def busyCables : Store :=
  cableShelf.serve {}
    [.directory (.bootstrap "root" "Root"),
     .directory (.createUser { publicId := some "guest", displayName := "Guest" }),
     .caller root (.accessories (.register
       { publicId := some "adapter", name := "Adapter", quantity := 3 })),
     .caller root (.accessories (.assign "cable" "root" 4)),
     .caller root (.accessories (.assign "cable" "root" 2)),
     .caller root (.accessories (.assign "cable" "guest" 1)),
     .caller root (.accessories (.takeBack (Minted.text 0 2) 6)),
     .caller root (.accessories (.assign "cable" "root" 3)),
     .caller root (.accessories (.condemn "cable" 2)),
     .caller root (.accessories (.restock "cable" 5))]
where
  root : Context := { actor := ⟨⟨1⟩, "root", "Root"⟩, binding := some .siteAdmin }

theorem cableShelf_seeded : Seeded cableShelf := by
  have succeeds : (Tx.createAccessory (some "cable") "Cable" 10 none {}).isOk = true := by
    decide +kernel
  obtain ⟨⟨e, s⟩, created⟩ := Results.isOk_iff.1 succeeds
  have same : cableShelf = s := by rw [cableShelf, Store.transact, created]
  exact same ▸ .accessory (.empty 0 0 0) created

/-- Of ten cables thirteen are left after all, and the adapters began with nothing. The assignment
that was given back is closed, and the two that were opened later hold one cable and three. -/
theorem busyCables_ledger_replays :
    busyCables.accessories.entries.map (·.val.quantity) = [13, 3] ∧
      busyCables.accessoryAssignments.entries.map
        (fun a => (a.val.holder.row, a.val.quantity, a.val.isOpen)) =
          [(1, 0, false), (2, 1, true), (1, 3, true)] ∧
      busyCables.accessories.entries.map (fun e => cableShelf.totalUnits e.id) = [10, 0] ∧
      ∀ e ∈ busyCables.accessories.entries, busyCables.LedgerReplays (cableShelf.totalUnits e.id) e := by
  have run : Leads Anything cableShelf busyCables := Leads.serve .refl
  exact ⟨by decide +kernel, by decide +kernel, by decide +kernel,
    cableShelf_seeded.ledger_replays run⟩

end Quartermaster
