import Quartermaster.Proofs.Custody.AccessoryLedger
import Quartermaster.Proofs.Custody.Backed

/-!
# What moving units changes

The store keeps numbers of assets and of custody rows (`Count`). Moving units adds to some of them, for
each unit the same, and concerns one custody row at most (`Flow`). So what two movements along one flow
come to depends on the sum of their units only.

1. `Store.Moved`: units were moved along a flow.
2. `Moved.total`, `Moved.stock`, `Moved.custody`, `Moved.opened`, `Moved.issue`, `Moved.issueOpened`:
   what each kind of write moves. `Moved.beside`: two writes to different tables.
3. `Moved.trans`, `Moved.sameUnits`: units moved one after the other add up, and as many units moved
   from the same store leave the same.
-/

namespace Quartermaster

/-! ## Counts and flows -/

/-- A number that the store keeps of an asset or of a custody row. -/
inductive Count where
  | total (item : AccessoryId)
  | out (item : AccessoryId)
  | stock (item : ConsumableId)
  | assigned (row : AccessoryAssignmentId)
  | held (row : ConsumableIssueId)
  | issued (row : ConsumableIssueId)
  deriving DecidableEq

/-- An assignment of units, or an issue. -/
inductive CustodyRow where
  | assignment (row : AccessoryAssignmentId)
  | issue (row : ConsumableIssueId)
  deriving DecidableEq

/-- Where units go: what each of them adds to the counts, and the custody row that is concerned, with
its holder. -/
structure Flow where
  changes : List (Count × Int) := []
  row : Option (CustodyRow × UserId) := none
  deriving DecidableEq

namespace Flow

/-- What one unit adds to a count. -/
def perUnit (x : Flow) (c : Count) : Int := go x.changes
where
  go : List (Count × Int) → Int
    | [] => 0
    | (d, n) :: rest => (if c = d then n else 0) + go rest

/-- Units of an accessory come in or go out for good. -/
def total (n : Int) (item : AccessoryId) : Flow := { changes := [(.total item, n)] }

/-- Units of an accessory go to a holder or come back. -/
def custody (n : Int) (item : AccessoryId) (row : AccessoryAssignmentId) (holder : UserId) : Flow :=
  { changes := [(.assigned row, n), (.out item, n)], row := some (.assignment row, holder) }

/-- Units of a consumable come into the stock or go out of it. -/
def stock (n : Int) (item : ConsumableId) : Flow := { changes := [(.stock item, n)] }

/-- Units of a consumable come into custody or go out of it. Those that come in count as issued. -/
def issue (held issued : Int) (row : ConsumableIssueId) (holder : UserId) : Flow :=
  { changes := [(.held row, held), (.issued row, issued)], row := some (.issue row, holder) }

/-- Two flows at once, of which the first concerns no custody row. -/
def beside (x y : Flow) : Flow := { changes := x.changes ++ y.changes, row := y.row }

theorem perUnit_beside {x y : Flow} {c : Count} :
    (x.beside y).perUnit c = x.perUnit c + y.perUnit c := by
  show perUnit.go c (x.changes ++ y.changes) = perUnit.go c x.changes + perUnit.go c y.changes
  induction x.changes with
  | nil => exact (Int.zero_add _).symm
  | cons change rest ih =>
    simp only [List.cons_append, perUnit.go, ih]
    omega

end Flow

namespace Store

def count (s : Store) : Count → Int
  | .total item => s.accessories.amount (·.quantity) item
  | .out item => unitsOut s.accessoryAssignments item
  | .stock item => s.consumables.amount (·.quantity) item
  | .assigned row => s.accessoryAssignments.amount (·.quantity) row
  | .held row => s.consumableIssues.amount (·.quantity) row
  | .issued row => s.consumableIssues.amount (·.issuedQuantity) row

/-- The custody row is there and is the holder's. -/
def HeldBy (s : Store) (holder : UserId) : CustodyRow → Prop
  | .assignment row => ∃ a, s.row? row = some a ∧ a.val.holder = holder
  | .issue row => ∃ i, s.row? row = some i ∧ i.val.holder = holder

/-- No custody row came or became another one, but for the one that is named. -/
structure Spares (s : Store) (row : Option CustodyRow) (s' : Store) : Prop where
  equipment : s'.equipmentAssignments = s.equipmentAssignments
  assignments : ∀ id, row ≠ some (.assignment id) → s'.row? id = s.row? id
  issues : ∀ id, row ≠ some (.issue id) → s'.row? id = s.row? id

/-- Units were moved along a flow: the counts have changed by as many times what it says of one unit,
the custody row that is concerned is its holder's, and no other one was touched. -/
structure Moved (s : Store) (x : Flow) (units : Int) (s' : Store) : Prop where
  counts : ∀ c, s'.count c = s.count c + x.perUnit c * units
  accessories : ∀ id : AccessoryId, s'.accessories.has id = s.accessories.has id
  consumables : ∀ id : ConsumableId, s'.consumables.has id = s.consumables.has id
  holder : ∀ row u, x.row = some (row, u) → s'.HeldBy u row
  others : s.Spares (x.row.map (·.1)) s'

end Store

variable {s s' t t' : Store}

/-! ## What each write moves -/

theorem Table.has_put {k : Kind} {α : Type} {t : Table k α} {id other : Id k} {row : α} :
    (t.put id row).has other = t.has other := by
  rw [has, get?_put]
  split
  · next same =>
    rw [Option.isSome_map, same, has]
  · rfl

namespace Store.Moved

variable {n m units : Int}

/-- The total of an accessory is written. -/
theorem total {e : Entry .accessory Accessory} {v : Accessory}
    (found : s.accessories.get? e.id = some e) (items : s'.accessories = s.accessories.put e.id v)
    (custody : s'.accessoryAssignments = s.accessoryAssignments)
    (stocks : s'.consumables = s.consumables) (issues : s'.consumableIssues = s.consumableIssues)
    (equipment : s'.equipmentAssignments = s.equipmentAssignments)
    (changed : v.quantity = e.val.quantity + n * units) :
    s.Moved (.total n e.id) units s' where
  counts c := by
    cases c with
    | total id =>
      simp only [count, items, Table.amount_put (f := (·.quantity)) found changed, Flow.total,
        Flow.perUnit, Flow.perUnit.go, Count.total.injEq, eq_comm (a := id)]
      split <;> simp
    | _ => simp [count, custody, stocks, issues, Flow.total, Flow.perUnit, Flow.perUnit.go]
  accessories id := by rw [items, Table.has_put]
  consumables id := by rw [stocks]
  holder := nofun
  others := ⟨equipment, fun id _ => congrArg (·.get? id) custody, fun id _ => congrArg (·.get? id) issues⟩

/-- The stock of a consumable is written. -/
theorem stock {e : Entry .consumable Consumable} {v : Consumable}
    (found : s.consumables.get? e.id = some e) (items : s'.accessories = s.accessories)
    (custody : s'.accessoryAssignments = s.accessoryAssignments)
    (stocks : s'.consumables = s.consumables.put e.id v)
    (issues : s'.consumableIssues = s.consumableIssues)
    (equipment : s'.equipmentAssignments = s.equipmentAssignments)
    (changed : v.quantity = e.val.quantity + n * units) :
    s.Moved (.stock n e.id) units s' where
  counts c := by
    cases c with
    | stock id =>
      simp only [count, stocks, Table.amount_put (f := (·.quantity)) found changed, Flow.stock,
        Flow.perUnit, Flow.perUnit.go, Count.stock.injEq, eq_comm (a := id)]
      split <;> simp
    | _ => simp [count, items, custody, issues, Flow.stock, Flow.perUnit, Flow.perUnit.go]
  accessories id := by rw [items]
  consumables id := by rw [stocks, Table.has_put]
  holder := nofun
  others := ⟨equipment, fun id _ => congrArg (·.get? id) custody, fun id _ => congrArg (·.get? id) issues⟩

/-- An open assignment is written, and keeps what it is of and whose it is. -/
theorem custody {a : Entry .accessoryAssignment AccessoryAssignment} {v : AccessoryAssignment}
    (numbered : s.accessoryAssignments.Numbered)
    (found : s.accessoryAssignments.get? a.id = some a) (opened : a.val.isOpen = true)
    (items : s'.accessories = s.accessories)
    (custody : s'.accessoryAssignments = s.accessoryAssignments.put a.id v)
    (stocks : s'.consumables = s.consumables) (issues : s'.consumableIssues = s.consumableIssues)
    (equipment : s'.equipmentAssignments = s.equipmentAssignments)
    (subject : v.accessory = a.val.accessory) (holder : v.holder = a.val.holder)
    (changed : v.quantity = a.val.quantity + n * units)
    (counted : v.unitsOf a.val.accessory = v.quantity) :
    s.Moved (.custody n a.val.accessory a.id a.val.holder) units s' where
  counts c := by
    cases c with
    | assigned id =>
      simp only [count, custody, Table.amount_put (f := (·.quantity)) found changed, Flow.custody,
        Flow.perUnit, Flow.perUnit.go, Count.assigned.injEq, eq_comm (a := id)]
      split <;> simp
    | out id =>
      simp only [count, custody, unitsOut_put numbered found, Flow.custody, Flow.perUnit,
        Flow.perUnit.go, Count.out.injEq]
      by_cases same : id = a.val.accessory
      · subst same
        have before := AccessoryAssignment.unitsOf_of_open rfl opened
        simp [before, counted, changed]
        omega
      · have before := AccessoryAssignment.unitsOf_of_ne (Ne.symm same)
        have after := AccessoryAssignment.unitsOf_of_ne (subject ▸ Ne.symm same)
        simp [before, after, same]
    | _ => simp [count, items, stocks, issues, Flow.custody, Flow.perUnit, Flow.perUnit.go]
  accessories id := by rw [items]
  consumables id := by rw [stocks]
  holder := by
    rintro _ _ ⟨⟩
    refine ⟨⟨a.id, v⟩, ?_, holder⟩
    rw [row?]
    exact (congrArg (·.get? a.id) custody).trans (Table.get?_put_self found)
  others := by
    refine ⟨equipment, fun id other => ?_, fun id _ => congrArg (·.get? id) issues⟩
    have ne : id ≠ a.id := fun same => other (by rw [same]; rfl)
    exact (congrArg (·.get? id) custody).trans (Table.get?_put_of_ne ne)

/-- An assignment is opened. -/
theorem opened {a : Entry .accessoryAssignment AccessoryAssignment}
    (numbered : s.accessoryAssignments.Numbered) (added : a.id = s.accessoryAssignments.next)
    (opened : a.val.isOpen = true) (items : s'.accessories = s.accessories)
    (custody : s'.accessoryAssignments = s.accessoryAssignments.insert a.val)
    (stocks : s'.consumables = s.consumables) (issues : s'.consumableIssues = s.consumableIssues)
    (equipment : s'.equipmentAssignments = s.equipmentAssignments) :
    s.Moved (.custody 1 a.val.accessory a.id a.val.holder) a.val.quantity s' where
  counts c := by
    cases c with
    | assigned id =>
      simp only [count, custody, numbered.amount_insert, ← added, Flow.custody, Flow.perUnit,
        Flow.perUnit.go, Count.assigned.injEq, eq_comm (a := id)]
      split <;> simp
    | out id =>
      simp only [count, custody, unitsOut_insert, Flow.custody, Flow.perUnit, Flow.perUnit.go,
        Count.out.injEq]
      by_cases same : id = a.val.accessory
      · subst same
        simp [AccessoryAssignment.unitsOf_of_open rfl opened]
      · simp [AccessoryAssignment.unitsOf_of_ne (Ne.symm same), same]
    | _ => simp [count, items, stocks, issues, Flow.custody, Flow.perUnit, Flow.perUnit.go]
  accessories id := by rw [items]
  consumables id := by rw [stocks]
  holder := by
    rintro _ _ ⟨⟩
    exact ⟨a, (congrArg (·.get? a.id) custody).trans (numbered.get?_insert_self added), rfl⟩
  others := by
    refine ⟨equipment, fun id other => ?_, fun id _ => congrArg (·.get? id) issues⟩
    have ne : id ≠ s.accessoryAssignments.next := fun same => other (by rw [same, ← added]; rfl)
    exact (congrArg (·.get? id) custody).trans (Table.get?_insert_of_ne ne)

/-- An issue is written, and keeps whose it is. -/
theorem issue {i : Entry .consumableIssue ConsumableIssue} {v : ConsumableIssue}
    (found : s.consumableIssues.get? i.id = some i) (items : s'.accessories = s.accessories)
    (custody : s'.accessoryAssignments = s.accessoryAssignments)
    (stocks : s'.consumables = s.consumables)
    (issues : s'.consumableIssues = s.consumableIssues.put i.id v)
    (equipment : s'.equipmentAssignments = s.equipmentAssignments)
    (holder : v.holder = i.val.holder) (held : v.quantity = i.val.quantity + n * units)
    (issued : v.issuedQuantity = i.val.issuedQuantity + m * units) :
    s.Moved (.issue n m i.id i.val.holder) units s' where
  counts c := by
    cases c with
    | held id =>
      simp only [count, issues, Table.amount_put (f := (·.quantity)) found held, Flow.issue,
        Flow.perUnit, Flow.perUnit.go, Count.held.injEq, eq_comm (a := id)]
      split <;> simp
    | issued id =>
      simp only [count, issues, Table.amount_put (f := (·.issuedQuantity)) found issued, Flow.issue,
        Flow.perUnit, Flow.perUnit.go, Count.issued.injEq, eq_comm (a := id)]
      split <;> simp
    | _ => simp [count, items, custody, stocks, Flow.issue, Flow.perUnit, Flow.perUnit.go]
  accessories id := by rw [items]
  consumables id := by rw [stocks]
  holder := by
    rintro _ _ ⟨⟩
    refine ⟨⟨i.id, v⟩, ?_, holder⟩
    exact (congrArg (·.get? i.id) issues).trans (Table.get?_put_self found)
  others := by
    refine ⟨equipment, fun id _ => congrArg (·.get? id) custody, fun id other => ?_⟩
    have ne : id ≠ i.id := fun same => other (by rw [same]; rfl)
    exact (congrArg (·.get? id) issues).trans (Table.get?_put_of_ne ne)

/-- An issue is opened. -/
theorem issueOpened {i : Entry .consumableIssue ConsumableIssue}
    (numbered : s.consumableIssues.Numbered) (added : i.id = s.consumableIssues.next)
    (items : s'.accessories = s.accessories)
    (custody : s'.accessoryAssignments = s.accessoryAssignments)
    (stocks : s'.consumables = s.consumables)
    (issues : s'.consumableIssues = s.consumableIssues.insert i.val)
    (equipment : s'.equipmentAssignments = s.equipmentAssignments)
    (all : i.val.issuedQuantity = i.val.quantity) :
    s.Moved (.issue 1 1 i.id i.val.holder) i.val.quantity s' where
  counts c := by
    cases c with
    | held id | issued id =>
      simp only [count, issues, numbered.amount_insert, ← added, all, Flow.issue, Flow.perUnit,
        Flow.perUnit.go, Count.held.injEq, Count.issued.injEq, reduceCtorEq, if_false,
        eq_comm (a := id)]
      split <;> simp
    | _ => simp [count, items, custody, stocks, Flow.issue, Flow.perUnit, Flow.perUnit.go]
  accessories id := by rw [items]
  consumables id := by rw [stocks]
  holder := by
    rintro _ _ ⟨⟩
    exact ⟨i, (congrArg (·.get? i.id) issues).trans (numbered.get?_insert_self added), rfl⟩
  others := by
    refine ⟨equipment, fun id _ => congrArg (·.get? id) custody, fun id other => ?_⟩
    have ne : id ≠ s.consumableIssues.next := fun same => other (by rw [same, ← added]; rfl)
    exact (congrArg (·.get? id) issues).trans (Table.get?_insert_of_ne ne)

end Store.Moved

/-! ## Movements add up -/

theorem Store.Spares.trans {row : Option CustodyRow} (first : s.Spares row t)
    (second : t.Spares row s') : s.Spares row s' where
  equipment := second.equipment.trans first.equipment
  assignments id other := (second.assignments id other).trans (first.assignments id other)
  issues id other := (second.issues id other).trans (first.issues id other)

/-- What spares every custody row spares all but one. -/
theorem Store.Spares.weaken {row : Option CustodyRow} (h : s.Spares none s') : s.Spares row s' :=
  ⟨h.equipment, fun id _ => h.assignments id nofun, fun id _ => h.issues id nofun⟩

namespace Store.Moved

variable {x y : Flow} {units more : Int}

/-- What is written to different tables at once. -/
theorem beside (first : s.Moved x units t) (second : t.Moved y units s') (rowless : x.row = none) :
    s.Moved (x.beside y) units s' where
  counts c := by
    rw [second.counts, first.counts, Flow.perUnit_beside, Int.add_mul, Int.add_assoc]
  accessories id := (second.accessories id).trans (first.accessories id)
  consumables id := (second.consumables id).trans (first.consumables id)
  holder := second.holder
  others := by
    have spared := first.others
    rw [rowless] at spared
    exact spared.weaken.trans second.others

theorem trans (first : s.Moved x units t) (second : t.Moved x more s') :
    s.Moved x (units + more) s' where
  counts c := by rw [second.counts, first.counts, Int.mul_add, Int.add_assoc]
  accessories id := (second.accessories id).trans (first.accessories id)
  consumables id := (second.consumables id).trans (first.consumables id)
  holder := second.holder
  others := first.others.trans second.others

end Store.Moved

/-! ## Stores with the same units -/

/-- There is the same of every asset, on the shelf as well as in all, and every custody row has the same
units, state and holder. -/
structure Store.SameUnits (t t' : Store) : Prop where
  accessories : ∀ id : AccessoryId,
    (t.row? id).map (fun e => (e.val.quantity, t.available e)) =
      (t'.row? id).map fun e => (e.val.quantity, t'.available e)
  consumables : ∀ id : ConsumableId,
    (t.row? id).map (·.val.quantity) = (t'.row? id).map (·.val.quantity)
  assignments : ∀ id : AccessoryAssignmentId,
    (t.row? id).map (fun a => (a.val.quantity, a.val.state, a.val.holder)) =
      (t'.row? id).map fun a => (a.val.quantity, a.val.state, a.val.holder)
  issues : ∀ id : ConsumableIssueId,
    (t.row? id).map (fun i => (i.val.quantity, i.val.issuedQuantity, i.val.state, i.val.holder)) =
      (t'.row? id).map fun i => (i.val.quantity, i.val.issuedQuantity, i.val.state, i.val.holder)

/-- What is told of the rows under one id in two tables is the same, if both are there or neither. -/
theorem Table.map_get?_congr {k : Kind} {α β : Type} {u u' : Table k α} {id : Id k}
    {f g : Entry k α → β} (there : u.has id = u'.has id)
    (same : ∀ a a', u.get? id = some a → u'.get? id = some a' → f a = g a') :
    (u.get? id).map f = (u'.get? id).map g := by
  unfold has at there
  cases here : u.get? id with
  | none =>
    rw [here] at there
    rw [Option.isSome_eq_false_iff.1 there.symm |> Option.isNone_iff_eq_none.1]
    rfl
  | some a =>
    rw [here] at there
    obtain ⟨a', here'⟩ := Option.isSome_iff_exists.1 there.symm
    rw [here', Option.map_some, Option.map_some, same a a' here here']

/-- Rows of the same amount have the same number. -/
theorem Table.eq_of_amount {k : Kind} {α : Type} {u u' : Table k α} {f : α → Int} {id : Id k}
    {a a' : Entry k α} (found : u.get? id = some a) (found' : u'.get? id = some a')
    (same : u.amount f id = u'.amount f id) : f a.val = f a'.val :=
  (amount_of_get? found).symm.trans (same.trans (amount_of_get? found'))

theorem Store.available_congr {e e' : Entry .accessory Accessory} (id : e.id = e'.id)
    (quantity : e.val.quantity = e'.val.quantity)
    (out : unitsOut t.accessoryAssignments e.id = unitsOut t'.accessoryAssignments e.id) :
    t.available e = t'.available e' := by
  have units : t.assignedUnits e.id = t'.assignedUnits e'.id := id ▸ out
  unfold available assigned
  rw [units, quantity]

/-- Whether a custody row is open can be told from its units. -/
theorem AccessoryAssignment.state_congr {a a' : AccessoryAssignment}
    (holds : Record.holds .accessoryAssignment a = true)
    (holds' : Record.holds .accessoryAssignment a' = true) (quantity : a.quantity = a'.quantity) :
    a.state = a'.state := by
  have both : a.isOpen = true ↔ a'.isOpen = true := by
    rw [isOpen_iff holds, isOpen_iff holds', quantity]
  unfold isOpen at both
  revert both
  cases a.state <;> cases a'.state <;> simp

theorem ConsumableIssue.state_congr {i i' : ConsumableIssue}
    (holds : Record.holds .consumableIssue i = true)
    (holds' : Record.holds .consumableIssue i' = true) (quantity : i.quantity = i'.quantity) :
    i.state = i'.state := by
  have both : i.isOpen = true ↔ i'.isOpen = true := by
    rw [isOpen_iff holds, isOpen_iff holds', quantity]
  unfold isOpen at both
  revert both
  cases i.state <;> cases i'.state <;> simp

namespace Store.Moved

variable {x : Flow} {units : Int}

/-- An assignment of the later stores is untouched in both, or is the row concerned in both. -/
theorem assignment_cases (first : s.Moved x units t) (second : s.Moved x units t')
    (id : AccessoryAssignmentId) :
    t.row? id = t'.row? id ∨
      ∃ a a', t.row? id = some a ∧ t'.row? id = some a' ∧ a.val.holder = a'.val.holder := by
  by_cases concerned : x.row.map (·.1) = some (.assignment id)
  · obtain ⟨⟨_, u⟩, row, rfl⟩ := Option.map_eq_some_iff.1 concerned
    obtain ⟨a, found, holder⟩ := first.holder _ u row
    obtain ⟨a', found', holder'⟩ := second.holder _ u row
    exact .inr ⟨a, a', found, found', holder.trans holder'.symm⟩
  · have untouched := first.others.assignments id concerned
    exact .inl (untouched.trans (second.others.assignments id concerned).symm)

theorem issue_cases (first : s.Moved x units t) (second : s.Moved x units t')
    (id : ConsumableIssueId) :
    t.row? id = t'.row? id ∨
      ∃ i i', t.row? id = some i ∧ t'.row? id = some i' ∧ i.val.holder = i'.val.holder := by
  by_cases concerned : x.row.map (·.1) = some (.issue id)
  · obtain ⟨⟨_, u⟩, row, rfl⟩ := Option.map_eq_some_iff.1 concerned
    obtain ⟨i, found, holder⟩ := first.holder _ u row
    obtain ⟨i', found', holder'⟩ := second.holder _ u row
    exact .inr ⟨i, i', found, found', holder.trans holder'.symm⟩
  · have untouched := first.others.issues id concerned
    exact .inl (untouched.trans (second.others.issues id concerned).symm)

/-- As many units moved along one flow from the same store leave the same units. -/
theorem sameUnits (first : s.Moved x units t) (second : s.Moved x units t') (sound : t.Sound)
    (sound' : t'.Sound) : t.SameUnits t' := by
  have counts (c : Count) : t.count c = t'.count c := (first.counts c).trans (second.counts c).symm
  refine ⟨fun id => ?_, fun id => ?_, fun id => ?_, fun id => ?_⟩
  · refine Table.map_get?_congr ((first.accessories id).trans (second.accessories id).symm)
      fun e e' found found' => ?_
    have quantity := Table.eq_of_amount (f := Accessory.quantity) found found' (counts (.total id))
    obtain rfl := (Table.mem_of_get? found).2
    rw [quantity, available_congr (Table.mem_of_get? found').2.symm quantity (counts (.out e.id))]
  · refine Table.map_get?_congr ((first.consumables id).trans (second.consumables id).symm)
      fun e e' found found' => ?_
    exact Table.eq_of_amount (f := Consumable.quantity) found found' (counts (.stock id))
  · rcases first.assignment_cases second id with same | ⟨a, a', found, found', holder⟩
    · rw [same]
    · have quantity :=
        Table.eq_of_amount (f := AccessoryAssignment.quantity) found found' (counts (.assigned id))
      have holds := (sound.accessoryAssignments.valid a (Table.mem_of_get? found).1).2
      have holds' := (sound'.accessoryAssignments.valid a' (Table.mem_of_get? found').1).2
      rw [found, found', Option.map_some, Option.map_some, quantity, holder,
        AccessoryAssignment.state_congr holds holds' quantity]
  · rcases first.issue_cases second id with same | ⟨i, i', found, found', holder⟩
    · rw [same]
    · have quantity :=
        Table.eq_of_amount (f := ConsumableIssue.quantity) found found' (counts (.held id))
      have issued :=
        Table.eq_of_amount (f := ConsumableIssue.issuedQuantity) found found' (counts (.issued id))
      have holds := (sound.consumableIssues.valid i (Table.mem_of_get? found).1).2
      have holds' := (sound'.consumableIssues.valid i' (Table.mem_of_get? found').1).2
      rw [found, found', Option.map_some, Option.map_some, quantity, issued, holder,
        ConsumableIssue.state_congr holds holds' quantity]

end Store.Moved

end Quartermaster
