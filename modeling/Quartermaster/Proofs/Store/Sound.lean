import Quartermaster.Proofs.Store.Columns
import Quartermaster.Proofs.Store.Sum
import Quartermaster.Proofs.Store.Writes

/-!
# Soundness of the store

A store is sound when each of its tables is: rows are numbered, meet their own rules and share no
unique key, and the columns of roles tell their bindings. The empty store is sound (`sound_empty`),
and so is what is left when a node is deleted (`Sound.without`).
-/

namespace Quartermaster

/-- The columns of every role tell its binding. -/
def Table.Readable (t : Table .roleAssignment RoleAssignment) : Prop :=
  ∀ a ∈ t.entries, a.val.Readable

/-- Every table is sound, and what roles are bound to can be read. -/
structure Store.Sound (s : Store) : Prop where
  departments : s.departments.Sound
  locations : s.locations.Sound
  rooms : s.rooms.Sound
  users : s.users.Sound
  roleAssignments : s.roleAssignments.Sound
  equipment : s.equipment.Sound
  equipmentAssignments : s.equipmentAssignments.Sound
  equipmentEvents : s.equipmentEvents.Sound
  accessories : s.accessories.Sound
  accessoryAssignments : s.accessoryAssignments.Sound
  accessoryEvents : s.accessoryEvents.Sound
  consumables : s.consumables.Sound
  consumableIssues : s.consumableIssues.Sound
  consumableEvents : s.consumableEvents.Sound
  audit : s.audit.Sound
  readable : s.roleAssignments.Readable

variable {s s' : Store}

theorem Store.sound_empty (supply clock minted : Nat) :
    Store.Sound { supply, clock, minted } := by
  constructor
  case readable => exact List.forall_mem_nil _
  all_goals exact Table.sound_empty

namespace Table.Readable

variable {t : Table .roleAssignment RoleAssignment}

theorem insert (h : t.Readable) {row : RoleAssignment} (readable : row.Readable) :
    (t.insert row).Readable :=
  forall_insert h readable

theorem erase (h : t.Readable) (id : RoleAssignmentId) : (t.erase id).Readable :=
  fun a member => h a (mem_erase.1 member).1

theorem map (h : t.Readable) {f : RoleAssignment → RoleAssignment}
    (keeps : ∀ a, a.Readable → (f a).Readable) : (t.map f).Readable := by
  intro a member
  obtain ⟨old, here, rfl⟩ := mem_map.1 member
  exact keeps _ (h old here)

end Table.Readable

/-- A row that is there takes new values in which the storage finds no fault, and no new key. -/
theorem Table.Sound.write {k : Kind} {α : Type} [Record k α] {t : Table k α} {e : Entry k α}
    {row : α} (sound : t.Sound) (member : e ∈ t.entries) (faultless : s.updateFault k row = none)
    (keys : KeepsKeys k e.val row) : (t.put e.id row).Sound := by
  obtain ⟨fits, obeys⟩ := Store.updateFault_eq_none.1 faultless
  exact sound.put (sound.numbered.get?_of_mem member) fits (Store.ruleFault_eq_none.1 obeys).1 keys

/-- A row that was found by its public id is found again under its id. -/
theorem Store.named_row {k : Kind} {α : Type} [Record k α] [Named k] {publicId : String}
    {e e' : Entry k α} (sound : (Record.table s : Table k α).Sound)
    (found : s.named? k publicId = some e) (again : s.row? e.id = some e') : e' = e :=
  Option.some.inj (again.symm.trans (sound.get?_of_find? found))

/-- A row that was found by a reference is found again under its id. -/
theorem Store.row_again {k : Kind} {α : Type} [Record k α] {id : Id k} {e e' : Entry k α}
    (found : s.row? id = some e) (again : s.row? e.id = some e') : e' = e := by
  rw [(Table.mem_of_get? found).2] at again
  exact Option.some.inj (again.symm.trans found)

/-! ## Public ids -/

/-- Rows with one public id share a unique key. -/
class Keyed (k : Kind) {α : outParam Type} [Record k α] [Named k] : Prop where
  clashes {a b : α} : Named.publicId k b = Named.publicId k a → Record.clashes k b a = true

instance : Keyed .department := ⟨beq_iff_eq.2⟩
instance : Keyed .location := ⟨beq_iff_eq.2⟩
instance : Keyed .room := ⟨beq_iff_eq.2⟩
instance : Keyed .user := ⟨beq_iff_eq.2⟩
instance : Keyed .roleAssignment := ⟨fun same => Bool.or_eq_true_iff.2 (.inl (beq_iff_eq.2 same))⟩
instance : Keyed .equipment := ⟨beq_iff_eq.2⟩
instance : Keyed .equipmentAssignment :=
  ⟨fun same => Bool.or_eq_true_iff.2 (.inl (beq_iff_eq.2 same))⟩
instance : Keyed .accessory := ⟨beq_iff_eq.2⟩
instance : Keyed .accessoryAssignment :=
  ⟨fun same => Bool.or_eq_true_iff.2 (.inl (beq_iff_eq.2 same))⟩
instance : Keyed .consumable := ⟨beq_iff_eq.2⟩
instance : Keyed .consumableIssue := ⟨fun same => Bool.or_eq_true_iff.2 (.inl (beq_iff_eq.2 same))⟩
instance : Keyed .audit := ⟨beq_iff_eq.2⟩

/-- A row is named by its public id. -/
theorem Store.named_of_mem {k : Kind} {α : Type} [Record k α] [Named k] [Keyed k] {e : Entry k α}
    (sound : (Record.table s : Table k α).Sound)
    (member : e ∈ (Record.table s : Table k α).entries) :
    s.named k (Named.publicId k e.val) = .ok e := by
  refine Store.named_ok.2 (sound.find?_of_mem (fun a b ha hb => Keyed.clashes ?_) member ?_)
  · rw [beq_iff_eq] at ha hb
    rw [ha, hb]
  · exact beq_self_eq_true _

/-- Rows of one public id are one row. -/
theorem Store.eq_of_publicId {k : Kind} {α : Type} [Record k α] [Named k] [Keyed k]
    {a b : Entry k α} (sound : (Record.table s : Table k α).Sound)
    (ha : a ∈ (Record.table s : Table k α).entries)
    (hb : b ∈ (Record.table s : Table k α).entries)
    (same : Named.publicId k a.val = Named.publicId k b.val) : a = b := by
  have named := named_of_mem sound ha
  rw [same, named_of_mem sound hb] at named
  exact (Except.ok.inj named).symm

/-- Two rows under different public ids are not one row. -/
theorem Store.named_ne {k : Kind} {α : Type} [Record k α] [Named k] {e x : Entry k α}
    {publicId other : String} (sound : (Record.table s : Table k α).Sound)
    (named : s.named? k publicId = some e) (named' : s.named? k other = some x)
    (ne : other ≠ publicId) : x.id ≠ e.id := by
  intro same
  obtain ⟨member, own⟩ := Table.mem_of_find? named
  obtain ⟨member', own'⟩ := Table.mem_of_find? named'
  obtain rfl := sound.numbered.eq_of_id member' member same
  exact ne ((beq_iff_eq.1 own').symm.trans (beq_iff_eq.1 own))

/-- The public ids of a sound table differ. -/
theorem Store.publicIds_differ {k : Kind} {α : Type} [Record k α] [Named k] [Keyed k]
    (sound : (Record.table s : Table k α).Sound) : (s.idsOf k).Nodup := by
  refine List.pairwise_map.2 (sound.distinct.imp fun {a b} apart same => ?_)
  rw [Keyed.clashes same.symm] at apart
  cases apart

/-! ## The open custody row -/

namespace Store.Sound

theorem openEquipmentAssignment {item : EquipmentId}
    {held : Entry .equipmentAssignment EquipmentAssignment} (sound : s.Sound)
    (found : s.openEquipmentAssignment item = some held) :
    s.row? held.id = some held ∧ held.val.equipment = item ∧ held.val.isOpen = true := by
  have chosen := (Table.mem_of_find? found).2
  simp only [Bool.and_eq_true, beq_iff_eq] at chosen
  exact ⟨sound.equipmentAssignments.get?_of_find? found, chosen⟩

/-- An item has one open assignment at most. -/
theorem only_open {item : EquipmentId}
    {held : Entry .equipmentAssignment EquipmentAssignment} (sound : s.Sound)
    (is_held : s.openEquipmentAssignment item = some held) :
    ∀ a ∈ s.equipmentAssignments.entries, (a.val.equipment == item && a.val.isOpen) = true →
      a.id = held.id := by
  intro a member chosen
  have found : s.openEquipmentAssignment item = some a := by
    refine sound.equipmentAssignments.find?_of_mem (fun x y hx hy => ?_) member chosen
    simp only [Bool.and_eq_true, beq_iff_eq] at hx hy
    simp [Record.clashes, hx, hy]
  rw [Option.some.inj (found.symm.trans is_held)]

/-- What is found in place of the open assignment of an item when that is changed. -/
theorem find?_put_open {item : EquipmentId} {v : EquipmentAssignment}
    {held : Entry .equipmentAssignment EquipmentAssignment} (sound : s.Sound)
    (is_held : s.openEquipmentAssignment item = some held) :
    (s.equipmentAssignments.put held.id v).find? (fun a => a.equipment == item && a.isOpen) =
      if v.equipment == item && v.isOpen then some ⟨held.id, v⟩ else none :=
  Table.find?_put_of_only (sound.openEquipmentAssignment is_held).1 (sound.only_open is_held)

theorem openAccessoryAssignment {item : AccessoryId} {holder : UserId}
    {held : Entry .accessoryAssignment AccessoryAssignment} (sound : s.Sound)
    (found : s.openAccessoryAssignment item holder = some held) :
    s.row? held.id = some held ∧ held.val.accessory = item ∧ held.val.holder = holder ∧
      held.val.isOpen = true := by
  have chosen := (Table.mem_of_find? found).2
  simp only [Bool.and_eq_true, beq_iff_eq, and_assoc] at chosen
  exact ⟨sound.accessoryAssignments.get?_of_find? found, chosen⟩

theorem openIssue {item : ConsumableId} {holder : UserId}
    {held : Entry .consumableIssue ConsumableIssue} (sound : s.Sound)
    (found : s.openIssue item holder = some held) :
    s.row? held.id = some held ∧ held.val.consumable = item ∧ held.val.holder = holder ∧
      held.val.isOpen = true := by
  have chosen := (Table.mem_of_find? found).2
  simp only [Bool.and_eq_true, beq_iff_eq, and_assoc] at chosen
  exact ⟨sound.consumableIssues.get?_of_find? found, chosen⟩

/-- An assignment that is open is the open one of its item and its holder. -/
theorem openAccessoryAssignment_of_mem {held : Entry .accessoryAssignment AccessoryAssignment}
    (sound : s.Sound) (member : held ∈ s.accessoryAssignments.entries)
    (opened : held.val.isOpen = true) :
    s.openAccessoryAssignment held.val.accessory held.val.holder = some held := by
  refine sound.accessoryAssignments.find?_of_mem (fun a b ha hb => ?_) member ?_
  · simp only [Bool.and_eq_true, beq_iff_eq] at ha hb
    simp [Record.clashes, ha, hb]
  · simp [opened]

/-- An issue that is open is the open one of its item and its holder. -/
theorem openIssue_of_mem {held : Entry .consumableIssue ConsumableIssue} (sound : s.Sound)
    (member : held ∈ s.consumableIssues.entries) (opened : held.val.isOpen = true) :
    s.openIssue held.val.consumable held.val.holder = some held := by
  refine sound.consumableIssues.find?_of_mem (fun a b ha hb => ?_) member ?_
  · simp only [Bool.and_eq_true, beq_iff_eq] at ha hb
    simp [Record.clashes, ha, hb]
  · simp [opened]

end Store.Sound

/-! ## A new custody row clashes with none -/

/-- A row with a new public id, of which no row stands in the way otherwise, clashes with none. -/
theorem Store.alone {k : Kind} {α : Type} [Record k α] [Named k] {v : α} {p : α → Bool}
    (fresh : Named.publicId k v ∉ s.publicIds)
    (listed : s.idsOf k ⊆ s.publicIds) (free : (Record.table s : Table k α).find? p = none)
    (clash : ∀ row, Record.clashes k v row = true →
      Named.publicId k row = Named.publicId k v ∨ p row = true) :
    ∀ e ∈ (Record.table s : Table k α).entries, Record.clashes k v e.val = false := by
  intro e member
  refine Bool.eq_false_iff.2 fun clashes => ?_
  rcases clash e.val clashes with same | chosen
  · exact fresh (listed (List.mem_map.2 ⟨e, member, same⟩))
  · exact List.find?_eq_none.1 free e member chosen

/-- A new assignment of an item that nobody has clashes with none. -/
theorem EquipmentAssignment.alone {a : EquipmentAssignment} (fresh : a.publicId ∉ s.publicIds)
    (free : s.openEquipmentAssignment a.equipment = none) :
    ∀ e ∈ s.equipmentAssignments.entries, Record.clashes .equipmentAssignment a e.val = false := by
  refine Store.alone fresh (fun _ used => by simp [Store.publicIds, used]) free fun row clash => ?_
  simp only [Record.clashes, Bool.or_eq_true, Bool.and_eq_true, beq_iff_eq] at clash ⊢
  exact clash.imp Eq.symm fun both => ⟨both.1.1.symm, both.2⟩

/-- A new assignment to a holder that has none of the accessory clashes with none. -/
theorem AccessoryAssignment.alone {a : AccessoryAssignment} (fresh : a.publicId ∉ s.publicIds)
    (free : s.openAccessoryAssignment a.accessory a.holder = none) :
    ∀ e ∈ s.accessoryAssignments.entries, Record.clashes .accessoryAssignment a e.val = false := by
  refine Store.alone fresh (fun _ used => by simp [Store.publicIds, used]) free fun row clash => ?_
  simp only [Record.clashes, Bool.or_eq_true, Bool.and_eq_true, beq_iff_eq] at clash ⊢
  exact clash.imp Eq.symm fun both => ⟨⟨both.1.1.1.symm, both.1.1.2.symm⟩, both.2⟩

/-- A new issue to a holder that has none of the consumable clashes with none. -/
theorem ConsumableIssue.alone {i : ConsumableIssue} (fresh : i.publicId ∉ s.publicIds)
    (free : s.openIssue i.consumable i.holder = none) :
    ∀ e ∈ s.consumableIssues.entries, Record.clashes .consumableIssue i e.val = false := by
  refine Store.alone fresh (fun _ used => by simp [Store.publicIds, used]) free fun row clash => ?_
  simp only [Record.clashes, Bool.or_eq_true, Bool.and_eq_true, beq_iff_eq] at clash ⊢
  exact clash.imp Eq.symm fun both => ⟨⟨both.1.1.1.symm, both.1.1.2.symm⟩, both.2⟩

/-! ## What a custody row has to meet -/

theorem AccessoryAssignment.holds_opened {a : AccessoryAssignment} (opened : a.isOpen = true) :
    Record.holds .accessoryAssignment a = true ↔ 1 ≤ a.quantity ∧ a.returnedAt = none := by
  have state : a.state = .opened := beq_iff_eq.1 opened
  simp [Record.holds, opened, state]

theorem AccessoryAssignment.holds_closed {a : AccessoryAssignment} (closed : a.state = .closed) :
    Record.holds .accessoryAssignment a = true ↔ a.quantity = 0 ∧ a.returnedAt.isSome = true := by
  simp [Record.holds, isOpen, closed]

theorem ConsumableIssue.holds_opened {i : ConsumableIssue} (opened : i.isOpen = true) :
    Record.holds .consumableIssue i = true ↔
      0 < i.issuedQuantity ∧ i.quantity ≤ i.issuedQuantity ∧ 1 ≤ i.quantity ∧
        i.returnedAt = none := by
  have state : i.state = .opened := beq_iff_eq.1 opened
  simp [Record.holds, opened, state, and_assoc]

theorem ConsumableIssue.holds_closed {i : ConsumableIssue} (closed : i.state = .closed) :
    Record.holds .consumableIssue i = true ↔
      0 < i.issuedQuantity ∧ i.quantity ≤ i.issuedQuantity ∧ i.quantity = 0 ∧
        i.returnedAt.isSome = true := by
  simp [Record.holds, isOpen, closed, and_assoc]

/-- An assignment is open as long as there are units in it. -/
theorem AccessoryAssignment.isOpen_iff {a : AccessoryAssignment}
    (holds : Record.holds .accessoryAssignment a = true) : a.isOpen = true ↔ a.quantity ≠ 0 := by
  cases state : a.state with
  | opened =>
    have opened : a.isOpen = true := beq_iff_eq.2 state
    have := ((holds_opened opened).1 holds).1
    exact iff_of_true opened (by omega)
  | closed =>
    have := ((holds_closed state).1 holds).1
    exact iff_of_false (by simp [isOpen, state]) (by omega)

/-- An issue is open as long as there are units in it. -/
theorem ConsumableIssue.isOpen_iff {i : ConsumableIssue}
    (holds : Record.holds .consumableIssue i = true) : i.isOpen = true ↔ i.quantity ≠ 0 := by
  cases state : i.state with
  | opened =>
    have opened : i.isOpen = true := beq_iff_eq.2 state
    have := ((holds_opened opened).1 holds).2.2.1
    exact iff_of_true opened (by omega)
  | closed =>
    have := ((holds_closed state).1 holds).2.2.1
    exact iff_of_false (by simp [isOpen, state]) (by omega)

theorem AccessoryAssignment.quantity_nonneg {a : AccessoryAssignment}
    (holds : Record.holds .accessoryAssignment a = true) : 0 ≤ a.quantity := by
  cases state : a.state with
  | opened =>
    have := ((holds_opened (beq_iff_eq.2 state)).1 holds).1
    omega
  | closed => exact ((holds_closed state).1 holds).1.ge

theorem ConsumableIssue.quantity_nonneg {i : ConsumableIssue}
    (holds : Record.holds .consumableIssue i = true) : 0 ≤ i.quantity := by
  cases state : i.state with
  | opened =>
    have := ((holds_opened (beq_iff_eq.2 state)).1 holds).2.2.1
    omega
  | closed => exact ((holds_closed state).1 holds).2.2.1.ge

theorem ConsumableIssue.issued_pos {i : ConsumableIssue}
    (holds : Record.holds .consumableIssue i = true) : 0 < i.issuedQuantity := by
  cases state : i.state with
  | opened => exact ((holds_opened (beq_iff_eq.2 state)).1 holds).1
  | closed => exact ((holds_closed state).1 holds).1

/-! ## What is read again was added without loss

In a sound store the numbers are words, so what the storage adds to them can be read again only if it
is the sum. -/

namespace Tx

variable {s s' : Store}

theorem increaseAccessoryAssignment_ok {id : AccessoryAssignmentId} {units : Int}
    {a after : Entry .accessoryAssignment AccessoryAssignment} (sound : s.Sound)
    (found : s.row? id = some a) (opened : a.val.isOpen = true)
    (h : increaseAccessoryAssignment id units s = .ok (after, s')) :
    after = { a with val := { a.val with quantity := a.val.quantity + units } } ∧
      s.updateFault .accessoryAssignment after.val = none ∧
      s' = { s with accessoryAssignments := s.accessoryAssignments.put id after.val } := by
  obtain ⟨word, holds⟩ := sound.accessoryAssignments.valid a (Table.mem_of_get? found).1
  obtain ⟨rfl, faultless, rfl⟩ := increaseAccessoryAssignment_stored found opened h
  obtain ⟨reads, obeys⟩ := Store.updateFault_eq_none.1 faultless
  have nonneg := AccessoryAssignment.quantity_nonneg (Store.ruleFault_eq_none.1 obeys).1
  have sum := storedSum_eq word (AccessoryAssignment.quantity_nonneg holds) reads nonneg
  exact ⟨by rw [sum], faultless, rfl⟩

theorem reduceAccessoryAssignment_ok {id : AccessoryAssignmentId} {units : Int}
    {a after : Entry .accessoryAssignment AccessoryAssignment} (sound : s.Sound)
    (found : s.row? id = some a) (opened : a.val.isOpen = true)
    (h : reduceAccessoryAssignment id units s = .ok (after, s')) :
    after = { a with val := { a.val with
        quantity := a.val.quantity - units
        state := if a.val.quantity - units = 0 then .closed else a.val.state
        returnedAt :=
          if a.val.quantity - units = 0 then some ⟨s.clock⟩ else a.val.returnedAt } } ∧
      s.updateFault .accessoryAssignment after.val = none ∧
      s' = { s with
        accessoryAssignments := s.accessoryAssignments.put id after.val
        clock := s.clock + 1 } := by
  obtain ⟨word, holds⟩ := sound.accessoryAssignments.valid a (Table.mem_of_get? found).1
  obtain ⟨rfl, faultless, rfl⟩ := reduceAccessoryAssignment_stored found opened rfl h
  obtain ⟨reads, obeys⟩ := Store.updateFault_eq_none.1 faultless
  have nonneg := AccessoryAssignment.quantity_nonneg (Store.ruleFault_eq_none.1 obeys).1
  have sum := storedSum_eq word (AccessoryAssignment.quantity_nonneg holds) reads nonneg
  exact ⟨by rw [sum, Int.sub_eq_add_neg], faultless, rfl⟩

theorem increaseIssue_ok {id : ConsumableIssueId} {units : Int}
    {i after : Entry .consumableIssue ConsumableIssue} (sound : s.Sound)
    (found : s.row? id = some i) (opened : i.val.isOpen = true)
    (h : increaseIssue id units s = .ok (after, s')) :
    after = { i with val := { i.val with
        quantity := i.val.quantity + units
        issuedQuantity := i.val.issuedQuantity + units } } ∧
      s.updateFault .consumableIssue after.val = none ∧
      s' = { s with consumableIssues := s.consumableIssues.put id after.val } := by
  obtain ⟨words, holds⟩ := sound.consumableIssues.valid i (Table.mem_of_get? found).1
  obtain ⟨word, word'⟩ := Bool.and_eq_true_iff.1 words
  obtain ⟨rfl, faultless, rfl⟩ := increaseIssue_stored found opened h
  obtain ⟨reads, obeys⟩ := Store.updateFault_eq_none.1 faultless
  obtain ⟨read, read'⟩ := Bool.and_eq_true_iff.1 reads
  have holds' := (Store.ruleFault_eq_none.1 obeys).1
  have sum := storedSum_eq word (ConsumableIssue.quantity_nonneg holds) read
    (ConsumableIssue.quantity_nonneg holds')
  have sum' := storedSum_eq word' (ConsumableIssue.issued_pos holds).le read'
    (ConsumableIssue.issued_pos holds').le
  exact ⟨by rw [sum, sum'], faultless, rfl⟩

theorem reduceIssue_ok {id : ConsumableIssueId} {units : Int}
    {i after : Entry .consumableIssue ConsumableIssue} (sound : s.Sound)
    (found : s.row? id = some i) (opened : i.val.isOpen = true)
    (h : reduceIssue id units s = .ok (after, s')) :
    after = { i with val := { i.val with
        quantity := i.val.quantity - units
        state := if i.val.quantity - units = 0 then .closed else i.val.state
        returnedAt :=
          if i.val.quantity - units = 0 then some ⟨s.clock⟩ else i.val.returnedAt } } ∧
      s.updateFault .consumableIssue after.val = none ∧
      s' = { s with
        consumableIssues := s.consumableIssues.put id after.val
        clock := s.clock + 1 } := by
  obtain ⟨words, holds⟩ := sound.consumableIssues.valid i (Table.mem_of_get? found).1
  obtain ⟨word, _⟩ := Bool.and_eq_true_iff.1 words
  obtain ⟨rfl, faultless, rfl⟩ := reduceIssue_stored found opened rfl h
  obtain ⟨reads, obeys⟩ := Store.updateFault_eq_none.1 faultless
  obtain ⟨read, _⟩ := Bool.and_eq_true_iff.1 reads
  have nonneg := ConsumableIssue.quantity_nonneg (Store.ruleFault_eq_none.1 obeys).1
  have sum := storedSum_eq word (ConsumableIssue.quantity_nonneg holds) read nonneg
  exact ⟨by rw [sum, Int.sub_eq_add_neg], faultless, rfl⟩

end Tx

/-! ## Closing a custody row gives it no new key -/

theorem EquipmentAssignment.keepsKeys_close (a : EquipmentAssignment) (at' : Stamp)
    (notes : Option String) :
    Table.KeepsKeys .equipmentAssignment a
      { a with state := .closed, returnedAt := some at', notes } := by
  have closed : (CustodyState.closed == .opened) = false := rfl
  constructor <;> intro b clash <;>
    simp only [Record.clashes, isOpen, closed, Bool.and_false, Bool.false_and, Bool.or_false]
      at clash ⊢ <;>
    simp only [clash, Bool.true_or]

theorem AccessoryAssignment.keepsKeys_reduce {a : AccessoryAssignment} (opened : a.isOpen = true)
    (quantity : Int) (state : CustodyState) (returnedAt : Option Stamp) :
    Table.KeepsKeys .accessoryAssignment a { a with quantity, state, returnedAt } := by
  constructor <;> intro b clash <;>
    simp only [Record.clashes, opened, Bool.and_true, Bool.or_eq_true, Bool.and_eq_true]
      at clash ⊢ <;>
    exact clash.imp_right fun key => ⟨by simp only [key.1.1, and_self], by simp only [key]⟩

theorem ConsumableIssue.keepsKeys_reduce {i : ConsumableIssue} (opened : i.isOpen = true)
    (quantity : Int) (state : CustodyState) (returnedAt : Option Stamp) :
    Table.KeepsKeys .consumableIssue i { i with quantity, state, returnedAt } := by
  constructor <;> intro b clash <;>
    simp only [Record.clashes, opened, Bool.and_true, Bool.or_eq_true, Bool.and_eq_true]
      at clash ⊢ <;>
    exact clash.imp_right fun key => ⟨by simp only [key.1.1, and_self], by simp only [key]⟩

/-! ## Deleting a node

References to the node are cleared, which leaves every unique key as it was, or takes one away. -/

theorem Store.Sound.without (sound : s.Sound) (scope : Scope) : (s.without scope).Sound := by
  -- every kind of node has assignments at it; what else refers to it depends on the kind
  have kept (gone : Scope) : (s.roleAssignments.map (Store.detached gone)).Sound :=
    sound.roleAssignments.map _ (fun _ h => h) (fun _ => Store.detached_holds)
      fun _ _ => Store.detached_clashes
  have legible (gone : Scope) : (s.roleAssignments.map (Store.detached gone)).Readable :=
    sound.readable.map fun _ => Store.detached_readable
  cases scope with
  | site => exact sound
  | detached => exact sound
  | department id =>
    exact { sound with
      departments := sound.departments.erase id
      locations := sound.locations.map (fun l => { l with department := cleared id l.department })
        (fun _ h => h) (fun _ h => h) (fun _ _ _ _ h => h)
      roleAssignments := kept _
      readable := legible _ }
  | location id =>
    exact { sound with
      locations := sound.locations.erase id
      rooms := sound.rooms.map (fun r => { r with location := cleared id r.location })
        (fun _ h => h) (fun _ h => h) (fun _ _ _ _ h => h)
      roleAssignments := kept _
      readable := legible _ }
  | room id =>
    exact { sound with
      rooms := sound.rooms.erase id
      users := sound.users.map (fun u => { u with room := cleared id u.room })
        (fun _ h => h) (fun _ h => h) (fun _ _ _ _ h => h)
      equipment := sound.equipment.map (fun e => { e with room := cleared id e.room })
        (fun _ h => h) (fun _ h => h) (fun _ _ _ _ h => h)
      accessories := sound.accessories.map (fun a => { a with room := cleared id a.room })
        (fun _ h => h) (fun _ h => h) (fun _ _ _ _ h => h)
      consumables := sound.consumables.map (fun c => { c with room := cleared id c.room })
        (fun _ h => h) (fun _ h => h) (fun _ _ _ _ h => h)
      roleAssignments := kept _
      readable := legible _ }

end Quartermaster
