import Quartermaster.Proofs.Linked
import Quartermaster.Proofs.Refusals.Ordinary

/-!
# When a write is refused ordinarily, and when it goes through

One lemma for each way in which rows come and change. New nodes, people, roles and assets are refused
ordinarily whatever the store is: a rule that they break is told as a request that cannot be met
(`..._ordinary`). Where a broken rule is a fault of the storage, the lemma asks that the rule is met:
that numbers fit their columns and are not below their limits, and that what a row refers to is there.
Rows that are written again refer to what is there already, if the store is linked. Units that are
handed out, taken back and counted are written without any refusal then (`..._goes`).
-/

namespace Quartermaster

open Results (Ordinary ordinary_ok ordinary_error)

variable {s : Store}

/-! ## What is found is there -/

namespace Store

theorem row_self {k : Kind} {α : Type} [Record k α] {id : Id k} {e : Entry k α}
    (found : s.row? id = some e) : s.row? e.id = some e := by
  rw [(Table.mem_of_get? found).2]
  exact found

theorem has_of_row {k : Kind} {α : Type} [Record k α] {id : Id k} {e : Entry k α}
    (found : s.row? id = some e) : (Record.table s : Table k α).has e.id = true :=
  Table.has_iff.2 ⟨e, (Table.mem_of_get? found).1, rfl⟩

theorem has_of_named {k : Kind} {α : Type} [Record k α] [Named k] {publicId : String}
    {e : Entry k α} (found : s.named? k publicId = some e) :
    (Record.table s : Table k α).has e.id = true :=
  Table.has_iff.2 ⟨e, (Table.mem_of_find? found).1, rfl⟩

theorem rooms_resolve {room : Option String} {target : Option RoomId}
    (found : s.roomOf room = .ok target) : s.rooms.resolves target = true := by
  cases room with
  | none =>
    obtain rfl := Except.ok.inj found
    rfl
  | some publicId =>
    obtain ⟨r, named, rfl⟩ := Results.map_ok.1 found
    exact has_of_named (named_ok.1 named)

end Store

theorem Table.has_insert {k : Kind} {α : Type} {t : Table k α} {row : α} :
    (t.insert row).has t.next = true :=
  has_iff.2 ⟨⟨t.next, row⟩, mem_insert.2 (.inr rfl), rfl⟩

namespace Tx

/-! ## Nodes and people -/

theorem createDepartment_ordinary {input : NodeInput} : Ordinary (createDepartment input s) :=
  ordinary_look fun _ _ => ordinary_bind publicIdOr_ordinary fun _ _ _ =>
    ordinary_bind ordinary_ok fun _ _ _ => insertOr_ordinary rfl fun _ => rfl

theorem createLocation_ordinary {input : NodeInput} : Ordinary (createLocation input s) :=
  ordinary_look fun _ _ => ordinary_look fun _ _ => ordinary_look fun _ _ =>
    ordinary_bind publicIdOr_ordinary fun _ _ _ =>
      ordinary_bind ordinary_ok fun _ _ _ => insertOr_ordinary rfl fun _ => rfl

theorem createRoom_ordinary {input : NodeInput} : Ordinary (createRoom input s) :=
  ordinary_look fun _ _ => ordinary_look fun _ _ => ordinary_look fun _ _ =>
    ordinary_bind publicIdOr_ordinary fun _ _ _ =>
      ordinary_bind ordinary_ok fun _ _ _ => insertOr_ordinary rfl fun _ => rfl

theorem relocateRoom_ordinary {room location : String} :
    Ordinary (relocateRoom room location s) := by
  refine ordinary_look fun l found => ordinary_look fun r _ =>
    ordinary_bind (put_ordinary rfl rfl ?_) fun _ _ _ => ordinary_pure
  exact Store.has_of_named (Store.named_ok.1 (read_ok.1 found).1)

theorem relocateLocation_ordinary {location department : String} :
    Ordinary (relocateLocation location department s) := by
  refine ordinary_look fun d found => ordinary_look fun l _ =>
    ordinary_bind (put_ordinary rfl rfl ?_) fun _ _ _ => ordinary_pure
  exact Store.has_of_named (Store.named_ok.1 (read_ok.1 found).1)

theorem deleteNode_ordinary {node : Locator} : Ordinary (deleteNode node s) := by
  unfold deleteNode
  split
  · exact ordinary_ok
  · exact ordinary_error rfl

theorem createUser_ordinary {input : UserInput} : Ordinary (createUser input s) :=
  ordinary_look fun _ _ => ordinary_look fun _ _ => ordinary_bind publicIdOr_ordinary fun _ _ _ =>
    ordinary_bind ordinary_ok fun _ _ _ => insertOr_ordinary rfl fun _ => rfl

theorem setUserRoom_ordinary {user : UserId} {room : Option RoomId} (linked : s.Linked)
    (there : s.rooms.resolves room = true) : Ordinary (setUserRoom user room s) := by
  refine ordinary_look fun u found => put_ordinary rfl rfl ?_
  have row := Store.numbered_ok.1 (read_ok.1 found).1
  have good := linked.users u (Table.mem_of_get? row).1
  simp only [Record.refers, Bool.and_eq_true] at good ⊢
  exact ⟨there, good.2⟩

theorem createRoleAssignment_ordinary {publicId : Option String} {user : UserId}
    {binding : Binding} {grantedBy : Option UserId} :
    Ordinary (createRoleAssignment publicId user binding grantedBy s) :=
  ordinary_look fun _ _ => ordinary_bind publicIdOr_ordinary fun _ _ _ =>
    ordinary_bind ordinary_ok fun _ _ _ => insertOr_ordinary rfl fun _ => rfl

/-- A user can be pointed at any assignment that is there. -/
theorem setActive_goes {user : UserId} {assignment : Option RoleAssignmentId}
    (linked : s.Linked) (there : s.roleAssignments.resolves assignment = true) :
    ∃ s', setActive user assignment s = .ok ((), s') := by
  unfold setActive
  rw [bind_of_ok (get_ok.2 ⟨rfl, rfl⟩)]
  cases row : s.row? user with
  | none => exact ⟨_, rfl⟩
  | some u =>
    refine ⟨_, put_goes rfl rfl ?_⟩
    have good := linked.users u (Table.mem_of_get? row).1
    simp only [Record.refers, Bool.and_eq_true] at good ⊢
    exact ⟨good.1, there⟩

theorem setActive_ordinary {user : UserId} {assignment : Option RoleAssignmentId}
    (linked : s.Linked) (there : s.roleAssignments.resolves assignment = true) :
    Ordinary (setActive user assignment s) := by
  obtain ⟨_, ran⟩ : ∃ s', setActive user assignment s = .ok ((), s') := setActive_goes linked there
  rw [ran]
  exact ordinary_ok

/-! ## Equipment -/

theorem createEquipment_ordinary {publicId serialNumber : Option String} {name : String}
    {room : Option RoomId} : Ordinary (createEquipment publicId name serialNumber room s) :=
  ordinary_look fun _ _ => ordinary_bind publicIdOr_ordinary fun _ _ _ =>
    ordinary_bind ordinary_ok fun _ _ _ => insertOr_ordinary rfl fun _ => rfl

theorem setEquipmentStatus_ordinary {item : EquipmentId} {status : EquipmentStatus}
    (linked : s.Linked) : Ordinary (setEquipmentStatus item status s) := by
  refine ordinary_bind ordinary_ok fun at' s₁ taken => ordinary_look fun t here => ?_
  obtain ⟨_, rfl⟩ := now_ok.1 taken
  obtain rfl := (get_ok.1 here).1
  cases row : Store.row? { s with clock := s.clock + 1 } item with
  | none => exact ordinary_pure
  | some e => exact put_ordinary rfl rfl (linked.equipment e (Table.mem_of_get? row).1)

theorem openEquipmentAssignment_ordinary {item : EquipmentId} {holder assignedBy : UserId}
    {notes : Option String} :
    Ordinary (openEquipmentAssignment item holder assignedBy notes s) :=
  ordinary_bind ordinary_ok fun _ _ _ => ordinary_bind ordinary_ok fun _ _ _ =>
    insertOr_ordinary rfl fun _ => rfl

instance {id : EquipmentAssignmentId} : Looks (openEquipmentRow id) := by
  unfold openEquipmentRow
  infer_instance

theorem closeEquipmentAssignment_ordinary {id : EquipmentAssignmentId} {notes : Option String}
    (linked : s.Linked) : Ordinary (closeEquipmentAssignment id notes s) := by
  refine ordinary_look fun a opened => ordinary_bind ordinary_ok fun at' s₁ taken =>
    ordinary_bind (put_ordinary rfl rfl ?_) fun _ _ _ => ordinary_pure
  obtain ⟨_, rfl⟩ := now_ok.1 taken
  have row := (openEquipmentRow_ok.1 opened).1.1
  exact linked.equipmentAssignments a (Table.mem_of_get? row).1

theorem transferEquipmentAssignment_ordinary {id : EquipmentAssignmentId}
    {holder assignedBy : UserId} {notes : Option String} (sound : s.Sound) (linked : s.Linked)
    (holder_there : s.users.has holder = true) (giver_there : s.users.has assignedBy = true) :
    Ordinary (transferEquipmentAssignment id holder assignedBy notes s) := by
  refine ordinary_look fun a opened => ordinary_bind ordinary_ok fun at' s₁ taken => ?_
  obtain ⟨_, rfl⟩ := now_ok.1 taken
  obtain ⟨row, _⟩ := (openEquipmentRow_ok.1 opened).1
  have member := (Table.mem_of_get? row).1
  have good := linked.equipmentAssignments a member
  refine ordinary_bind (put_ordinary rfl (sound.equipmentAssignments.valid a member).2 ?_)
    fun _ _ _ => ordinary_pure
  simp only [Record.refers, Bool.and_eq_true] at good ⊢
  exact ⟨⟨good.1.1, holder_there⟩, giver_there⟩

theorem appendEquipmentEvent_ordinary {item : EquipmentId}
    {assignment : Option EquipmentAssignmentId} {type : EventType} {holder : Option UserId}
    {status : Option EquipmentStatus} {reportedBy : UserId} {notes : Option String}
    (known : type ∈ EventType.equipment) (item_there : s.equipment.has item = true)
    (row_there : s.equipmentAssignments.resolves assignment = true)
    (holder_there : s.users.resolves holder = true) (reporter : s.users.has reportedBy = true) :
    Ordinary (appendEquipmentEvent item assignment type holder status reportedBy notes s) := by
  refine ordinary_bind ordinary_ok fun at' s₁ taken => insertOr_of_faultless ?_
  obtain ⟨_, rfl⟩ := now_ok.1 taken
  refine Table.insertFault_eq_none.2 ⟨rfl, decide_eq_true known, ?_, fun _ _ => rfl⟩
  simp only [Record.refers, Bool.and_eq_true]
  exact ⟨⟨⟨item_there, row_there⟩, holder_there⟩, reporter⟩

/-! ## Accessories -/

theorem createAccessory_ordinary {publicId : Option String} {name : String} {quantity : Int64}
    {room : Option RoomId} : Ordinary (createAccessory publicId name quantity room s) :=
  ordinary_look fun _ _ => ordinary_look fun _ _ => ordinary_bind publicIdOr_ordinary fun _ _ _ =>
    ordinary_bind ordinary_ok fun _ _ _ => insertOr_ordinary (fitsWord_toInt quantity) fun _ => rfl

theorem setAccessoryQuantity_goes {item : AccessoryId} {quantity : Int} (linked : s.Linked)
    (fits : fitsWord quantity = true) (not_negative : 0 ≤ quantity) :
    Goes (setAccessoryQuantity item quantity) s := by
  refine .after (now_ok.2 ⟨rfl, rfl⟩) (.after (get_ok.2 ⟨rfl, rfl⟩) ?_)
  cases row : Store.row? { s with clock := s.clock + 1 } item with
  | none => exact .pure
  | some e =>
    exact ⟨_, _, put_goes fits (decide_eq_true not_negative)
      (linked.accessories e (Table.mem_of_get? row).1)⟩

/-- A holder without an open assignment of the accessory is given one. -/
theorem openAccessoryAssignment_goes {item : AccessoryId} {holder assignedBy : UserId} {units : Int}
    (free : s.openAccessoryAssignment item holder = none) (positive : 0 < units)
    (fits : fitsWord units = true) (item_there : s.accessories.has item = true)
    (holder_there : s.users.has holder = true) (giver_there : s.users.has assignedBy = true) :
    Goes (openAccessoryAssignment item holder units assignedBy) s := by
  obtain ⟨publicId, minted, fresh, ran⟩ := mint_goes (s := s)
  refine .after ran (.after (now_ok.2 ⟨rfl, rfl⟩) ⟨_, _, insertOr_ok.2 ⟨?_, rfl, rfl⟩⟩)
  refine Table.insertFault_eq_none.2 ⟨fits, ?_, ?_, AccessoryAssignment.alone fresh free⟩
  · have some_held : 1 ≤ units := by omega
    exact (AccessoryAssignment.holds_opened rfl).2 ⟨some_held, rfl⟩
  · simp only [Record.refers, Bool.and_eq_true]
    exact ⟨⟨item_there, holder_there⟩, giver_there⟩

theorem increaseAccessoryAssignment_goes {id : AccessoryAssignmentId} {units : Int}
    {a : Entry .accessoryAssignment AccessoryAssignment} (sound : s.Sound) (linked : s.Linked)
    (row : s.row? id = some a) (opened : a.val.isOpen = true) (positive : 0 < units)
    (fits : fitsWord (a.val.quantity + units) = true) :
    Goes (increaseAccessoryAssignment id units) s := by
  have member := (Table.mem_of_get? row).1
  obtain ⟨word, holds⟩ := sound.accessoryAssignments.valid a member
  obtain ⟨some_held, returned⟩ := (AccessoryAssignment.holds_opened opened).1 holds
  have sum := storedSum_of_word word fits
  have still : Record.holds .accessoryAssignment
      { a.val with quantity := a.val.quantity + units } = true :=
    (AccessoryAssignment.holds_opened (by exact opened)).2
      ⟨show 1 ≤ a.val.quantity + units by omega, returned⟩
  have obeys := Store.ruleFault_eq_none.2 ⟨still, linked.accessoryAssignments a member⟩
  have written := addToAccessoryAssignment_eq units row opened
  rw [sum] at written
  exact overwrite_goes written obeys fits (Table.get?_put_self row)

/-- Units can be handed out as long as what the holder then has fits. -/
theorem handAccessories_goes {item : AccessoryId} {holder assignedBy : UserId} {units : Int}
    (sound : s.Sound) (linked : s.Linked) (positive : 0 < units) (fits : fitsWord units = true)
    (room : ∀ held, s.openAccessoryAssignment item holder = some held →
      fitsWord (held.val.quantity + units) = true)
    (item_there : s.accessories.has item = true) (holder_there : s.users.has holder = true)
    (giver_there : s.users.has assignedBy = true) :
    Goes (handAccessories item holder units assignedBy) s := by
  refine .after (get_ok.2 ⟨rfl, rfl⟩) ?_
  cases held : s.openAccessoryAssignment item holder with
  | none =>
    exact openAccessoryAssignment_goes held positive fits item_there holder_there giver_there
  | some a =>
    obtain ⟨row, _, _, opened⟩ := sound.openAccessoryAssignment held
    exact increaseAccessoryAssignment_goes sound linked row opened positive (room a held)

/-- An open assignment that has the units is reduced. -/
theorem reduceAccessoryAssignment_goes {id : AccessoryAssignmentId} {units : Int}
    {a : Entry .accessoryAssignment AccessoryAssignment} (sound : s.Sound) (linked : s.Linked)
    (row : s.row? id = some a) (opened : a.val.isOpen = true) (positive : 0 < units)
    (enough : units ≤ a.val.quantity) : Goes (reduceAccessoryAssignment id units) s := by
  have member := (Table.mem_of_get? row).1
  obtain ⟨word, holds⟩ := sound.accessoryAssignments.valid a member
  have bounds := fitsWord_iff.1 word
  obtain ⟨_, returned⟩ := (AccessoryAssignment.holds_opened opened).1 holds
  have fits : fitsWord (a.val.quantity + -units) = true := fitsWord_iff.2 (by omega)
  have sum := storedSum_of_word word fits
  have obeys : s.ruleFault .accessoryAssignment { a.val with
      quantity := a.val.quantity + -units
      state := if a.val.quantity + -units = 0 then .closed else a.val.state
      returnedAt :=
        if a.val.quantity + -units = 0 then some ⟨s.clock⟩ else a.val.returnedAt } = none := by
    refine Store.ruleFault_eq_none.2 ⟨?_, linked.accessoryAssignments a member⟩
    -- with nothing left the row is closed
    by_cases rest : a.val.quantity + -units = 0
    · exact (AccessoryAssignment.holds_closed (if_pos rest)).2 ⟨rest, by rw [if_pos rest]; rfl⟩
    · have some_left : 1 ≤ a.val.quantity + -units := by omega
      refine (AccessoryAssignment.holds_opened ?_).2 ⟨some_left, (if_neg rest).trans returned⟩
      exact beq_iff_eq.2 ((if_neg rest).trans (beq_iff_eq.1 opened))
  exact overwrite_goes (takeFromAccessoryAssignment_eq units row opened sum) obeys fits
    (Table.get?_put_self row)

/-- The ledger takes a row of a type that it knows, about what is there. -/
theorem appendAccessoryEvent_goes {item : AccessoryId} {custody : Option AccessoryAssignmentId}
    {type : EventType} {holder : Option UserId} {quantity quantityChange : Int}
    {reportedBy : UserId} {notes : Option String} (known : type ∈ EventType.accessory)
    (fits : fitsWord quantity = true ∧ fitsWord quantityChange = true)
    (item_there : s.accessories.has item = true)
    (row_there : s.accessoryAssignments.resolves custody = true)
    (holder_there : s.users.resolves holder = true) (reporter : s.users.has reportedBy = true) :
    Goes (appendAccessoryEvent item custody type holder quantity quantityChange reportedBy notes)
      s := by
  refine .after (now_ok.2 ⟨rfl, rfl⟩) ⟨_, _, insertOr_ok.2 ⟨?_, rfl, rfl⟩⟩
  refine Table.insertFault_eq_none.2 ⟨?_, decide_eq_true known, ?_, fun _ _ => rfl⟩
  · simp only [Record.fits, fits, Bool.and_self]
  · simp only [Record.refers, Bool.and_eq_true]
    exact ⟨⟨⟨item_there, row_there⟩, holder_there⟩, reporter⟩

/-! ## Consumables -/

theorem createConsumable_ordinary {input : ConsumableInput} {room : Option RoomId} :
    Ordinary (createConsumable input room s) := by
  refine ordinary_look fun _ _ => ordinary_look fun _ _ => ordinary_look fun _ _ =>
    ordinary_bind publicIdOr_ordinary fun _ _ _ => ordinary_bind ordinary_ok fun _ _ _ =>
      insertOr_ordinary ?_ fun _ => rfl
  simp only [Record.fits, fitsWord_toInt, Bool.and_self]

theorem setConsumableQuantity_goes {item : ConsumableId} {quantity : Int} (sound : s.Sound)
    (linked : s.Linked) (fits : fitsWord quantity = true) (not_negative : 0 ≤ quantity) :
    Goes (setConsumableQuantity item quantity) s := by
  refine .after (now_ok.2 ⟨rfl, rfl⟩) (.after (get_ok.2 ⟨rfl, rfl⟩) ?_)
  cases row : Store.row? { s with clock := s.clock + 1 } item with
  | none => exact .pure
  | some e =>
    have member := (Table.mem_of_get? row).1
    -- the threshold is as it was
    have valid := sound.consumables.valid e member
    simp only [Record.fits, Record.holds, Bool.and_eq_true, decide_eq_true_eq] at valid
    refine ⟨_, _, put_goes ?_ ?_ (linked.consumables e member)⟩
    · simp only [Record.fits, fits, valid, Bool.and_self]
    · simp only [Record.holds, not_negative, valid, decide_true, Bool.and_self]

/-- A holder without an open issue of the consumable is given one. -/
theorem openIssue_goes {item : ConsumableId} {holder assignedBy : UserId} {units : Int}
    {purpose : Option String} (free : s.openIssue item holder = none) (positive : 0 < units)
    (fits : fitsWord units = true) (item_there : s.consumables.has item = true)
    (holder_there : s.users.has holder = true) (giver_there : s.users.has assignedBy = true) :
    Goes (openIssue item holder units assignedBy purpose) s := by
  obtain ⟨publicId, minted, fresh, ran⟩ := mint_goes (s := s)
  refine .after ran (.after (now_ok.2 ⟨rfl, rfl⟩) ⟨_, _, insertOr_ok.2 ⟨?_, rfl, rfl⟩⟩)
  refine Table.insertFault_eq_none.2 ⟨?_, ?_, ?_, ConsumableIssue.alone fresh free⟩
  · simp only [Record.fits, fits, Bool.and_self]
  · have some_held : 1 ≤ units := by omega
    exact (ConsumableIssue.holds_opened rfl).2 ⟨positive, Int.le_refl _, some_held, rfl⟩
  · simp only [Record.refers, Bool.and_eq_true]
    exact ⟨⟨item_there, holder_there⟩, giver_there⟩

theorem increaseIssue_goes {id : ConsumableIssueId} {units : Int}
    {i : Entry .consumableIssue ConsumableIssue} (sound : s.Sound) (linked : s.Linked)
    (row : s.row? id = some i) (opened : i.val.isOpen = true) (positive : 0 < units)
    (fits : fitsWord (i.val.issuedQuantity + units) = true) :
    Goes (increaseIssue id units) s := by
  have member := (Table.mem_of_get? row).1
  obtain ⟨words, holds⟩ := sound.consumableIssues.valid i member
  obtain ⟨word, word'⟩ := Bool.and_eq_true_iff.1 words
  obtain ⟨given, within, some_held, returned⟩ := (ConsumableIssue.holds_opened opened).1 holds
  -- an issue holds no more than was issued
  have bounds := fitsWord_iff.1 fits
  have held : fitsWord (i.val.quantity + units) = true := fitsWord_iff.2 (by omega)
  have still : Record.holds .consumableIssue { i.val with
      quantity := i.val.quantity + units
      issuedQuantity := i.val.issuedQuantity + units } = true :=
    (ConsumableIssue.holds_opened (by exact opened)).2
      ⟨show 0 < i.val.issuedQuantity + units by omega,
        show i.val.quantity + units ≤ i.val.issuedQuantity + units by omega,
        show 1 ≤ i.val.quantity + units by omega, returned⟩
  have obeys := Store.ruleFault_eq_none.2 ⟨still, linked.consumableIssues i member⟩
  have written := addToIssue_eq units row opened
  rw [storedSum_of_word word held, storedSum_of_word word' fits] at written
  exact overwrite_goes written obeys (Bool.and_eq_true_iff.2 ⟨held, fits⟩)
    (Table.get?_put_self row)

/-- Units can be given as long as all that the holder was then given in the open issue fits. -/
theorem giveUnits_goes {item : ConsumableId} {holder assignedBy : UserId} {units : Int}
    {purpose : Option String} (sound : s.Sound) (linked : s.Linked) (positive : 0 < units)
    (fits : fitsWord units = true)
    (room : ∀ held, s.openIssue item holder = some held →
      fitsWord (held.val.issuedQuantity + units) = true)
    (item_there : s.consumables.has item = true) (holder_there : s.users.has holder = true)
    (giver_there : s.users.has assignedBy = true) :
    Goes (giveUnits item holder units assignedBy purpose) s := by
  refine .after (get_ok.2 ⟨rfl, rfl⟩) ?_
  cases held : s.openIssue item holder with
  | none => exact openIssue_goes held positive fits item_there holder_there giver_there
  | some i =>
    obtain ⟨row, _, _, opened⟩ := sound.openIssue held
    exact increaseIssue_goes sound linked row opened positive (room i held)

/-- An open issue that has the units is reduced. -/
theorem reduceIssue_goes {id : ConsumableIssueId} {units : Int}
    {i : Entry .consumableIssue ConsumableIssue} (sound : s.Sound) (linked : s.Linked)
    (row : s.row? id = some i) (opened : i.val.isOpen = true) (positive : 0 < units)
    (enough : units ≤ i.val.quantity) : Goes (reduceIssue id units) s := by
  have member := (Table.mem_of_get? row).1
  obtain ⟨words, holds⟩ := sound.consumableIssues.valid i member
  obtain ⟨word, word'⟩ := Bool.and_eq_true_iff.1 words
  obtain ⟨given, within, _, returned⟩ := (ConsumableIssue.holds_opened opened).1 holds
  have bounds := fitsWord_iff.1 word
  have fits : fitsWord (i.val.quantity + -units) = true := fitsWord_iff.2 (by omega)
  have sum := storedSum_of_word word fits
  have obeys : s.ruleFault .consumableIssue { i.val with
      quantity := i.val.quantity + -units
      state := if i.val.quantity + -units = 0 then .closed else i.val.state
      returnedAt :=
        if i.val.quantity + -units = 0 then some ⟨s.clock⟩ else i.val.returnedAt } = none := by
    refine Store.ruleFault_eq_none.2 ⟨?_, linked.consumableIssues i member⟩
    have less : i.val.quantity + -units ≤ i.val.issuedQuantity := by omega
    -- with nothing left the row is closed
    by_cases rest : i.val.quantity + -units = 0
    · exact (ConsumableIssue.holds_closed (if_pos rest)).2
        ⟨given, less, rest, by rw [if_pos rest]; rfl⟩
    · have some_left : 1 ≤ i.val.quantity + -units := by omega
      refine (ConsumableIssue.holds_opened ?_).2
        ⟨given, less, some_left, (if_neg rest).trans returned⟩
      exact beq_iff_eq.2 ((if_neg rest).trans (beq_iff_eq.1 opened))
  exact overwrite_goes (takeFromIssue_eq units row opened sum) obeys
    (Bool.and_eq_true_iff.2 ⟨fits, word'⟩) (Table.get?_put_self row)

/-- The ledger takes a row of a type that it knows, about what is there. -/
theorem appendConsumableEvent_goes {item : ConsumableId} {custody : Option ConsumableIssueId}
    {type : EventType} {holder : Option UserId} {quantity quantityChange : Int}
    {reportedBy : UserId} {notes : Option String} (known : type ∈ EventType.consumable)
    (fits : fitsWord quantity = true ∧ fitsWord quantityChange = true)
    (item_there : s.consumables.has item = true)
    (row_there : s.consumableIssues.resolves custody = true)
    (holder_there : s.users.resolves holder = true) (reporter : s.users.has reportedBy = true) :
    Goes (appendConsumableEvent item custody type holder quantity quantityChange reportedBy notes)
      s := by
  refine .after (now_ok.2 ⟨rfl, rfl⟩) ⟨_, _, insertOr_ok.2 ⟨?_, rfl, rfl⟩⟩
  refine Table.insertFault_eq_none.2 ⟨?_, decide_eq_true known, ?_, fun _ _ => rfl⟩
  · simp only [Record.fits, fits, Bool.and_self]
  · simp only [Record.refers, Bool.and_eq_true]
    exact ⟨⟨⟨item_there, row_there⟩, holder_there⟩, reporter⟩

end Tx

end Quartermaster
