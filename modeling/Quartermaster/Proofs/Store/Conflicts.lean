import Quartermaster.Proofs.Bindings
import Quartermaster.Proofs.LiveRoles

/-!
# What a broken rule of an insert is told as

A row that is added may break rules of the storage: a key that is in use, a check of its own values, a
reference to nothing. Every insert tells all of them as the one conflict that it expects. So these words
are exact where no other rule can be broken, and elsewhere stand for the other rules too.

1. `Tx.Reports`, `Tx.reports_iff`: a transaction is refused in the words of a conflict.
2. `Store.Weighs`, `Tx.added_error_iff`: when an insert tells of its conflict.
3. `Store.reports_conflicts`: what every insert means by its words.
-/

namespace Quartermaster

/-! ## The words for a conflict -/

/-- The transaction is refused as a request that is wrong in this field for this reason. -/
def Tx.Reports {α : Type} (x : Tx α) (s : Store) (field reason : String) : Prop :=
  ∃ why, x s = .error why ∧ why.report = .invalidRequest field reason

/-- Whether an insert tells broken rules like this. -/
def Invalid.isConflict : Invalid → Bool
  | .publicIdTaken _ | .roleAlreadyHeld | .equipmentAssigned | .assignmentOpen | .issueOpen => true
  | _ => false

theorem Kind.eq_of_noun {k k' : Kind} (same : k.noun = k'.noun) : k = k' := by
  cases k <;> cases k' <;> first | rfl | simp [noun] at same

/-- Every conflict has words of its own. -/
theorem Invalid.eq_of_told {why x : Invalid} (conflict : x.isConflict = true)
    (field : why.field = x.field) (reason : why.reason = x.reason) : why = x := by
  cases x with
  | publicIdTaken kind =>
    cases why with
    | publicIdTaken kind' =>
      have same : kind'.noun ++ " already exists" = kind.noun ++ " already exists" := reason
      rw [Kind.eq_of_noun ((String.append_left_inj _).1 same)]
    | blankPublicId =>
      revert reason
      cases kind <;> decide +kernel
    | _ => simp [Invalid.field] at field
  | roleAlreadyHeld => cases why <;> simp [Invalid.field] at field ⊢
  | equipmentAssigned =>
    cases why with
    | equipmentAssigned => rfl
    | equipmentNotAssigned => exact absurd reason (by decide +kernel)
    | _ => simp [Invalid.field] at field
  | assignmentOpen =>
    cases why with
    | assignmentOpen => rfl
    | issueOpen => exact absurd reason (by decide +kernel)
    | _ => simp [Invalid.field] at field
  | issueOpen =>
    cases why with
    | issueOpen => rfl
    | assignmentOpen => exact absurd reason (by decide +kernel)
    | _ => simp [Invalid.field] at field
  | _ => cases conflict

variable {α β : Type} {s : Store}

/-- The words of a conflict tell that refusal. -/
theorem Tx.reports_iff {x : Tx α} {field reason : String} (told : Invalid)
    (conflict : told.isConflict = true) (named : told.field = field)
    (worded : told.reason = reason) :
    x.Reports s field reason ↔ x s = .error (.invalid told) := by
  subst named worded
  constructor
  · rintro ⟨why, refused, words⟩
    cases why with
    | invalid why =>
      simp only [Refusal.report, Report.invalidRequest.injEq] at words
      rw [refused, Invalid.eq_of_told conflict words.1 words.2]
    | _ => cases words
  · exact fun refused => ⟨_, refused, rfl⟩

/-- What is not a conflict is told apart from one. -/
theorem Invalid.refusal_ne {why told : Invalid} (plain : why.isConflict = false)
    (conflict : told.isConflict = true) : Refusal.invalid why ≠ .invalid told := by
  intro same
  obtain rfl := Refusal.invalid.inj same
  rw [plain] at conflict
  cases conflict

/-! ## Steps before an insert -/

namespace Tx

variable {why told : Invalid}

theorem require_error_iff {ok : Bool} {f : Unit → Tx β} (plain : why.isConflict = false)
    (conflict : told.isConflict = true) :
    (require ok (.invalid why) >>= f) s = .error (.invalid told) ↔
      ok = true ∧ f () s = .error (.invalid told) := by
  cases ok with
  | true => exact ⟨fun refused => ⟨rfl, refused⟩, And.right⟩
  | false =>
    have refused : require false (.invalid why) s = .error (.invalid why) := rfl
    rw [bind_of_error refused]
    exact ⟨fun same => absurd (Except.error.inj same) (Invalid.refusal_ne plain conflict), nofun⟩

theorem requireName_error_iff {name : String} {f : Unit → Tx β}
    (conflict : told.isConflict = true) :
    (requireName name >>= f) s = .error (.invalid told) ↔
      Text.isBlank name = false ∧ f () s = .error (.invalid told) := by
  rw [requireName, require_error_iff rfl conflict, Bool.not_eq_true']

theorem present_error_iff {value : Option α} {f : α → Tx β} (plain : why.isConflict = false)
    (conflict : told.isConflict = true) :
    (present value (.invalid why) >>= f) s = .error (.invalid told) ↔
      ∃ a, value = some a ∧ f a s = .error (.invalid told) := by
  cases value with
  | some a =>
    refine ⟨fun refused => ⟨a, rfl, refused⟩, ?_⟩
    rintro ⟨_, same, refused⟩
    obtain rfl := Option.some.inj same
    exact refused
  | none =>
    have refused : present (none : Option α) (.invalid why) s = .error (.invalid why) := rfl
    rw [bind_of_error refused]
    exact ⟨fun same => absurd (Except.error.inj same) (Invalid.refusal_ne plain conflict), nofun⟩

/-- A look that is not refused as a conflict leads on to one if all that it may find does. -/
theorem read_error_iff {g : Store → Except Refusal α} {f : α → Tx β} {fails : Prop}
    (apart : g s ≠ .error (.invalid told))
    (under : ∀ a, g s = .ok a → (f a s = .error (.invalid told) ↔ fails)) :
    (read g >>= f) s = .error (.invalid told) ↔ (∃ a, g s = .ok a) ∧ fails := by
  cases asked : g s with
  | ok a =>
    rw [bind_of_ok (read_ok.2 ⟨asked, rfl⟩), under a asked]
    exact (and_iff_right ⟨a, rfl⟩).symm
  | error other =>
    have refused : read g s = .error other := by rw [read, asked]; rfl
    rw [bind_of_error refused]
    refine iff_of_false (fun same => apart ?_) nofun
    rw [asked, Except.error.inj same]

/-- What is not found by its public id is told as missing. -/
theorem named_error_iff {k : Kind} [Record k α] [Named k] {publicId : String}
    {f : Entry k α → Tx β} {fails : Prop}
    (under : ∀ e, s.named? k publicId = some e → (f e s = .error (.invalid told) ↔ fails)) :
    (read (·.named k publicId) >>= f) s = .error (.invalid told) ↔
      (∃ e, s.named? k publicId = some e) ∧ fails := by
  have apart : s.named k publicId ≠ .error (.invalid told) := by
    unfold Store.named
    split <;> nofun
  rw [read_error_iff apart fun e named => under e (Store.named_ok.1 named)]
  simp only [Store.named_ok]

theorem roomOf_error_iff {room : Option String} {f : Option RoomId → Tx β} {fails : Prop}
    (under : ∀ target, s.roomOf room = .ok target → (f target s = .error (.invalid told) ↔ fails)) :
    (read (·.roomOf room) >>= f) s = .error (.invalid told) ↔
      (∃ target, s.roomOf room = .ok target) ∧ fails := by
  refine read_error_iff ?_ under
  cases room with
  | none => exact nofun
  | some publicId =>
    show (s.named .room publicId).map _ ≠ _
    unfold Store.named
    cases s.named? .room publicId <;> exact nofun

/-- Nothing is inserted under a parent that is not found. -/
theorem parent_error_iff {k : Kind} [Record k α] [Named k] {parent : Option String}
    {f : Entry k α → Tx β} {fails : Prop} (plain : why.isConflict = false)
    (conflict : told.isConflict = true)
    (under : ∀ publicId e, s.named? k publicId = some e →
      (f e s = .error (.invalid told) ↔ fails)) :
    (present parent (.invalid why) >>= fun publicId => read (·.named k publicId) >>= f) s =
        .error (.invalid told) ↔
      (∃ publicId e, parent = some publicId ∧ s.named? k publicId = some e) ∧ fails := by
  rw [present_error_iff plain conflict]
  constructor
  · rintro ⟨publicId, given, refused⟩
    obtain ⟨⟨e, named⟩, fails⟩ := (named_error_iff (under publicId)).1 refused
    exact ⟨⟨publicId, e, given, named⟩, fails⟩
  · rintro ⟨⟨publicId, e, given, named⟩, fails⟩
    exact ⟨publicId, given, (named_error_iff (under publicId)).2 ⟨⟨e, named⟩, fails⟩⟩

end Tx

theorem Store.named?_isSome {k : Kind} [Record k α] [Named k] {publicId : String} :
    (s.named? k publicId).isSome = true ↔
      ∃ e ∈ (Record.table s : Table k α).entries, publicId = Named.publicId k e.val := by
  simp only [named?, Table.find?, List.find?_isSome, beq_iff_eq, @eq_comm _ publicId]

/-! ## Inserts -/

/-- A public id that is given is not blank. -/
def Spelled (given : Option String) : Prop :=
  ∀ id, given = some id → Text.isBlank id = false

/-- The public id that is given is that of a row of the kind. -/
def Store.InUse (s : Store) (k : Kind) {α : Type} [Record k α] [Named k] (given : Option String) :
    Prop :=
  ∃ id, given = some id ∧ (s.named? k id).isSome = true

/-- Adds a row under the public id that was given, or a minted one, and tells a broken rule as a
conflict. -/
def Tx.added (k : Kind) {α : Type} [Record k α] (told : Invalid) (given : Option String)
    (row : String → Stamp → α) : Tx (Entry k α) := do
  let publicId ← publicIdOr given
  insertOr k (fun _ => .invalid told) (row publicId (← now))

/-- The rules of the kind do not look at the clock, nor at the supply of public ids; and the public ids
of the kind are among those that the supply leaves out. -/
class Supplied (k : Kind) {α : outParam Type} [Record k α] [Named k] : Prop where
  still (s : Store) (minted clock : Nat) (row : α) :
    Store.insertFault { s with minted, clock } k row = s.insertFault k row
  listed (s : Store) : s.idsOf k ⊆ s.publicIds

instance : Supplied .department :=
  ⟨fun _ _ _ _ => rfl, fun _ _ used => by simp [Store.publicIds, used]⟩
instance : Supplied .location :=
  ⟨fun _ _ _ _ => rfl, fun _ _ used => by simp [Store.publicIds, used]⟩
instance : Supplied .room :=
  ⟨fun _ _ _ _ => rfl, fun _ _ used => by simp [Store.publicIds, used]⟩
instance : Supplied .user :=
  ⟨fun _ _ _ _ => rfl, fun _ _ used => by simp [Store.publicIds, used]⟩
instance : Supplied .roleAssignment :=
  ⟨fun _ _ _ _ => rfl, fun _ _ used => by simp [Store.publicIds, used]⟩
instance : Supplied .equipment :=
  ⟨fun _ _ _ _ => rfl, fun _ _ used => by simp [Store.publicIds, used]⟩
instance : Supplied .equipmentAssignment :=
  ⟨fun _ _ _ _ => rfl, fun _ _ used => by simp [Store.publicIds, used]⟩
instance : Supplied .accessory :=
  ⟨fun _ _ _ _ => rfl, fun _ _ used => by simp [Store.publicIds, used]⟩
instance : Supplied .accessoryAssignment :=
  ⟨fun _ _ _ _ => rfl, fun _ _ used => by simp [Store.publicIds, used]⟩
instance : Supplied .consumable :=
  ⟨fun _ _ _ _ => rfl, fun _ _ used => by simp [Store.publicIds, used]⟩
instance : Supplied .consumableIssue :=
  ⟨fun _ _ _ _ => rfl, fun _ _ used => by simp [Store.publicIds, used]⟩

/-- What is known of a row before it has its public id: whether it keeps the rules of its own values
and references, and which rows are in its way whatever its public id. -/
structure Store.Weighs (s : Store) (k : Kind) {α : Type} [Record k α] [Named k]
    (row : String → Stamp → α) (good : Prop) (bars : α → Prop) : Prop where
  fits (id : String) (at' : Stamp) : Record.fits k (row id at') = true
  good (id : String) (at' : Stamp) :
    Record.holds k (row id at') = true ∧ Record.refers k s (row id at') = true ↔ good
  keys (id : String) (at' : Stamp) (v : α) :
    Record.clashes k (row id at') v = true ↔ id = Named.publicId k v ∨ bars v

/-- A public id that is all of the key. -/
theorem key_iff {id other : String} : (id == other) = true ↔ id = other ∨ False := by
  rw [or_false, beq_iff_eq]

section Adding

variable {k : Kind} [Record k α]

theorem Tx.insertOr_error_iff {told : Invalid} {row : α} (fits : Record.fits k row = true) :
    insertOr k (fun _ => .invalid told) row s = .error (.invalid told) ↔
      ¬ Table.Takes s k row := by
  rw [← Table.insertFault_eq_none]
  unfold insertOr
  cases faulty : s.insertFault k row with
  | none => exact ⟨nofun, fun broken => absurd rfl broken⟩
  | some fault =>
    obtain ⟨rule, rfl⟩ := insertFault_of_fits fits faulty
    exact ⟨nofun, fun _ => rfl⟩

variable [Named k] {row : String → Stamp → α} {good : Prop} {bars : α → Prop}

theorem Store.Weighs.not_takes {id : String} {at' : Stamp} (weighs : s.Weighs k row good bars) :
    ¬ Table.Takes s k (row id at') ↔
      (∃ e ∈ (Record.table s : Table k α).entries, id = Named.publicId k e.val) ∨
        (∃ e ∈ (Record.table s : Table k α).entries, bars e.val) ∨ ¬ good := by
  have keys := weighs.keys id at'
  constructor
  · intro broken
    by_cases barred : ∃ e ∈ (Record.table s : Table k α).entries,
      id = Named.publicId k e.val ∨ bars e.val
    · obtain ⟨e, member, same | bar⟩ := barred
      · exact .inl ⟨e, member, same⟩
      · exact .inr (.inl ⟨e, member, bar⟩)
    · refine .inr (.inr fun whole => broken ?_)
      obtain ⟨holds, refers⟩ := (weighs.good id at').2 whole
      exact ⟨weighs.fits id at', holds, refers, fun e member => Bool.eq_false_iff.2 fun clash =>
        barred ⟨e, member, (keys e.val).1 clash⟩⟩
  · rintro told ⟨_, holds, refers, alone⟩
    have apart {e : Entry k α} (member : e ∈ (Record.table s : Table k α).entries) :=
      not_or.1 (mt (keys e.val).2 (Bool.eq_false_iff.1 (alone e member)))
    rcases told with ⟨e, member, same⟩ | ⟨e, member, bar⟩ | bad
    · exact (apart member).1 same
    · exact (apart member).2 bar
    · exact bad ((weighs.good id at').1 ⟨holds, refers⟩)

variable [Supplied k] {told : Invalid} {given : Option String}

/-- An insert tells of its conflict when the public id is in use, when a row is in the way, and also
when another rule is broken. -/
theorem Tx.added_error_iff (weighs : s.Weighs k row good bars)
    (conflict : told.isConflict = true) :
    added k told given row s = .error (.invalid told) ↔ Spelled given ∧
      (s.InUse k given ∨ (∃ e ∈ (Record.table s : Table k α).entries, bars e.val) ∨ ¬ good) := by
  by_cases spelled : Spelled given
  · obtain ⟨id, minted, named, origin⟩ := publicIdOr_goes (s := s) spelled
    have inUse : s.InUse k given ↔
        ∃ e ∈ (Record.table s : Table k α).entries, id = Named.publicId k e.val := by
      rcases origin with rfl | ⟨rfl, fresh⟩
      · rw [← Store.named?_isSome]
        exact ⟨fun ⟨_, same, used⟩ => by cases same; exact used, fun used => ⟨id, rfl, used⟩⟩
      · -- a minted id is that of no row
        refine iff_of_false nofun ?_
        rintro ⟨e, member, rfl⟩
        exact fresh (Supplied.listed s (List.mem_map.2 ⟨e, member, rfl⟩))
    have still : Table.Takes { s with minted, clock := s.clock + 1 } k (row id ⟨s.clock⟩) ↔
        Table.Takes s k (row id ⟨s.clock⟩) := by
      rw [← Table.insertFault_eq_none, ← Table.insertFault_eq_none, Supplied.still]
    rw [added, bind_of_ok named, bind_of_ok (now_ok.2 ⟨rfl, rfl⟩),
      insertOr_error_iff (weighs.fits _ _), not_congr still, weighs.not_takes, inUse]
    exact (and_iff_right spelled).symm
  · refine iff_of_false (fun refused => ?_) fun both => spelled both.1
    obtain ⟨id, rfl, blank⟩ : ∃ id, given = some id ∧ Text.isBlank id = true := by
      simpa [Spelled] using spelled
    have refused' : publicIdOr (some id) s = .error (.invalid .blankPublicId) := by
      simp [publicIdOr, require, blank]
      rfl
    rw [added, bind_of_error refused'] at refused
    exact Invalid.refusal_ne rfl conflict (Except.error.inj refused)

/-- An insert that mints its public id tells of its conflict when a row is in the way, and also when
another rule is broken. -/
theorem Tx.added_minted_error_iff (weighs : s.Weighs k row good bars)
    (conflict : told.isConflict = true) : added k told none row s = .error (.invalid told) ↔
      (∃ e ∈ (Record.table s : Table k α).entries, bars e.val) ∨ ¬ good := by
  rw [added_error_iff weighs conflict]
  have spelled : Spelled none := nofun
  have unused : ¬ s.InUse k none := nofun
  simp only [spelled, unused, true_and, false_or]

end Adding

/-! ## What every insert means by its words -/

namespace Tx

theorem createDepartment_error_iff {input : NodeInput} :
    createDepartment input s = .error (.invalid (.publicIdTaken .department)) ↔
      Text.isBlank input.name = false ∧ Spelled input.publicId ∧
        s.InUse .department input.publicId := by
  have weighs : s.Weighs .department (fun id at' => ⟨id, input.name, at'⟩) True fun _ => False :=
    ⟨fun _ _ => rfl, fun _ _ => iff_of_true ⟨rfl, rfl⟩ trivial, fun _ _ _ => key_iff⟩
  -- the checks that come first, and the row
  show (requireName input.name >>= fun _ => added .department _ input.publicId _) s = _ ↔ _
  rw [requireName_error_iff, added_error_iff weighs]
  · simp
  all_goals rfl

theorem createLocation_error_iff {input : NodeInput} :
    createLocation input s = .error (.invalid (.publicIdTaken .location)) ↔
      Text.isBlank input.name = false ∧
        (∃ parent d, input.parent = some parent ∧ s.named? .department parent = some d) ∧
        Spelled input.publicId ∧ s.InUse .location input.publicId := by
  have weighs {publicId : String} {d : Entry .department Department}
      (named : s.named? .department publicId = some d) :
      s.Weighs .location (fun id at' => ⟨id, input.name, some d.id, at'⟩) True fun _ => False :=
    { fits _ _ := rfl
      good _ _ := iff_of_true ⟨rfl, Store.has_of_named named⟩ trivial
      keys _ _ _ := key_iff }
  show (requireName input.name >>= fun _ => present input.parent _ >>= fun parent =>
    read (·.named .department parent) >>= fun d => added .location _ input.publicId
      fun id at' => ⟨id, input.name, some d.id, at'⟩) s = _ ↔ _
  rw [requireName_error_iff]
  · refine and_congr_right fun _ => parent_error_iff rfl rfl fun _ d named => ?_
    rw [added_error_iff (weighs named)]
    · simp
    · rfl
  · rfl

theorem createRoom_error_iff {input : NodeInput} :
    createRoom input s = .error (.invalid (.publicIdTaken .room)) ↔
      Text.isBlank input.name = false ∧
        (∃ parent l, input.parent = some parent ∧ s.named? .location parent = some l) ∧
        Spelled input.publicId ∧ s.InUse .room input.publicId := by
  have weighs {publicId : String} {l : Entry .location Location}
      (named : s.named? .location publicId = some l) :
      s.Weighs .room (fun id at' => ⟨id, input.name, some l.id, at'⟩) True fun _ => False :=
    { fits _ _ := rfl
      good _ _ := iff_of_true ⟨rfl, Store.has_of_named named⟩ trivial
      keys _ _ _ := key_iff }
  show (requireName input.name >>= fun _ => present input.parent _ >>= fun parent =>
    read (·.named .location parent) >>= fun l => added .room _ input.publicId
      fun id at' => ⟨id, input.name, some l.id, at'⟩) s = _ ↔ _
  rw [requireName_error_iff]
  · refine and_congr_right fun _ => parent_error_iff rfl rfl fun _ l named => ?_
    rw [added_error_iff (weighs named)]
    · simp
    · rfl
  · rfl

theorem createUser_error_iff {input : UserInput} :
    createUser input s = .error (.invalid (.publicIdTaken .user)) ↔
      Text.isBlank input.displayName = false ∧ (∃ room, s.roomOf input.room = .ok room) ∧
        Spelled input.publicId ∧ s.InUse .user input.publicId := by
  have weighs {room : Option RoomId} (found : s.roomOf input.room = .ok room) :
      s.Weighs .user (fun id at' => ⟨id, input.displayName, room, none, at'⟩) True fun _ => False :=
    { fits _ _ := rfl
      good _ _ := iff_of_true
        ⟨rfl, Bool.and_eq_true_iff.2 ⟨Store.rooms_resolve found, rfl⟩⟩ trivial
      keys _ _ _ := key_iff }
  show (require (!Text.isBlank input.displayName) _ >>= fun _ => read (·.roomOf input.room) >>=
    fun room => added .user _ input.publicId
      fun id at' => ⟨id, input.displayName, room, none, at'⟩) s = _ ↔ _
  rw [require_error_iff, Bool.not_eq_true']
  · refine and_congr_right fun _ => roomOf_error_iff fun room found => ?_
    rw [added_error_iff (weighs found)]
    · simp
    · rfl
  all_goals rfl

theorem createEquipment_error_iff {publicId serialNumber : Option String} {name : String}
    {room : Option RoomId} :
    createEquipment publicId name serialNumber room s =
        .error (.invalid (.publicIdTaken .equipment)) ↔
      Text.isBlank name = false ∧ Spelled publicId ∧
        (s.InUse .equipment publicId ∨ s.rooms.resolves room = false) := by
  have weighs : s.Weighs .equipment (fun id at' => ⟨id, name, serialNumber, .ok, room, at', at'⟩)
      (s.rooms.resolves room = true) fun _ => False :=
    ⟨fun _ _ => rfl, fun _ _ => and_iff_right rfl, fun _ _ _ => key_iff⟩
  show (requireName name >>= fun _ => added .equipment _ publicId _) s = _ ↔ _
  rw [requireName_error_iff, added_error_iff weighs]
  · simp
  all_goals rfl

theorem createAccessory_error_iff {publicId : Option String} {name : String} {quantity : Int64}
    {room : Option RoomId} :
    createAccessory publicId name quantity room s =
        .error (.invalid (.publicIdTaken .accessory)) ↔
      Text.isBlank name = false ∧ 0 ≤ quantity.toInt ∧ Spelled publicId ∧
        (s.InUse .accessory publicId ∨ s.rooms.resolves room = false) := by
  have weighs (not_negative : 0 ≤ quantity.toInt) :
      s.Weighs .accessory (fun id at' => ⟨id, name, quantity.toInt, room, at', at'⟩)
        (s.rooms.resolves room = true) fun _ => False :=
    { fits _ _ := fitsWord_toInt quantity
      good _ _ := and_iff_right (decide_eq_true not_negative)
      keys _ _ _ := key_iff }
  show (requireName name >>= fun _ => require _ _ >>= fun _ =>
    added .accessory _ publicId _) s = _ ↔ _
  rw [requireName_error_iff, require_error_iff, decide_eq_true_eq]
  · refine and_congr_right fun _ => and_congr_right fun not_negative => ?_
    rw [added_error_iff (weighs not_negative)]
    · simp
    · rfl
  all_goals rfl

theorem createConsumable_error_iff {input : ConsumableInput} {room : Option RoomId} :
    createConsumable input room s = .error (.invalid (.publicIdTaken .consumable)) ↔
      Text.isBlank input.name = false ∧ 0 ≤ input.quantity.toInt ∧
        0 ≤ input.lowStockThreshold.toInt ∧ Spelled input.publicId ∧
        (s.InUse .consumable input.publicId ∨ s.rooms.resolves room = false) := by
  have weighs (stock : 0 ≤ input.quantity.toInt) (threshold : 0 ≤ input.lowStockThreshold.toInt) :
      s.Weighs .consumable
        (fun id at' => ⟨id, input.name, input.unit, input.quantity.toInt,
          input.lowStockThreshold.toInt, room, at', at'⟩)
        (s.rooms.resolves room = true) fun _ => False :=
    { fits _ _ := Bool.and_eq_true_iff.2 ⟨fitsWord_toInt _, fitsWord_toInt _⟩
      good _ _ := and_iff_right <|
        Bool.and_eq_true_iff.2 ⟨decide_eq_true stock, decide_eq_true threshold⟩
      keys _ _ _ := key_iff }
  show (requireName input.name >>= fun _ => require _ _ >>= fun _ => require _ _ >>= fun _ =>
    added .consumable _ input.publicId _) s = _ ↔ _
  rw [requireName_error_iff, require_error_iff, require_error_iff, decide_eq_true_eq,
    decide_eq_true_eq]
  · refine and_congr_right fun _ => and_congr_right fun stock => and_congr_right fun threshold => ?_
    rw [added_error_iff (weighs stock threshold)]
    · simp
    · rfl
  all_goals rfl

end Tx

/-- The user holds the role of a binding at its node, or the highest role. -/
def Store.HoldsRole (s : Store) (user : UserId) (b : Binding) : Prop :=
  ∃ a ∈ s.rolesOf user, a.val.role = b.role ∧
    (b.role = .siteAdmin ∨ a.val.columns = .ofScope b.scope)

namespace Tx

theorem createRoleAssignment_error_iff {publicId : Option String} {user : UserId} {b : Binding}
    {grantedBy : Option UserId} :
    createRoleAssignment publicId user b grantedBy s = .error (.invalid .roleAlreadyHeld) ↔
      b.scope ≠ .detached ∧ Spelled publicId ∧
        (s.HoldsRole user b ∨ s.InUse .roleAssignment publicId ∨ s.users.has user = false ∨
          s.users.resolves grantedBy = false ∨ s.hasNode b.scope = false) := by
  have weighs (attached : b.scope ≠ .detached) :
      s.Weighs .roleAssignment
        (fun id at' => ⟨id, user, b.role, .ofScope b.scope, grantedBy, at'⟩)
        (s.users.has user = true ∧ s.users.resolves grantedBy = true ∧ s.hasNode b.scope = true)
        fun a => a.user = user ∧ a.role = b.role ∧
          (b.role = .siteAdmin ∨ a.columns = .ofScope b.scope) :=
    { fits _ _ := rfl
      -- at a node of its tier, a role has the columns that it may have
      good id at' := by
        have readable : RoleAssignment.Readable
            ⟨id, user, b.role, .ofScope b.scope, grantedBy, at'⟩ := .of attached rfl rfl
        rw [readable.refers_iff, RoleAssignment.binding_of attached rfl rfl]
        exact and_iff_right readable.holds
      keys id at' a := by
        simp only [Record.clashes, Named.publicId, Bool.or_eq_true, Bool.and_eq_true, beq_iff_eq,
          bne_iff_ne, and_assoc, @eq_comm _ user, @eq_comm _ b.role a.role,
          @eq_comm _ (ScopeColumns.ofScope b.scope)]
        refine or_congr_right (and_congr_right fun _ => and_congr_right fun _ => ?_)
        by_cases highest : b.role = .siteAdmin
        · exact iff_of_true (.inl highest) (.inl highest)
        · exact or_congr_right (and_iff_left (Binding.columns_set attached highest)) }
  show (require _ _ >>= fun _ => added .roleAssignment _ publicId _) s = _ ↔ _
  rw [require_error_iff, bne_iff_ne]
  · refine and_congr_right fun attached => ?_
    rw [added_error_iff (weighs attached), or_left_comm]
    · simp only [Store.HoldsRole, Store.rolesOf, Table.mem_filter, beq_iff_eq, and_assoc,
        Record.table, Classical.not_and_iff_not_or_not, Bool.not_eq_true]
    · rfl
  all_goals rfl

theorem openEquipmentAssignment_error_iff {item : EquipmentId} {holder assignedBy : UserId}
    {notes : Option String} :
    openEquipmentAssignment item holder assignedBy notes s =
        .error (.invalid .equipmentAssigned) ↔
      (s.openEquipmentAssignment item).isSome = true ∨ s.equipment.has item = false ∨
        s.users.has holder = false ∨ s.users.has assignedBy = false := by
  have weighs : s.Weighs .equipmentAssignment
      (fun id at' => ⟨id, item, holder, some assignedBy, at', none, .opened, notes⟩)
      (s.equipment.has item = true ∧ s.users.has holder = true ∧ s.users.has assignedBy = true)
      fun a => a.equipment = item ∧ a.isOpen = true :=
    { fits _ _ := rfl
      good _ _ := by simp [Record.holds, Record.refers, Table.resolves, and_assoc]
      keys _ _ a := by
        simp [Record.clashes, Named.publicId, EquipmentAssignment.isOpen, @eq_comm _ item] }
  show added .equipmentAssignment _ none _ s = _ ↔ _
  rw [added_minted_error_iff weighs]
  · simp only [Store.openEquipmentAssignment, Table.find?, List.find?_isSome, Record.table,
      Bool.and_eq_true, beq_iff_eq, Classical.not_and_iff_not_or_not, Bool.not_eq_true]
  · rfl

theorem openAccessoryAssignment_error_iff {item : AccessoryId} {holder assignedBy : UserId}
    {quantity : Int64} :
    openAccessoryAssignment item holder quantity.toInt assignedBy s =
        .error (.invalid .assignmentOpen) ↔
      (s.openAccessoryAssignment item holder).isSome = true ∨ quantity.toInt < 1 ∨
        s.accessories.has item = false ∨ s.users.has holder = false ∨
        s.users.has assignedBy = false := by
  have weighs : s.Weighs .accessoryAssignment
      (fun id at' => ⟨id, item, holder, quantity.toInt, some assignedBy, at', none, .opened⟩)
      (1 ≤ quantity.toInt ∧ s.accessories.has item = true ∧ s.users.has holder = true ∧
        s.users.has assignedBy = true)
      fun a => a.accessory = item ∧ a.holder = holder ∧ a.isOpen = true :=
    { fits _ _ := fitsWord_toInt quantity
      good _ _ := by
        simp [Record.holds, Record.refers, Table.resolves, AccessoryAssignment.isOpen, and_assoc]
      keys _ _ a := by
        simp [Record.clashes, Named.publicId, AccessoryAssignment.isOpen, @eq_comm _ item,
          @eq_comm _ holder, and_assoc] }
  show added .accessoryAssignment _ none _ s = _ ↔ _
  rw [added_minted_error_iff weighs]
  · simp only [Store.openAccessoryAssignment, Table.find?, List.find?_isSome, Record.table,
      Bool.and_eq_true, beq_iff_eq, Classical.not_and_iff_not_or_not, Bool.not_eq_true, Int.not_le,
      and_assoc]
  · rfl

theorem openIssue_error_iff {item : ConsumableId} {holder assignedBy : UserId} {quantity : Int64}
    {purpose : Option String} :
    openIssue item holder quantity.toInt assignedBy purpose s = .error (.invalid .issueOpen) ↔
      (s.openIssue item holder).isSome = true ∨ quantity.toInt < 1 ∨
        s.consumables.has item = false ∨ s.users.has holder = false ∨
        s.users.has assignedBy = false := by
  have weighs : s.Weighs .consumableIssue
      (fun id at' => ⟨id, item, holder, quantity.toInt, quantity.toInt, some assignedBy, purpose,
        at', none, .opened⟩)
      (1 ≤ quantity.toInt ∧ s.consumables.has item = true ∧ s.users.has holder = true ∧
        s.users.has assignedBy = true)
      fun i => i.consumable = item ∧ i.holder = holder ∧ i.isOpen = true :=
    { fits _ _ := Bool.and_eq_true_iff.2 ⟨fitsWord_toInt _, fitsWord_toInt _⟩
      good _ _ := by
        simp [Record.holds, Record.refers, Table.resolves, ConsumableIssue.isOpen, and_assoc]
        omega
      keys _ _ a := by
        simp [Record.clashes, Named.publicId, ConsumableIssue.isOpen, @eq_comm _ item,
          @eq_comm _ holder, and_assoc] }
  show added .consumableIssue _ none _ s = _ ↔ _
  rw [added_minted_error_iff weighs]
  · simp only [Store.openIssue, Table.find?, List.find?_isSome, Record.table, Bool.and_eq_true,
      beq_iff_eq, Classical.not_and_iff_not_or_not, Bool.not_eq_true, Int.not_le, and_assoc]
  · rfl

end Tx

/-- What the inserts mean by their words. Of a node and a user: the public id is in use. Of an asset:
it is, or the room is not there. Of a role: it is held already, or the public id is in use, or something
that is referred to is not there. Of custody: a row is open already, or there are no units, or something
that is referred to is not there. Other checks come first, and have words of their own. -/
structure Store.ReportsConflicts (s : Store) : Prop where
  department (input : NodeInput) :
    (Tx.createDepartment input).Reports s "public_id" "department already exists" ↔
      Text.isBlank input.name = false ∧ Spelled input.publicId ∧
        s.InUse .department input.publicId
  location (input : NodeInput) :
    (Tx.createLocation input).Reports s "public_id" "location already exists" ↔
      Text.isBlank input.name = false ∧
        (∃ parent d, input.parent = some parent ∧ s.named? .department parent = some d) ∧
        Spelled input.publicId ∧ s.InUse .location input.publicId
  room (input : NodeInput) :
    (Tx.createRoom input).Reports s "public_id" "room already exists" ↔
      Text.isBlank input.name = false ∧
        (∃ parent l, input.parent = some parent ∧ s.named? .location parent = some l) ∧
        Spelled input.publicId ∧ s.InUse .room input.publicId
  user (input : UserInput) :
    (Tx.createUser input).Reports s "public_id" "user already exists" ↔
      Text.isBlank input.displayName = false ∧ (∃ room, s.roomOf input.room = .ok room) ∧
        Spelled input.publicId ∧ s.InUse .user input.publicId
  equipment (publicId : Option String) (name : String) (serialNumber : Option String)
    (room : Option RoomId) :
    (Tx.createEquipment publicId name serialNumber room).Reports s "public_id"
        "equipment already exists" ↔
      Text.isBlank name = false ∧ Spelled publicId ∧
        (s.InUse .equipment publicId ∨ s.rooms.resolves room = false)
  accessory (publicId : Option String) (name : String) (quantity : Int64) (room : Option RoomId) :
    (Tx.createAccessory publicId name quantity room).Reports s "public_id"
        "accessory already exists" ↔
      Text.isBlank name = false ∧ 0 ≤ quantity.toInt ∧ Spelled publicId ∧
        (s.InUse .accessory publicId ∨ s.rooms.resolves room = false)
  consumable (input : ConsumableInput) (room : Option RoomId) :
    (Tx.createConsumable input room).Reports s "public_id" "consumable already exists" ↔
      Text.isBlank input.name = false ∧ 0 ≤ input.quantity.toInt ∧
        0 ≤ input.lowStockThreshold.toInt ∧ Spelled input.publicId ∧
        (s.InUse .consumable input.publicId ∨ s.rooms.resolves room = false)
  roleAssignment (publicId : Option String) (user : UserId) (b : Binding)
    (grantedBy : Option UserId) :
    (Tx.createRoleAssignment publicId user b grantedBy).Reports s "role"
        "user already holds this role at this scope" ↔
      b.scope ≠ .detached ∧ Spelled publicId ∧
        (s.HoldsRole user b ∨ s.InUse .roleAssignment publicId ∨ s.users.has user = false ∨
          s.users.resolves grantedBy = false ∨ s.hasNode b.scope = false)
  equipmentAssignment (item : EquipmentId) (holder assignedBy : UserId) (notes : Option String) :
    (Tx.openEquipmentAssignment item holder assignedBy notes).Reports s "equipment"
        "equipment is already assigned" ↔
      (s.openEquipmentAssignment item).isSome = true ∨ s.equipment.has item = false ∨
        s.users.has holder = false ∨ s.users.has assignedBy = false
  accessoryAssignment (item : AccessoryId) (holder assignedBy : UserId) (quantity : Int64) :
    (Tx.openAccessoryAssignment item holder quantity.toInt assignedBy).Reports s "holder"
        "holder already has an open assignment" ↔
      (s.openAccessoryAssignment item holder).isSome = true ∨ quantity.toInt < 1 ∨
        s.accessories.has item = false ∨ s.users.has holder = false ∨
        s.users.has assignedBy = false
  issue (item : ConsumableId) (holder assignedBy : UserId) (quantity : Int64)
    (purpose : Option String) :
    (Tx.openIssue item holder quantity.toInt assignedBy purpose).Reports s "holder"
        "holder already has an open issue" ↔
      (s.openIssue item holder).isSome = true ∨ quantity.toInt < 1 ∨
        s.consumables.has item = false ∨ s.users.has holder = false ∨
        s.users.has assignedBy = false

theorem Store.reports_conflicts (s : Store) : s.ReportsConflicts where
  department _ :=
    (Tx.reports_iff (.publicIdTaken .department) rfl rfl (by decide +kernel)).trans
      Tx.createDepartment_error_iff
  location _ :=
    (Tx.reports_iff (.publicIdTaken .location) rfl rfl (by decide +kernel)).trans
      Tx.createLocation_error_iff
  room _ :=
    (Tx.reports_iff (.publicIdTaken .room) rfl rfl (by decide +kernel)).trans
      Tx.createRoom_error_iff
  user _ :=
    (Tx.reports_iff (.publicIdTaken .user) rfl rfl (by decide +kernel)).trans
      Tx.createUser_error_iff
  equipment _ _ _ _ :=
    (Tx.reports_iff (.publicIdTaken .equipment) rfl rfl (by decide +kernel)).trans
      Tx.createEquipment_error_iff
  accessory _ _ _ _ :=
    (Tx.reports_iff (.publicIdTaken .accessory) rfl rfl (by decide +kernel)).trans
      Tx.createAccessory_error_iff
  consumable _ _ :=
    (Tx.reports_iff (.publicIdTaken .consumable) rfl rfl (by decide +kernel)).trans
      Tx.createConsumable_error_iff
  roleAssignment _ _ _ _ :=
    (Tx.reports_iff .roleAlreadyHeld rfl rfl rfl).trans Tx.createRoleAssignment_error_iff
  equipmentAssignment _ _ _ _ :=
    (Tx.reports_iff .equipmentAssigned rfl rfl rfl).trans Tx.openEquipmentAssignment_error_iff
  accessoryAssignment _ _ _ _ :=
    (Tx.reports_iff .assignmentOpen rfl rfl rfl).trans Tx.openAccessoryAssignment_error_iff
  issue _ _ _ _ _ := (Tx.reports_iff .issueOpen rfl rfl rfl).trans Tx.openIssue_error_iff

/-- Root is to have a seat in the lodge by the public id of ada's, and is told to have that role
already. Root does not. -/
theorem lodge_seat_taken :
    ∃ (root : UserId) (viewer : Binding),
      (Tx.createRoleAssignment (some "seat") root viewer (some root)).Reports lodge "role"
        "user already holds this role at this scope" ∧
      lodge.InUse .roleAssignment (some "seat") ∧ ¬ lodge.HoldsRole root viewer := by
  have used : lodge.InUse .roleAssignment (some "seat") := ⟨"seat", rfl, by decide +kernel⟩
  refine ⟨⟨1⟩, ⟨.departmentViewer, .department ⟨1⟩, .inl rfl⟩, ?_, used, ?_⟩
  · refine (Tx.reports_iff .roleAlreadyHeld rfl rfl rfl).2 (Tx.createRoleAssignment_error_iff.2 ?_)
    exact ⟨nofun, fun _ same => by cases same; decide +kernel, .inr (.inl used)⟩
  · unfold Store.HoldsRole
    decide +kernel

end Quartermaster
