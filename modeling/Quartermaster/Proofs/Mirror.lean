import Mathlib.Data.List.Forall2
import Quartermaster.Proofs.Lasting

/-!
# Listeners are told what the ledgers say

An event is made apart from the ledger row that it tells of, from the names in the request and from
the answer. `Store.Mirrors s event row` compares the two field by field, with everybody and
everything in the row as the store `s` calls them. Of a change of status an event tells the item, the
status and the actor, and leaves out who holds the item; of a role that is withdrawn it leaves out
the role.

1. `CallerStep.mirrored`: a step appends its rows to one ledger, and tells of each of them in order.
2. `CallerStep.tellsRole`: one role event for a grant or a revocation, and none otherwise.
3. `Turn.mirrored`: so does every operation of a caller that the store knows, refused ones included.
4. `LeadsBy.mirrors_ledgers`: along a run the custody events are the rows that it appends, in order.
-/

namespace Quartermaster

/-! ## Rows and events -/

/-- A row of one of the ledgers. -/
inductive LedgerRow where
  | equipment (row : EquipmentEvent)
  | accessory (row : AccessoryEvent)
  | consumable (row : ConsumableEvent)
  deriving DecidableEq, Repr

/-- Rows that come to the ledgers. -/
structure LedgerRows where
  equipment : List (Entry .equipmentEvent EquipmentEvent) := []
  accessories : List (Entry .accessoryEvent AccessoryEvent) := []
  consumables : List (Entry .consumableEvent ConsumableEvent) := []

def LedgerRows.all (rows : LedgerRows) : List LedgerRow :=
  rows.equipment.map (.equipment ·.val) ++ rows.accessories.map (.accessory ·.val) ++
    rows.consumables.map (.consumable ·.val)

section All

variable {items : List (Entry .equipmentEvent EquipmentEvent)}
  {accessories : List (Entry .accessoryEvent AccessoryEvent)}
  {consumables : List (Entry .consumableEvent ConsumableEvent)}

theorem LedgerRows.all_equipment :
    ({ equipment := items } : LedgerRows).all = items.map (.equipment ·.val) := by
  simp [all]

theorem LedgerRows.all_accessories :
    ({ accessories } : LedgerRows).all = accessories.map (.accessory ·.val) := by
  simp [all]

theorem LedgerRows.all_consumables :
    ({ consumables } : LedgerRows).all = consumables.map (.consumable ·.val) := by
  simp [all]

end All

/-- Each ledger has grown by its rows. -/
structure Store.Grows (s s' : Store) (rows : LedgerRows) : Prop where
  equipment : s'.equipmentEvents.entries = s.equipmentEvents.entries ++ rows.equipment
  accessories : s'.accessoryEvents.entries = s.accessoryEvents.entries ++ rows.accessories
  consumables : s'.consumableEvents.entries = s.consumableEvents.entries ++ rows.consumables

/-- Whether the event tells of custody, and not of roles. -/
def CustodyEvent.isCustody : CustodyEvent → Bool
  | .roleGranted .. | .roleRevoked .. => false
  | _ => true

/-- The event tells of the row. -/
inductive Store.Mirrors (s : Store) : CustodyEvent → LedgerRow → Prop
  | assigned {row : EquipmentEvent} {item holder actor : String}
      (type : row.type = .assigned)
      (asset : s.Calls row.equipment item)
      (held : Option.Rel s.Calls row.holder (some holder))
      (status : row.status = none)
      (reporter : s.Calls row.reportedBy actor) :
      Mirrors s (.equipmentAssigned item holder actor) (.equipment row)
  | returned {row : EquipmentEvent} {item holder actor : String}
      (type : row.type = .returned)
      (asset : s.Calls row.equipment item)
      (held : Option.Rel s.Calls row.holder (some holder))
      (status : row.status = none)
      (reporter : s.Calls row.reportedBy actor) :
      Mirrors s (.equipmentReturned item holder actor) (.equipment row)
  /-- Whoever holds the item is in the row only. -/
  | statusChanged {row : EquipmentEvent} {item actor : String} {now : EquipmentStatus}
      (type : row.type = .statusChanged)
      (asset : s.Calls row.equipment item)
      (status : row.status = some now)
      (reporter : s.Calls row.reportedBy actor) :
      Mirrors s (.equipmentStatusChanged item now actor) (.equipment row)
  | accessory {row : AccessoryEvent} {told : UnitLedgerEvent}
      (asset : s.Calls row.asset told.asset)
      (type : row.type = told.type)
      (held : Option.Rel s.Calls row.holder told.holder)
      (quantity : row.quantity = told.quantity)
      (change : row.quantityChange = told.quantityChange) :
      Mirrors s (.accessoryLedger told) (.accessory row)
  | consumable {row : ConsumableEvent} {told : UnitLedgerEvent}
      (asset : s.Calls row.asset told.asset)
      (type : row.type = told.type)
      (held : Option.Rel s.Calls row.holder told.holder)
      (quantity : row.quantity = told.quantity)
      (change : row.quantityChange = told.quantityChange) :
      Mirrors s (.consumableLedger told) (.consumable row)

section Calls

variable {s s' : Store}

theorem Store.grows_nothing (equipment : s'.equipmentEvents = s.equipmentEvents)
    (accessories : s'.accessoryEvents = s.accessoryEvents)
    (consumables : s'.consumableEvents = s.consumableEvents) : s.Grows s' {} where
  equipment := by rw [equipment, List.append_nil]
  accessories := by rw [accessories, List.append_nil]
  consumables := by rw [consumables, List.append_nil]

/-- What tells of ledger rows tells of custody. -/
theorem Store.filter_isCustody {events : List CustodyEvent} {rows : List LedgerRow}
    (told : List.Forall₂ s.Mirrors events rows) : events.filter CustodyEvent.isCustody = events := by
  induction told with
  | nil => rfl
  | cons mirrors _ ih =>
    rw [List.filter_cons_of_pos (by cases mirrors <;> rfl), ih]

theorem Store.Lasting.holder {id : Option UserId} {name : Option String} (h : s.Lasting s')
    (held : Option.Rel s.Calls id name) : Option.Rel s'.Calls id name := by
  cases held with
  | none => exact .none
  | some calls => exact .some (h.calls calls)

theorem Store.Lasting.calls_row {k : Kind} {α : Type} [Record k α] [Named k] [Lasts k] {id : Id k}
    {e : Entry k α} (h : s.Lasting s') (found : s.row? id = some e) :
    s'.Calls e.id (Named.publicId k e.val) :=
  h.calls (calls_of_row found)

theorem Store.Lasting.calls_named {k : Kind} {α : Type} [Record k α] [Named k] [Lasts k]
    {publicId : String} {e : Entry k α} (h : s.Lasting s') (sound : s.Sound)
    (named : s.named? k publicId = some e) : s'.Calls e.id (Named.publicId k e.val) :=
  h.calls_row (row_of_named sound named)

theorem Store.Lasting.calls_holder {id : UserId} {u : Entry .user User} (h : s.Lasting s')
    (found : s.row? id = some u) : Option.Rel s'.Calls (some id) (some u.val.publicId) :=
  .some (h.calls ⟨u, found, rfl⟩)

/-- What an event tells stays true of the row. -/
theorem Store.Mirrors.later {event : CustodyEvent} {row : LedgerRow} (h : s.Mirrors event row)
    (lasting : s.Lasting s') : s'.Mirrors event row := by
  cases h with
  | assigned type asset held status reporter =>
    exact .assigned type (lasting.calls asset) (lasting.holder held) status (lasting.calls reporter)
  | returned type asset held status reporter =>
    exact .returned type (lasting.calls asset) (lasting.holder held) status (lasting.calls reporter)
  | statusChanged type asset status reporter =>
    exact .statusChanged type (lasting.calls asset) status (lasting.calls reporter)
  | accessory asset type held quantity change =>
    exact .accessory (lasting.calls asset) type (lasting.holder held) quantity change
  | consumable asset type held quantity change =>
    exact .consumable (lasting.calls asset) type (lasting.holder held) quantity change

end Calls

/-! ## Steps -/

/-- Whether the operation has nothing to say to a ledger: it reads, it registers an item or a stock
without units, or it is about no asset. -/
def CallerOp.isIdle : CallerOp → Bool
  | .holdings | .roles _ => true
  | .equipment (.register _) => true
  | .equipment op => op.isRead
  | .accessories (.register input) => input.quantity.toInt == 0
  | .accessories op => op.isRead
  | .consumables (.register input) => input.quantity.toInt == 0
  | .consumables op => op.isRead

def Operation.isIdle : Operation → Bool
  | .directory _ => true
  | .caller _ op => op.isIdle

/-- The ledger has grown by rows that the events tell of, one for one. It is as it was if there was
nothing to say to it, and only then. -/
def Store.Tells (s : Store) {k : Kind} {α : Type} (row : α → LedgerRow) (ledger ledger' : Table k α)
    (events : List CustodyEvent) (idle : Bool) : Prop :=
  ∃ rows, ledger'.entries = ledger.entries ++ rows ∧
    List.Forall₂ s.Mirrors events (rows.map (row ·.val)) ∧ (rows = [] ↔ idle = true)

section Tells

variable {s : Store} {k : Kind} {α : Type} {row : α → LedgerRow} {ledger : Table k α} {idle : Bool}

theorem Store.tells_nothing (is_idle : idle = true) : s.Tells row ledger ledger [] idle :=
  ⟨[], (List.append_nil _).symm, .nil, iff_of_true rfl is_idle⟩

theorem Store.tells_one {event : CustodyEvent} {new : α} (not_idle : idle = false)
    (mirrors : s.Mirrors event (row new)) : s.Tells row ledger (ledger.insert new) [event] idle :=
  ⟨[⟨_, new⟩], rfl, .cons mirrors .nil, iff_of_false (List.cons_ne_nil _ _) (by simp [not_idle])⟩

theorem Store.tells_two {event event' : CustodyEvent} {new new' : α} (not_idle : idle = false)
    (mirrors : s.Mirrors event (row new)) (mirrors' : s.Mirrors event' (row new')) :
    s.Tells row ledger ((ledger.insert new).insert new') [event, event'] idle :=
  ⟨[⟨_, new⟩, ⟨_, new'⟩], List.append_assoc .., .cons mirrors (.cons mirrors' .nil),
    iff_of_false (List.cons_ne_nil _ _) (by simp [not_idle])⟩

end Tells

section Steps

variable {d : Setting} {ctx : Context} {s s' : Store} {done : Committed Answer}

theorem EquipmentStep.mirrored {op : EquipmentOp} (step : EquipmentStep ctx s op done s')
    (sound : s.Sound) (known : s.Knows ctx) :
    s'.Tells .equipment s.equipmentEvents s'.equipmentEvents done.events
      (CallerOp.equipment op).isIdle := by
  have lasting := step.lasting sound
  have actor := lasting.calls known
  have asset {item : String} {e : Entry .equipment Equipment}
      (named : s.named? .equipment item = some e) : s'.Calls e.id e.val.publicId :=
    lasting.calls_named sound named
  have person {user : String} {u : Entry .user User} (named : s.named? .user user = some u) :
      Option.Rel s'.Calls (some u.id) (some user) :=
    .some (lasting.calls (Store.calls_of_named sound named))
  cases step with
  | @read op _ reads =>
    refine Store.tells_nothing ?_
    cases op with
    | get | list | history => rfl
    | register | assign | unassign | reassign | changeStatus => cases reads
  | register => exact Store.tells_nothing rfl
  | assign item_named user_named _ _ _ _ _ _ appended =>
    subst appended
    exact Store.tells_one rfl (.assigned rfl (asset item_named) (person user_named) rfl actor)
  | unassign item_named user_named _ _ _ _ appended =>
    subst appended
    exact Store.tells_one rfl (.returned rfl (asset item_named) (person user_named) rfl actor)
  | reassign _ item_named giver_named receiver_named _ _ _ _ _ _ first second =>
    subst first second
    exact Store.tells_two rfl
      (.returned rfl (asset item_named) (person giver_named) rfl actor)
      (.assigned rfl (asset item_named) (person receiver_named) rfl actor)
  | changeStatus item_named _ _ _ _ _ _ appended =>
    subst appended
    exact Store.tells_one rfl (.statusChanged rfl (asset item_named) rfl actor)

theorem UnitEvent.Of.accessory {event : AccessoryEvent} {e : Entry .accessory Accessory}
    {custody : Option AccessoryAssignmentId} {type : EventType} {holder : Option UserId}
    {units change : Int} {reporter : UserId} {name : Option String}
    (told : event.Of e.id custody type holder units change reporter)
    (asset : s.Calls e.id e.val.publicId) (held : Option.Rel s.Calls holder name) :
    s.Mirrors (Custody.accessoryEvent e type name units change) (.accessory event) := by
  obtain ⟨is_asset, _, rfl, rfl, rfl, rfl, _⟩ := told
  exact .accessory (is_asset ▸ asset) rfl held rfl rfl

theorem UnitEvent.Of.consumable {event : ConsumableEvent} {e : Entry .consumable Consumable}
    {custody : Option ConsumableIssueId} {type : EventType} {holder : Option UserId}
    {units change : Int} {reporter : UserId} {name : Option String}
    (told : event.Of e.id custody type holder units change reporter)
    (asset : s.Calls e.id e.val.publicId) (held : Option.Rel s.Calls holder name) :
    s.Mirrors (Custody.consumableEvent e type name units change) (.consumable event) := by
  obtain ⟨is_asset, _, rfl, rfl, rfl, rfl, _⟩ := told
  exact .consumable (is_asset ▸ asset) rfl held rfl rfl

/-- What is registered has the units that were asked for. -/
def CallerOp.Stocks : CallerOp → Answer → Prop
  | .accessories (.register input), .accessory e => e.val.quantity = input.quantity.toInt
  | .consumables (.register input), .consumable e => e.val.quantity = input.quantity.toInt
  | _, _ => True

namespace Custody

open Tx (bind_ok pure_ok read_ok)

theorem registerAccessory_units {input : AccessoryInput}
    {done : Committed (Entry .accessory Accessory)}
    (h : registerAccessory d ctx input s = .ok (done, s')) :
    done.answer.val.quantity = input.quantity.toInt := by
  simp only [registerAccessory, bind_ok, read_ok, Tx.authorize_ok] at h
  obtain ⟨_, _, _, _, _, _, e, _, created, h⟩ := h
  obtain ⟨_, _, _, _, units, _⟩ := Tx.createAccessory_ok created
  split at h
  · simp only [bind_ok, pure_ok] at h
    obtain ⟨_, _, _, _, _, _, rfl, _⟩ := h
    exact units
  · simp only [bind_ok, pure_ok] at h
    obtain ⟨_, _, _, rfl, _⟩ := h
    exact units

theorem registerConsumable_units {input : ConsumableInput}
    {done : Committed (Entry .consumable Consumable)}
    (h : registerConsumable d ctx input s = .ok (done, s')) :
    done.answer.val.quantity = input.quantity.toInt := by
  simp only [registerConsumable, bind_ok, read_ok, Tx.authorize_ok] at h
  obtain ⟨_, _, _, _, _, _, e, _, created, h⟩ := h
  obtain ⟨_, _, _, _, units, _⟩ := Tx.createConsumable_ok created
  split at h
  · simp only [bind_ok, pure_ok] at h
    obtain ⟨_, _, _, _, _, _, rfl, _⟩ := h
    exact units
  · simp only [bind_ok, pure_ok] at h
    obtain ⟨_, _, _, rfl, _⟩ := h
    exact units

end Custody

theorem AccessoryStep.mirrored {op : AccessoryOp} (step : AccessoryStep ctx s op done s')
    (sound : s.Sound) (stocks : (CallerOp.accessories op).Stocks done.answer) :
    s'.Tells .accessory s.accessoryEvents s'.accessoryEvents done.events
      (CallerOp.accessories op).isIdle := by
  have lasting := step.lasting sound
  cases step with
  | @read op _ reads =>
    refine Store.tells_nothing ?_
    cases op with
    | get | list | history => rfl
    | register | assign | takeBack | condemn | restock => cases reads
  | registerEmpty _ _ _ _ units =>
    exact Store.tells_nothing (beq_iff_eq.2 (stocks.symm.trans units))
  | @registerStocked input _ e _ _ _ _ _ _ added _ units appended =>
    have here : (s.accessories.insert e.val).get? e.id = some e :=
      sound.accessories.numbered.get?_insert_self added
    have stocked : input.quantity.toInt ≠ 0 := fun none => by
      rw [← stocks] at none
      omega
    exact Store.tells_one (beq_eq_false_iff_ne.2 stocked)
      (appended.accessory ⟨e, here, rfl⟩ .none)
  | assignMore _ item_named user_named _ _ _ _ _ appended =>
    have held := lasting.calls_holder (Store.row_of_named sound user_named)
    exact Store.tells_one rfl (appended.accessory (lasting.calls_named sound item_named) held)
  | assignNew _ item_named user_named _ _ _ _ _ _ appended =>
    have held := lasting.calls_holder (Store.row_of_named sound user_named)
    exact Store.tells_one rfl (appended.accessory (lasting.calls_named sound item_named) held)
  | takeBack _ _ item_found _ _ _ holder_found _ _ appended =>
    exact Store.tells_one rfl (appended.accessory (lasting.calls_row item_found)
      (lasting.calls_holder holder_found))
  | condemn _ item_named _ _ _ changed appended =>
    subst changed
    exact Store.tells_one rfl (appended.accessory (lasting.calls_named sound item_named) .none)
  | restock _ item_named _ _ changed _ appended =>
    subst changed
    exact Store.tells_one rfl (appended.accessory (lasting.calls_named sound item_named) .none)

theorem ConsumableStep.mirrored {op : ConsumableOp} (step : ConsumableStep d ctx s op done s')
    (sound : s.Sound) (known : s.Knows ctx)
    (stocks : (CallerOp.consumables op).Stocks done.answer) :
    s'.Tells .consumable s.consumableEvents s'.consumableEvents done.events
      (CallerOp.consumables op).isIdle := by
  have lasting := step.lasting sound
  have caller : Option.Rel s'.Calls (some ctx.actor.id) (some ctx.actor.publicId) :=
    .some (lasting.calls known)
  cases step with
  | @read op _ reads =>
    refine Store.tells_nothing ?_
    cases op with
    | get | list | history => rfl
    | register | issue | use | takeBack | recordLoss | reportLoss | restock => cases reads
  | registerEmpty _ _ _ _ units =>
    exact Store.tells_nothing (beq_iff_eq.2 (stocks.symm.trans units))
  | @registerStocked input _ e _ _ _ _ _ _ added _ units appended =>
    have here : (s.consumables.insert e.val).get? e.id = some e :=
      sound.consumables.numbered.get?_insert_self added
    have stocked : input.quantity.toInt ≠ 0 := fun none => by
      rw [← stocks] at none
      omega
    exact Store.tells_one (beq_eq_false_iff_ne.2 stocked)
      (appended.consumable ⟨e, here, rfl⟩ .none)
  | issueMore _ item_named user_named _ _ _ _ changed appended =>
    subst changed
    have held := lasting.calls_holder (Store.row_of_named sound user_named)
    exact Store.tells_one rfl (appended.consumable (lasting.calls_named sound item_named) held)
  | issueNew _ item_named user_named _ _ _ _ _ changed appended =>
    subst changed
    have held := lasting.calls_holder (Store.row_of_named sound user_named)
    exact Store.tells_one rfl (appended.consumable (lasting.calls_named sound item_named) held)
  | use _ item_named _ _ _ appended =>
    exact Store.tells_one rfl (appended.consumable (lasting.calls_named sound item_named) caller)
  | takeBack _ _ item_found _ _ _ holder_found _ _ changed appended =>
    subst changed
    exact Store.tells_one rfl (appended.consumable (lasting.calls_row item_found)
      (lasting.calls_holder holder_found))
  | recordLoss _ _ item_found _ _ _ holder_found _ appended =>
    exact Store.tells_one rfl (appended.consumable (lasting.calls_row item_found)
      (lasting.calls_holder holder_found))
  | reportLoss _ item_named caller_named _ _ _ appended =>
    -- the caller's row is looked up by public id, and the issue by id
    have same := (Store.calls_of_named sound caller_named).unique
      (Store.calls_of_row (Store.row_of_named sound caller_named))
    rw [same] at caller
    exact Store.tells_one rfl (appended.consumable (lasting.calls_named sound item_named) caller)
  | restock _ item_named _ _ changed appended =>
    subst changed
    exact Store.tells_one rfl (appended.consumable (lasting.calls_named sound item_named) .none)

theorem CallerOp.stocks {op : CallerOp} {answer : Answer}
    (h : (op.run d s ctx).answer = .ok answer) : op.Stocks answer := by
  cases op with
  | holdings | roles | equipment => trivial
  | accessories op =>
    cases op with
    | register input =>
      obtain ⟨done, s', ran, rfl, _⟩ := Setting.commit_mapOk h
      exact Custody.registerAccessory_units ran
    | get | list | history | assign | takeBack | condemn | restock => trivial
  | consumables op =>
    cases op with
    | register input =>
      obtain ⟨done, s', ran, rfl, _⟩ := Setting.commit_mapOk h
      exact Custody.registerConsumable_units ran
    | get | list | history | issue | use | takeBack | recordLoss | reportLoss | restock => trivial

/-- The ledgers grow by the rows, and the custody events are those of the rows, one for one. There
are none if there was nothing to say to a ledger, and only then. -/
structure Store.Mirrored (s s' : Store) (events : List CustodyEvent) (idle : Bool)
    (rows : LedgerRows) : Prop where
  grows : s.Grows s' rows
  custody : List.Forall₂ s'.Mirrors (events.filter CustodyEvent.isCustody) rows.all
  idle : rows.all = [] ↔ idle = true

theorem CallerStep.mirrored {op : CallerOp} (step : CallerStep d ctx s op done s') (sound : s.Sound)
    (known : s.Knows ctx) (stocks : op.Stocks done.answer) :
    ∃ rows, s.Mirrored s' done.events op.isIdle rows := by
  cases step with
  | holdings => exact ⟨{}, Store.grows_nothing rfl rfl rfl, .nil, iff_of_true rfl rfl⟩
  | roles step =>
    have none : done.events.filter CustodyEvent.isCustody = [] := by cases step <;> rfl
    refine ⟨{}, Store.grows_nothing ?_ ?_ ?_, none ▸ .nil, iff_of_true rfl rfl⟩ <;> rw [step.frame]
  | equipment step =>
    obtain ⟨rows, grown, told, idle⟩ := step.mirrored sound known
    refine ⟨{ equipment := rows }, ⟨grown, ?_, ?_⟩, ?_, ?_⟩
    · rw [step.frame, List.append_nil]
    · rw [step.frame, List.append_nil]
    · rw [Store.filter_isCustody told, LedgerRows.all_equipment]
      exact told
    · rw [LedgerRows.all_equipment, List.map_eq_nil_iff]
      exact idle
  | accessories step =>
    obtain ⟨rows, grown, told, idle⟩ := step.mirrored sound stocks
    refine ⟨{ accessories := rows }, ⟨?_, grown, ?_⟩, ?_, ?_⟩
    · rw [step.frame, List.append_nil]
    · rw [step.frame, List.append_nil]
    · rw [Store.filter_isCustody told, LedgerRows.all_accessories]
      exact told
    · rw [LedgerRows.all_accessories, List.map_eq_nil_iff]
      exact idle
  | consumables step =>
    obtain ⟨rows, grown, told, idle⟩ := step.mirrored sound known stocks
    refine ⟨{ consumables := rows }, ⟨?_, ?_, grown⟩, ?_, ?_⟩
    · rw [step.frame, List.append_nil]
    · rw [step.frame, List.append_nil]
    · rw [Store.filter_isCustody told, LedgerRows.all_consumables]
      exact told
    · rw [LedgerRows.all_consumables, List.map_eq_nil_iff]
      exact idle

end Steps

/-! ## Roles -/

/-- Whether the operation is one on who has which role. -/
def Operation.isGrant : Operation → Bool
  | .caller _ (.roles op) => op.isGrant
  | _ => false

/-- What role events a step tells: one that names the assignment that comes or goes, with its user
and, where it comes, its role. -/
inductive Store.TellsRole (s s' : Store) : Operation → List CustodyEvent → Prop
  | granted {ctx : Context} {input : GrantInput} {a : Entry .roleAssignment RoleAssignment}
      {user : String}
      (added : s'.roleAssignments = s.roleAssignments.insert a.val)
      (number : a.id = s.roleAssignments.next)
      (called : s.Calls a.val.user user) :
      TellsRole s s' (.caller ctx (.roles (.grant input)))
        [.roleGranted a.val.publicId user a.val.binding.role]
  | revoked {ctx : Context} {assignment : String} {a : Entry .roleAssignment RoleAssignment}
      {user : String}
      (there : s.row? a.id = some a)
      (removed : s'.roleAssignments = s.roleAssignments.erase a.id)
      (called : s.Calls a.val.user user) :
      TellsRole s s' (.caller ctx (.roles (.revoke assignment)))
        [.roleRevoked a.val.publicId user]
  | none {op : Operation} (other : op.isGrant = false) : TellsRole s s' op []

section Roles

variable {d : Setting} {ctx : Context} {s s' : Store} {done : Committed Answer}

theorem Binding.role_of_bind {role : Role} {scope : Scope} {b : Binding}
    (h : bind role scope = .ok b) : b.role = role := by
  unfold bind at h
  split at h
  · split at h
    · rw [← Except.ok.inj h]
    · cases h
  · cases h

/-- The binding that is asked for has the role that is asked for. -/
theorem Grants.bindingOf_role {role : Role} {scope : Option Locator} {b : Binding}
    (h : bindingOf role scope s = .ok b) : b.role = role := by
  unfold bindingOf at h
  split at h
  · rw [← Except.ok.inj h]
    rfl
  · cases h
  · cases h
  · obtain ⟨_, _, bound⟩ := Results.bind_ok.1 h
    exact Binding.role_of_bind bound

theorem RoleStep.tellsRole {op : RoleOp} (step : RoleStep ctx s op done s') (sound : s.Sound) :
    s.TellsRole s' (.caller ctx (.roles op)) done.events := by
  cases step with
  | list | activate | activateUnknown => exact .none rfl
  | @grantFirst input _ _ a _ _ _ _ _ asked _ user_named _ made
  | @grantMore input _ _ a _ _ _ _ _ asked _ user_named _ made =>
    have role : input.role = a.val.binding.role := by
      rw [RoleAssignment.binding_role, made, Grants.bindingOf_role asked]
    rw [role]
    subst made
    exact .granted rfl rfl (Store.calls_of_named sound user_named)
  | @revoke _ a u _ _ _ named _ user_found =>
    obtain ⟨_, own⟩ := Table.mem_of_find? named
    obtain rfl := beq_iff_eq.1 own
    exact .revoked (sound.roleAssignments.get?_of_find? named) rfl ⟨u, user_found, rfl⟩

theorem CallerStep.tellsRole {op : CallerOp} (step : CallerStep d ctx s op done s')
    (sound : s.Sound) :
    s.TellsRole s' (.caller ctx op) (done.events.filter fun event => !event.isCustody) := by
  cases step with
  | holdings => exact .none rfl
  | roles step =>
    have all : done.events.filter (fun event => !event.isCustody) = done.events := by
      cases step <;> rfl
    rw [all]
    exact step.tellsRole sound
  | equipment step =>
    have none : done.events.filter (fun event => !event.isCustody) = [] := by cases step <;> rfl
    rw [none]
    exact .none rfl
  | accessories step =>
    have none : done.events.filter (fun event => !event.isCustody) = [] := by cases step <;> rfl
    rw [none]
    exact .none rfl
  | consumables step =>
    have none : done.events.filter (fun event => !event.isCustody) = [] := by cases step <;> rfl
    rw [none]
    exact .none rfl

end Roles

/-! ## Turns and runs -/

/-- Whoever calls is a user of the store, under the public id of that user. -/
def CallerKnown (_ : Setting) (s : Store) : Operation → Prop
  | .directory _ => True
  | .caller ctx _ => s.Knows ctx

instance {d : Setting} {s : Store} {op : Operation} : Decidable (CallerKnown d s op) :=
  match op with
  | .directory _ => instDecidableTrue
  | .caller ctx _ => inferInstanceAs (Decidable (s.Knows ctx))

/-- Whoever has a context that the store made, now or at any time before, is known to it. -/
theorem Leads.callerKnown {may : Setting → Store → Operation → Prop} {d : Setting} {s₀ s : Store}
    {ctx : Context} {user : String} {chosen : Option String} {op : CallerOp}
    (h : Leads may s₀ s) (sound : s₀.Sound) (made : s₀.context user chosen = .ok ctx) :
    CallerKnown d s (.caller ctx op) :=
  h.knows sound made

namespace Turn

/-- The ledger rows that a turn appends. -/
def ledgerRows (t : Turn) : LedgerRows where
  equipment := t.added (·.equipmentEvents.entries)
  accessories := t.added (·.accessoryEvents.entries)
  consumables := t.added (·.consumableEvents.entries)

/-- The ledger rows that turns append, in order. -/
def allRows (turns : List Turn) : LedgerRows where
  equipment := turns.flatMap (·.ledgerRows.equipment)
  accessories := turns.flatMap (·.ledgerRows.accessories)
  consumables := turns.flatMap (·.ledgerRows.consumables)

/-- Whether the turn was refused, or had nothing to say to a ledger. -/
def isIdle (t : Turn) : Bool := t.op.isIdle || !t.outcome.answer.isOk

/-- The custody events of a turn are those of the rows that it appends, one for one and in order, as
the store calls what is in them; where it appends none there are none. A turn that goes through has
the role events of what it adds or removes, and one that is refused has no events. -/
structure Mirrored (t : Turn) (s : Store) : Prop where
  grows : t.before.Grows t.outcome.store t.ledgerRows
  custody : List.Forall₂ s.Mirrors (t.outcome.events.filter CustodyEvent.isCustody) t.ledgerRows.all
  idle : t.ledgerRows.all = [] ↔ t.isIdle = true
  silent : t.isIdle = true → t.outcome.events.filter CustodyEvent.isCustody = []
  roles : t.outcome.answer.isOk = true → t.before.TellsRole t.outcome.store t.op
    (t.outcome.events.filter fun event => !event.isCustody)
  refused : t.outcome.answer.isOk = false → t.outcome.events = []

variable {t : Turn} {s s' : Store}

theorem ledgerRows_eq {rows : LedgerRows} (grows : t.before.Grows t.outcome.store rows) :
    t.ledgerRows = rows := by
  rw [ledgerRows, added_eq grows.equipment, added_eq grows.accessories, added_eq grows.consumables]

theorem Mirrored.later (h : t.Mirrored s) (lasting : s.Lasting s') : t.Mirrored s' :=
  { h with custody := h.custody.imp fun _ _ mirrors => mirrors.later lasting }

end Turn

theorem OperationStep.mirrored {d : Setting} {s s' : Store} {op : Operation}
    {done : Committed Answer} (step : OperationStep d s op done s') (sound : s.Sound)
    (known : CallerKnown d s op) (answered : (op.run d s).answer = .ok done.answer) :
    (∃ rows, s.Mirrored s' done.events op.isIdle rows) ∧
      s.TellsRole s' op (done.events.filter fun event => !event.isCustody) := by
  cases step with
  | directory step =>
    have none : done.events = [] := by cases step <;> rfl
    rw [none]
    refine ⟨⟨{}, Store.grows_nothing ?_ ?_ ?_, .nil, iff_of_true rfl rfl⟩, .none rfl⟩ <;>
      rw [step.frame]
  | caller step =>
    exact ⟨step.mirrored sound known (CallerOp.stocks answered), step.tellsRole sound⟩

/-- Listeners are told what an operation writes to the ledgers, and which role comes or goes. -/
theorem Turn.mirrored {t : Turn} (sound : t.before.Sound)
    (known : CallerKnown t.setting t.before t.op) : t.Mirrored t.outcome.store := by
  cases answered : t.outcome.answer with
  | error why =>
    obtain ⟨store, events, _⟩ := Operation.run_error answered
    have kept : t.before.Grows t.outcome.store {} := by
      refine Store.grows_nothing ?_ ?_ ?_ <;> rw [outcome, store]
    have quiet : t.outcome.events = [] := events
    have idle : t.isIdle = true := by
      rw [isIdle, answered]
      exact Bool.or_true _
    have nothing := ledgerRows_eq kept
    refine ⟨?_, ?_, ?_, fun _ => ?_, fun through => ?_, fun _ => quiet⟩
    · rw [nothing]
      exact kept
    · rw [nothing, quiet]
      exact .nil
    · rw [nothing]
      exact iff_of_true rfl idle
    · rw [quiet]
      rfl
    · rw [answered] at through
      cases through
  | ok answer =>
    obtain ⟨done, s', step, _, out⟩ := Operation.run_ok sound answered
    obtain rfl : t.outcome.store = s' := congrArg Outcome.store out
    have told : t.outcome.events = done.events := congrArg Outcome.events out
    obtain ⟨⟨rows, grows, custody, idle⟩, roles⟩ := step.mirrored sound known (by rw [out]; rfl)
    have same : t.isIdle = t.op.isIdle := by
      rw [isIdle, answered]
      exact Bool.or_false _
    have appended := ledgerRows_eq grows
    rw [← appended] at grows custody idle
    rw [← told] at custody roles
    rw [← same] at idle
    refine ⟨grows, custody, idle, fun is_idle => ?_, fun _ => roles, fun refused => ?_⟩
    · rw [idle.2 is_idle] at custody
      exact List.forall₂_nil_right_iff.1 custody
    · rw [answered] at refused
      cases refused

variable {s₀ s : Store} {turns : List Turn}

/-- Along every run of callers that the store knows, the custody events are those of the rows that
come to the ledgers, one for one and in order. -/
theorem LeadsBy.mirrors_ledgers (run : LeadsBy CallerKnown s₀ turns s) (start : Reachable s₀) :
    (∀ t ∈ turns, t.Mirrored s) ∧
      s₀.Grows s (Turn.allRows turns) ∧
      List.Forall₂ s.Mirrors ((turns.flatMap (·.outcome.events)).filter CustodyEvent.isCustody)
        (turns.flatMap (·.ledgerRows.all)) := by
  have each : ∀ t ∈ turns, t.Mirrored s := by
    intro t among
    obtain ⟨before, known⟩ := run.turn t among
    have here := before.sound start.sound
    have after : t.outcome.store.Sound := Operation.store_sound here
    exact (Turn.mirrored here known).later ((run.later t among).lasting after)
  refine ⟨each, ⟨?_, ?_, ?_⟩, ?_⟩
  · exact run.collects (·.equipmentEvents.entries) fun t among => (each t among).grows.equipment
  · exact run.collects (·.accessoryEvents.entries) fun t among => (each t among).grows.accessories
  · exact run.collects (·.consumableEvents.entries) fun t among => (each t among).grows.consumables
  · rw [List.filter_flatMap]
    have among : List.Forall₂ (fun t u : Turn => t = u ∧ t ∈ turns) turns turns :=
      List.forall₂_same.2 fun _ member => ⟨rfl, member⟩
    refine List.rel_flatMap among ?_
    rintro t _ ⟨rfl, member⟩
    exact (each t member).custody

/-- What happens to a lamp that is damaged in the hands of a guest, and to the guest's role. -/
def kitDays : List Operation :=
  [.directory (.bootstrap "root" "Root"),
   .directory (.createUser { publicId := some "guest", displayName := "Guest" }),
   .directory (.createDepartment { publicId := some "physics", name := "Physics" }),
   .caller root (.equipment (.register { publicId := some "lamp", name := "Lamp" })),
   .caller root (.equipment (.assign "lamp" "guest" none)),
   .caller root (.equipment (.changeStatus "lamp" .damaged none)),
   .caller root (.equipment (.assign "lamp" "root" none)),
   .caller root (.accessories (.register { publicId := some "plates", name := "Plates" })),
   .caller root (.accessories (.register
     { publicId := some "cups", name := "Cups", quantity := 3 })),
   .caller root (.roles (.grant
     { publicId := some "seat", user := "guest", role := .departmentViewer
       scope := some (.department "physics") })),
   .caller root (.roles (.revoke "seat"))]
where
  root : Context := { actor := ⟨⟨1⟩, "root", "Root"⟩, binding := some .siteAdmin }

/-- Three of the eleven turns append a row. -/
theorem kitDays_mirrors_ledgers :
    (∀ t ∈ Store.turns {} {} kitDays, t.Mirrored (Store.serve {} {} kitDays)) ∧
      Store.Grows {} (Store.serve {} {} kitDays) (Turn.allRows (Store.turns {} {} kitDays)) ∧
      List.Forall₂ (Store.serve {} {} kitDays).Mirrors
        (((Store.turns {} {} kitDays).flatMap (·.outcome.events)).filter CustodyEvent.isCustody)
        ((Store.turns {} {} kitDays).flatMap (·.ledgerRows.all)) ∧
      (Store.turns {} {} kitDays).map Turn.isIdle =
        [true, true, true, true, false, false, true, true, false, true, true] ∧
      (Store.turns {} {} kitDays).flatMap (·.outcome.events) =
        [.equipmentAssigned "lamp" "guest" "root",
         .equipmentStatusChanged "lamp" .damaged "root",
         .accessoryLedger ⟨"cups", .restocked, none, 3, 3⟩,
         .roleGranted "seat" "guest" .departmentViewer, .roleRevoked "seat" "guest"] := by
  have run : LeadsBy CallerKnown {} (Store.turns {} {} kitDays) (Store.serve {} {} kitDays) :=
    Store.leadsBy_turns (by decide +kernel)
  obtain ⟨each, grows, custody⟩ := run.mirrors_ledgers (.seeded (.empty 0 0 0))
  exact ⟨each, grows, custody, by decide +kernel, by decide +kernel⟩

/-! ## What events leave out -/

/-- Whom the event names as the holder. -/
def CustodyEvent.holder : CustodyEvent → Option String
  | .equipmentAssigned _ holder _ | .equipmentReturned _ holder _ => some holder
  | .accessoryLedger row | .consumableLedger row => row.holder
  | .equipmentStatusChanged .. | .roleGranted .. | .roleRevoked .. => none

/-- Which role the event names. -/
def CustodyEvent.role : CustodyEvent → Option Role
  | .roleGranted _ _ role => some role
  | _ => none

/-- Whom the row names as the holder. -/
def LedgerRow.holder : LedgerRow → Option UserId
  | .equipment row => row.holder
  | .accessory row => row.holder
  | .consumable row => row.holder

/-- The guest is in the row of the damage and not in its event, and the role that is withdrawn is
not in the event either. -/
theorem kitDays_leaves_out :
    ¬ List.Forall₂
        (fun event row => Option.Rel (Store.serve {} {} kitDays).Calls (LedgerRow.holder row)
          (CustodyEvent.holder event))
        (((Store.turns {} {} kitDays).flatMap (·.outcome.events)).filter CustodyEvent.isCustody)
        ((Store.turns {} {} kitDays).flatMap (·.ledgerRows.all)) ∧
      ∃ t ∈ Store.turns {} {} kitDays, t.op.isGrant = true ∧ t.outcome.answer.isOk = true ∧
        (t.before.named? .roleAssignment "seat").map (·.val.binding.role) = some .departmentViewer ∧
        t.outcome.events.map CustodyEvent.role = [none] := by
  refine ⟨fun named => ?_, by decide +kernel⟩
  have present {who : Option UserId} {name : Option String}
      (rel : Option.Rel (Store.serve {} {} kitDays).Calls who name) : name.isSome = who.isSome := by
    cases rel <;> rfl
  have alike : (((Store.turns {} {} kitDays).flatMap (·.outcome.events)).filter
        CustodyEvent.isCustody).map (·.holder.isSome) =
      ((Store.turns {} {} kitDays).flatMap (·.ledgerRows.all)).map (·.holder.isSome) := by
    rw [← List.forall₂_eq_eq_eq, List.forall₂_map_left_iff, List.forall₂_map_right_iff]
    exact named.imp fun _ _ rel => present rel
  revert alike
  decide +kernel

end Quartermaster
