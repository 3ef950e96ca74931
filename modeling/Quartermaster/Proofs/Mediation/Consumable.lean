import Quartermaster.Proofs.Mediation.Accessory

/-!
# What a change to a consumable was permitted by

Whatever changes the file of a consumable is done by somebody with the administrator's rank over its
room, the deletion of that room apart, or it is a holder's own doing: using units, or reporting them
lost. The latter takes units out of an open issue of the caller, adds one row to the ledger that
says so, and touches nothing else of the file; above all it does not touch the stock.

Results: `ConsumableStep.others`, `ConsumableStep.warrant`, `DirectoryStep.consumable_warrant`.
-/

namespace Quartermaster

def Store.consumableFile (s : Store) (id : ConsumableId) :
    AssetFile .consumable .consumableIssue .consumableEvent Consumable ConsumableIssue
      ConsumableEvent where
  row := s.row? id
  custody := s.consumableIssues.filter (·.consumable == id)
  ledger := s.consumableEvents.filter (·.asset == id)

/-- The operation takes units out of custody of the caller, and the ledger has a type for that. -/
inductive OwnDeed (item : String) (quantity : Int64) : ConsumableOp → EventType → Prop
  | use : OwnDeed item quantity (.use item quantity) .used
  | reportLoss (kind : LossKind) :
      OwnDeed item quantity (.reportLoss item quantity kind) kind.eventType

/-- Why an operation may have changed the file of a consumable. -/
inductive ConsumableWarrant (s s' : Store) : Operation → ConsumableId → Prop
  | administered {ctx : Context} {op : ConsumableOp} {e : Entry .consumable Consumable}
      (was : s.row? e.id = some e)
      (over_item : s.Permits ctx .roomAdmin e.val.room) :
      ConsumableWarrant s s' (.caller ctx (.consumables op)) e.id
  | registered {ctx : Context} {input : ConsumableInput} {e : Entry .consumable Consumable}
      (new : s.row? e.id = none)
      (made : s'.row? e.id = some e)
      (over_room : s.Permits ctx .roomAdmin e.val.room) :
      ConsumableWarrant s s' (.caller ctx (.consumables (.register input))) e.id
  | own {ctx : Context} {item : String} {quantity : Int64} {op : ConsumableOp} {type : EventType}
      {e : Entry .consumable Consumable} {i : Entry .consumableIssue ConsumableIssue}
      {event : ConsumableEvent} {until' : Stamp}
      (deed : OwnDeed item quantity op type)
      (item_named : s.named? .consumable item = some e)
      (held : s.row? i.id = some i ∧ i.val.consumable = e.id)
      (by_caller : i.val.holder = ctx.actor.id)
      (is_open : i.val.isOpen = true)
      (stock : s'.consumables = s.consumables)
      (custody : s'.consumableIssues =
        s.consumableIssues.put i.id (i.val.less quantity.toInt until'))
      (ledger : s'.consumableEvents = s.consumableEvents.insert event)
      (recorded : event.Of e.id (some i.id) type (some ctx.actor.id) quantity.toInt
        (-quantity.toInt) ctx.actor.id) :
      ConsumableWarrant s s' (.caller ctx (.consumables op)) e.id
  /-- The consumable's room was deleted, which clears the reference to it and nothing else. -/
  | roomDeleted {room : String} {r : Entry .room Room} {e : Entry .consumable Consumable}
      (room_named : s.named? .room room = some r)
      (was : s.row? e.id = some e)
      (there : e.val.room = some r.id)
      (cleared : s'.consumableFile e.id = { s.consumableFile e.id with
        row := some { e with val := { e.val with room := none } } }) :
      ConsumableWarrant s s' (.directory (.deleteNode (.room room))) e.id

variable {s s' : Store}

theorem Store.consumableFile_congr {id : ConsumableId} (row : s'.row? id = s.row? id)
    (custody : s'.consumableIssues.filter (·.consumable == id) =
      s.consumableIssues.filter (·.consumable == id))
    (ledger : s'.consumableEvents.filter (·.asset == id) =
      s.consumableEvents.filter (·.asset == id)) :
    s'.consumableFile id = s.consumableFile id := by
  unfold consumableFile
  rw [row, custody, ledger]

/-- Units that move in or out of an issue leave the files of other consumables alone. -/
theorem Store.consumableFile_of_ne {id other : ConsumableId} {row : ConsumableIssue}
    {i : Entry .consumableIssue ConsumableIssue} {event : ConsumableEvent} (sound : s.Sound)
    (ne : other ≠ id) (found : s.row? i.id = some i) (subject : i.val.consumable = id)
    (same : row.consumable = i.val.consumable) (about : event.asset = id)
    (stock : s'.row? other = s.row? other)
    (custody : s'.consumableIssues = s.consumableIssues.put i.id row)
    (ledger : s'.consumableEvents = s.consumableEvents.insert event) :
    s'.consumableFile other = s.consumableFile other := by
  have elsewhere : i.val.consumable ≠ other := subject ▸ ne.symm
  refine consumableFile_congr stock ?_ ?_
  · rw [custody]
    exact Table.filter_put_of_ne sound.consumableIssues.numbered found elsewhere (same ▸ elsewhere)
  · rw [ledger]
    exact Table.filter_insert_of_ne (about ▸ ne.symm)

/-- The consumable that an operation on custody is about: the one that is named, or the one of which
units were issued. -/
def ConsumableOp.item (s : Store) : ConsumableOp → Option String
  | .issue item _ _ _ | .use item _ | .reportLoss item _ _ | .restock item _ => some item
  | .takeBack publicId _ | .recordLoss publicId _ _ => do
    let i ← s.named? .consumableIssue publicId
    let e ← s.row? i.val.consumable
    return e.val.publicId
  | .get _ | .list | .history _ | .register _ => none

section ByIssue

variable {issue : String} {quantity : Int64} {i : Entry .consumableIssue ConsumableIssue}
  {e : Entry .consumable Consumable} (issue_named : s.named? .consumableIssue issue = some i)
  (item_found : s.row? i.val.consumable = some e)
include issue_named item_found

theorem ConsumableOp.item_takeBack :
    (ConsumableOp.takeBack issue quantity).item s = some e.val.publicId := by
  simp only [item, issue_named, Option.bind_eq_bind, Option.bind_some, item_found]
  rfl

theorem ConsumableOp.item_recordLoss {kind : LossKind} :
    (ConsumableOp.recordLoss issue quantity kind).item s = some e.val.publicId := by
  simp only [item, issue_named, Option.bind_eq_bind, Option.bind_some, item_found]
  rfl

end ByIssue

/-- An operation on custody leaves the files of all consumables but its own. -/
theorem ConsumableStep.others {d : Setting} {ctx : Context} {op : ConsumableOp}
    {done : Committed Answer} (step : ConsumableStep d ctx s op done s') (sound : s.Sound)
    ⦃item : String⦄ (about : op.item s = some item) :
    ∃ e, s.named? .consumable item = some e ∧
      ∀ other, other ≠ e.id → s'.consumableFile other = s.consumableFile other := by
  cases step with
  | @read op _ is_read =>
    cases op with
    | get | list | history => cases about
    | register | issue | use | takeBack | recordLoss | reportLoss | restock => cases is_read
  | registerEmpty | registerStocked => cases about
  | @issueMore _ _ _ _ e _ _ held _ _ _ _ _ _ _ _ item_named _ _ _ is_held grown _ appended =>
    cases about
    obtain ⟨row, subject, _⟩ := sound.openIssue is_held
    exact ⟨e, item_named, fun other ne => Store.consumableFile_of_ne sound ne row subject
      (by rw [grown]) appended.asset (Table.get?_put_of_ne ne) rfl rfl⟩
  | @issueNew _ _ _ _ e _ _ _ _ _ _ _ _ _ _ _ _ item_named _ _ _ _ _ opened _ appended =>
    cases about
    refine ⟨e, item_named, fun other ne =>
      Store.consumableFile_congr (Table.get?_put_of_ne ne) ?_ ?_⟩
    · exact Table.filter_insert_of_ne (by rw [opened]; exact ne.symm)
    · exact Table.filter_insert_of_ne (appended.asset ▸ ne.symm)
  | @use _ _ e i _ _ _ _ _ _ _ item_named own _ reduced appended
  | @reportLoss _ _ _ e _ i _ _ _ _ _ _ _ _ item_named _ own _ reduced appended =>
    cases about
    obtain ⟨row, subject, _⟩ := sound.openIssue own
    exact ⟨e, item_named, fun other ne => Store.consumableFile_of_ne sound ne row subject
      (by rw [reduced]; rfl) appended.asset rfl rfl rfl⟩
  | @takeBack _ _ e _ _ i _ _ _ _ _ _ _ _ issue_named item_found _ _ _ _ _ reduced _ appended =>
    rw [ConsumableOp.item_takeBack issue_named item_found] at about
    cases about
    have row := sound.consumableIssues.get?_of_find? issue_named
    obtain ⟨member, subject⟩ := Table.mem_of_get? item_found
    refine ⟨e, Store.named_ok.1 (Store.named_of_mem sound.consumables member), fun other ne => ?_⟩
    exact Store.consumableFile_of_ne sound ne row subject.symm (by rw [reduced]; rfl)
      appended.asset (Table.get?_put_of_ne ne) rfl rfl
  | @recordLoss _ _ _ e _ i _ _ _ _ _ _ _ issue_named item_found _ _ _ _ reduced appended =>
    rw [ConsumableOp.item_recordLoss issue_named item_found] at about
    cases about
    have row := sound.consumableIssues.get?_of_find? issue_named
    obtain ⟨member, subject⟩ := Table.mem_of_get? item_found
    refine ⟨e, Store.named_ok.1 (Store.named_of_mem sound.consumables member), fun other ne => ?_⟩
    exact Store.consumableFile_of_ne sound ne row subject.symm (by rw [reduced]; rfl)
      appended.asset rfl rfl rfl
  | @restock _ _ e _ _ _ _ _ _ _ item_named _ _ _ appended =>
    cases about
    refine ⟨e, item_named, fun other ne => ?_⟩
    refine Store.consumableFile_congr (Table.get?_put_of_ne ne) rfl ?_
    exact Table.filter_insert_of_ne (appended.asset ▸ ne.symm)

/-- The file that a step may change: of the consumable it is about, or of the one it registers. -/
theorem ConsumableStep.warrant {d : Setting} {ctx : Context} {op : ConsumableOp}
    {done : Committed Answer} (step : ConsumableStep d ctx s op done s') (sound : s.Sound)
    {id : ConsumableId} (changed : s'.consumableFile id ≠ s.consumableFile id) :
    ConsumableWarrant s s' (.caller ctx (.consumables op)) id := by
  have items := sound.consumables.numbered
  have others := step.others sound
  cases step with
  | read => exact absurd rfl changed
  | @registerEmpty _ _ e _ _ _ _ over_room added in_room =>
    refine Table.of_changed e.id (fun other ne => ?_) ?_ changed
    · exact Store.consumableFile_congr (Table.get?_insert_of_ne (added ▸ ne)) rfl rfl
    · exact .registered (items.get?_of_next added) (items.get?_insert_self added)
        (in_room ▸ over_room)
  | @registerStocked _ _ e _ _ _ _ _ over_room added in_room _ appended =>
    refine Table.of_changed e.id (fun other ne => ?_) ?_ changed
    · refine Store.consumableFile_congr (Table.get?_insert_of_ne (added ▸ ne)) rfl ?_
      exact Table.filter_insert_of_ne (appended.asset ▸ ne.symm)
    · exact .registered (items.get?_of_next added) (items.get?_insert_self added)
        (in_room ▸ over_room)
  | issueMore _ item_named _ over_item | issueNew _ item_named _ over_item
  | restock _ item_named over_item =>
    exact Store.of_named_changed (others rfl) item_named
      (.administered (sound.consumables.get?_of_find? item_named) over_item) changed
  | use _ item_named own _ reduced appended =>
    obtain ⟨row, subject, by_caller, is_open⟩ := sound.openIssue own
    exact Store.of_named_changed (others rfl) item_named (.own .use item_named ⟨row, subject⟩
      by_caller is_open rfl (by rw [reduced]) rfl appended) changed
  | @reportLoss _ _ kind _ _ _ _ _ _ _ _ _ _ _ item_named _ own _ reduced appended =>
    obtain ⟨row, subject, by_caller, is_open⟩ := sound.openIssue own
    exact Store.of_named_changed (others rfl) item_named (.own (.reportLoss kind) item_named
      ⟨row, subject⟩ by_caller is_open rfl (by rw [reduced]) rfl appended) changed
  | takeBack _ issue_named item_found over_item =>
    obtain ⟨member, subject⟩ := Table.mem_of_get? item_found
    exact Store.of_named_changed (others (ConsumableOp.item_takeBack issue_named item_found))
      (Store.named_ok.1 (Store.named_of_mem sound.consumables member))
      (.administered (subject ▸ item_found) over_item) changed
  | recordLoss _ issue_named item_found over_item =>
    obtain ⟨member, subject⟩ := Table.mem_of_get? item_found
    exact Store.of_named_changed (others (ConsumableOp.item_recordLoss issue_named item_found))
      (Store.named_ok.1 (Store.named_of_mem sound.consumables member))
      (.administered (subject ▸ item_found) over_item) changed

theorem DirectoryStep.consumable_warrant {op : DirectoryOp} {done : Committed Answer}
    (step : DirectoryStep s op done s') {id : ConsumableId}
    (changed : s'.consumableFile id ≠ s.consumableFile id) :
    ConsumableWarrant s s' (.directory op) id := by
  cases step with
  | @deleteNode node scope resolved =>
    cases scope with
    | site | detached | department | location => exact absurd rfl changed
    | room gone =>
      obtain ⟨room, r, rfl, room_named, rfl⟩ := Store.resolve_room resolved
      -- custody and ledger are untouched, so it is the row that changed
      obtain ⟨e, was, moved⟩ := Table.exists_of_map_changed fun same =>
        changed (Store.consumableFile_congr same rfl rfl)
      have there := Store.eq_of_cleared_ne fun same => moved (by rw [same])
      obtain ⟨_, rfl⟩ := Table.mem_of_get? was
      have row : (s.without (.room r.id)).row? e.id =
          some { e with val := { e.val with room := none } } := by
        refine (Table.get?_map_of_some was).trans ?_
        rw [there, Store.cleared_self]
      refine .roomDeleted room_named was there ?_
      rw [Store.consumableFile, row]
      rfl
  | _ => exact absurd rfl changed

end Quartermaster
