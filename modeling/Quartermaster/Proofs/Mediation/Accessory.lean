import Quartermaster.Proofs.Mediation.Equipment

/-!
# What a change to an accessory was permitted by

Whatever changes the file of an accessory is done by somebody with the administrator's rank over its
room, the deletion of that room apart.

Results: `AccessoryStep.others`, `AccessoryStep.warrant`, `DirectoryStep.accessory_warrant`.
-/

namespace Quartermaster

def Store.accessoryFile (s : Store) (id : AccessoryId) :
    AssetFile .accessory .accessoryAssignment .accessoryEvent Accessory AccessoryAssignment
      AccessoryEvent where
  row := s.row? id
  custody := s.accessoryAssignments.filter (·.accessory == id)
  ledger := s.accessoryEvents.filter (·.asset == id)

/-- Why an operation may have changed the file of an accessory. -/
inductive AccessoryWarrant (s s' : Store) : Operation → AccessoryId → Prop
  | administered {ctx : Context} {op : AccessoryOp} {e : Entry .accessory Accessory}
      (was : s.row? e.id = some e)
      (over_item : s.Permits ctx .roomAdmin e.val.room) :
      AccessoryWarrant s s' (.caller ctx (.accessories op)) e.id
  | registered {ctx : Context} {input : AccessoryInput} {e : Entry .accessory Accessory}
      (new : s.row? e.id = none)
      (made : s'.row? e.id = some e)
      (over_room : s.Permits ctx .roomAdmin e.val.room) :
      AccessoryWarrant s s' (.caller ctx (.accessories (.register input))) e.id
  /-- The accessory's room was deleted, which clears the reference to it and nothing else. -/
  | roomDeleted {room : String} {r : Entry .room Room} {e : Entry .accessory Accessory}
      (room_named : s.named? .room room = some r)
      (was : s.row? e.id = some e)
      (there : e.val.room = some r.id)
      (cleared : s'.accessoryFile e.id = { s.accessoryFile e.id with
        row := some { e with val := { e.val with room := none } } }) :
      AccessoryWarrant s s' (.directory (.deleteNode (.room room))) e.id

variable {s s' : Store}

theorem Store.accessoryFile_congr {id : AccessoryId} (row : s'.row? id = s.row? id)
    (custody : s'.accessoryAssignments.filter (·.accessory == id) =
      s.accessoryAssignments.filter (·.accessory == id))
    (ledger : s'.accessoryEvents.filter (·.asset == id) =
      s.accessoryEvents.filter (·.asset == id)) :
    s'.accessoryFile id = s.accessoryFile id := by
  unfold accessoryFile
  rw [row, custody, ledger]

/-- Units that move in or out of an assignment leave the files of other accessories alone. -/
theorem Store.accessoryFile_of_ne {id other : AccessoryId} {row : AccessoryAssignment}
    {a : Entry .accessoryAssignment AccessoryAssignment} {event : AccessoryEvent} (sound : s.Sound)
    (ne : other ≠ id) (found : s.row? a.id = some a) (subject : a.val.accessory = id)
    (same : row.accessory = a.val.accessory) (about : event.asset = id)
    (stock : s'.row? other = s.row? other)
    (custody : s'.accessoryAssignments = s.accessoryAssignments.put a.id row)
    (ledger : s'.accessoryEvents = s.accessoryEvents.insert event) :
    s'.accessoryFile other = s.accessoryFile other := by
  have elsewhere : a.val.accessory ≠ other := subject ▸ ne.symm
  refine accessoryFile_congr stock ?_ ?_
  · rw [custody]
    exact Table.filter_put_of_ne sound.accessoryAssignments.numbered found elsewhere
      (same ▸ elsewhere)
  · rw [ledger]
    exact Table.filter_insert_of_ne (about ▸ ne.symm)

/-- The accessory that an operation on custody is about: the one that is named, or the one of which
units are given back. -/
def AccessoryOp.item (s : Store) : AccessoryOp → Option String
  | .assign item _ _ | .condemn item _ | .restock item _ => some item
  | .takeBack assignment _ => do
    let a ← s.named? .accessoryAssignment assignment
    let e ← s.row? a.val.accessory
    return e.val.publicId
  | .get _ | .list | .history _ | .register _ => none

theorem AccessoryOp.item_takeBack {assignment : String} {quantity : Int64}
    {a : Entry .accessoryAssignment AccessoryAssignment} {e : Entry .accessory Accessory}
    (custody_named : s.named? .accessoryAssignment assignment = some a)
    (item_found : s.row? a.val.accessory = some e) :
    (AccessoryOp.takeBack assignment quantity).item s = some e.val.publicId := by
  simp only [item, custody_named, Option.bind_eq_bind, Option.bind_some, item_found]
  rfl

/-- An operation on custody leaves the files of all accessories but its own. -/
theorem AccessoryStep.others {ctx : Context} {op : AccessoryOp} {done : Committed Answer}
    (step : AccessoryStep ctx s op done s') (sound : s.Sound) ⦃item : String⦄
    (about : op.item s = some item) :
    ∃ e, s.named? .accessory item = some e ∧
      ∀ other, other ≠ e.id → s'.accessoryFile other = s.accessoryFile other := by
  cases step with
  | @read op _ is_read =>
    cases op with
    | get | list | history => cases about
    | register | assign | takeBack | condemn | restock => cases is_read
  | registerEmpty | registerStocked => cases about
  | @assignMore _ _ _ _ e _ held _ _ _ _ _ _ item_named _ _ _ _ is_held grown appended =>
    cases about
    obtain ⟨row, subject, _⟩ := sound.openAccessoryAssignment is_held
    exact ⟨e, item_named, fun other ne => Store.accessoryFile_of_ne sound ne row subject
      (by rw [grown]) appended.asset rfl rfl rfl⟩
  | @assignNew _ _ _ _ e _ _ _ _ _ _ _ _ _ item_named _ _ _ _ _ _ opened appended =>
    cases about
    refine ⟨e, item_named, fun other ne => Store.accessoryFile_congr rfl ?_ ?_⟩
    · exact Table.filter_insert_of_ne (by rw [opened]; exact ne.symm)
    · exact Table.filter_insert_of_ne (appended.asset ▸ ne.symm)
  | @takeBack _ _ _ e _ a _ _ _ _ _ _ _ custody_named item_found _ _ _ _ reduced _ appended =>
    rw [AccessoryOp.item_takeBack custody_named item_found] at about
    cases about
    have row := sound.accessoryAssignments.get?_of_find? custody_named
    obtain ⟨member, subject⟩ := Table.mem_of_get? item_found
    refine ⟨e, Store.named_ok.1 (Store.named_of_mem sound.accessories member), fun other ne => ?_⟩
    exact Store.accessoryFile_of_ne sound ne row subject.symm (by rw [reduced]; rfl) appended.asset
      rfl rfl rfl
  | @condemn _ _ _ e _ _ _ _ _ _ _ item_named _ _ _ _ appended =>
    cases about
    refine ⟨e, item_named, fun other ne => ?_⟩
    refine Store.accessoryFile_congr (Table.get?_put_of_ne ne) rfl ?_
    exact Table.filter_insert_of_ne (appended.asset ▸ ne.symm)
  | @restock _ _ _ e _ _ _ _ _ _ _ item_named _ _ _ _ appended =>
    cases about
    refine ⟨e, item_named, fun other ne => ?_⟩
    refine Store.accessoryFile_congr (Table.get?_put_of_ne ne) rfl ?_
    exact Table.filter_insert_of_ne (appended.asset ▸ ne.symm)

/-- The file that a step may change: of the accessory it is about, or of the one it registers. -/
theorem AccessoryStep.warrant {ctx : Context} {op : AccessoryOp} {done : Committed Answer}
    (step : AccessoryStep ctx s op done s') (sound : s.Sound) {id : AccessoryId}
    (changed : s'.accessoryFile id ≠ s.accessoryFile id) :
    AccessoryWarrant s s' (.caller ctx (.accessories op)) id := by
  have items := sound.accessories.numbered
  have others := step.others sound
  cases step with
  | read => exact absurd rfl changed
  | @registerEmpty _ _ e _ _ _ _ over_room added in_room =>
    refine Table.of_changed e.id (fun other ne => ?_) ?_ changed
    · exact Store.accessoryFile_congr (Table.get?_insert_of_ne (added ▸ ne)) rfl rfl
    · exact .registered (items.get?_of_next added) (items.get?_insert_self added)
        (in_room ▸ over_room)
  | @registerStocked _ _ e _ _ _ _ _ over_room added in_room _ appended =>
    refine Table.of_changed e.id (fun other ne => ?_) ?_ changed
    · refine Store.accessoryFile_congr (Table.get?_insert_of_ne (added ▸ ne)) rfl ?_
      exact Table.filter_insert_of_ne (appended.asset ▸ ne.symm)
    · exact .registered (items.get?_of_next added) (items.get?_insert_self added)
        (in_room ▸ over_room)
  | assignMore _ item_named _ over_item | assignNew _ item_named _ over_item
  | condemn _ item_named over_item | restock _ item_named over_item =>
    exact Store.of_named_changed (others rfl) item_named
      (.administered (sound.accessories.get?_of_find? item_named) over_item) changed
  | takeBack _ custody_named item_found over_item =>
    obtain ⟨member, subject⟩ := Table.mem_of_get? item_found
    exact Store.of_named_changed (others (AccessoryOp.item_takeBack custody_named item_found))
      (Store.named_ok.1 (Store.named_of_mem sound.accessories member))
      (.administered (subject ▸ item_found) over_item) changed

theorem DirectoryStep.accessory_warrant {op : DirectoryOp} {done : Committed Answer}
    (step : DirectoryStep s op done s') {id : AccessoryId}
    (changed : s'.accessoryFile id ≠ s.accessoryFile id) :
    AccessoryWarrant s s' (.directory op) id := by
  cases step with
  | @deleteNode node scope resolved =>
    cases scope with
    | site | detached | department | location => exact absurd rfl changed
    | room gone =>
      obtain ⟨room, r, rfl, room_named, rfl⟩ := Store.resolve_room resolved
      -- custody and ledger are untouched, so it is the row that changed
      obtain ⟨e, was, moved⟩ := Table.exists_of_map_changed fun same =>
        changed (Store.accessoryFile_congr same rfl rfl)
      have there := Store.eq_of_cleared_ne fun same => moved (by rw [same])
      obtain ⟨_, rfl⟩ := Table.mem_of_get? was
      have row : (s.without (.room r.id)).row? e.id =
          some { e with val := { e.val with room := none } } := by
        refine (Table.get?_map_of_some was).trans ?_
        rw [there, Store.cleared_self]
      refine .roomDeleted room_named was there ?_
      rw [Store.accessoryFile, row]
      rfl
  | _ => exact absurd rfl changed

end Quartermaster
