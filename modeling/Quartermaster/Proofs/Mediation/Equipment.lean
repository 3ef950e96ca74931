import Quartermaster.Proofs.OperationStep

/-!
# What a change to an item of equipment was permitted by

The file of an asset is all that is kept of it: its row, its custody rows, its ledger
(`AssetFile`). `EquipmentWarrant s s' op id` says why the operation `op`, which took `s` to `s'`, may
have changed the file of the item `id`.

Results:

1. `EquipmentStep.others`: an operation on custody leaves the files of all items but its own.
2. `EquipmentStep.warrant`, `DirectoryStep.equipment_warrant`: a file that differs has a warrant.
-/

namespace Quartermaster

/-- All that is kept of an asset. -/
structure AssetFile (asset custody event : Kind) (α β γ : Type) where
  row : Option (Entry asset α)
  custody : List (Entry custody β)
  ledger : List (Entry event γ)
  deriving DecidableEq

def Store.equipmentFile (s : Store) (id : EquipmentId) :
    AssetFile .equipment .equipmentAssignment .equipmentEvent Equipment EquipmentAssignment
      EquipmentEvent where
  row := s.row? id
  custody := s.equipmentAssignments.filter (·.equipment == id)
  ledger := s.equipmentEvents.filter (·.equipment == id)

/-- Why an operation may have changed the file of an item. -/
inductive EquipmentWarrant (s s' : Store) : Operation → EquipmentId → Prop
  | assigned {ctx : Context} {item user : String} {notes : Option String}
      {e : Entry .equipment Equipment} {u : Entry .user User}
      (item_named : s.named? .equipment item = some e)
      (user_named : s.named? .user user = some u)
      (over_item : s.Permits ctx .roomClerk e.val.room)
      (over_user : s.Permits ctx .roomClerk u.val.room) :
      EquipmentWarrant s s' (.caller ctx (.equipment (.assign item user notes))) e.id
  | unassigned {ctx : Context} {item user : String} {notes : Option String}
      {e : Entry .equipment Equipment}
      (item_named : s.named? .equipment item = some e)
      (over_item : s.Permits ctx .roomClerk e.val.room) :
      EquipmentWarrant s s' (.caller ctx (.equipment (.unassign item user notes))) e.id
  | reassigned {ctx : Context} {item giver receiver : String} {notes : Option String}
      {e : Entry .equipment Equipment} {u : Entry .user User}
      (item_named : s.named? .equipment item = some e)
      (receiver_named : s.named? .user receiver = some u)
      (over_item : s.Permits ctx .roomClerk e.val.room)
      (over_user : s.Permits ctx .roomClerk u.val.room) :
      EquipmentWarrant s s' (.caller ctx (.equipment (.reassign item giver receiver notes))) e.id
  | statusChanged {ctx : Context} {item : String} {status : EquipmentStatus}
      {notes : Option String} {e : Entry .equipment Equipment}
      (item_named : s.named? .equipment item = some e)
      (over_item : s.Permits ctx .roomAdmin e.val.room) :
      EquipmentWarrant s s' (.caller ctx (.equipment (.changeStatus item status notes))) e.id
  | registered {ctx : Context} {input : EquipmentInput} {e : Entry .equipment Equipment}
      (new : s.row? e.id = none)
      (made : s'.row? e.id = some e)
      (over_room : s.Permits ctx .roomAdmin e.val.room) :
      EquipmentWarrant s s' (.caller ctx (.equipment (.register input))) e.id
  /-- The item's room was deleted, which clears the reference to it and nothing else. -/
  | roomDeleted {room : String} {r : Entry .room Room} {e : Entry .equipment Equipment}
      (room_named : s.named? .room room = some r)
      (was : s.row? e.id = some e)
      (there : e.val.room = some r.id)
      (cleared : s'.equipmentFile e.id = { s.equipmentFile e.id with
        row := some { e with val := { e.val with room := none } } }) :
      EquipmentWarrant s s' (.directory (.deleteNode (.room room))) e.id

variable {s s' : Store}

theorem Store.equipmentFile_congr {id : EquipmentId} (row : s'.row? id = s.row? id)
    (custody : s'.equipmentAssignments.filter (·.equipment == id) =
      s.equipmentAssignments.filter (·.equipment == id))
    (ledger : s'.equipmentEvents.filter (·.equipment == id) =
      s.equipmentEvents.filter (·.equipment == id)) :
    s'.equipmentFile id = s.equipmentFile id := by
  unfold equipmentFile
  rw [row, custody, ledger]

/-- The item that an operation on custody is about. -/
def EquipmentOp.item : EquipmentOp → Option String
  | .assign item _ _ | .unassign item _ _ | .reassign item _ _ _ | .changeStatus item _ _ => some item
  | .get _ | .list | .history _ | .register _ => none

/-- An operation on custody leaves the files of all items but its own. -/
theorem EquipmentStep.others {ctx : Context} {op : EquipmentOp} {done : Committed Answer}
    (step : EquipmentStep ctx s op done s') (sound : s.Sound) ⦃item : String⦄
    (about : op.item = some item) :
    ∃ e, s.named? .equipment item = some e ∧
      ∀ other, other ≠ e.id → s'.equipmentFile other = s.equipmentFile other := by
  have rows := sound.equipmentAssignments.numbered
  cases step with
  | @read op _ is_read =>
    cases op with
    | get | list | history => cases about
    | register | assign | unassign | reassign | changeStatus => cases is_read
  | register => cases about
  | @assign _ _ _ e _ _ _ _ _ _ _ _ _ item_named _ _ _ _ _ _ opened appended =>
    cases about
    refine ⟨e, item_named, fun other ne => Store.equipmentFile_congr rfl ?_ ?_⟩
    · exact Table.filter_insert_of_ne (by rw [opened]; exact ne.symm)
    · exact Table.filter_insert_of_ne (by rw [appended]; exact ne.symm)
  | @unassign _ _ _ e _ held _ _ _ _ _ _ _ item_named _ _ is_held _ returned appended =>
    cases about
    obtain ⟨row, subject, _⟩ := sound.openEquipmentAssignment is_held
    refine ⟨e, item_named, fun other ne => ?_⟩
    have elsewhere : held.val.equipment ≠ other := subject ▸ ne.symm
    refine Store.equipmentFile_congr rfl ?_ ?_
    · exact Table.filter_put_of_ne rows row elsewhere (by rw [returned]; exact elsewhere)
    · exact Table.filter_insert_of_ne (by rw [appended]; exact ne.symm)
  | @reassign _ _ _ _ e _ _ held _ _ _ _ _ _ _ _ _ _ item_named _ _ _ _ _ is_held _ handed first
      second =>
    cases about
    obtain ⟨row, subject, _⟩ := sound.openEquipmentAssignment is_held
    refine ⟨e, item_named, fun other ne => ?_⟩
    have elsewhere : held.val.equipment ≠ other := subject ▸ ne.symm
    refine Store.equipmentFile_congr rfl ?_ ?_
    · exact Table.filter_put_of_ne rows row elsewhere (by rw [handed]; exact elsewhere)
    · rw [Table.filter_insert_of_ne (by rw [second]; exact ne.symm)]
      exact Table.filter_insert_of_ne (by rw [first]; exact ne.symm)
  | @changeStatus _ _ _ e _ _ _ _ _ _ _ _ item_named _ _ _ _ _ _ appended =>
    cases about
    refine ⟨e, item_named, fun other ne => ?_⟩
    refine Store.equipmentFile_congr (Table.get?_put_of_ne ne) rfl ?_
    exact Table.filter_insert_of_ne (by rw [appended]; exact ne.symm)

/-- Where only the asset with a public id may have changed, it is what changed. -/
theorem Store.of_named_changed {k : Kind} {α β : Type} [Record k α] [Named k] {publicId : String}
    {e : Entry k α} {W : Id k → Prop} {before after : Id k → β} {id : Id k}
    (others : ∃ e, s.named? k publicId = some e ∧ ∀ other, other ≠ e.id → after other = before other)
    (named : s.named? k publicId = some e) (here : W e.id) (changed : after id ≠ before id) :
    W id := by
  obtain ⟨_, named', others⟩ := others
  obtain rfl := Option.some.inj (named.symm.trans named')
  exact Table.of_changed e.id others here changed

theorem EquipmentStep.warrant {ctx : Context} {op : EquipmentOp} {done : Committed Answer}
    (step : EquipmentStep ctx s op done s') (sound : s.Sound) {id : EquipmentId}
    (changed : s'.equipmentFile id ≠ s.equipmentFile id) :
    EquipmentWarrant s s' (.caller ctx (.equipment op)) id := by
  have items := sound.equipment.numbered
  have others := step.others sound
  cases step with
  | read => exact absurd rfl changed
  | @register _ _ e _ _ _ _ over_room added in_room =>
    refine Table.of_changed e.id (fun other ne => ?_) ?_ changed
    · exact Store.equipmentFile_congr (Table.get?_insert_of_ne (added ▸ ne)) rfl rfl
    · exact .registered (items.get?_of_next added) (items.get?_insert_self added)
        (in_room ▸ over_room)
  | assign item_named user_named over_item over_user =>
    exact Store.of_named_changed (others rfl) item_named
      (.assigned item_named user_named over_item over_user) changed
  | unassign item_named _ over_item =>
    exact Store.of_named_changed (others rfl) item_named (.unassigned item_named over_item) changed
  | reassign _ item_named _ receiver_named over_item over_user =>
    exact Store.of_named_changed (others rfl) item_named
      (.reassigned item_named receiver_named over_item over_user) changed
  | changeStatus item_named over_item =>
    exact Store.of_named_changed (others rfl) item_named (.statusChanged item_named over_item)
      changed

theorem DirectoryStep.equipment_warrant {op : DirectoryOp} {done : Committed Answer}
    (step : DirectoryStep s op done s') {id : EquipmentId}
    (changed : s'.equipmentFile id ≠ s.equipmentFile id) :
    EquipmentWarrant s s' (.directory op) id := by
  cases step with
  | @deleteNode node scope resolved =>
    cases scope with
    | site | detached | department | location => exact absurd rfl changed
    | room gone =>
      obtain ⟨room, r, rfl, room_named, rfl⟩ := Store.resolve_room resolved
      -- custody and ledger are untouched, so it is the row that changed
      obtain ⟨e, was, moved⟩ := Table.exists_of_map_changed fun same =>
        changed (Store.equipmentFile_congr same rfl rfl)
      have there := Store.eq_of_cleared_ne fun same => moved (by rw [same])
      obtain ⟨_, rfl⟩ := Table.mem_of_get? was
      have row : (s.without (.room r.id)).row? e.id =
          some { e with val := { e.val with room := none } } := by
        refine (Table.get?_map_of_some was).trans ?_
        rw [there, Store.cleared_self]
      refine .roomDeleted room_named was there ?_
      rw [Store.equipmentFile, row]
      rfl
  | _ => exact absurd rfl changed

end Quartermaster
