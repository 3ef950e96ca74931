import Quartermaster.Proofs.Independence.Blur
import Quartermaster.Proofs.Independence.Related
import Quartermaster.Proofs.Refusals.Writes

/-!
# Twin stores

Two stores that came about after one store `b`, on the tree and the people of which they agree, and
on the file of one asset, but for what is new since `b` (`Twins`). About other assets nothing is said:
the stores may have taken in other rows, under other ids, in the meantime.

Twin stores stay twins under the four kinds of writes that an operation on custody makes: it writes the
row of the asset again, adds a custody row, writes a custody row again, and adds a row to the ledger
(`Shelf.Twins.setItem`, `addCustody`, `setCustody`, `addEvent`).
-/

namespace Quartermaster

/-- The asset that a row is about. -/
class About (asset : Kind) (β : Type) where
  asset : β → Id asset

instance : About .equipment EquipmentAssignment := ⟨EquipmentAssignment.equipment⟩
instance : About .equipment EquipmentEvent := ⟨EquipmentEvent.equipment⟩
instance : About .accessory AccessoryAssignment := ⟨AccessoryAssignment.accessory⟩
instance : About .consumable ConsumableIssue := ⟨ConsumableIssue.consumable⟩
instance {asset custody : Kind} : About asset (UnitEvent asset custody) := ⟨UnitEvent.asset⟩

/-- All that is kept of the assets of a kind. -/
structure Shelf (asset custody event : Kind) (α β γ : Type) where
  items : Table asset α
  custody : Table custody β
  ledger : Table event γ

namespace Store

def equipmentShelf (s : Store) : Shelf .equipment .equipmentAssignment .equipmentEvent Equipment
    EquipmentAssignment EquipmentEvent :=
  ⟨s.equipment, s.equipmentAssignments, s.equipmentEvents⟩

def accessoryShelf (s : Store) : Shelf .accessory .accessoryAssignment .accessoryEvent Accessory
    AccessoryAssignment AccessoryEvent :=
  ⟨s.accessories, s.accessoryAssignments, s.accessoryEvents⟩

def consumableShelf (s : Store) : Shelf .consumable .consumableIssue .consumableEvent Consumable
    ConsumableIssue ConsumableEvent :=
  ⟨s.consumables, s.consumableIssues, s.consumableEvents⟩

end Store

/-! ## Rows -/

section Rows

variable {k : Kind} {α : Type} [Record k α] {b : Store} {id other : Id k}

theorem Store.gaveOut_iff : b.gaveOut id = true ↔ id.row ≤ (Record.table b : Table k α).last :=
  decide_eq_true_iff

/-- A table that came later gives out no old id. -/
theorem Store.gaveOut_next {t : Table k α} (later : (Record.table b : Table k α).last ≤ t.last) :
    b.gaveOut t.next = false := by
  refine Bool.eq_false_iff.2 fun given => ?_
  have bound := Store.gaveOut_iff.1 given
  simp only [Table.next] at bound
  omega

theorem Store.blurId_old (old : b.gaveOut id = true) : b.blurId id = id := if_pos old

theorem Store.blurId_new (new : b.gaveOut id = false) :
    b.blurId id = (Record.table b : Table k α).next :=
  if_neg (by rw [new]; exact Bool.false_ne_true)

/-- No id is taken for an old one but itself. -/
theorem Store.blurId_eq_iff (old : b.gaveOut id = true) : b.blurId other = id ↔ other = id := by
  constructor
  · intro same
    cases given : b.gaveOut other with
    | true => rwa [blurId_old given] at same
    | false =>
      rw [blurId_new given] at same
      rw [← same, gaveOut_next (Int.le_refl _)] at old
      cases old
  · rintro rfl
    exact blurId_old old

variable [Blurs α] {t t' : Table k α} {row row' : α}

/-- New rows are the same if they say the same. -/
theorem Entry.since_next (later : (Record.table b : Table k α).last ≤ t.last)
    (later' : (Record.table b : Table k α).last ≤ t'.last)
    (same : Blurs.blur b false row = Blurs.blur b false row') :
    Entry.since b ⟨t.next, row⟩ = Entry.since b ⟨t'.next, row'⟩ := by
  unfold Entry.since
  rw [Store.gaveOut_next later, Store.gaveOut_next later', Store.blurId_new (Store.gaveOut_next later),
    Store.blurId_new (Store.gaveOut_next later'), same]

/-- An old row that is written again is the same if the new values say the same. -/
theorem Entry.since_old (old : b.gaveOut id = true)
    (same : Blurs.blur b true row = Blurs.blur b true row') :
    Entry.since b ⟨id, row⟩ = Entry.since b ⟨id, row'⟩ := by
  unfold Entry.since
  rw [old, same]

/-- One more row in both lists. -/
theorem Table.since_insert {p : α → Bool} (later : (Record.table b : Table k α).last ≤ t.last)
    (later' : (Record.table b : Table k α).last ≤ t'.last) (chosen : p row = true)
    (chosen' : p row' = true) (same : Blurs.blur b false row = Blurs.blur b false row')
    (h : (t.filter p).map (Entry.since b) = (t'.filter p).map (Entry.since b)) :
    ((t.insert row).filter p).map (Entry.since b) =
      ((t'.insert row').filter p).map (Entry.since b) := by
  rw [filter_insert, filter_insert, if_pos chosen, if_pos chosen', List.map_append, List.map_append, h,
    List.map_singleton, List.map_singleton, Entry.since_next later later' same]

/-- The rows after a change of an old one, read off the rows before it. -/
theorem Entry.map_since_put (old : b.gaveOut id = true) (row : α) (rows : List (Entry k α)) :
    (rows.map fun e => if e.id = id then { e with val := row } else e).map (Entry.since b) =
      (rows.map (Entry.since b)).map fun e => if e.id = id then ⟨id, Blurs.blur b true row⟩ else e := by
  rw [List.map_map, List.map_map]
  refine List.map_congr_left fun e _ => ?_
  have known : (Entry.since b e).id = id ↔ e.id = id := Store.blurId_eq_iff old
  simp only [Function.comp_apply]
  by_cases here : e.id = id
  · rw [if_pos here, if_pos (known.2 here)]
    unfold Entry.since
    rw [here, Store.blurId_old old, old]
  · rw [if_neg here, if_neg fun same => here (known.1 same)]

/-- An old row is written again in both lists. -/
theorem Table.since_put {p : α → Bool} {e e' : Entry k α} (old : b.gaveOut id = true)
    (numbered : t.Numbered) (numbered' : t'.Numbered) (found : t.get? id = some e)
    (found' : t'.get? id = some e') (chosen : p row = p e.val) (chosen' : p row' = p e'.val)
    (same : Blurs.blur b true row = Blurs.blur b true row')
    (h : (t.filter p).map (Entry.since b) = (t'.filter p).map (Entry.since b)) :
    ((t.put id row).filter p).map (Entry.since b) =
      ((t'.put id row').filter p).map (Entry.since b) := by
  rw [filter_put_of_same numbered found chosen, filter_put_of_same numbered' found' chosen',
    Entry.map_since_put old, Entry.map_since_put old, h, same]

end Rows

/-! ## Shelves -/

namespace Shelf

variable {k kc ke : Kind} {α β γ : Type} [About k β] [About k γ]

/-- The file of an asset. -/
def file (u : Shelf k kc ke α β γ) (id : Id k) : AssetFile k kc ke α β γ where
  row := u.items.get? id
  custody := u.custody.filter (About.asset · == id)
  ledger := u.ledger.filter (About.asset · == id)

variable [Record k α] [Record kc β] [Record ke γ] [Blurs α] [Blurs β] [Blurs γ]

/-- Two shelves that came about after a store, with one file of an asset but for what is new. -/
structure Twins (b : Store) (id : Id k) (u v : Shelf k kc ke α β γ) : Prop where
  custody_last : (Record.table b : Table kc β).last ≤ u.custody.last
  custody_last' : (Record.table b : Table kc β).last ≤ v.custody.last
  ledger_last : (Record.table b : Table ke γ).last ≤ u.ledger.last
  ledger_last' : (Record.table b : Table ke γ).last ≤ v.ledger.last
  row : (u.items.get? id).map (Entry.since b) = (v.items.get? id).map (Entry.since b)
  custody : (u.custody.filter (About.asset · == id)).map (Entry.since b) =
    (v.custody.filter (About.asset · == id)).map (Entry.since b)
  ledger : (u.ledger.filter (About.asset · == id)).map (Entry.since b) =
    (v.ledger.filter (About.asset · == id)).map (Entry.since b)

namespace Twins

variable {b : Store} {id : Id k} {u v : Shelf k kc ke α β γ}

theorem file (h : u.Twins b id v) : (u.file id).since b = (v.file id).since b := by
  unfold AssetFile.since
  congr 1
  · exact h.row
  · exact h.custody
  · exact h.ledger

theorem has (h : u.Twins b id v) : u.items.has id = v.items.has id := by
  have same := congrArg Option.isSome h.row
  rwa [Option.isSome_map, Option.isSome_map] at same

theorem setItem {row row' : α} (h : u.Twins b id v)
    (same : Blurs.blur b (b.gaveOut id) row = Blurs.blur b (b.gaveOut id) row') :
    Twins b id { u with items := u.items.put id row } { v with items := v.items.put id row' } := by
  refine { h with row := ?_ }
  have there := h.row
  simp only [Table.get?_put, if_true]
  cases found : u.items.get? id with
  | none =>
    rw [found, Option.map_none, eq_comm, Option.map_eq_none_iff] at there
    rw [there]
    rfl
  | some e =>
    rw [found, Option.map_some, eq_comm, Option.map_eq_some_iff] at there
    obtain ⟨e', found', _⟩ := there
    obtain ⟨_, rfl⟩ := Table.mem_of_get? found
    obtain ⟨_, own⟩ := Table.mem_of_get? found'
    rw [found']
    simp only [Option.map_some, Entry.since, own, same]

theorem addCustody {row row' : β} (h : u.Twins b id v) (about : About.asset row = id)
    (about' : About.asset row' = id) (same : Blurs.blur b false row = Blurs.blur b false row') :
    Twins b id { u with custody := u.custody.insert row }
      { v with custody := v.custody.insert row' } := by
  have last := h.custody_last
  have last' := h.custody_last'
  exact { h with
    custody_last := by simp only [Table.last_insert]; omega
    custody_last' := by simp only [Table.last_insert]; omega
    custody := Table.since_insert last last' (beq_iff_eq.2 about) (beq_iff_eq.2 about') same
      h.custody }

theorem setCustody {row row' : β} {e e' : Entry kc β} {c : Id kc} (h : u.Twins b id v)
    (old : b.gaveOut c = true) (numbered : u.custody.Numbered) (numbered' : v.custody.Numbered)
    (found : u.custody.get? c = some e) (found' : v.custody.get? c = some e')
    (about : (About.asset row : Id k) = About.asset e.val)
    (about' : (About.asset row' : Id k) = About.asset e'.val)
    (same : Blurs.blur b true row = Blurs.blur b true row') :
    Twins b id { u with custody := u.custody.put c row }
      { v with custody := v.custody.put c row' } := by
  refine { h with custody := ?_ }
  exact Table.since_put old numbered numbered' found found' (by rw [about]) (by rw [about']) same
    h.custody

theorem addEvent {row row' : γ} (h : u.Twins b id v) (about : About.asset row = id)
    (about' : About.asset row' = id) (same : Blurs.blur b false row = Blurs.blur b false row') :
    Twins b id { u with ledger := u.ledger.insert row } { v with ledger := v.ledger.insert row' } := by
  have last := h.ledger_last
  have last' := h.ledger_last'
  exact { h with
    ledger_last := by simp only [Table.last_insert]; omega
    ledger_last' := by simp only [Table.last_insert]; omega
    ledger := Table.since_insert last last' (beq_iff_eq.2 about) (beq_iff_eq.2 about') same
      h.ledger }

end Twins

end Shelf

/-! ## Stores -/

/-- What the operations on custody read and never write: the tree, the people and their roles. -/
structure Surroundings where
  departments : Table .department Department
  locations : Table .location Location
  rooms : Table .room Room
  users : Table .user User
  roleAssignments : Table .roleAssignment RoleAssignment

def Store.around (s : Store) : Surroundings :=
  ⟨s.departments, s.locations, s.rooms, s.users, s.roleAssignments⟩

section Around

variable {s t : Store}

theorem Store.users_congr (h : s.around = t.around) : s.users = t.users :=
  congrArg Surroundings.users h

theorem Store.links_congr (h : s.around = t.around) : s.links = t.links := by
  unfold Store.links
  rw [show s.rooms = t.rooms from congrArg Surroundings.rooms h,
    show s.locations = t.locations from congrArg Surroundings.locations h]

theorem Store.authorize_congr (h : s.around = t.around) {ctx : Context} {required : Role}
    {room : Option RoomId} {label : String} :
    s.authorize ctx required room label = t.authorize ctx required room label := by
  unfold Store.authorize
  rw [Store.links_congr h]

theorem Store.user_row_congr (h : s.around = t.around) {user : UserId} : s.row? user = t.row? user :=
  congrArg (·.get? user) (Store.users_congr h)

theorem Store.user_named_congr (h : s.around = t.around) {user : String} :
    s.named .user user = t.named .user user := by
  unfold Store.named Store.named?
  rw [show (Record.table s : Table .user User) = Record.table t from Store.users_congr h]

theorem Store.userPublicId_congr (h : s.around = t.around) (user : Option UserId) :
    s.userPublicId user = t.userPublicId user := by
  have rows : (s.row? : UserId → _) = t.row? := funext fun _ => Store.user_row_congr h
  unfold Store.userPublicId
  rw [rows]

theorem Store.responsible_congr (h : s.around = t.around) {room : Option RoomId} :
    s.responsible room = t.responsible room := by
  have holders (p : RoleAssignment → Bool) : s.holdersOf p = t.holdersOf p := by
    unfold Store.holdersOf
    rw [Store.users_congr h, show s.roleAssignments = t.roleAssignments from
      congrArg Surroundings.roleAssignments h]
  have administrators : s.administrators = t.administrators := funext fun _ => holders _
  unfold Store.responsible
  rw [Store.links_congr h, administrators, show s.siteAdmins = t.siteAdmins from holders _]

end Around

/-! ## Shelves of a store -/

section Kept

variable {k kc ke : Kind} {α β γ : Type} [Record k α] [Record kc β] [Record ke γ]

/-- The shelf is three tables of the store, and is apart from the rest of it. -/
class Kept (shelf : Store → Shelf k kc ke α β γ) : Prop where
  tables : ∀ s, shelf s = ⟨Record.table s, Record.table s, Record.table s⟩
  ticked : ∀ s audit clock minted, shelf { s with audit, clock, minted } = shelf s
  setItems : ∀ s (items : Table k α), (Record.setTable s items).around = s.around ∧
    (Record.setTable s items).clock = s.clock ∧
    shelf (Record.setTable s items) = { shelf s with items }
  setCustody : ∀ s (custody : Table kc β), (Record.setTable s custody).around = s.around ∧
    (Record.setTable s custody).clock = s.clock ∧
    shelf (Record.setTable s custody) = { shelf s with custody }
  setLedger : ∀ s (ledger : Table ke γ), (Record.setTable s ledger).around = s.around ∧
    (Record.setTable s ledger).clock = s.clock ∧
    shelf (Record.setTable s ledger) = { shelf s with ledger }

instance : Kept Store.equipmentShelf where
  tables _ := rfl
  ticked _ _ _ _ := rfl
  setItems _ _ := ⟨rfl, rfl, rfl⟩
  setCustody _ _ := ⟨rfl, rfl, rfl⟩
  setLedger _ _ := ⟨rfl, rfl, rfl⟩

instance : Kept Store.accessoryShelf where
  tables _ := rfl
  ticked _ _ _ _ := rfl
  setItems _ _ := ⟨rfl, rfl, rfl⟩
  setCustody _ _ := ⟨rfl, rfl, rfl⟩
  setLedger _ _ := ⟨rfl, rfl, rfl⟩

instance : Kept Store.consumableShelf where
  tables _ := rfl
  ticked _ _ _ _ := rfl
  setItems _ _ := ⟨rfl, rfl, rfl⟩
  setCustody _ _ := ⟨rfl, rfl, rfl⟩
  setLedger _ _ := ⟨rfl, rfl, rfl⟩

variable {shelf : Store → Shelf k kc ke α β γ}

namespace Kept

variable [kept : Kept shelf]

theorem items (s : Store) : (shelf s).items = Record.table s := by rw [kept.tables]

theorem custody (s : Store) : (shelf s).custody = Record.table s := by rw [kept.tables]

theorem ledger (s : Store) : (shelf s).ledger = Record.table s := by rw [kept.tables]

end Kept

/-- What is put in place of the custody rows is read back. -/
theorem Kept.custody_set (kept : Kept shelf) (s : Store) (custody : Table kc β) :
    (Record.table (Record.setTable s custody) : Table kc β) = custody := by
  rw [← kept.custody, (kept.setCustody s custody).2.2]

end Kept

/-! ## Twin stores -/

section Twins

variable {k kc ke : Kind} {α β γ : Type} [About k β] [About k γ] [Record k α] [Record kc β]
  [Record ke γ] [Blurs α] [Blurs β] [Blurs γ]

/-- Two stores that came about after `b`, alike in all that is around, and in the file of one asset
but for what is new. -/
structure Twins (b : Store) (shelf : Store → Shelf k kc ke α β γ) (id : Id k) (s t : Store) :
    Prop where
  around : s.around = t.around
  clock : b.clock ≤ s.clock
  clock' : b.clock ≤ t.clock
  shelves : (shelf s).Twins b id (shelf t)

/-- An old row that is in both tables as it is. -/
structure Shared {k : Kind} {α : Type} [Record k α] (b : Store) (u v : Table k α) (e : Entry k α) :
    Prop where
  old : b.gaveOut e.id = true
  row : u.get? e.id = some e
  row' : v.get? e.id = some e
  numbered : u.Numbered
  numbered' : v.Numbered

/-- References to rows that are there, the same in both tables as far as they are old. -/
structure SameReference {k : Kind} {α : Type} [Record k α] (b : Store) (u v : Table k α)
    (c c' : Option (Id k)) : Prop where
  same : c.map b.blurId = c'.map b.blurId
  there : u.resolves c = true
  there' : v.resolves c' = true

/-- A custody row that was written in both stores, and the stores after it. -/
structure Held (b : Store) (shelf : Store → Shelf k kc ke α β γ) (id : Id k)
    (r r' : Entry kc β × Store) : Prop where
  row : r.1.since b = r'.1.since b
  there : (Record.table r.2 : Table kc β).has r.1.id = true
  there' : (Record.table r'.2 : Table kc β).has r'.1.id = true
  twins : Twins b shelf id r.2 r'.2

variable {b s t : Store} {shelf : Store → Shelf k kc ke α β γ} {id : Id k}

theorem Shared.reference {k : Kind} {α : Type} [Record k α] {u v : Table k α} {e : Entry k α}
    (h : Shared b u v e) : SameReference b u v (some e.id) (some e.id) where
  same := rfl
  there := Table.has_iff.2 ⟨e, (Table.mem_of_get? h.row).1, rfl⟩
  there' := Table.has_iff.2 ⟨e, (Table.mem_of_get? h.row').1, rfl⟩

theorem Held.reference {r r' : Entry kc β × Store} (h : Held b shelf id r r') :
    SameReference b (Record.table r.2) (Record.table r'.2) (some r.1.id) (some r'.1.id) where
  same := congrArg (fun e : Entry kc β => some e.id) h.row
  there := h.there
  there' := h.there'

namespace Twins

/-- What the clock reads in twin stores is new in both. -/
theorem stamp (h : Twins b shelf id s t) : b.blurStamp ⟨s.clock⟩ = b.blurStamp ⟨t.clock⟩ := by
  rw [Store.blurStamp_of_le h.clock, Store.blurStamp_of_le h.clock']

variable [kept : Kept shelf]

theorem ticked (h : Twins b shelf id s t) {audit audit' : Table .audit AuditRow}
    {clock clock' minted minted' : Nat} (later : s.clock ≤ clock) (later' : t.clock ≤ clock') :
    Twins b shelf id { s with audit, clock, minted }
      { t with audit := audit', clock := clock', minted := minted' } where
  around := h.around
  clock := Nat.le_trans h.clock later
  clock' := Nat.le_trans h.clock' later'
  shelves := by
    rw [kept.ticked s, kept.ticked t]
    exact h.shelves

theorem has (h : Twins b shelf id s t) :
    (Record.table s : Table k α).has id = (Record.table t : Table k α).has id := by
  rw [← kept.items, ← kept.items]
  exact h.shelves.has

/-- The row of the asset is read again. -/
theorem related_numbered (h : Twins b shelf id s t) :
    Related (fun e e' => e.id = id ∧ e'.id = id ∧ e.since b = e'.since b) (s.numbered id)
      (t.numbered id) := by
  have same := h.shelves.row
  rw [kept.items, kept.items] at same
  cases found : s.row? id with
  | none =>
    rw [show (Record.table s : Table k α).get? id = none from found, Option.map_none, eq_comm,
      Option.map_eq_none_iff] at same
    unfold Store.numbered
    rw [found, show t.row? id = none from same]
    exact .refused _
  | some e =>
    rw [show (Record.table s : Table k α).get? id = some e from found, Option.map_some, eq_comm,
      Option.map_eq_some_iff] at same
    obtain ⟨e', found', same⟩ := same
    rw [Store.numbered_ok.2 found, Store.numbered_ok.2 found']
    exact .answered ⟨(Table.mem_of_get? found).2, (Table.mem_of_get? found').2, same.symm⟩

end Twins

/-! ## Steps -/

namespace Tx

variable [kept : Kept shelf]

theorem related_setItem {row row' : α} (h : Twins b shelf id s t)
    (fault : s.updateFault k row = t.updateFault k row')
    (same : Blurs.blur b (b.gaveOut id) row = Blurs.blur b (b.gaveOut id) row') :
    Related (fun r r' => Twins b shelf id r.2 r'.2) (put id row s) (put id row' t) := by
  refine related_put fault ?_
  obtain ⟨around, clock, after⟩ := kept.setItems s ((Record.table s : Table k α).put id row)
  obtain ⟨around', clock', after'⟩ := kept.setItems t ((Record.table t : Table k α).put id row')
  have shelves := h.shelves.setItem same
  rw [kept.items, kept.items] at shelves
  exact ⟨around.trans (h.around.trans around'.symm), clock ▸ h.clock, clock' ▸ h.clock',
    by rw [after, after']; exact shelves⟩

theorem related_addCustody {told : Constraint → Refusal} {row row' : β} (h : Twins b shelf id s t)
    (fault : s.insertFault kc row = t.insertFault kc row') (about : About.asset row = id)
    (about' : About.asset row' = id) (same : Blurs.blur b false row = Blurs.blur b false row') :
    Related (Held b shelf id) (insertOr kc told row s) (insertOr kc told row' t) := by
  refine related_insertOr fault ?_
  obtain ⟨around, clock, after⟩ := kept.setCustody s ((Record.table s : Table kc β).insert row)
  obtain ⟨around', clock', after'⟩ := kept.setCustody t ((Record.table t : Table kc β).insert row')
  have last := h.shelves.custody_last
  have last' := h.shelves.custody_last'
  have shelves := h.shelves.addCustody about about' same
  rw [kept.custody] at last last'
  rw [kept.custody, kept.custody] at shelves
  refine ⟨Entry.since_next last last' same, ?_, ?_, ?_⟩
  · rw [kept.custody_set]
    exact Table.has_insert
  · rw [kept.custody_set]
    exact Table.has_insert
  · exact ⟨around.trans (h.around.trans around'.symm), clock ▸ h.clock, clock' ▸ h.clock',
      by rw [after, after']; exact shelves⟩

/-- A custody row of both stores is another one in both. -/
theorem Held.put {row row' : β} {c : Entry kc β} (h : Twins b shelf id s t)
    (shared : Shared b (Record.table s) (Record.table t) c)
    (about : (About.asset row : Id k) = About.asset c.val)
    (about' : (About.asset row' : Id k) = About.asset c.val)
    (same : Blurs.blur b true row = Blurs.blur b true row') :
    Held b shelf id
      (⟨c.id, row⟩, Record.setTable s ((Record.table s : Table kc β).put c.id row))
      (⟨c.id, row'⟩, Record.setTable t ((Record.table t : Table kc β).put c.id row')) := by
  obtain ⟨around, clock, after⟩ := kept.setCustody s ((Record.table s : Table kc β).put c.id row)
  obtain ⟨around', clock', after'⟩ := kept.setCustody t ((Record.table t : Table kc β).put c.id row')
  have shelves := h.shelves.setCustody shared.old (by rw [kept.custody]; exact shared.numbered)
    (by rw [kept.custody]; exact shared.numbered') (by rw [kept.custody]; exact shared.row)
    (by rw [kept.custody]; exact shared.row') about about' same
  rw [kept.custody, kept.custody] at shelves
  refine ⟨Entry.since_old shared.old same, ?_, ?_, ?_⟩
  · rw [kept.custody_set]
    exact Table.within_put _ shared.reference.there
  · rw [kept.custody_set]
    exact Table.within_put _ shared.reference.there'
  · exact ⟨around.trans (h.around.trans around'.symm), clock ▸ h.clock, clock' ▸ h.clock',
      by rw [after, after']; exact shelves⟩

theorem related_setCustody {row row' : β} {c : Entry kc β} (h : Twins b shelf id s t)
    (shared : Shared b (Record.table s) (Record.table t) c)
    (fault : s.updateFault kc row = t.updateFault kc row')
    (about : (About.asset row : Id k) = About.asset c.val)
    (about' : (About.asset row' : Id k) = About.asset c.val)
    (same : Blurs.blur b true row = Blurs.blur b true row') :
    Related (fun r r' => Held b shelf id (⟨c.id, row⟩, r.2) (⟨c.id, row'⟩, r'.2)) (put c.id row s)
      (put c.id row' t) :=
  related_put fault (Held.put h shared about about' same)

/-- The storage writes a custody row again, and it is read back. -/
theorem related_writeCustody {row row' : β} {c : Entry kc β} (h : Twins b shelf id s t)
    (shared : Shared b (Record.table s) (Record.table t) c)
    (fault : s.ruleFault kc row = t.ruleFault kc row')
    (fits : Record.fits kc row = Record.fits kc row')
    (about : (About.asset row : Id k) = About.asset c.val)
    (about' : (About.asset row' : Id k) = About.asset c.val)
    (same : Blurs.blur b true row = Blurs.blur b true row') :
    Related (Held b shelf id) ((overwrite c.id row >>= fun _ => reread c.id) s)
      ((overwrite c.id row' >>= fun _ => reread c.id) t) := by
  have held := Held.put h shared about about' same
  refine related_bind (related_overwrite (R := fun r r' =>
    Held b shelf id (⟨c.id, row⟩, r.2) (⟨c.id, row'⟩, r'.2)) fault held)
    fun _ s₁ _ t₁ ran ran' held => ?_
  obtain ⟨_, rfl⟩ := overwrite_ok.1 ran
  obtain ⟨_, rfl⟩ := overwrite_ok.1 ran'
  have back {u : Store} {v : β} (here : (Record.table u : Table kc β).get? c.id = some c) :
      (Record.setTable u ((Record.table u : Table kc β).put c.id v)).row? c.id =
        some ⟨c.id, v⟩ := by
    unfold Store.row?
    rw [kept.custody_set, Table.get?_put_self here]
  cases reads : Record.fits kc row with
  | true =>
    rw [reread_ok.2 ⟨back shared.row, reads, rfl⟩,
      reread_ok.2 ⟨back shared.row', fits.symm.trans reads, rfl⟩]
    exact .answered held
  | false =>
    rw [reread_of_unreadable (back shared.row) reads,
      reread_of_unreadable (back shared.row') (fits.symm.trans reads)]
    exact .refused _

theorem related_addEvent {row row' : γ} (h : Twins b shelf id s t)
    (fault : s.insertFault ke row = t.insertFault ke row') (about : About.asset row = id)
    (about' : About.asset row' = id) (same : Blurs.blur b false row = Blurs.blur b false row') :
    Related (fun r r' => Twins b shelf id r.2 r'.2) (insert ke row s) (insert ke row' t) := by
  refine related_insertOr fault ?_
  obtain ⟨around, clock, after⟩ := kept.setLedger s ((Record.table s : Table ke γ).insert row)
  obtain ⟨around', clock', after'⟩ := kept.setLedger t ((Record.table t : Table ke γ).insert row')
  have shelves := h.shelves.addEvent about about' same
  rw [kept.ledger, kept.ledger] at shelves
  exact ⟨around.trans (h.around.trans around'.symm), clock ▸ h.clock, clock' ▸ h.clock',
    by rw [after, after']; exact shelves⟩

/-- A change is recorded in both stores or in neither, whatever is recorded of it. -/
theorem related_record {sink : AuditSink} {actor : Actor} {entry entry' : AuditEntry}
    (h : Twins b shelf id s t) :
    Related (fun r r' => Twins b shelf id r.2 r'.2) (record sink actor entry s)
      (record sink actor entry' t) := by
  cases sink with
  | failing text => exact .refused _
  | log =>
    obtain ⟨s', ran⟩ : ∃ s', record .log actor entry s = .ok ((), s') := record_goes rfl
    obtain ⟨t', ran'⟩ : ∃ t', record .log actor entry' t = .ok ((), t') := record_goes rfl
    obtain ⟨_, row, minted, _, _, rfl⟩ := record_ok ran
    obtain ⟨_, row', minted', _, _, rfl⟩ := record_ok ran'
    rw [ran, ran']
    exact .answered (h.ticked (Nat.le_succ _) (Nat.le_succ _))

end Tx

end Twins

end Quartermaster
