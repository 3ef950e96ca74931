import Quartermaster.Proofs.Mediation.Consumable

/-!
# What is new since a store

Two runs that begin at one store may give out ids in another order, mint other public ids, and read
the clock at other times. What both have from before stays apart from that: an id, a public id or a
stamp that is older than the store is the same in both, and all newer ones are taken for one
(`Store.blurId`, `Store.blurStamp`, `Blurs`).

The file of an asset (`AssetFile.since`) and an answer (`Answer.since`) are read in this way.
-/

namespace Quartermaster

namespace Store

/-- A reading of the clock from before the store, or the first one after it. -/
def blurStamp (b : Store) (t : Stamp) : Stamp := if t.micros < b.clock then t else ⟨b.clock⟩

section Ids

variable {k : Kind} {α : Type} [Record k α]

/-- Whether the id was given out before. -/
def gaveOut (b : Store) (id : Id k) : Bool := id.row ≤ (Record.table b : Table k α).last

/-- An id that was given out before, or the next one. -/
def blurId (b : Store) (id : Id k) : Id k :=
  if b.gaveOut id then id else (Record.table b : Table k α).next

end Ids

theorem blurStamp_of_le {b : Store} {t : Stamp} (later : b.clock ≤ t.micros) :
    b.blurStamp t = ⟨b.clock⟩ :=
  if_neg (Nat.not_lt.2 later)

end Store

/-- A row read without what is new in it. Its own public id is new if the row is. -/
class Blurs (α : Type) where
  blur : Store → Bool → α → α

namespace Blurs

/-- The public id of a row, if the row is old. -/
def publicId (old : Bool) (publicId : String) : String := if old then publicId else ""

instance : Blurs Equipment where
  blur b _ e := { e with createdAt := b.blurStamp e.createdAt, updatedAt := b.blurStamp e.updatedAt }

instance : Blurs Accessory where
  blur b _ e := { e with createdAt := b.blurStamp e.createdAt, updatedAt := b.blurStamp e.updatedAt }

instance : Blurs Consumable where
  blur b _ e := { e with createdAt := b.blurStamp e.createdAt, updatedAt := b.blurStamp e.updatedAt }

instance : Blurs EquipmentAssignment where
  blur b old a := { a with
    publicId := publicId old a.publicId
    assignedAt := b.blurStamp a.assignedAt
    returnedAt := a.returnedAt.map b.blurStamp }

instance : Blurs AccessoryAssignment where
  blur b old a := { a with
    publicId := publicId old a.publicId
    assignedAt := b.blurStamp a.assignedAt
    returnedAt := a.returnedAt.map b.blurStamp }

instance : Blurs ConsumableIssue where
  blur b old i := { i with
    publicId := publicId old i.publicId
    issuedAt := b.blurStamp i.issuedAt
    returnedAt := i.returnedAt.map b.blurStamp }

instance : Blurs EquipmentEvent where
  blur b _ r := { r with
    assignment := r.assignment.map b.blurId
    occurredAt := b.blurStamp r.occurredAt }

instance {asset custody : Kind} {β : Type} [Record custody β] : Blurs (UnitEvent asset custody) where
  blur b _ r := { r with
    custody := r.custody.map b.blurId
    occurredAt := b.blurStamp r.occurredAt }

end Blurs

/-- A row under its id, without what is new. -/
def Entry.since {k : Kind} {α : Type} [Record k α] [Blurs α] (b : Store) (e : Entry k α) :
    Entry k α :=
  ⟨b.blurId e.id, Blurs.blur b (b.gaveOut e.id) e.val⟩

/-- The file of an asset, without what is new. -/
def AssetFile.since {k kc ke : Kind} {α β γ : Type} [Record k α] [Record kc β] [Record ke γ]
    [Blurs α] [Blurs β] [Blurs γ] (b : Store) (f : AssetFile k kc ke α β γ) :
    AssetFile k kc ke α β γ where
  row := f.row.map (Entry.since b)
  custody := f.custody.map (Entry.since b)
  ledger := f.ledger.map (Entry.since b)

/-- The answer of an operation on custody, without what is new. -/
def Answer.since (b : Store) : Answer → Answer
  | .equipmentCustody c => .equipmentCustody { c with
      item := c.item.since b
      assignment := c.assignment.map (Entry.since b) }
  | .accessoryCustody c => .accessoryCustody { c with
      item := c.item.since b
      assignment := c.assignment.map (Entry.since b) }
  | .consumableCustody c => .consumableCustody { c with
      item := c.item.since b
      issue := c.issue.map (Entry.since b) }
  | answer => answer

end Quartermaster
