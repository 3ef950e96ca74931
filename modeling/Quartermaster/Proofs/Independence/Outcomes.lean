import Quartermaster.Proofs.Independence.Twins
import Quartermaster.Proofs.Phases

/-!
# An operation on two stores that agree on its asset

A store `t` that came about after `s` agrees with it on an asset (`Agrees`): nobody and nothing around
has changed, and the file of the asset is the same. An operation on that asset is run on both, and its
outcomes are alike (`Outcome.Twins`). That follows from what its two phases do (`Setting.run_twins`):
the first finds the same in both stores, and the second ends alike in both (`Ends`).
-/

namespace Quartermaster

/-- A row that is in both stores is named in the second as it was in the first. -/
theorem Shared.named {k : Kind} {α : Type} [Record k α] [Named k] [Lasts k] {b s t : Store}
    {e : Entry k α} {name : String} (h : Shared b (Record.table s) (Record.table t) e)
    (sound : t.Sound) (named : s.named? k name = some e) : t.named? k name = some e :=
  Store.named_of_calls sound h.row' ⟨e, h.row', beq_iff_eq.1 (Table.mem_of_find? named).2⟩

section Outcomes

variable {k kc ke : Kind} {α β γ : Type} {s t : Store} {shelf : Store → Shelf k kc ke α β γ}
  {name : String}

/-! ## Agreement on an asset -/

/-- The store `t` came about after `s`, as far as the clock and the shelf can tell. -/
structure After (shelf : Store → Shelf k kc ke α β γ) (s t : Store) : Prop where
  clock : s.clock ≤ t.clock
  custody : (shelf s).custody.last ≤ (shelf t).custody.last
  ledger : (shelf s).ledger.last ≤ (shelf t).ledger.last

theorem After.refl : After shelf s s := ⟨Nat.le_refl _, Int.le_refl _, Int.le_refl _⟩

/-- Nothing was added to a shelf that is as it was. -/
theorem After.of_same (clock : s.clock ≤ t.clock) (same : shelf t = shelf s) : After shelf s t :=
  ⟨clock, Int.le_of_eq (by rw [same]), Int.le_of_eq (by rw [same])⟩

section Agreement

variable [About k β] [About k γ] [Record k α] [Named k]

/-- The asset with a public id is in both stores as it is, with its whole file. -/
structure Unmoved (shelf : Store → Shelf k kc ke α β γ) (name : String) (s t : Store) : Prop where
  named : s.named? k name = t.named? k name
  file : ∀ e, s.named? k name = some e → (shelf s).file e.id = (shelf t).file e.id

/-- The store `t` came about after `s`, and agrees with it on all that is around and on an asset. -/
structure Agrees (shelf : Store → Shelf k kc ke α β γ) (name : String) (s t : Store) : Prop where
  sound : s.Sound
  sound' : t.Sound
  around : s.around = t.around
  after : After shelf s t
  unmoved : Unmoved shelf name s t

theorem Agrees.refl (sound : s.Sound) : Agrees shelf name s s :=
  ⟨sound, sound, rfl, .refl, rfl, fun _ _ => rfl⟩

variable [Record kc β] [Record ke γ] [kept : Kept shelf] {e : Entry k α}

theorem Agrees.rows [Lasts k] (h : Agrees shelf name s t) (named : s.named? k name = some e) :
    s.row? e.id = some e ∧ t.row? e.id = some e := by
  have row : s.row? e.id = some e := Store.row_of_named h.sound named
  have same := congrArg AssetFile.row (h.unmoved.file e named)
  simp only [Shelf.file, kept.items] at same
  exact ⟨row, same.symm.trans row⟩

/-- A custody row of the asset is in both stores as it is. -/
theorem Agrees.shared {c : Entry kc β} (h : Agrees shelf name s t)
    (named : s.named? k name = some e) (numbered : (Record.table s : Table kc β).Numbered)
    (numbered' : (Record.table t : Table kc β).Numbered)
    (member : c ∈ (Record.table s : Table kc β).entries) (about : About.asset c.val = e.id) :
    Shared s (Record.table s) (Record.table t) c := by
  have same := congrArg AssetFile.custody (h.unmoved.file e named)
  simp only [Shelf.file, kept.custody] at same
  have among : c ∈ (Record.table t : Table kc β).filter (About.asset · == e.id) := by
    rw [← same]
    exact Table.mem_filter.2 ⟨member, beq_iff_eq.2 about⟩
  exact ⟨Store.gaveOut_iff.2 (numbered.bounded c member).2, numbered.get?_of_mem member,
    numbered'.get?_of_mem (Table.mem_filter.1 among).1, numbered, numbered'⟩

end Agreement

/-! ## Outcomes -/

variable [About k β] [About k γ] [Record k α] [Record kc β] [Record ke γ] [Blurs α] [Blurs β]
  [Blurs γ]

/-- The outcomes of an operation on custody are one but for what is new since `b`: the refusal or the
answer, what listeners are told, and what is delivered. -/
structure Outcome.Alike (b : Store) (o o' : Outcome (Except Refusal Answer)) : Prop where
  answer : o.answer.map (Answer.since b) = o'.answer.map (Answer.since b)
  events : o.events = o'.events
  deliveries : o.deliveries = o'.deliveries

/-- Two transactions that went through, with twin stores after them. -/
structure Ends {δ : Type} (b : Store) (shelf : Store → Shelf k kc ke α β γ) (id : Id k)
    (f : δ → Answer) (r r' : Committed δ × Store) : Prop where
  answer : (f r.1.answer).since b = (f r'.1.answer).since b
  events : r.1.events = r'.1.events
  notice : r.1.notice = r'.1.notice
  twins : Twins b shelf id r.2 r'.2

variable [Named k]

/-- Two outcomes of an operation on the asset with a public id. -/
structure Outcome.Twins (b : Store) (shelf : Store → Shelf k kc ke α β γ) (name : String)
    (o o' : Outcome (Except Refusal Answer)) : Prop where
  alike : o.Alike b o'
  after : After shelf b o.store
  stores : ∀ e, b.named? k name = some e → Quartermaster.Twins b shelf e.id o.store o'.store

/-- The file of the asset is the same after both. -/
theorem Outcome.Twins.file [Lasts k] {b : Store} {o o' : Outcome (Except Refusal Answer)} {id : Id k}
    (h : o.Twins b shelf name o') (sound : b.Sound) (called : b.Calls id name) :
    ((shelf o.store).file id).since b = ((shelf o'.store).file id).since b := by
  have ⟨e, found, _⟩ := called
  obtain ⟨_, rfl⟩ := Table.mem_of_get? found
  exact (h.stores e (Store.named_of_calls sound found called)).shelves.file

variable [kept : Kept shelf]

theorem Agrees.twins (h : Agrees shelf name s t) {e : Entry k α}
    (named : s.named? k name = some e) : Twins s shelf e.id s t where
  around := h.around
  clock := Nat.le_refl _
  clock' := h.after.clock
  shelves := by
    have custody := h.after.custody
    have ledger := h.after.ledger
    rw [kept.custody s] at custody
    rw [kept.ledger s] at ledger
    have file := h.unmoved.file e named
    exact {
      custody_last := Int.le_of_eq (by rw [kept.custody])
      custody_last' := custody
      ledger_last := Int.le_of_eq (by rw [kept.ledger])
      ledger_last' := ledger
      row := congrArg (fun f => f.row.map (Entry.since s)) file
      custody := congrArg (fun f => f.custody.map (Entry.since s)) file
      ledger := congrArg (fun f => f.ledger.map (Entry.since s)) file }

namespace Setting

variable {d : Setting} {δ ε : Type} {f : δ → Answer}

/-- Nothing happens in either store. -/
theorem refused_twins (h : Agrees shelf name s t) (why : Refusal) :
    Outcome.Twins s shelf name { answer := .error why, store := s }
      { answer := .error why, store := t } where
  alike := ⟨rfl, rfl, rfl⟩
  after := .refl
  stores _ named := h.twins named

theorem commit_twins {tx tx' : Tx (Committed δ)} {e : Entry k α} (h : Agrees shelf name s t)
    (named : s.named? k name = some e) (ends : Related (Ends s shelf e.id f) (tx s) (tx' t)) :
    ((d.commit s tx).mapOk f).Twins s shelf name ((d.commit t tx').mapOk f) := by
  cases ran : tx s with
  | error why =>
    cases ran' : tx' t with
    | error why' =>
      rw [ran, ran'] at ends
      cases ends
      unfold commit Store.transact
      rw [ran, ran']
      exact refused_twins h why
    | ok r =>
      rw [ran, ran'] at ends
      cases ends
  | ok r =>
    cases ran' : tx' t with
    | error why =>
      rw [ran, ran'] at ends
      cases ends
    | ok r' =>
      rw [ran, ran'] at ends
      cases ends with
      | answered ends =>
      obtain ⟨answer, events, notice, twins⟩ := ends
      rw [commit_of_ok ran, commit_of_ok ran']
      refine ⟨⟨congrArg Except.ok answer, events, ?_⟩, ⟨twins.clock, ?_, ?_⟩, ?_⟩
      · exact congrArg (Option.elim · [] (·.dispatch d.notifier)) notice
      · rw [kept.custody s]
        exact twins.shelves.custody_last
      · rw [kept.ledger s]
        exact twins.shelves.ledger_last
      · intro e' named'
        obtain rfl := Option.some.inj (named.symm.trans named')
        exact twins

/-- An operation whose first phase finds the same in both stores, and whose second phase ends alike
in both. -/
theorem run_twins {p : TwoPhase ε δ} (h : Agrees shelf name s t) (reads : p.read s = p.read t)
    (commits : ∀ found, p.read s = .ok found → ∃ e, s.named? k name = some e ∧
      Related (Ends s shelf e.id f) (p.commit found s) (p.commit found t)) :
    ((d.run s p).mapOk f).Twins s shelf name ((d.run t p).mapOk f) := by
  unfold run
  rw [← reads]
  cases found : p.read s with
  | error why => exact refused_twins h why
  | ok a =>
    obtain ⟨e, named, ends⟩ := commits a found
    exact commit_twins h named ends

end Setting

end Outcomes

/-! ## Looking again -/

namespace Custody

variable {k : Kind} {α δ ε : Type} [Record k α] {s t : Store} {ctx : Context}
  {P : δ × Store → ε × Store → Prop}

theorem related_lock {e : Entry k α} {f : Entry k α → Tx δ} {g : Entry k α → Tx ε}
    (rows : s.row? e.id = some e ∧ t.row? e.id = some e) (rest : Related P (f e s) (g e t)) :
    Related P ((lock e >>= f) s) ((lock e >>= g) t) := by
  rw [Tx.bind_of_ok (lock_self rows.1), Tx.bind_of_ok (lock_self rows.2)]
  exact rest

theorem related_authorize {required : Role} {room : Option RoomId} {label : String}
    {f : Unit → Tx δ} {g : Unit → Tx ε} (around : s.around = t.around)
    (rest : Related P (f () s) (g () t)) :
    Related P ((Tx.authorize ctx required room label >>= f) s)
      ((Tx.authorize ctx required room label >>= g) t) :=
  Tx.related_read (Store.authorize_congr around) fun _ _ => rest

theorem related_reload {u : Entry .user User} {f : Entry .user User → Tx δ}
    {g : Entry .user User → Tx ε} (around : s.around = t.around)
    (rest : ∀ u, Related P (f u s) (g u t)) :
    Related P ((reload u >>= f) s) ((reload u >>= g) t) := by
  refine Tx.related_read ?_ fun u _ => rest u
  rw [Store.user_row_congr around]

theorem related_holderOf {user : UserId} {f : Entry .user User → Tx δ}
    {g : Entry .user User → Tx ε} (around : s.around = t.around)
    (rest : ∀ u, Related P (f u s) (g u t)) :
    Related P ((holderOf user >>= f) s) ((holderOf user >>= g) t) := by
  refine Tx.related_read ?_ fun u _ => rest u
  unfold Store.numbered
  rw [Store.user_row_congr around]

end Custody


end Quartermaster
