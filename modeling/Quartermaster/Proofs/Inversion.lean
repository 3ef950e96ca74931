import Quartermaster.Operation

/-!
# Taking transactions apart

A transaction that went through is read backwards: from the whole to its steps, and from each step
to what it found and what it wrote. The lemmas `..._ok` say what it means that a step answers `.ok`;
`Tx.bind_of_ok` and `Tx.bind_of_error` read the other way, from the first step to the whole.

1. `Tx.bind_ok` and the steps that write nothing (`read_ok`, `require_ok`, `present_ok`, ...).
2. The steps that write: `now_ok`, `mint_ok`, `insertOr_ok`, `put_ok`, `overwrite_ok`.
3. `Setting.commit_ok`, `Setting.run_ok`: an outcome that is no refusal came from a transaction that
   went through, and tells what that left to be told (`Setting.outcome`); or it came from a read
   (`Setting.ofRead_ok`).
-/

namespace Quartermaster

variable {α β : Type} {s s' : Store}

/-! ## Results -/

namespace Results

theorem bind_ok {x : Except Refusal α} {f : α → Except Refusal β} {b : β} :
    (x >>= f) = .ok b ↔ ∃ a, x = .ok a ∧ f a = .ok b := by
  cases x with
  | ok a => simp [bind, Except.bind]
  | error why => simp [bind, Except.bind]

theorem pure_ok {a b : α} : (pure a : Except Refusal α) = .ok b ↔ b = a := by
  simp [pure, Except.pure, eq_comm]

theorem map_ok {x : Except Refusal α} {f : α → β} {b : β} :
    x.map f = .ok b ↔ ∃ a, x = .ok a ∧ f a = b := by
  cases x with
  | ok a => simp [Except.map]
  | error why => simp [Except.map]

theorem isOk_iff {x : Except Refusal α} : x.isOk = true ↔ ∃ a, x = .ok a := by
  cases x with
  | ok a => simp [Except.isOk, Except.toBool]
  | error why => simp [Except.isOk, Except.toBool]

theorem isOk_eq_false_iff {x : Except Refusal α} : x.isOk = false ↔ ∃ why, x = .error why := by
  cases x with
  | ok a => simp [Except.isOk, Except.toBool]
  | error why => simp [Except.isOk, Except.toBool]

theorem toOption_iff {x : Except Refusal α} {a : α} : x.toOption = some a ↔ x = .ok a := by
  cases x with
  | ok a => simp [Except.toOption]
  | error why => simp [Except.toOption]

/-- What is answered for each element is answered for the list. -/
theorem mapM_ok {f : α → Except Refusal β} {g : α → β} {xs : List α}
    (h : ∀ x ∈ xs, f x = .ok (g x)) : xs.mapM f = .ok (xs.map g) := by
  induction xs with
  | nil => rfl
  | cons x rest ih =>
    rw [List.mapM_cons, h x (List.mem_cons_self ..),
      ih fun y later => h y (List.mem_cons_of_mem _ later)]
    rfl

end Results

/-! ## Transactions -/

namespace Tx

theorem bind_ok {x : Tx α} {f : α → Tx β} {b : β} :
    (x >>= f) s = .ok (b, s') ↔ ∃ a s₁, x s = .ok (a, s₁) ∧ f a s₁ = .ok (b, s') := by
  show StateT.bind x f s = _ ↔ _
  simp only [StateT.bind, Results.bind_ok, Prod.exists]

/-- A transaction goes on from its first step. -/
theorem bind_of_ok {x : Tx α} {f : α → Tx β} {a : α} {s₁ : Store} (h : x s = .ok (a, s₁)) :
    (x >>= f) s = f a s₁ := by
  show StateT.bind x f s = _
  rw [StateT.bind, h]
  rfl

/-- A first step can be taken for another one that leads to the same. -/
theorem bind_congr_left {x y : Tx α} {f : α → Tx β} (h : x s = y s') :
    (x >>= f) s = (y >>= f) s' := by
  show StateT.bind x f s = StateT.bind y f s'
  rw [StateT.bind, StateT.bind, h]

/-- A transaction is refused with its first step. -/
theorem bind_of_error {x : Tx α} {f : α → Tx β} {why : Refusal} (h : x s = .error why) :
    (x >>= f) s = .error why := by
  show StateT.bind x f s = _
  rw [StateT.bind, h]
  rfl

theorem pure_ok {a b : α} : (pure a : Tx α) s = .ok (b, s') ↔ b = a ∧ s' = s := by
  show (Except.ok (a, s) : Except Refusal (α × Store)) = .ok (b, s') ↔ _
  simp only [Except.ok.injEq, Prod.mk.injEq]
  rw [eq_comm, @eq_comm _ s s']

theorem throw_ok {why : Refusal} {a : α} : (throw why : Tx α) s = .ok (a, s') ↔ False := by
  simp [throw, throwThe, MonadExceptOf.throw, StateT.lift, bind, Except.bind]

theorem get_ok {t : Store} : (get : Tx Store) s = .ok (t, s') ↔ t = s ∧ s' = s := by
  simp [get, getThe, MonadStateOf.get, StateT.get, pure, Except.pure, eq_comm]

theorem read_ok {f : Store → Except Refusal α} {a : α} :
    read f s = .ok (a, s') ↔ f s = .ok a ∧ s' = s := by
  unfold read
  cases f s with
  | ok b => simp [Except.map, eq_comm]
  | error why => simp [Except.map]

theorem require_ok {ok : Bool} {why : Refusal} {u : Unit} :
    require ok why s = .ok (u, s') ↔ ok = true ∧ s' = s := by
  unfold require
  cases ok
  · simp [throw_ok]
  · simp [pure_ok]

theorem present_ok {value : Option α} {why : Refusal} {a : α} :
    present value why s = .ok (a, s') ↔ value = some a ∧ s' = s := by
  unfold present
  cases value with
  | none => simp [throw_ok]
  | some b =>
    simp only [pure_ok, Option.some.injEq]
    rw [eq_comm]

theorem map_ok {x : Tx α} {f : α → β} {b : β} :
    (x.map f) s = .ok (b, s') ↔ ∃ a, x s = .ok (a, s') ∧ f a = b := by
  show (StateT.map f x) s = _ ↔ _
  simp only [StateT.map, Results.bind_ok, Results.pure_ok, Prod.exists, Prod.mk.injEq]
  constructor
  · rintro ⟨a, s₁, ran, rfl, rfl⟩
    exact ⟨a, ran, rfl⟩
  · rintro ⟨a, ran, rfl⟩
    exact ⟨a, s', ran, rfl, rfl⟩

/-! The steps that write. -/

theorem now_ok {t : Stamp} :
    now s = .ok (t, s') ↔ t = ⟨s.clock⟩ ∧ s' = { s with clock := s.clock + 1 } := by
  simp [now, eq_comm]

theorem mint_ok {publicId : String} (h : mint s = .ok (publicId, s')) :
    publicId ∉ s.publicIds ∧ ∃ minted, s' = { s with minted } :=
  ⟨mint_fresh h, _, (Prod.mk.inj (Except.ok.inj h)).2.symm⟩

theorem insertOr_ok {k : Kind} [Record k α] {f : Constraint → Refusal} {row : α} {e : Entry k α} :
    insertOr k f row s = .ok (e, s') ↔
      s.insertFault k row = none ∧ e = ⟨(Record.table s : Table k α).next, row⟩ ∧
        s' = Record.setTable s ((Record.table s : Table k α).insert row) := by
  unfold insertOr
  cases s.insertFault k row with
  | none => simp [eq_comm]
  | some fault => cases fault <;> simp

theorem put_ok {k : Kind} [Record k α] {id : Id k} {row : α} {u : Unit} :
    put id row s = .ok (u, s') ↔
      s.updateFault k row = none ∧
        s' = Record.setTable s ((Record.table s : Table k α).put id row) := by
  unfold put
  cases s.updateFault k row with
  | none => simp [eq_comm]
  | some fault => simp

theorem overwrite_ok {k : Kind} [Record k α] {id : Id k} {row : α} {u : Unit} :
    overwrite id row s = .ok (u, s') ↔
      s.ruleFault k row = none ∧
        s' = Record.setTable s ((Record.table s : Table k α).put id row) := by
  unfold overwrite
  cases s.ruleFault k row with
  | none => simp [eq_comm]
  | some fault => simp

/-- A public id that is given is not blank, and a minted one is new. -/
theorem publicIdOr_ok {given : Option String} {publicId : String}
    (h : publicIdOr given s = .ok (publicId, s')) :
    (∀ id, given = some id → publicId = id ∧ Text.isBlank id = false) ∧
      (given = none → publicId ∉ s.publicIds) ∧ ∃ minted, s' = { s with minted } := by
  cases given with
  | some id =>
    simp only [publicIdOr, bind_ok, require_ok, pure_ok, Bool.not_eq_true', exists_const] at h
    obtain ⟨s₁, ⟨shown, rfl⟩, rfl, rfl⟩ := h
    refine ⟨?_, by simp, _, rfl⟩
    intro id' same
    cases same
    exact ⟨rfl, shown⟩
  | none =>
    obtain ⟨fresh, minted, rfl⟩ := mint_ok h
    exact ⟨by simp, fun _ => fresh, minted, rfl⟩

end Tx

/-! ## Questions to the store -/

namespace Store

variable {k : Kind} [Record k α]

theorem named_ok [Named k] {publicId : String} {e : Entry k α} :
    s.named k publicId = .ok e ↔ s.named? k publicId = some e := by
  unfold named
  cases s.named? k publicId with
  | some found => simp
  | none => simp

theorem numbered_ok {id : Id k} {e : Entry k α} : s.numbered id = .ok e ↔ s.row? id = some e := by
  unfold numbered
  cases s.row? id with
  | some found => simp
  | none => simp

theorem ruleFault_eq_none {row : α} :
    s.ruleFault k row = none ↔ Record.holds k row = true ∧ Record.refers k s row = true := by
  unfold ruleFault
  cases Record.holds k row <;> cases Record.refers k s row <;> simp

theorem updateFault_eq_none {row : α} :
    s.updateFault k row = none ↔ Record.fits k row = true ∧ s.ruleFault k row = none := by
  unfold updateFault
  cases Record.fits k row <;> simp

/-- The context has the rank over the room. -/
def Permits (s : Store) (ctx : Context) (required : Role) (room : Option RoomId) : Prop :=
  s.links.permits ctx required (.inRoom room) = .ok true

end Store

theorem Tx.reread_ok {k : Kind} [Record k α] {id : Id k} {e : Entry k α} :
    Tx.reread id s = .ok (e, s') ↔ s.row? id = some e ∧ Record.fits k e.val = true ∧ s' = s := by
  simp only [Tx.reread, Tx.bind_ok, Tx.read_ok, Store.numbered_ok, Tx.require_ok, Tx.pure_ok]
  constructor
  · rintro ⟨_, _, ⟨found, rfl⟩, _, _, ⟨fits, rfl⟩, rfl, rfl⟩
    exact ⟨found, fits, rfl⟩
  · rintro ⟨found, fits, rfl⟩
    exact ⟨e, _, ⟨found, rfl⟩, (), _, ⟨fits, rfl⟩, rfl, rfl⟩

/-- A row whose numbers are no words is there, but cannot be read. -/
theorem Tx.reread_of_unreadable {k : Kind} [Record k α] {id : Id k} {e : Entry k α}
    (found : s.row? id = some e) (unreadable : Record.fits k e.val = false) :
    Tx.reread id s = .error (.ofFault .outOfRange) := by
  unfold Tx.reread
  rw [Tx.bind_of_ok (Tx.read_ok.2 ⟨Store.numbered_ok.2 found, rfl⟩), unreadable]
  rfl

theorem Ancestry.demand_ok {a : Ancestry} {ctx : Context} {required : Role} {t : Target}
    {label : String} {u : Unit} :
    a.demand ctx required t label = .ok u ↔ a.permits ctx required t = .ok true := by
  unfold demand
  cases a.permits ctx required t with
  | ok passed => cases passed <;> simp [bind, Except.bind]
  | error why => simp [bind, Except.bind]

theorem Store.authorize_ok {ctx : Context} {required : Role} {room : Option RoomId}
    {label : String} {u : Unit} :
    s.authorize ctx required room label = .ok u ↔ s.Permits ctx required room :=
  Ancestry.demand_ok

theorem Tx.authorize_ok {ctx : Context} {required : Role} {room : Option RoomId}
    {label : String} {u : Unit} :
    Tx.authorize ctx required room label s = .ok (u, s') ↔ s.Permits ctx required room ∧ s' = s := by
  rw [Tx.authorize, Tx.read_ok, Store.authorize_ok]

namespace Custody

theorem positive_ok {quantity : Int64} {u : Unit} :
    positive quantity = .ok u ↔ 0 < quantity.toInt := by
  unfold positive
  split <;> simp_all

theorem addStock_ok {stock units total : Int} :
    addStock stock units = .ok total ↔ fitsWord (stock + units) = true ∧ total = stock + units := by
  unfold addStock
  split
  · next fits => simp [fits, eq_comm]
  · next exceeds => simp [exceeds]

theorem lock_ok {k : Kind} [Record k α] {found e : Entry k α} :
    lock found s = .ok (e, s') ↔ s.row? found.id = some e ∧ s' = s := by
  rw [lock, Tx.read_ok, Store.numbered_ok]

theorem reload_ok {found u : Entry .user User} :
    reload found s = .ok (u, s') ↔ s.row? found.id = some u ∧ s' = s := by
  rw [reload, Tx.read_ok]
  cases s.row? found.id with
  | some e => simp
  | none => simp

theorem holderOf_ok {holder : UserId} {u : Entry .user User} :
    holderOf holder s = .ok (u, s') ↔ s.row? holder = some u ∧ s' = s := by
  rw [holderOf, Tx.read_ok, Store.numbered_ok]

end Custody

/-! ## Outcomes -/

/-- What is left to be told, under another form of the answer. -/
def Committed.map (f : α → β) (done : Committed α) : Committed β :=
  { done with answer := f done.answer }

namespace Setting

/-- The outcome of a transaction that went through. -/
def outcome (d : Setting) (done : Committed α) (after : Store) : Outcome (Except Refusal α) where
  answer := .ok done.answer
  store := after
  events := done.events
  deliveries := done.notice.elim [] (·.dispatch d.notifier)

variable {d : Setting} {answer : α}

theorem ofRead_ok {asked : Except Refusal α} (h : (Outcome.ofRead s asked).answer = .ok answer) :
    Outcome.ofRead s asked = d.outcome { answer } s := by
  rw [show asked = .ok answer from h]
  rfl

theorem commit_of_ok {tx : Tx (Committed α)} {done : Committed α} {after : Store}
    (ran : tx s = .ok (done, after)) : d.commit s tx = d.outcome done after := by
  simp only [commit, Store.transact, ran, outcome]

theorem commit_ok {tx : Tx (Committed α)} (h : (d.commit s tx).answer = .ok answer) :
    ∃ done after, tx s = .ok (done, after) ∧ done.answer = answer ∧
      d.commit s tx = d.outcome done after := by
  cases ran : tx s with
  | error why => simp [commit, Store.transact, ran] at h
  | ok r =>
    rw [commit_of_ok ran] at h
    exact ⟨r.1, r.2, rfl, Except.ok.inj h, commit_of_ok ran⟩

theorem run_ok {p : TwoPhase β α} (h : (d.run s p).answer = .ok answer) :
    ∃ found done after, p.read s = .ok found ∧ p.commit found s = .ok (done, after) ∧
      done.answer = answer ∧ d.run s p = d.outcome done after := by
  unfold run at *
  cases reads : p.read s with
  | error why => simp [reads] at h
  | ok found =>
    simp only [reads] at h
    obtain ⟨done, after, ran, same, told⟩ := commit_ok h
    exact ⟨found, done, after, rfl, ran, same, told⟩

variable {f : α → β} {b : β}

theorem commit_mapOk {tx : Tx (Committed α)} (h : ((d.commit s tx).mapOk f).answer = .ok b) :
    ∃ done after, tx s = .ok (done, after) ∧ (done.map f).answer = b ∧
      (d.commit s tx).mapOk f = d.outcome (done.map f) after := by
  obtain ⟨a, told, rfl⟩ := Results.map_ok.1 h
  obtain ⟨done, after, ran, rfl, out⟩ := commit_ok told
  exact ⟨done, after, ran, rfl, by rw [out]; rfl⟩

theorem commitQuietly_mapOk {tx : Tx α} (h : ((d.commitQuietly s tx).mapOk f).answer = .ok b) :
    ∃ a after, tx s = .ok (a, after) ∧ f a = b ∧
      (d.commitQuietly s tx).mapOk f = d.outcome { answer := f a } after := by
  obtain ⟨done, after, mapped, same, out⟩ := commit_mapOk h
  obtain ⟨a, ran, rfl⟩ := Tx.map_ok.1 mapped
  exact ⟨a, after, ran, same, out⟩

theorem run_mapOk {γ : Type} {p : TwoPhase γ α} (h : ((d.run s p).mapOk f).answer = .ok b) :
    ∃ found done after, p.read s = .ok found ∧ p.commit found s = .ok (done, after) ∧
      (done.map f).answer = b ∧ (d.run s p).mapOk f = d.outcome (done.map f) after := by
  obtain ⟨a, told, rfl⟩ := Results.map_ok.1 h
  obtain ⟨found, done, after, reads, ran, rfl, out⟩ := run_ok told
  exact ⟨found, done, after, reads, ran, rfl, by rw [out]; rfl⟩

end Setting

end Quartermaster
