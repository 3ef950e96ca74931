import Quartermaster.Proofs.Containment
import Quartermaster.Proofs.Store.Tables
import Quartermaster.Report

/-!
# Ordinary refusals

A refusal is ordinary when it is about the request: a right that is lacking, a demand that cannot be
met, something that is not there, a caller that is not known. All others are faults of the storage
or of this library.

1. `Results.Ordinary`: a computation is refused ordinarily if at all. It is kept by `bind`.
2. `Tx.Looks`: the transactions that are so in every store and write nothing. It is found from the
   parts of a transaction.
3. `insertOr_ordinary`, `put_ordinary`, `record_ordinary`: when the writes are. The record of a change
   is refused by nothing in the store (`record_goes`).
4. `Tx.Goes`: a transaction is not refused at all. `Tx.GoesIf`: it is not if a condition holds, and
   refused ordinarily if at all. Both are kept by `bind`.
-/

namespace Quartermaster

variable {α β : Type} {s : Store}

/-- Whether the refusal is about the request. -/
def Refusal.isOrdinary : Refusal → Bool
  | .forbidden .. | .invalid _ | .missing _ | .unauthenticated _ => true
  | _ => false

namespace Results

/-- If there is a refusal, it is an ordinary one. -/
def Ordinary (x : Except Refusal α) : Prop := ∀ why, x = .error why → why.isOrdinary = true

theorem ordinary_ok {a : α} : Ordinary (.ok a) := by
  intro why refused
  cases refused

theorem ordinary_error {why : Refusal} (h : why.isOrdinary = true) :
    Ordinary (.error why : Except Refusal α) := by
  intro _ refused
  cases refused
  exact h

namespace Ordinary

theorem bind {x : Except Refusal α} {f : α → Except Refusal β} (first : Ordinary x)
    (rest : ∀ a, x = .ok a → Ordinary (f a)) : Ordinary (x >>= f) := by
  cases x with
  | ok a => exact rest a rfl
  | error why => exact ordinary_error (first why rfl)

theorem map {x : Except Refusal α} {f : α → β} (h : Ordinary x) : Ordinary (x.map f) := by
  cases x with
  | ok a => exact ordinary_ok
  | error why => exact ordinary_error (h why rfl)

theorem mapM {f : α → Except Refusal β} {xs : List α} (h : ∀ x ∈ xs, Ordinary (f x)) :
    Ordinary (xs.mapM f) := by
  induction xs with
  | nil => exact ordinary_ok
  | cons x rest ih =>
    rw [List.mapM_cons]
    refine .bind (h x (List.mem_cons_self ..)) fun _ _ => .bind ?_ fun _ _ => ordinary_ok
    exact ih fun y later => h y (List.mem_cons_of_mem _ later)

end Ordinary

end Results

open Results (Ordinary ordinary_ok ordinary_error)

/-! ## Questions to the store -/

namespace Store

theorem named_ordinary {k : Kind} [Record k α] [Named k] {publicId : String} :
    Ordinary (s.named k publicId) := by
  unfold named
  split
  · exact ordinary_ok
  · exact ordinary_error rfl

theorem numbered_ordinary {k : Kind} [Record k α] {id : Id k} : Ordinary (s.numbered id) := by
  unfold numbered
  split
  · exact ordinary_ok
  · exact ordinary_error rfl

theorem roomOf_ordinary {room : Option String} : Ordinary (s.roomOf room) := by
  cases room with
  | none => exact ordinary_ok
  | some publicId => exact s.named_ordinary.map

theorem resolve_ordinary {node : Locator} : Ordinary (s.resolve node) := by
  cases node <;> exact s.named_ordinary.map

theorem chain_ordinary {node : Locator} : Ordinary (s.chain node) := by
  refine s.resolve_ordinary.bind fun scope _ => ?_
  cases scope with
  | room id =>
    show Ordinary (s.links.chainOfRoom id)
    rw [chainOfRoom_eq]
    exact ordinary_ok
  | location id => exact ordinary_ok
  | department id => exact ordinary_ok
  | site | detached => exact ordinary_ok

theorem covers_ordinary {b : Binding} {t : Target} : Ordinary (s.links.covers b t) := by
  have from_room (scope : Scope) : Ordinary (s.links.reachesFromRoom scope t.room) := by
    cases t.room with
    | none => exact ordinary_ok
    | some id =>
      show Ordinary ((s.links.chainOfRoom id).map _)
      rw [chainOfRoom_eq]
      exact ordinary_ok
  have from_location (scope : Scope) : Ordinary (s.links.reachesFromLocation scope t.location) := by
    cases t.location with
    | none => exact ordinary_ok
    | some id => exact ordinary_ok
  unfold Ancestry.covers
  split
  · exact ordinary_ok
  · exact ordinary_ok
  · refine (from_room _).bind fun near _ => ?_
    split
    · exact ordinary_ok
    · refine (from_location _).bind fun _ _ => ?_
      split <;> exact ordinary_ok

/-- A demand is refused because of who asks, and never because of the links. -/
theorem demand_ordinary {ctx : Context} {required : Role} {t : Target} {label : String} :
    Ordinary (s.links.demand ctx required t label) := by
  have permits : Ordinary (s.links.permits ctx required t) := by
    unfold Ancestry.permits
    split
    · exact ordinary_ok
    · split
      · exact s.covers_ordinary
      · exact ordinary_ok
  refine permits.bind fun passed _ => ?_
  split
  · exact ordinary_ok
  · exact ordinary_error rfl

/-- Somebody always answers for a room. -/
theorem responsible_goes {room : Option RoomId} :
    ∃ recipients, s.responsible room = .ok recipients := by
  unfold responsible
  cases room with
  | none => exact ⟨_, rfl⟩
  | some id =>
    simp only [chainOfRoom_eq]
    exact ⟨_, rfl⟩

theorem responsible_ordinary {room : Option RoomId} : Ordinary (s.responsible room) := by
  obtain ⟨_, asked⟩ : ∃ recipients, s.responsible room = .ok recipients := responsible_goes
  rw [asked]
  exact ordinary_ok

end Store

namespace Custody

theorem positive_ordinary {quantity : Int64} : Ordinary (positive quantity) := by
  unfold positive
  split
  · exact ordinary_ok
  · exact ordinary_error rfl

theorem addStock_ordinary {stock units : Int} : Ordinary (addStock stock units) := by
  unfold addStock
  split
  · exact ordinary_ok
  · exact ordinary_error rfl

theorem ownIssue_ordinary {ctx : Context} {e : Entry .consumable Consumable} :
    Ordinary (ownIssue ctx e s) := by
  unfold ownIssue
  split
  · exact ordinary_ok
  · exact ordinary_error rfl

end Custody

/-! ## Transactions that only look -/

namespace Tx

/-- The transaction is refused ordinarily if at all, and writes nothing. -/
class Looks (x : Tx α) : Prop where
  ordinary : ∀ s, Ordinary (x s)
  stays : ∀ s a s', x s = .ok (a, s') → s' = s

theorem ordinary_pure {a : α} : Ordinary ((pure a : Tx α) s) := ordinary_ok

theorem ordinary_bind {x : Tx α} {f : α → Tx β} (first : Ordinary (x s))
    (rest : ∀ a s₁, x s = .ok (a, s₁) → Ordinary (f a s₁)) : Ordinary ((x >>= f) s) :=
  first.bind fun r through => rest r.1 r.2 through

/-- After a look the store is as it was. -/
theorem ordinary_look {x : Tx α} {f : α → Tx β} [looks : Looks x]
    (rest : ∀ a, x s = .ok (a, s) → Ordinary (f a s)) : Ordinary ((x >>= f) s) :=
  ordinary_bind (looks.ordinary s) fun a s₁ through => by
    obtain rfl := looks.stays s a s₁ through
    exact rest a through

namespace Looks

instance {a : α} : Looks (pure a : Tx α) := ⟨fun _ => ordinary_pure, fun _ _ _ ran => (pure_ok.1 ran).2⟩

instance : Looks (get : Tx Store) := ⟨fun _ => ordinary_ok, fun _ _ _ ran => (get_ok.1 ran).2⟩

theorem read {f : Store → Except Refusal α} (h : ∀ s, Ordinary (f s)) : Looks (Tx.read f) :=
  ⟨fun s => (h s).map, fun _ _ _ ran => (read_ok.1 ran).2⟩

theorem require {ok : Bool} {why : Refusal} (h : why.isOrdinary = true) :
    Looks (Tx.require ok why) := by
  refine ⟨fun s => ?_, fun _ _ _ ran => (require_ok.1 ran).2⟩
  cases ok with
  | true => exact ordinary_ok
  | false => exact ordinary_error h

theorem present {value : Option α} {why : Refusal} (h : why.isOrdinary = true) :
    Looks (Tx.present value why) := by
  refine ⟨fun s => ?_, fun _ _ _ ran => (present_ok.1 ran).2⟩
  cases value with
  | some a => exact ordinary_ok
  | none => exact ordinary_error h

instance {x : Tx α} {f : α → Tx β} [first : Looks x] [rest : ∀ a, Looks (f a)] : Looks (x >>= f) := by
  refine ⟨fun s => ordinary_look fun a _ => (rest a).ordinary s, fun s b s' ran => ?_⟩
  obtain ⟨a, s₁, through, goes_on⟩ := bind_ok.1 ran
  exact ((rest a).stays _ _ _ goes_on).trans (first.stays _ _ _ through)

instance {ok : Bool} {why : Invalid} : Looks (Tx.require ok (.invalid why)) := require rfl

instance {value : Option α} {why : Invalid} : Looks (Tx.present value (.invalid why)) := present rfl

instance {value : Option α} {what : Missing} : Looks (Tx.present value (.missing what)) := present rfl

instance {k : Kind} [Record k α] [Named k] {publicId : String} :
    Looks (Tx.read (·.named k publicId)) :=
  read fun _ => Store.named_ordinary

instance {k : Kind} [Record k α] {id : Id k} : Looks (Tx.read (·.numbered id)) :=
  read fun _ => Store.numbered_ordinary

instance {room : Option String} : Looks (Tx.read (·.roomOf room)) :=
  read fun _ => Store.roomOf_ordinary

instance {room : Option RoomId} : Looks (Tx.read (·.responsible room)) :=
  read fun _ => Store.responsible_ordinary

instance {stock units : Int} : Looks (Tx.read fun _ => Custody.addStock stock units) :=
  read fun _ => Custody.addStock_ordinary

instance {ctx : Context} {e : Entry .consumable Consumable} :
    Looks (Tx.read (Custody.ownIssue ctx e)) :=
  read fun _ => Custody.ownIssue_ordinary

instance {ctx : Context} {required : Role} {room : Option RoomId} {label : String} :
    Looks (authorize ctx required room label) :=
  read fun _ => Store.demand_ordinary

instance {ctx : Context} {b : Binding} {deed : String} : Looks (Grants.authorize ctx b deed) :=
  read fun _ => Store.demand_ordinary

instance {k : Kind} [Record k α] {e : Entry k α} : Looks (Custody.lock e) :=
  read fun _ => Store.numbered_ordinary

instance {holder : UserId} : Looks (Custody.holderOf holder) :=
  read fun _ => Store.numbered_ordinary

instance {u : Entry .user User} : Looks (Custody.reload u) :=
  read fun s => by
    split
    · exact ordinary_ok
    · exact ordinary_error rfl

instance {ctx : Context} {e : Entry .accessory Accessory} : Looks (Custody.lockAccessory ctx e) := by
  unfold Custody.lockAccessory
  infer_instance

instance {ctx : Context} {e : Entry .consumable Consumable} :
    Looks (Custody.lockConsumable ctx e) := by
  unfold Custody.lockConsumable
  infer_instance

instance {ctx : Context} {e : Entry .equipment Equipment} {u : Entry .user User} :
    Looks (Custody.authorizeHandover ctx e u) := by
  unfold Custody.authorizeHandover
  infer_instance

instance {d : Setting} {e : Entry .consumable Consumable} : Looks (Custody.lowStockNotice d e) := by
  unfold Custody.lowStockNotice
  split <;> infer_instance

instance {name : String} : Looks (requireName name) := require rfl

end Looks

/-! ## Transactions that go through -/

/-- The transaction is not refused. -/
def Goes (x : Tx α) (s : Store) : Prop := ∃ a s', x s = .ok (a, s')

namespace Goes

theorem ordinary {x : Tx α} (goes : Goes x s) : Ordinary (x s) := by
  obtain ⟨_, _, ran⟩ := goes
  rw [ran]
  exact ordinary_ok

theorem pure {a : α} : Goes (pure a : Tx α) s := ⟨a, s, rfl⟩

theorem read {f : Store → Except Refusal α} {a : α} (asked : f s = .ok a) : Goes (read f) s :=
  ⟨a, s, read_ok.2 ⟨asked, rfl⟩⟩

/-- There is always an answer to who is responsible for a room. -/
theorem responsible {room : Option RoomId} : Goes (Tx.read (·.responsible room)) s := by
  obtain ⟨_, asked⟩ : ∃ recipients, s.responsible room = .ok recipients := Store.responsible_goes
  exact .read asked

theorem bind {x : Tx α} {f : α → Tx β} (first : Goes x s)
    (rest : ∀ a s₁, x s = .ok (a, s₁) → Goes (f a) s₁) : Goes (x >>= f) s := by
  obtain ⟨a, s₁, ran⟩ := first
  obtain ⟨b, s', goes_on⟩ := rest a s₁ ran
  exact ⟨b, s', (bind_of_ok ran).trans goes_on⟩

/-- A transaction whose first step is known goes through if the rest does. -/
theorem after {x : Tx α} {f : α → Tx β} {a : α} {s₁ : Store} (ran : x s = .ok (a, s₁))
    (rest : Goes (f a) s₁) : Goes (x >>= f) s := by
  obtain ⟨b, s', goes_on⟩ := rest
  exact ⟨b, s', (bind_of_ok ran).trans goes_on⟩

end Goes

/-- The transaction goes through if the condition holds, and is refused ordinarily if at all. -/
structure GoesIf (condition : Prop) (x : Tx α) (s : Store) : Prop where
  goes : condition → Goes x s
  ordinary : Ordinary (x s)

namespace GoesIf

variable {condition : Prop}

theorem of_goes {x : Tx α} (goes : Goes x s) : GoesIf condition x s :=
  ⟨fun _ => goes, goes.ordinary⟩

theorem imp {stronger : Prop} {x : Tx α} (h : GoesIf condition x s) (implies : stronger → condition) :
    GoesIf stronger x s :=
  ⟨fun holds => h.goes (implies holds), h.ordinary⟩

theorem after {x : Tx α} {f : α → Tx β} {a : α} {s₁ : Store} (ran : x s = .ok (a, s₁))
    (rest : GoesIf condition (f a) s₁) : GoesIf condition (x >>= f) s where
  goes holds := .after ran (rest.goes holds)
  ordinary := by
    rw [bind_of_ok ran]
    exact rest.ordinary

theorem bind {x : Tx α} {f : α → Tx β} (first : GoesIf condition x s)
    (rest : ∀ a s₁, x s = .ok (a, s₁) → GoesIf condition (f a) s₁) :
    GoesIf condition (x >>= f) s where
  goes holds := .bind (first.goes holds) fun a s₁ ran => (rest a s₁ ran).goes holds
  ordinary := ordinary_bind first.ordinary fun a s₁ ran => (rest a s₁ ran).ordinary

/-- A look is passed if the condition holds. -/
theorem look {x : Tx α} {f : α → Tx β} [Looks x]
    (passes : condition → ∃ a, x s = .ok (a, s))
    (rest : ∀ a, x s = .ok (a, s) → GoesIf condition (f a) s) : GoesIf condition (x >>= f) s where
  goes holds := by
    obtain ⟨a, passed⟩ := passes holds
    exact .after passed ((rest a passed).goes holds)
  ordinary := ordinary_look fun a passed => (rest a passed).ordinary

/-- A demand is met if the condition holds. -/
theorem require {ok : Bool} {why : Invalid} {f : Unit → Tx β} (meets : condition → ok = true)
    (rest : ok = true → GoesIf condition (f ()) s) :
    GoesIf condition (Tx.require ok (.invalid why) >>= f) s :=
  .look (fun holds => ⟨(), require_ok.2 ⟨meets holds, rfl⟩⟩) fun _ met => rest (require_ok.1 met).1

end GoesIf

/-! ## Writes -/

theorem publicIdOr_ordinary {given : Option String} : Ordinary (publicIdOr given s) := by
  cases given with
  | none => exact ordinary_ok
  | some id => exact ordinary_look fun _ _ => ordinary_pure

variable {k : Kind} [Record k α] {row : α}

/-- A row whose numbers fit can only break a rule. -/
theorem insertFault_of_fits {fault : Fault} (fits : Record.fits k row = true)
    (faulty : s.insertFault k row = some fault) : ∃ rule, fault = .constraint rule := by
  simp only [Store.insertFault, fits, Bool.not_true, Bool.false_eq_true, if_false] at faulty
  split at faulty
  · exact ⟨_, (Option.some.inj faulty).symm⟩
  · split at faulty
    · exact ⟨_, (Option.some.inj faulty).symm⟩
    · split at faulty
      · exact ⟨_, (Option.some.inj faulty).symm⟩
      · cases faulty

/-- What a broken rule is told as is up to the statement. -/
theorem insertOr_ordinary {f : Constraint → Refusal} (fits : Record.fits k row = true)
    (told : ∀ rule, (f rule).isOrdinary = true) : Ordinary (insertOr k f row s) := by
  unfold insertOr
  cases faulty : s.insertFault k row with
  | none => exact ordinary_ok
  | some fault =>
    obtain ⟨rule, rfl⟩ := insertFault_of_fits fits faulty
    exact ordinary_error (told rule)

/-- A row that breaks no rule is taken, whatever a broken rule would be told as. -/
theorem insertOr_of_faultless {f : Constraint → Refusal} (faultless : s.insertFault k row = none) :
    Ordinary (insertOr k f row s) := by
  unfold insertOr
  rw [faultless]
  exact ordinary_ok

theorem put_goes {id : Id k} (fits : Record.fits k row = true) (holds : Record.holds k row = true)
    (refers : Record.refers k s row = true) :
    put id row s = .ok ((), Record.setTable s ((Record.table s : Table k α).put id row)) :=
  put_ok.2 ⟨Store.updateFault_eq_none.2 ⟨fits, Store.ruleFault_eq_none.2 ⟨holds, refers⟩⟩, rfl⟩

/-- What the storage writes, and breaks no rule by, is read back if its numbers are words. -/
theorem overwrite_goes {id own : Id k} {x : Tx Unit} {s₁ : Store} (same : x s = overwrite id row s₁)
    (obeys : s₁.ruleFault k row = none) (fits : Record.fits k row = true)
    (back : (Record.setTable s₁ ((Record.table s₁ : Table k α).put id row)).row? id =
      some ⟨own, row⟩) : Goes (x >>= fun _ => reread id) s :=
  .after (a := ()) (same.trans (overwrite_ok.2 ⟨obeys, rfl⟩)) ⟨_, _, reread_ok.2 ⟨back, fits, rfl⟩⟩

theorem put_ordinary {id : Id k} (fits : Record.fits k row = true)
    (holds : Record.holds k row = true) (refers : Record.refers k s row = true) :
    Ordinary (put id row s) := by
  rw [put_goes fits holds refers]
  exact ordinary_ok

theorem mint_goes :
    ∃ publicId minted, publicId ∉ s.publicIds ∧ mint s = .ok (publicId, { s with minted }) := by
  cases ran : mint s with
  | ok r =>
    obtain ⟨fresh, minted, same⟩ := mint_ok ran
    exact ⟨r.1, minted, fresh, by rw [← same]⟩
  | error why => cases ran

/-- The id of a row of the audit log is minted, so the log takes every row. -/
theorem appendAudit_goes {actor : Actor} {entry : AuditEntry} {scope : ScopeNames} :
    ∃ s', appendAudit actor entry scope s = .ok ((), s') := by
  obtain ⟨publicId, _, fresh, ran⟩ := mint_goes (s := s)
  unfold appendAudit
  rw [bind_of_ok ran, bind_of_ok (now_ok.2 ⟨rfl, rfl⟩),
    bind_of_ok (insertOr_ok.2 ⟨Table.insertFault_eq_none.2 ⟨rfl, rfl, rfl, ?_⟩, rfl, rfl⟩)]
  · exact ⟨_, rfl⟩
  · -- a row with the new id would have it in use
    refine fun e member => beq_eq_false_iff_ne.2 fun used => fresh ?_
    have used : publicId ∈ s.idsOf .audit := List.mem_map.2 ⟨e, member, used.symm⟩
    exact List.mem_append_right _ used

theorem record_goes {sink : AuditSink} {actor : Actor} {entry : AuditEntry}
    (logged : sink = .log) : ∃ s', record sink actor entry s = .ok ((), s') := by
  subst logged
  exact appendAudit_goes

theorem record_ordinary {sink : AuditSink} {actor : Actor} {entry : AuditEntry}
    (logged : sink = .log) : Ordinary (record sink actor entry s) := by
  obtain ⟨_, ran⟩ : ∃ s', record sink actor entry s = .ok ((), s') := record_goes logged
  rw [ran]
  exact ordinary_ok

end Tx

/-! ## Outcomes -/

namespace Setting

variable {d : Setting} {f : α → β}

theorem commit_ordinary {tx : Tx (Committed α)} (h : Ordinary (tx s)) :
    Ordinary ((d.commit s tx).mapOk f).answer := by
  refine Ordinary.map ?_
  unfold commit Store.transact
  cases ran : tx s with
  | ok r => exact ordinary_ok
  | error why => exact ordinary_error (h why ran)

theorem commitQuietly_ordinary {tx : Tx α} (h : Ordinary (tx s)) :
    Ordinary ((d.commitQuietly s tx).mapOk f).answer :=
  commit_ordinary (h.bind fun _ _ => ordinary_ok)

/-- The second phase is entered with what the first found. -/
theorem run_ordinary {γ : Type} {p : TwoPhase γ α} (reads : Ordinary (p.read s))
    (commits : ∀ found, p.read s = .ok found → Ordinary (p.commit found s)) :
    Ordinary ((d.run s p).mapOk f).answer := by
  unfold run
  cases found : p.read s with
  | ok a => exact commit_ordinary (commits a found)
  | error why => exact ordinary_error (reads why found)

/-- What the first phase found goes through the second. -/
theorem run_goes {γ : Type} {p : TwoPhase γ α} {found : γ} (reads : p.read s = .ok found)
    (goes : Tx.Goes (p.commit found) s) : ((d.run s p).mapOk f).answer.isOk = true := by
  obtain ⟨done, s', ran⟩ := goes
  simp only [Outcome.mapOk, Outcome.map, run, reads, commit_of_ok ran]
  rfl

theorem run_of_error {γ : Type} {p : TwoPhase γ α} {found : γ} {why : Refusal}
    (reads : p.read s = .ok found) (commits : p.commit found s = .error why) :
    ((d.run s p).mapOk f).answer = .error why := by
  simp only [Outcome.mapOk, Outcome.map, run, reads, commit, Store.transact, commits, Except.map]

end Setting

end Quartermaster
