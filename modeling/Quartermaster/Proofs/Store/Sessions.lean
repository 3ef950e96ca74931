import Quartermaster.Proofs.Linked
import Quartermaster.Store.Session

/-!
# Sessions of repository calls

A session may catch refusals, so what stays of a call that was refused half way matters. Only the four
calls that let the storage add up units can be refused after they wrote: then a sum that is not a word
is in an open custody row (`Store.Leaves`). Such a store is looked at through `Store.cut`, which cuts
the numbers of custody rows at the largest word. What is left is a sound store, because a sum that is
cut is one of the values that the row could have been given anyway (`Store.Leaves.cut`).

The storage refuses to read a number that is not a word. Here it is answered all the same. Who goes on
after that refusal is then one who does not mind the answer, so no store that could be left is missed.

1. `Session.transaction_calls`: without a catch, sessions are transactions.
2. `Session.Composed.left`: what a session of repository calls can do to the tables.
3. `Store.Leaves.cut`, `Store.Leaves.settled`: what each of its steps keeps.
4. `Store.Remains.settled`: what holds of every store that sessions leave.
-/

namespace Quartermaster

/-! ## Sessions and transactions -/

namespace Session

variable {α β : Type} {tx : Tx α} {s s₁ : Store} {x : Session α}

/-- A session goes on from where its first part left the store. -/
theorem bind_of_ok {f : α → Session β} {a : α} (h : x s = (.ok a, s₁)) : (x >>= f) s = f a s₁ := by
  show StateT.bind x (ExceptT.bindCont f) s = _
  rw [StateT.bind, h]
  rfl

theorem bind_of_error {f : α → Session β} {why : Refusal} (h : x s = (.error why, s₁)) :
    (x >>= f) s = (.error why, s₁) := by
  show StateT.bind x (ExceptT.bindCont f) s = _
  rw [StateT.bind, h]
  rfl

theorem tryCatch_of_ok {handler : Refusal → Session α} {a : α} (h : x s = (.ok a, s₁)) :
    tryCatch x handler s = (.ok a, s₁) := by
  simp only [tryCatch, tryCatchThe, MonadExceptOf.tryCatch, ExceptT.tryCatch, ExceptT.mk, bind,
    StateT.bind, h]
  rfl

/-- What is done about a refusal goes on from where the refused part left the store. -/
theorem tryCatch_of_error {handler : Refusal → Session α} {why : Refusal}
    (h : x s = (.error why, s₁)) : tryCatch x handler s = handler why s₁ := by
  simp only [tryCatch, tryCatchThe, MonadExceptOf.tryCatch, ExceptT.tryCatch, ExceptT.mk, bind,
    StateT.bind, h]

theorem call_of_ok {a : α} (h : tx s = .ok (a, s₁)) : call tx s = (.ok a, s₁) := by
  rw [call, Store.transact, h]

theorem call_of_error {why : Refusal} (h : tx s = .error why) : call tx s = (.error why, s) := by
  rw [call, Store.transact, h]

/-- Calls of which no refusal is caught are one transaction. -/
theorem transaction_calls (tx : Tx α) (f : α → Tx β) :
    transaction (call tx >>= fun a => call (f a)) = call (tx >>= f) := by
  funext s
  unfold transaction
  cases first : tx s with
  | error why =>
    rw [bind_of_error (call_of_error first), call_of_error (Tx.bind_of_error first)]
  | ok r =>
    rw [bind_of_ok (call_of_ok first)]
    have both := Tx.bind_of_ok (f := f) first
    cases second : f r.1 r.2 with
    | error why => rw [call_of_error second, call_of_error (both.trans second)]
    | ok r' => rw [call_of_ok second, call_of_ok (both.trans second)]

end Session

/-! ## What a session can do to the tables -/

/-- What one step of a session can do to the tables: a write, or a sum of the storage in an open custody
row, which meets the rules of the row but need not be a word. -/
inductive Store.Leaves (s : Store) : Store → Prop
  | write {s' : Store} (w : s.Write s') : s.Leaves s'
  | sumAccessories {e : Entry .accessoryAssignment AccessoryAssignment} {row : AccessoryAssignment}
      (member : e ∈ s.accessoryAssignments.entries) (opened : e.val.isOpen = true)
      (obeys : s.ruleFault .accessoryAssignment row = none)
      (keys : Table.KeepsKeys .accessoryAssignment e.val row) :
      s.Leaves { s with accessoryAssignments := s.accessoryAssignments.put e.id row }
  | sumIssues {e : Entry .consumableIssue ConsumableIssue} {row : ConsumableIssue}
      (member : e ∈ s.consumableIssues.entries) (opened : e.val.isOpen = true)
      (obeys : s.ruleFault .consumableIssue row = none)
      (keys : Table.KeepsKeys .consumableIssue e.val row) :
      s.Leaves { s with consumableIssues := s.consumableIssues.put e.id row }

/-- Steps in a row. -/
abbrev Store.Left : Store → Store → Prop := Relation.ReflTransGen Store.Leaves

theorem Store.Written.left {s s' : Store} (h : s.Written s') : s.Left s' :=
  h.lift id fun _ _ => .write

namespace Session

/-- Calls of the repository that are put together in a session. What is called may depend on what was
answered so far, and on the refusals that were caught. -/
inductive Composed : {α : Type} → Session α → Prop
  | call {α : Type} (tx : Tx α) : tx.Composed → Composed (call tx)
  | increaseAccessoryAssignment (id : AccessoryAssignmentId) (units : Int) :
      Composed (increaseAccessoryAssignment id units)
  | reduceAccessoryAssignment (id : AccessoryAssignmentId) (units : Int) :
      Composed (reduceAccessoryAssignment id units)
  | increaseIssue (id : ConsumableIssueId) (units : Int) : Composed (increaseIssue id units)
  | reduceIssue (id : ConsumableIssueId) (units : Int) : Composed (reduceIssue id units)
  | bind {α β : Type} {x : Session α} {f : α → Session β} :
      Composed x → (∀ a, Composed (f a)) → Composed (x >>= f)
  | tryCatch {α : Type} {x : Session α} {handler : Refusal → Session α} :
      Composed x → (∀ why, Composed (handler why)) → Composed (tryCatch x handler)
  | transaction {α : Type} {body : Session α} : Composed body → Composed (transaction body)

variable {α β : Type} {s : Store}

/-- What a session that goes on can do, its parts can do. -/
theorem bind_left {x : Session α} {f : α → Session β} (first : s.Left (x s).2)
    (rest : ∀ a, (x s).2.Left (f a (x s).2).2) : s.Left ((x >>= f) s).2 := by
  rcases ran : x s with ⟨answer, after⟩
  rw [ran] at first rest
  cases answer with
  | ok a =>
    rw [bind_of_ok ran]
    exact first.trans (rest a)
  | error why =>
    rw [bind_of_error ran]
    exact first

theorem call_left {tx : Tx α} (ran : ∀ a s', tx s = .ok (a, s') → s.Left s') :
    s.Left (call tx s).2 := by
  cases went : tx s with
  | ok r =>
    rw [call_of_ok went]
    exact ran r.1 r.2 went
  | error why =>
    rw [call_of_error went]

/-- A sum of the storage that is read again. -/
theorem reread_left {k : Kind} [Record k α] {tx : Tx Unit} {id : Id k}
    (ran : ∀ u s', tx s = .ok (u, s') → s.Left s') :
    s.Left ((call tx >>= fun _ => call (Tx.reread id)) s).2 :=
  bind_left (call_left ran) fun _ => call_left fun _ _ again => by
    rw [(Tx.reread_ok.1 again).2.2]

theorem increaseAccessoryAssignment_left {id : AccessoryAssignmentId} {units : Int} :
    s.Left (increaseAccessoryAssignment id units s).2 := by
  refine reread_left fun u s' added => ?_
  cases held : (s.row? id).filter (·.val.isOpen) with
  | some e =>
    obtain ⟨found, opened⟩ := Option.filter_eq_some_iff.1 held
    rw [Tx.addToAccessoryAssignment_eq units found opened] at added
    obtain ⟨obeys, rfl⟩ := Tx.overwrite_ok.1 added
    obtain ⟨member, rfl⟩ := Table.mem_of_get? found
    exact .single (.sumAccessories member opened obeys ⟨fun _ h => h, fun _ h => h⟩)
  | none =>
    rw [(Tx.addToAccessoryAssignment_idle held).1 added]

theorem reduceAccessoryAssignment_left {id : AccessoryAssignmentId} {units : Int} :
    s.Left (reduceAccessoryAssignment id units s).2 := by
  refine reread_left fun u s' taken => ?_
  cases held : (s.row? id).filter (·.val.isOpen) with
  | some e =>
    obtain ⟨found, opened⟩ := Option.filter_eq_some_iff.1 held
    rw [Tx.takeFromAccessoryAssignment_eq units found opened rfl] at taken
    obtain ⟨obeys, rfl⟩ := Tx.overwrite_ok.1 taken
    obtain ⟨member, rfl⟩ := Table.mem_of_get? found
    exact (Relation.ReflTransGen.single (.sumAccessories member opened obeys
      (e.val.keepsKeys_reduce opened _ _ _))).tail (.write (.tick _ _))
  | none =>
    rw [(Tx.takeFromAccessoryAssignment_idle held).1 taken]
    exact .single (.write (.tick _ _))

theorem increaseIssue_left {id : ConsumableIssueId} {units : Int} :
    s.Left (increaseIssue id units s).2 := by
  refine reread_left fun u s' added => ?_
  cases held : (s.row? id).filter (·.val.isOpen) with
  | some e =>
    obtain ⟨found, opened⟩ := Option.filter_eq_some_iff.1 held
    rw [Tx.addToIssue_eq units found opened] at added
    obtain ⟨obeys, rfl⟩ := Tx.overwrite_ok.1 added
    obtain ⟨member, rfl⟩ := Table.mem_of_get? found
    exact .single (.sumIssues member opened obeys ⟨fun _ h => h, fun _ h => h⟩)
  | none =>
    rw [(Tx.addToIssue_idle held).1 added]

theorem reduceIssue_left {id : ConsumableIssueId} {units : Int} :
    s.Left (reduceIssue id units s).2 := by
  refine reread_left fun u s' taken => ?_
  cases held : (s.row? id).filter (·.val.isOpen) with
  | some e =>
    obtain ⟨found, opened⟩ := Option.filter_eq_some_iff.1 held
    rw [Tx.takeFromIssue_eq units found opened rfl] at taken
    obtain ⟨obeys, rfl⟩ := Tx.overwrite_ok.1 taken
    obtain ⟨member, rfl⟩ := Table.mem_of_get? found
    exact (Relation.ReflTransGen.single (.sumIssues member opened obeys
      (e.val.keepsKeys_reduce opened _ _ _))).tail (.write (.tick _ _))
  | none =>
    rw [(Tx.takeFromIssue_idle held).1 taken]
    exact .single (.write (.tick _ _))

/-- A session of repository calls takes such steps only, whatever it catches. -/
theorem Composed.left {x : Session α} (h : x.Composed) (s : Store) : s.Left (x s).2 := by
  induction h generalizing s with
  | call tx composed => exact call_left fun _ _ ran => (composed.written ran).left
  | increaseAccessoryAssignment => exact increaseAccessoryAssignment_left
  | reduceAccessoryAssignment => exact reduceAccessoryAssignment_left
  | increaseIssue => exact increaseIssue_left
  | reduceIssue => exact reduceIssue_left
  | bind _ _ first rest => exact bind_left (first s) fun a => rest a _
  | @tryCatch _ x handler _ _ first rest =>
    have tried := first s
    rcases ran : x s with ⟨answer, after⟩
    rw [ran] at tried
    cases answer with
    | ok a =>
      rw [tryCatch_of_ok ran]
      exact tried
    | error why =>
      rw [tryCatch_of_error ran]
      exact tried.trans (rest why after)
  | @transaction _ body _ carried =>
    have done := carried s
    unfold Session.transaction
    rcases ran : body s with ⟨answer, after⟩
    rw [ran] at done
    cases answer with
    | ok a => exact done
    | error why => exact .refl

end Session

/-! ## Numbers cut at the largest word -/

/-- The number, or the largest word instead of a larger one. -/
def cutWord (n : Int) : Int := min n 0x7FFFFFFFFFFFFFFF

theorem cutWord_of_word {n : Int} (word : fitsWord n = true) : cutWord n = n := by
  have := fitsWord_iff.1 word
  unfold cutWord
  omega

theorem fitsWord_cutWord {n : Int} (nonneg : 0 ≤ n) : fitsWord (cutWord n) = true := by
  rw [fitsWord_iff, cutWord]
  omega

def AccessoryAssignment.cut (a : AccessoryAssignment) : AccessoryAssignment :=
  { a with quantity := cutWord a.quantity }

def ConsumableIssue.cut (i : ConsumableIssue) : ConsumableIssue :=
  { i with quantity := cutWord i.quantity, issuedQuantity := cutWord i.issuedQuantity }

/-- The store with the numbers of all custody rows cut. -/
def Store.cut (s : Store) : Store :=
  { s with
    accessoryAssignments := s.accessoryAssignments.map (·.cut)
    consumableIssues := s.consumableIssues.map (·.cut) }

/-- Cutting the numbers of rows that meet their rules makes words of them, and changes no word and no
key. -/
structure Cuts (k : Kind) {α : Type} [Record k α] (cut : α → α) : Prop where
  fits : ∀ a, Record.holds k a = true → Record.fits k (cut a) = true
  holds : ∀ a, Record.holds k a = true → Record.holds k (cut a) = true
  same : ∀ a, Record.fits k a = true → cut a = a
  left : ∀ a b, Record.clashes k (cut a) b = Record.clashes k a b
  right : ∀ a b, Record.clashes k b (cut a) = Record.clashes k b a

theorem AccessoryAssignment.cuts : Cuts .accessoryAssignment AccessoryAssignment.cut where
  fits _ holds := fitsWord_cutWord (quantity_nonneg holds)
  holds a holds := by
    cases state : a.state with
    | opened =>
      have opened : a.isOpen = true := beq_iff_eq.2 state
      obtain ⟨some_held, returned⟩ := (holds_opened opened).1 holds
      refine (holds_opened (by exact opened)).2 ⟨?_, returned⟩
      show 1 ≤ cutWord a.quantity
      unfold cutWord
      omega
    | closed =>
      obtain ⟨empty, returned⟩ := (holds_closed state).1 holds
      refine (holds_closed (by exact state)).2 ⟨?_, returned⟩
      show cutWord a.quantity = 0
      rw [empty]
      rfl
  same a word := by
    rw [cut, cutWord_of_word word]
  left _ _ := rfl
  right _ _ := rfl

theorem ConsumableIssue.cuts : Cuts .consumableIssue ConsumableIssue.cut where
  fits _ holds := Bool.and_eq_true_iff.2
    ⟨fitsWord_cutWord (quantity_nonneg holds), fitsWord_cutWord (issued_pos holds).le⟩
  holds i holds := by
    have within : ∀ {m n : Int}, m ≤ n → cutWord m ≤ cutWord n := by
      intro m n le
      unfold cutWord
      omega
    cases state : i.state with
    | opened =>
      have opened : i.isOpen = true := beq_iff_eq.2 state
      obtain ⟨given, fewer, some_held, returned⟩ := (holds_opened opened).1 holds
      exact (holds_opened (by exact opened)).2 ⟨within given, within fewer, within some_held, returned⟩
    | closed =>
      obtain ⟨given, fewer, empty, returned⟩ := (holds_closed state).1 holds
      refine (holds_closed (by exact state)).2 ⟨within given, within fewer, ?_, returned⟩
      show cutWord i.quantity = 0
      rw [empty]
      rfl
  same i words := by
    obtain ⟨word, word'⟩ := Bool.and_eq_true_iff.1 words
    rw [cut, cutWord_of_word word, cutWord_of_word word']
  left _ _ := rfl
  right _ _ := rfl

namespace Cuts

variable {k : Kind} {α : Type} [Record k α] {cut : α → α} {s s' : Store} {row : α}

/-- A row that is taken has words, and is taken beside rows that are cut. -/
theorem takes (h : Cuts k cut) (table : (Record.table s' : Table k α) = (Record.table s).map cut)
    (refers : Record.refers k s' row = Record.refers k s row)
    (faultless : s.insertFault k row = none) :
    cut row = row ∧ s'.insertFault k row = none := by
  obtain ⟨fits, holds, good, alone⟩ := Table.insertFault_eq_none.1 faultless
  refine ⟨h.same row fits,
    Table.insertFault_eq_none.2 ⟨fits, holds, refers.trans good, fun e member => ?_⟩⟩
  rw [table] at member
  obtain ⟨old, here, rfl⟩ := Table.mem_map.1 member
  exact (h.right _ _).trans (alone old here)

/-- New values that break no rule have no fault when they are cut. -/
theorem faultless (h : Cuts k cut)
    (refers : Record.refers k s' (cut row) = Record.refers k s row)
    (obeys : s.ruleFault k row = none) : s'.updateFault k (cut row) = none := by
  obtain ⟨holds, good⟩ := Store.ruleFault_eq_none.1 obeys
  exact Store.updateFault_eq_none.2
    ⟨h.fits _ holds, Store.ruleFault_eq_none.2 ⟨h.holds _ holds, refers.trans good⟩⟩

theorem keys (h : Cuts k cut) {old : α} (keys : Table.KeepsKeys k old row) :
    Table.KeepsKeys k (cut old) (cut row) where
  left b clash := by
    rw [h.left] at clash ⊢
    exact keys.left b clash
  right b clash := by
    rw [h.right] at clash ⊢
    exact keys.right b clash

end Cuts

namespace Store

variable {s s' : Store}

/-- A sum in an assignment that is cut is a change that the storage takes. -/
theorem cut_sumAccessories {e : Entry .accessoryAssignment AccessoryAssignment}
    {row : AccessoryAssignment} (member : e ∈ s.accessoryAssignments.entries)
    (opened : e.val.isOpen = true) (obeys : s.ruleFault .accessoryAssignment row = none)
    (keys : Table.KeepsKeys .accessoryAssignment e.val row) :
    s.cut.Write { s with accessoryAssignments := s.accessoryAssignments.put e.id row }.cut := by
  have w : s.cut.Write { s.cut with
      accessoryAssignments := s.cut.accessoryAssignments.put e.id row.cut } :=
    .changeAccessoryAssignment (e := ⟨e.id, e.val.cut⟩) (Table.mem_map.2 ⟨e, member, rfl⟩) opened
      (AccessoryAssignment.cuts.faultless rfl obeys) (AccessoryAssignment.cuts.keys keys)
  unfold cut at w ⊢
  rwa [Table.map_put]

theorem cut_sumIssues {e : Entry .consumableIssue ConsumableIssue} {row : ConsumableIssue}
    (member : e ∈ s.consumableIssues.entries) (opened : e.val.isOpen = true)
    (obeys : s.ruleFault .consumableIssue row = none)
    (keys : Table.KeepsKeys .consumableIssue e.val row) :
    s.cut.Write { s with consumableIssues := s.consumableIssues.put e.id row }.cut := by
  have w : s.cut.Write { s.cut with
      consumableIssues := s.cut.consumableIssues.put e.id row.cut } :=
    .changeConsumableIssue (e := ⟨e.id, e.val.cut⟩) (Table.mem_map.2 ⟨e, member, rfl⟩) opened
      (ConsumableIssue.cuts.faultless rfl obeys) (ConsumableIssue.cuts.keys keys)
  unfold cut at w ⊢
  rwa [Table.map_put]

/-- A new assignment is taken beside those that are cut. -/
theorem cut_addAccessoryAssignment {row : AccessoryAssignment}
    (ok : s.insertFault .accessoryAssignment row = none) :
    s.cut.Write { s with accessoryAssignments := s.accessoryAssignments.insert row }.cut := by
  obtain ⟨same, taken⟩ : row.cut = row ∧ s.cut.insertFault .accessoryAssignment row = none :=
    AccessoryAssignment.cuts.takes rfl rfl ok
  have w := Write.addAccessoryAssignment taken
  unfold cut at w ⊢
  rwa [Table.map_insert, same]

theorem cut_addConsumableIssue {row : ConsumableIssue}
    (ok : s.insertFault .consumableIssue row = none) :
    s.cut.Write { s with consumableIssues := s.consumableIssues.insert row }.cut := by
  obtain ⟨same, taken⟩ : row.cut = row ∧ s.cut.insertFault .consumableIssue row = none :=
    ConsumableIssue.cuts.takes rfl rfl ok
  have w := Write.addConsumableIssue taken
  unfold cut at w ⊢
  rwa [Table.map_insert, same]

/-- A custody row that is cut can be referred to as before. -/
theorem cut_accessoryEvent {row : AccessoryEvent} (ok : s.insertFault .accessoryEvent row = none) :
    s.cut.insertFault .accessoryEvent row = none := by
  obtain ⟨fits, holds, good, alone⟩ := Table.insertFault_eq_none.1 ok
  refine Table.insertFault_eq_none.2 ⟨fits, holds, ?_, alone⟩
  simpa only [Record.refers, cut, Table.resolves_map] using good

theorem cut_consumableEvent {row : ConsumableEvent}
    (ok : s.insertFault .consumableEvent row = none) :
    s.cut.insertFault .consumableEvent row = none := by
  obtain ⟨fits, holds, good, alone⟩ := Table.insertFault_eq_none.1 ok
  refine Table.insertFault_eq_none.2 ⟨fits, holds, ?_, alone⟩
  simpa only [Record.refers, cut, Table.resolves_map] using good

/-- Every write goes through in the store whose numbers are cut. -/
theorem Write.cut (w : s.Write s') : s.cut.Write s'.cut := by
  cases w with
  | tick clock minted => exact .tick clock minted
  | addDepartment ok => exact .addDepartment ok
  | addLocation ok => exact .addLocation ok
  | addRoom ok => exact .addRoom ok
  | addUser ok => exact .addUser ok
  | addRole attached readable ok => exact .addRole attached readable ok
  | addEquipment ok => exact .addEquipment ok
  | addEquipmentAssignment ok => exact .addEquipmentAssignment ok
  | addEquipmentEvent ok => exact .addEquipmentEvent ok
  | addAccessory ok => exact .addAccessory ok
  | addAccessoryAssignment ok => exact cut_addAccessoryAssignment ok
  | addAccessoryEvent ok => exact .addAccessoryEvent (cut_accessoryEvent ok)
  | addConsumable ok => exact .addConsumable ok
  | addConsumableIssue ok => exact cut_addConsumableIssue ok
  | addConsumableEvent ok => exact .addConsumableEvent (cut_consumableEvent ok)
  | addAudit ok => exact .addAudit ok
  | changeLocation member ok keys => exact .changeLocation member ok keys
  | changeRoom member ok keys => exact .changeRoom member ok keys
  | changeUser member ok keys => exact .changeUser member ok keys
  | changeEquipment member ok keys => exact .changeEquipment member ok keys
  | changeEquipmentAssignment member opened ok keys =>
    exact .changeEquipmentAssignment member opened ok keys
  | changeAccessory member ok keys => exact .changeAccessory member ok keys
  | changeAccessoryAssignment member opened ok keys =>
    exact cut_sumAccessories member opened (updateFault_eq_none.1 ok).2 keys
  | changeConsumable member ok keys => exact .changeConsumable member ok keys
  | changeConsumableIssue member opened ok keys =>
    exact cut_sumIssues member opened (updateFault_eq_none.1 ok).2 keys
  | withdraw id => exact .withdraw id
  | @deleteNode node scope named =>
    have cut_without : (s.without scope).cut = s.cut.without scope := by cases scope <;> rfl
    rw [cut_without]
    exact .deleteNode named

/-- So does a sum that is cut. -/
theorem Leaves.cut (w : s.Leaves s') : s.cut.Write s'.cut := by
  cases w with
  | write w => exact w.cut
  | sumAccessories member opened obeys keys => exact cut_sumAccessories member opened obeys keys
  | sumIssues member opened obeys keys => exact cut_sumIssues member opened obeys keys

/-! ## What sessions keep -/

/-- Custody rows meet their own rules, whether or not their numbers are words. -/
structure CustodyHolds (s : Store) : Prop where
  accessories : ∀ a ∈ s.accessoryAssignments.entries,
    Record.holds .accessoryAssignment a.val = true
  issues : ∀ i ∈ s.consumableIssues.entries, Record.holds .consumableIssue i.val = true

/-- The store is sound but for numbers of custody rows that are not words. -/
structure Settled (s : Store) : Prop where
  sound : s.cut.Sound
  linked : s.Linked
  holds : s.CustodyHolds

theorem Leaves.linked (w : s.Leaves s') (linked : s.Linked) : s'.Linked := by
  cases w with
  | write w => exact w.linked linked
  | sumAccessories _ _ obeys => exact linked.put obeys
  | sumIssues _ _ obeys => exact linked.put obeys

namespace CustodyHolds

theorem putAssignment (h : s.CustodyHolds) {id : AccessoryAssignmentId} {row : AccessoryAssignment}
    (obeys : s.ruleFault .accessoryAssignment row = none) :
    CustodyHolds { s with accessoryAssignments := s.accessoryAssignments.put id row } where
  accessories := Table.forall_put (fun a here _ => h.accessories a here) (ruleFault_eq_none.1 obeys).1
  issues := h.issues

theorem putIssue (h : s.CustodyHolds) {id : ConsumableIssueId} {row : ConsumableIssue}
    (obeys : s.ruleFault .consumableIssue row = none) :
    CustodyHolds { s with consumableIssues := s.consumableIssues.put id row } where
  accessories := h.accessories
  issues := Table.forall_put (fun i here _ => h.issues i here) (ruleFault_eq_none.1 obeys).1

theorem write (h : s.CustodyHolds) (w : s.Write s') : s'.CustodyHolds := by
  cases w with
  | addAccessoryAssignment ok =>
    exact ⟨Table.forall_insert h.accessories (Table.insertFault_eq_none.1 ok).holds, h.issues⟩
  | addConsumableIssue ok =>
    exact ⟨h.accessories, Table.forall_insert h.issues (Table.insertFault_eq_none.1 ok).holds⟩
  | changeAccessoryAssignment _ _ ok => exact h.putAssignment (ruleFault_of_update ok)
  | changeConsumableIssue _ _ ok => exact h.putIssue (ruleFault_of_update ok)
  | @deleteNode _ scope => cases scope <;> exact ⟨h.accessories, h.issues⟩
  | _ => exact ⟨h.accessories, h.issues⟩

end CustodyHolds

theorem Leaves.holds (w : s.Leaves s') (h : s.CustodyHolds) : s'.CustodyHolds := by
  cases w with
  | write w => exact h.write w
  | sumAccessories _ _ obeys => exact h.putAssignment obeys
  | sumIssues _ _ obeys => exact h.putIssue obeys

theorem Leaves.settled (w : s.Leaves s') (h : s.Settled) : s'.Settled where
  sound := w.cut.sound h.sound
  linked := w.linked h.linked
  holds := w.holds h.holds

theorem Left.settled (h : s.Left s') (settled : s.Settled) : s'.Settled := by
  induction h with
  | refl => exact settled
  | tail _ w ih => exact w.settled ih

/-! ## Stores that remain -/

/-- One session of repository calls leads from store to store. -/
def Serves (s s' : Store) : Prop :=
  ∃ (α : Type) (x : Session α), x.Composed ∧ (x s).2 = s'

/-- Sessions of repository calls lead to the store from an empty one. -/
def Remains (s : Store) : Prop :=
  ∃ supply clock minted, Relation.ReflTransGen Serves { supply, clock, minted } s

theorem Commits.serves (h : s.Commits s') : s.Serves s' := by
  obtain ⟨α, tx, composed, left⟩ := h
  exact ⟨α, Session.call tx, .call tx composed, left⟩

theorem Arises.remains (h : s.Arises) : s.Remains := by
  obtain ⟨supply, clock, minted, evolves⟩ := h
  exact ⟨supply, clock, minted, evolves.lift id fun _ _ => Commits.serves⟩

theorem Remains.serves (h : s.Remains) (serves : s.Serves s') : s'.Remains := by
  obtain ⟨supply, clock, minted, before⟩ := h
  exact ⟨supply, clock, minted, before.tail serves⟩

theorem settled_empty (supply clock minted : Nat) : Settled { supply, clock, minted } where
  sound := sound_empty supply clock minted
  linked := by constructor <;> exact List.forall_mem_nil _
  holds := ⟨List.forall_mem_nil _, List.forall_mem_nil _⟩

/-- Whatever sessions do, and whatever they catch, the store is settled. -/
theorem Remains.settled (h : s.Remains) : s.Settled := by
  obtain ⟨supply, clock, minted, served⟩ := h
  induction served with
  | refl => exact settled_empty supply clock minted
  | tail _ serves ih =>
    obtain ⟨α, x, composed, rfl⟩ := serves
    exact Left.settled (composed.left _) ih

end Store

end Quartermaster
