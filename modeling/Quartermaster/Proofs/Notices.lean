import Quartermaster.Proofs.Lasting
import Quartermaster.Proofs.Recipients

/-!
# What is told to whom

Two things are told to those who answer for a room: that an issue left stock at or below its
threshold, and that a holder reported a loss. Who they are is asked in the transaction, which is over
when they are told, so nothing depends on what comes of it.

1. `Occasion`: when something is to be told, read off the answer and the store that is left.
2. `ConsumableStep.issue_told`, `ConsumableStep.reportLoss_told`: what these steps leave to be told. No
   other step leaves anything (`OperationStep.silent`).
3. `Operation.run_unheard`: what hands notices out decides nothing.
4. `Reachable.notices`.
-/

namespace Quartermaster

/-- When those who answer for a room are to be told something. -/
inductive Occasion (d : Setting) (out : Outcome (Except Refusal Answer)) :
    Operation → Notification → Option RoomId → Prop
  /-- An issue leaves the stock of its item at or below the threshold. -/
  | lowStock {ctx : Context} {item user : String} {quantity : Int64} {purpose : Option String}
      {e : Entry .consumable Consumable} {issue : Option (Entry .consumableIssue ConsumableIssue)}
      (answered : out.answer = .ok (.consumableCustody { item := e, issue }))
      (stored : out.store.row? e.id = some e)
      (named : out.store.named? .consumable item = some e)
      (enabled : d.lowStockNotices = true)
      (low : e.val.quantity ≤ e.val.lowStockThreshold) :
      Occasion d out (.caller ctx (.consumables (.issue item user quantity purpose)))
        (.lowStock item e.val.quantity e.val.lowStockThreshold) e.val.room
  /-- A holder reports a loss. -/
  | loss {ctx : Context} {item : String} {quantity : Int64} {kind : LossKind}
      {custody : ConsumableCustody} {u : Entry .user User}
      (answered : out.answer = .ok (.consumableCustody custody))
      (caller : out.store.named? .user ctx.actor.publicId = some u) :
      Occasion d out (.caller ctx (.consumables (.reportLoss item quantity kind)))
        (.lossReported item u.val.publicId kind.eventType quantity.toInt) u.val.room

/-- The two outcomes differ at most in what came of the notices. -/
structure Outcome.SameButResults {α : Type} (o o' : Outcome α) : Prop where
  answer : o'.answer = o.answer
  store : o'.store = o.store
  events : o'.events = o.events
  notices : o'.deliveries.map (·.notice) = o.deliveries.map (·.notice)

/-- What is told of an operation on a store. -/
structure Store.Announces (s : Store) (d : Setting) (op : Operation) : Prop where
  silent : (∀ told room, ¬Occasion d (op.run d s) op told room) → (op.run d s).deliveries = []
  /-- What there is to tell goes to those who answer for the room, once, if there are any. -/
  told (told : Notification) (room : Option RoomId) : Occasion d (op.run d s) op told room →
    ∃ people, (op.run d s).store.Answerable room people ∧
      (op.run d s).deliveries =
        if people = [] then []
        else [⟨⟨people.map .ofUser, told⟩, d.notifier ⟨people.map .ofUser, told⟩⟩]
  /-- Who reports a loss is the holder of what is lost. -/
  holder (ctx : Context) (item : String) (quantity : Int64) (kind : LossKind) :
    op = .caller ctx (.consumables (.reportLoss item quantity kind)) → s.Knows ctx →
    ∀ e i u, (op.run d s).answer = .ok (.consumableCustody { item := e, issue := some i }) →
      (op.run d s).store.named? .user ctx.actor.publicId = some u → i.val.holder = u.id
  /-- Whether notices arrive makes no other difference. -/
  unheard (notifier : Notifier) : (op.run d s).SameButResults (op.run { d with notifier } s)

variable {d : Setting} {s s' : Store} {ctx : Context} {done : Committed Answer}

/-! ## What hands notices out -/

namespace Outcome

variable {α β : Type} {o o' : Outcome α}

theorem sameButResults_refl : o.SameButResults o := ⟨rfl, rfl, rfl, rfl⟩

theorem SameButResults.mapOk {o o' : Outcome (Except Refusal α)} {f : α → β}
    (h : o.SameButResults o') : (o.mapOk f).SameButResults (o'.mapOk f) :=
  ⟨congrArg (Except.map f) h.answer, h.store, h.events, h.notices⟩

end Outcome

namespace Setting

variable {α β : Type} {notifier : Notifier}

theorem notices_dispatch (notice : Notice) (f : Notifier) :
    (notice.dispatch f).map (·.notice) = if notice.recipients.isEmpty then [] else [notice] := by
  unfold Notice.dispatch
  split <;> rfl

theorem commit_unheard {tx : Tx (Committed α)} :
    (d.commit s tx).SameButResults ({ d with notifier }.commit s tx) := by
  unfold commit
  match s.transact tx with
  | (.error why, after) => exact Outcome.sameButResults_refl
  | (.ok { notice := none, .. }, after) => exact Outcome.sameButResults_refl
  | (.ok { notice := some notice, .. }, after) =>
    exact ⟨rfl, rfl, rfl, (notices_dispatch ..).trans (notices_dispatch ..).symm⟩

theorem run_unheard {p : TwoPhase β α} :
    (d.run s p).SameButResults ({ d with notifier }.run s p) := by
  unfold run
  cases p.read s with
  | error why => exact Outcome.sameButResults_refl
  | ok found => exact commit_unheard

end Setting

/-- The notifier is asked for nothing but what came of a notice. -/
theorem Operation.run_unheard {op : Operation} {notifier : Notifier} :
    (op.run d s).SameButResults (op.run { d with notifier } s) := by
  cases op with
  | directory op =>
    cases op with
    | chain => exact Outcome.sameButResults_refl
    | createDepartment | createLocation | createRoom | relocateRoom | relocateLocation
    | deleteNode | createUser | moveUser | bootstrap => exact Setting.commit_unheard.mapOk
  | caller ctx op =>
    cases op with
    | holdings => exact Outcome.sameButResults_refl
    | roles op =>
      cases op with
      | list => exact Outcome.sameButResults_refl
      | grant | activate | revoke => exact Setting.commit_unheard.mapOk
    | equipment op =>
      cases op with
      | get | list | history => exact Outcome.sameButResults_refl
      | register => exact Setting.commit_unheard.mapOk
      | assign | unassign | reassign | changeStatus => exact Setting.run_unheard.mapOk
    | accessories op =>
      cases op with
      | get | list | history => exact Outcome.sameButResults_refl
      | register => exact Setting.commit_unheard.mapOk
      | assign | takeBack | condemn | restock => exact Setting.run_unheard.mapOk
    | consumables op =>
      cases op with
      | get | list | history => exact Outcome.sameButResults_refl
      | register => exact Setting.commit_unheard.mapOk
      | issue | use | takeBack | recordLoss | reportLoss | restock => exact Setting.run_unheard.mapOk

/-! ## What is left to be told -/

/-- The user that a known caller's public id names is the caller. -/
theorem Store.Knows.named {u : Entry .user User} (h : s.Knows ctx) (sound : s.Sound)
    (named : s.named? .user ctx.actor.publicId = some u) : u.id = ctx.actor.id := by
  obtain ⟨v, found, own⟩ := h
  obtain ⟨member, number⟩ := Table.mem_of_get? found
  have again : s.named? .user v.val.publicId = some v :=
    Store.named_ok.1 (Store.named_of_mem sound.users member)
  rw [show v.val.publicId = ctx.actor.publicId from own, named] at again
  cases again
  exact number

/-- Whether the operation may have something to tell to those who answer for a room. -/
def Operation.announces : Operation → Bool
  | .caller _ (.consumables (.issue ..)) | .caller _ (.consumables (.reportLoss ..)) => true
  | _ => false

theorem Operation.announces_cases {op : Operation} (h : op.announces = true) :
    (∃ ctx item user quantity purpose,
      op = .caller ctx (.consumables (.issue item user quantity purpose))) ∨
    ∃ ctx item quantity kind,
      op = .caller ctx (.consumables (.reportLoss item quantity kind)) := by
  unfold announces at h
  split at h
  · exact .inl ⟨_, _, _, _, _, rfl⟩
  · exact .inr ⟨_, _, _, _, rfl⟩
  · cases h

theorem OperationStep.silent {op : Operation} (step : OperationStep d s op done s')
    (quiet : op.announces = false) : done.notice = none := by
  cases step with
  | directory step => cases step <;> rfl
  | caller step =>
    cases step with
    | holdings => rfl
    | roles step => cases step <;> rfl
    | equipment step => cases step <;> rfl
    | accessories step => cases step <;> rfl
    | consumables step =>
      cases step with
      | issueMore | issueNew | reportLoss => cases quiet
      | read | registerEmpty | registerStocked | use | takeBack | recordLoss | restock => rfl

/-- Consumables have no part in who answers for a room. -/
theorem ConsumableStep.answerable {op : ConsumableOp} (step : ConsumableStep d ctx s op done s')
    (sound : s.Sound) (room : Option RoomId) :
    ∃ people, s.responsible room = .ok (people.map .ofUser) ∧ s'.Answerable room people := by
  obtain ⟨people, told, answerable⟩ := sound.responsible room
  refine ⟨people, told, ?_⟩
  rw [step.frame]
  exact { answerable with }

theorem ConsumableStep.issue_told {item user : String} {quantity : Int64} {purpose : Option String}
    (step : ConsumableStep d ctx s (.issue item user quantity purpose) done s') (sound : s.Sound) :
    ∃ e issue, done.answer = .consumableCustody { item := e, issue } ∧ e.val.publicId = item ∧
      s'.row? e.id = some e ∧ s'.named? .consumable item = some e ∧
      s.LowStockTold d e done.notice := by
  have stored {e : Entry .consumable Consumable} (named : s.named? .consumable item = some e) :=
    sound.consumables.get?_of_find? named
  have called {e : Entry .consumable Consumable} (named : s.named? .consumable item = some e) :
      e.val.publicId = item := beq_iff_eq.1 (Table.mem_of_find? named).2
  have still_named {e : Entry .consumable Consumable} {row : Consumable}
      (named : s.named? .consumable item = some e) (same : row.publicId = e.val.publicId) :
      (s.consumables.put e.id row).find? (·.publicId == item) = some { e with val := row } := by
    have found : s.consumables.find? (·.publicId == item) = some e := named
    rw [Table.find?_put_of_same sound.consumables.numbered (stored named) (by rw [same]), found,
      Option.map_some, if_pos rfl]
  cases step with
  | read reads => cases reads
  | issueMore _ named _ _ _ _ _ changed _ _ noticed =>
    have same := called named
    subst changed
    exact ⟨_, _, rfl, same, Table.get?_put_self (stored named), still_named named rfl, noticed⟩
  | issueNew _ named _ _ _ _ _ _ changed _ _ noticed =>
    have same := called named
    subst changed
    exact ⟨_, _, rfl, same, Table.get?_put_self (stored named), still_named named rfl, noticed⟩

theorem ConsumableStep.reportLoss_told {item : String} {quantity : Int64} {kind : LossKind}
    (step : ConsumableStep d ctx s (.reportLoss item quantity kind) done s') (sound : s.Sound) :
    ∃ e i u recipients, done.answer = .consumableCustody { item := e, issue := some i } ∧
      i.val.holder = ctx.actor.id ∧ s.named? .user ctx.actor.publicId = some u ∧
      s.responsible u.val.room = .ok recipients ∧
      done.notice = some ⟨recipients,
        .lossReported item u.val.publicId kind.eventType quantity.toInt⟩ := by
  cases step with
  | read reads => cases reads
  | reportLoss _ item_named caller_named own _ reduced _ _ responsible =>
    subst reduced
    have called := beq_iff_eq.1 (Table.mem_of_find? item_named).2
    obtain ⟨_, _, by_caller, _⟩ := sound.openIssue own
    exact ⟨_, _, _, _, rfl, by_caller, caller_named, responsible, by rw [← called]; rfl⟩

/-! ## Who is told -/

theorem Notice.dispatch_people {people : List (Entry .user User)} {told : Notification}
    {f : Notifier} : Notice.dispatch ⟨people.map .ofUser, told⟩ f =
      if people = [] then [] else [⟨⟨people.map .ofUser, told⟩, f ⟨people.map .ofUser, told⟩⟩] := by
  cases people <;> rfl

theorem Occasion.announces {out : Outcome (Except Refusal Answer)} {op : Operation}
    {told : Notification} {room : Option RoomId} (h : Occasion d out op told room) :
    op.announces = true := by
  cases h <;> rfl

theorem Occasion.answered {out : Outcome (Except Refusal Answer)} {op : Operation}
    {told : Notification} {room : Option RoomId} (h : Occasion d out op told room) :
    ∃ answer, out.answer = .ok answer := by
  cases h with
  | lowStock answered | loss answered => exact ⟨_, answered⟩

theorem ConsumableStep.issue_announced {item user : String} {quantity : Int64}
    {purpose : Option String}
    (step : ConsumableStep d ctx s (.issue item user quantity purpose) done s') (sound : s.Sound)
    (out : (ConsumableOp.issue item user quantity purpose).run d s ctx = d.outcome done s') :
    s.Announces d (.caller ctx (.consumables (.issue item user quantity purpose))) := by
  have ran : (Operation.caller ctx (.consumables (.issue item user quantity purpose))).run d s =
    d.outcome done s' := out
  obtain ⟨e, issue, answer, called, stored, named, noticed⟩ := step.issue_told sound
  refine ⟨fun nothing => ?_, fun told room occasion => ?_, (fun _ _ _ _ other => nomatch other),
    fun _ => Operation.run_unheard⟩
  · rw [ran] at nothing ⊢
    by_cases low : (d.lowStockNotices && e.val.isLowStock) = true
    · obtain ⟨enabled, under⟩ := Bool.and_eq_true_iff.1 low
      have occasion : Occasion d (d.outcome done s')
          (.caller ctx (.consumables (.issue item user quantity purpose)))
          (.lowStock item e.val.quantity e.val.lowStockThreshold) e.val.room :=
        .lowStock (congrArg Except.ok answer) stored named enabled (of_decide_eq_true under)
      exact absurd occasion (nothing _ _)
    · rw [Store.LowStockTold, if_neg low] at noticed
      rw [Setting.outcome, noticed]
      rfl
  · rw [ran] at occasion ⊢
    cases occasion with
    | lowStock answered _ _ enabled low =>
      cases answer.symm.trans (Except.ok.inj answered)
      obtain ⟨people, asked, answerable⟩ := step.answerable sound e.val.room
      have both : (d.lowStockNotices && e.val.isLowStock) = true :=
        Bool.and_eq_true_iff.2 ⟨enabled, decide_eq_true low⟩
      rw [Store.LowStockTold, if_pos both] at noticed
      obtain ⟨recipients, again, noticed⟩ := noticed
      cases asked.symm.trans again
      refine ⟨people, answerable, ?_⟩
      rw [Setting.outcome, noticed, called]
      exact Notice.dispatch_people

theorem ConsumableStep.reportLoss_announced {item : String} {quantity : Int64} {kind : LossKind}
    (step : ConsumableStep d ctx s (.reportLoss item quantity kind) done s') (sound : s.Sound)
    (out : (ConsumableOp.reportLoss item quantity kind).run d s ctx = d.outcome done s') :
    s.Announces d (.caller ctx (.consumables (.reportLoss item quantity kind))) := by
  have ran : (Operation.caller ctx (.consumables (.reportLoss item quantity kind))).run d s =
    d.outcome done s' := out
  obtain ⟨e, i, u, recipients, answer, by_caller, caller, responsible, noticed⟩ :=
    step.reportLoss_told sound
  have caller' : s'.named? .user ctx.actor.publicId = some u := by
    rw [step.frame]
    exact caller
  refine ⟨fun nothing => ?_, fun told room occasion => ?_, ?_, fun _ => Operation.run_unheard⟩
  · rw [ran] at nothing
    exact absurd (.loss (congrArg Except.ok answer) caller') (nothing _ _)
  · rw [ran] at occasion ⊢
    cases occasion with
    | loss answered named =>
      cases caller'.symm.trans named
      obtain ⟨people, asked, answerable⟩ := step.answerable sound u.val.room
      cases asked.symm.trans responsible
      refine ⟨people, answerable, ?_⟩
      rw [Setting.outcome, noticed]
      exact Notice.dispatch_people
  · rintro _ _ _ _ ⟨⟩ knows e i' v answered named
    rw [ran] at answered named
    cases caller'.symm.trans named
    cases answer.symm.trans (Except.ok.inj answered)
    rw [by_caller, knows.named sound caller]

/-- In every reachable store, those who answer for a room are told of an issue that leaves little and
of a loss that is reported, and of nothing else. -/
theorem Reachable.notices (reachable : Reachable s) (d : Setting) (op : Operation) :
    s.Announces d op := by
  have sound := reachable.sound
  cases answered : (op.run d s).answer with
  | error why =>
    refine ⟨fun _ => (Operation.run_error answered).deliveries, fun _ _ occasion => ?_,
      fun _ _ _ _ _ _ _ _ _ told => ?_, fun _ => Operation.run_unheard⟩
    · obtain ⟨_, told⟩ := occasion.answered
      cases answered.symm.trans told
    · cases answered.symm.trans told
  | ok answer =>
    obtain ⟨done, s', step, _, out⟩ := Operation.run_ok sound answered
    cases announces : op.announces with
    | true =>
      obtain ⟨_, _, _, _, _, rfl⟩ | ⟨_, _, _, _, rfl⟩ := Operation.announces_cases announces
      · obtain _ | ⟨_ | _ | _ | _ | step⟩ := step
        exact step.issue_announced sound out
      · obtain _ | ⟨_ | _ | _ | _ | step⟩ := step
        exact step.reportLoss_announced sound out
    | false =>
      refine ⟨fun _ => ?_, fun _ _ occasion => ?_, ?_, fun _ => Operation.run_unheard⟩
      · rw [out, Setting.outcome, step.silent announces]
        rfl
      · cases announces.symm.trans occasion.announces
      · rintro _ _ _ _ rfl
        cases announces

/-- A pantry with two administrators: ada, who has it under two roles, and bob, who has the department
around it. There are five bags of tea, of which three are few. -/
def pantry : Store :=
  Store.serve {} {}
    [.directory (.bootstrap "root" "Root"),
     .directory (.createDepartment { publicId := some "hall", name := "Hall" }),
     .directory (.createLocation { publicId := some "wing", name := "Wing", parent := some "hall" }),
     .directory (.createRoom { publicId := some "larder", name := "Larder", parent := some "wing" }),
     .directory (.createUser { publicId := some "ada", displayName := "Ada" }),
     .directory (.createUser { publicId := some "bob", displayName := "Bob" }),
     .caller root (.roles (.grant
       { user := "bob", role := .departmentAdmin, scope := some (.department "hall") })),
     .caller root (.roles (.grant
       { user := "ada", role := .locationAdmin, scope := some (.location "wing") })),
     .caller root (.roles (.grant
       { user := "ada", role := .roomAdmin, scope := some (.room "larder") })),
     .caller root (.consumables (.register
       { publicId := some "tea", name := "Tea", quantity := 5, lowStockThreshold := 3
         room := some "larder" }))]
where
  root : Context := { actor := ⟨⟨1⟩, "root", "Root"⟩, binding := some .siteAdmin }
  /-- Nothing that is handed out arrives. -/
  deaf : Setting := { notifier := fun _ => .error (.storage .unavailable) }
  issue : Operation := .caller root (.consumables (.issue "tea" "root" 2 none))

/-- When two bags are issued, ada and bob are told of the three that are left, each once, although
nothing arrives. -/
theorem pantry_notices :
    ∃ room people,
      Occasion pantry.deaf (pantry.issue.run pantry.deaf pantry) pantry.issue
        (.lowStock "tea" 3 3) room ∧
      (pantry.issue.run pantry.deaf pantry).store.Answerable room people ∧
      people.map (Recipient.ofUser ·) = [⟨"ada", "Ada"⟩, ⟨"bob", "Bob"⟩] := by
  have reachable : Reachable pantry := Reachable.serve (.seeded (.empty 0 0 0))
  have silent := (reachable.notices pantry.deaf pantry.issue).silent
  have told := (reachable.notices pantry.deaf pantry.issue).told
  have notices : (pantry.issue.run pantry.deaf pantry).deliveries.map (·.notice) =
      [⟨[⟨"ada", "Ada"⟩, ⟨"bob", "Bob"⟩], .lowStock "tea" 3 3⟩] := by decide +kernel
  -- the rest holds of any outcome that tells this
  generalize pantry.issue.run pantry.deaf pantry = out at silent told notices ⊢
  obtain ⟨what, room, occasion⟩ : ∃ what room, Occasion pantry.deaf out pantry.issue what room := by
    refine Classical.byContradiction fun none_there => ?_
    rw [silent fun what room occasion => none_there ⟨what, room, occasion⟩] at notices
    cases notices
  obtain ⟨people, answerable, deliveries⟩ := told what room occasion
  rw [deliveries] at notices
  split at notices
  · cases notices
  · obtain ⟨who, rfl⟩ := Notice.mk.inj (List.cons.inj notices).1
    exact ⟨room, people, occasion, answerable, who⟩

end Quartermaster
