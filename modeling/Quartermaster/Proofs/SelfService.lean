import Mathlib.Tactic.MkIffOfInductiveProp
import Quartermaster.Proofs.Phases
import Quartermaster.Proofs.Refusals.Consumable

/-!
# Self-service reveals nothing about others

Everybody may see own custody, use units of own issues and report losses from them. What comes of
that is found in the directory, the assets and the rows of the user. What was issued to others, and
what the ledgers and the audit log say, has no part in it.

Two stores are alike for a user (`Store.AlikeFor`) if they differ in nothing but that. The minted
ids and the readings of the clock may differ as well, also those in the rows that the user sees;
`plain` leaves them out.

1. `Store.decision`: what decides whether units go out of an own issue. An operation is refused as
   this is (`ConsumableOp.use_decided`, `ConsumableOp.reportLoss_decided`), and in stores that are
   alike it is the same (`Store.AlikeFor.decision`).
2. `Store.AlikeFor.took`: where units go out, the same go out in both, and the stores stay alike.
3. `CallerOp.SelfService.alike`: an operation of self-service comes to the same in both.
4. `Store.AlikeFor.serve`: the stores stay alike along any number of them.
5. `Reachable.self_service_alike`: what a user can tell of two stores that can come about.
-/

namespace Quartermaster

/-! ## What may set two stores apart -/

/-- The row without readings of the clock. -/
def Consumable.plain (c : Consumable) : Consumable :=
  { c with createdAt := ⟨0⟩, updatedAt := ⟨0⟩ }

/-- The row without its minted id and the readings of the clock. -/
def ConsumableIssue.plain (i : ConsumableIssue) : ConsumableIssue :=
  { i with publicId := "", issuedAt := ⟨0⟩, returnedAt := i.returnedAt.map fun _ => ⟨0⟩ }

namespace Plain

def item (e : Entry .consumable Consumable) : Entry .consumable Consumable :=
  { e with val := e.val.plain }

/-- The issue without its place among the issues of everybody. -/
def issue (i : Entry .consumableIssue ConsumableIssue) : Entry .consumableIssue ConsumableIssue :=
  ⟨⟨0⟩, i.val.plain⟩

def pair (held : Entry .consumable Consumable × Entry .consumableIssue ConsumableIssue) :
    Entry .consumable Consumable × Entry .consumableIssue ConsumableIssue :=
  (item held.1, issue held.2)

end Plain

/-- The answer without the minted ids and the readings of the clock that consumables bring in. -/
def Answer.plain : Answer → Answer
  | .holdings held => .holdings { held with consumables := held.consumables.map Plain.pair }
  | .consumableCustody custody =>
    .consumableCustody { item := Plain.item custody.item, issue := custody.issue.map Plain.issue }
  | answer => answer

/-- The issues of a user, open and closed. -/
def Store.issuesOf (s : Store) (u : UserId) : List (Entry .consumableIssue ConsumableIssue) :=
  s.consumableIssues.filter (·.holder == u)

/-- The stores agree on the directory, the assets with their stock, custody of items and
accessories, and what the user was issued. They may differ in what others were issued, in the
ledgers and in the audit log. -/
@[mk_iff]
structure Store.AlikeFor (u : UserId) (s s' : Store) : Prop where
  departments : s.departments = s'.departments
  locations : s.locations = s'.locations
  rooms : s.rooms = s'.rooms
  users : s.users = s'.users
  roleAssignments : s.roleAssignments = s'.roleAssignments
  equipment : s.equipment = s'.equipment
  equipmentAssignments : s.equipmentAssignments = s'.equipmentAssignments
  accessories : s.accessories = s'.accessories
  accessoryAssignments : s.accessoryAssignments = s'.accessoryAssignments
  consumables : s.consumables.map Consumable.plain = s'.consumables.map Consumable.plain
  issues : (s.issuesOf u).map Plain.issue = (s'.issuesOf u).map Plain.issue

instance (u : UserId) (s s' : Store) : Decidable (s.AlikeFor u s') :=
  decidable_of_iff' _ (Store.alikeFor_iff u s s')

/-! ## Results that look the same -/

namespace Results

variable {α β γ δ : Type}

/-- What looks the same leads to the same, if no more is looked at. -/
theorem bind_alike {x x' : Except Refusal α} {f f' : α → Except Refusal β} {look : α → γ}
    (same : x.map look = x'.map look)
    (rest : ∀ a a', x = .ok a → x' = .ok a' → look a = look a' → f a = f' a') :
    x >>= f = x' >>= f' := by
  cases x with
  | ok a =>
    cases x' with
    | ok a' => exact rest a a' rfl rfl (Except.ok.inj same)
    | error why => cases same
  | error why =>
    cases x' with
    | ok a' => cases same
    | error why' =>
      obtain rfl := Except.error.inj same
      rfl

theorem bind_congr_ok {x : Except Refusal α} {f f' : α → Except Refusal β}
    (rest : ∀ a, x = .ok a → f a = f' a) : x >>= f = x >>= f' := by
  cases x with
  | ok a => exact rest a rfl
  | error why => rfl

theorem map_bind {x : Except Refusal α} {f : α → Except Refusal β} {g : β → γ} :
    (x >>= f).map g = x >>= fun a => (f a).map g := by
  cases x <;> rfl

/-- Lists that look the same are answered by lists that look the same. -/
theorem mapM_alike {f f' : α → Except Refusal β} {look : α → γ} {see : β → δ} {xs xs' : List α}
    (same : xs.map look = xs'.map look)
    (each : ∀ a a', look a = look a' → (f a).map see = (f' a').map see) :
    (xs.mapM f).map (List.map see) = (xs'.mapM f').map (List.map see) := by
  induction xs generalizing xs' with
  | nil =>
    obtain rfl := List.map_eq_nil_iff.1 same.symm
    rfl
  | cons a rest ih =>
    cases xs' with
    | nil => cases same
    | cons a' rest' =>
      obtain ⟨first, later⟩ := List.cons.inj same
      simp only [List.mapM_cons, map_bind]
      refine bind_alike (each a a' first) fun b b' _ _ seen => bind_alike (ih later) ?_
      intro bs bs' _ _ all
      show Except.ok (see b :: bs.map see) = Except.ok (see b' :: bs'.map see)
      rw [seen, all]

end Results

/-! ## Alike stores answer alike -/

theorem Store.numbered_of_table {k : Kind} {α : Type} [Record k α] {s s' : Store}
    (same : (Record.table s : Table k α) = Record.table s') (id : Id k) :
    s.numbered id = s'.numbered id := by
  rw [numbered, numbered, row?, row?, same]

theorem Store.named?_of_table {k : Kind} {α : Type} [Record k α] [Named k] {s s' : Store}
    (same : (Record.table s : Table k α) = Record.table s') (publicId : String) :
    s.named? k publicId = s'.named? k publicId := by
  rw [named?, named?, same]

namespace Store.AlikeFor

variable {u : UserId} {s s' : Store}

theorem user_named (alike : s.AlikeFor u s') (name : String) :
    s.named? .user name = s'.named? .user name := named?_of_table alike.users name

theorem named? (alike : s.AlikeFor u s') (item : String) :
    (s.named? .consumable item).map Plain.item = (s'.named? .consumable item).map Plain.item := by
  have seen (t : Store) : (t.named? .consumable item).map Plain.item =
      (t.consumables.map Consumable.plain).find? (·.publicId == item) :=
    (Table.find?_map (p := (·.publicId == item)) (f := Consumable.plain) fun _ => rfl).symm
  rw [seen, seen, alike.consumables]

theorem item_alike (alike : s.AlikeFor u s') {name : String} {e e' : Entry .consumable Consumable}
    (named : s.named? .consumable name = some e) (named' : s'.named? .consumable name = some e') :
    Plain.item e = Plain.item e' := by
  have looked := alike.named? name
  rw [named, named'] at looked
  exact Option.some.inj looked

theorem item_called (alike : s.AlikeFor u s') {name : String} {e e' : Entry .consumable Consumable}
    (named : s.named? .consumable name = some e) (named' : s'.named? .consumable name = some e') :
    e.val.publicId = e'.val.publicId :=
  congrArg (·.val.publicId) (alike.item_alike named named')

theorem row? (alike : s.AlikeFor u s') (item : ConsumableId) :
    (s.row? item).map Plain.item = (s'.row? item).map Plain.item := by
  have seen (t : Store) : (t.row? item).map Plain.item =
      (t.consumables.map Consumable.plain).get? item :=
    (Table.get?_map (f := Consumable.plain)).symm
  rw [seen, seen, alike.consumables]

theorem named (alike : s.AlikeFor u s') (item : String) :
    (s.named .consumable item).map Plain.item = (s'.named .consumable item).map Plain.item := by
  have seen (t : Store) : (t.named .consumable item).map Plain.item =
      ((t.named? .consumable item).map Plain.item).elim
        (.error (.missing (.named .consumable item))) .ok := by
    unfold Store.named
    cases t.named? .consumable item <;> rfl
  rw [seen, seen, alike.named?]

theorem numbered (alike : s.AlikeFor u s') (item : ConsumableId) :
    (s.numbered item).map Plain.item = (s'.numbered item).map Plain.item := by
  have seen (t : Store) : (t.numbered item).map Plain.item =
      ((t.row? item).map Plain.item).elim
        (.error (.missing (.numbered .consumable item.row))) .ok := by
    unfold Store.numbered
    cases t.row? item <;> rfl
  rw [seen, seen, alike.row?]

theorem openIssue (alike : s.AlikeFor u s') (item : ConsumableId) :
    (s.openIssue item u).map Plain.issue = (s'.openIssue item u).map Plain.issue := by
  -- the open issue is looked for among the user's issues, by what `plain` keeps
  have picks (i : ConsumableIssue) : (i.consumable == item && i.holder == u && i.isOpen) =
      (i.holder == u && (i.consumable == item && i.isOpen)) := by
    rw [Bool.and_assoc, Bool.and_left_comm]
  have seen (t : Store) : (t.openIssue item u).map Plain.issue =
      ((t.issuesOf u).map Plain.issue).find? fun i => i.val.consumable == item && i.val.isOpen := by
    simp only [Store.openIssue, Table.find?, picks, List.find?_map, issuesOf, Table.filter,
      List.find?_filter, Bool.decide_and, Bool.decide_eq_true]
    rfl
  rw [seen, seen, alike.issues]

theorem issue_alike (alike : s.AlikeFor u s') {item : ConsumableId}
    {i i' : Entry .consumableIssue ConsumableIssue} (own : s.openIssue item u = some i)
    (own' : s'.openIssue item u = some i') : Plain.issue i = Plain.issue i' := by
  have looked := alike.openIssue item
  rw [own, own'] at looked
  exact Option.some.inj looked

theorem links (alike : s.AlikeFor u s') : s.links = s'.links := by
  rw [Store.links, Store.links, alike.rooms, alike.locations]

theorem responsible (alike : s.AlikeFor u s') (room : Option RoomId) :
    s.responsible room = s'.responsible room := by
  have administrators : s.administrators = s'.administrators := by
    funext chain
    simp only [Store.administrators, Store.holdersOf, alike.users, alike.roleAssignments]
  have siteAdmins : s.siteAdmins = s'.siteAdmins := by
    simp only [Store.siteAdmins, Store.holdersOf, alike.users, alike.roleAssignments]
  simp only [Store.responsible, alike.links, administrators, siteAdmins]

theorem heldConsumables (alike : s.AlikeFor u s') :
    (s.heldConsumables u).map (List.map Plain.pair) =
      (s'.heldConsumables u).map (List.map Plain.pair) := by
  have seen (t : Store) :
      (t.consumableIssues.filter fun i => i.holder == u && i.isOpen).map Plain.issue =
        ((t.issuesOf u).map Plain.issue).filter fun i => i.val.isOpen := by
    simp only [issuesOf, Table.filter, List.filter_map, List.filter_filter, Bool.and_comm]
    rfl
  have held := (seen s).trans ((congrArg _ alike.issues).trans (seen s').symm)
  refine Results.mapM_alike held fun i i' same => ?_
  have item : i.val.consumable = i'.val.consumable := congrArg (·.val.consumable) same
  have paired (t : Store) (i : Entry .consumableIssue ConsumableIssue) :
      ((t.numbered i.val.consumable).map (·, i)).map Plain.pair =
        ((t.numbered i.val.consumable).map Plain.item).map (·, Plain.issue i) := by
    cases t.numbered i.val.consumable <;> rfl
  rw [paired, paired, item, alike.numbered, same]

theorem holdings (alike : s.AlikeFor u s') :
    ((s.holdings u).map Answer.holdings).map Answer.plain =
      ((s'.holdings u).map Answer.holdings).map Answer.plain := by
  have item (id : EquipmentId) : s.numbered id = s'.numbered id :=
    numbered_of_table alike.equipment id
  have accessory (id : AccessoryId) : s.numbered id = s'.numbered id :=
    numbered_of_table alike.accessories id
  have equipment : s.heldEquipment u = s'.heldEquipment u := by
    simp only [Store.heldEquipment, item, alike.equipmentAssignments]
  have accessories : s.heldAccessories u = s'.heldAccessories u := by
    simp only [Store.heldAccessories, accessory, alike.accessoryAssignments]
  simp only [Store.holdings, equipment, accessories, Results.map_bind]
  refine Results.bind_congr_ok fun items _ => Results.bind_congr_ok fun units _ => ?_
  refine Results.bind_alike alike.heldConsumables fun held held' _ _ same => ?_
  show Except.ok (Answer.holdings ⟨items, units, held.map Plain.pair⟩) =
    Except.ok (Answer.holdings ⟨items, units, held'.map Plain.pair⟩)
  rw [same]

end Store.AlikeFor

/-! ## What decides -/

/-- Whether a change can be recorded. -/
def AuditSink.accepts : AuditSink → Except Refusal Unit
  | .log => .ok ()
  | .failing text => .error (.auditSink text)

/-- Whether units go out of an issue. It has to have them, and the change has to be recorded. -/
def Setting.allows (d : Setting) (i : Entry .consumableIssue ConsumableIssue) (units : Int) :
    Except Refusal Unit :=
  if units ≤ i.val.quantity then d.audit.accepts
  else .error (.invalid (.holderHasOnly i.val.quantity))

/-- Whether units go out of an own issue. `asked` is what has to be there besides the issue. -/
def Store.decision (s : Store) (d : Setting) (ctx : Context) (item : String) (quantity : Int64)
    (asked : Except Refusal Unit) : Except Refusal Unit := do
  Custody.positive quantity
  let e ← s.named .consumable item
  let i ← Custody.ownIssue ctx e s
  asked
  d.allows i quantity.toInt

section Decided

variable {d : Setting} {ctx : Context} {s s' : Store} {item : String} {quantity : Int64}

/-- Without an open issue the refusal names the item that was asked for. -/
theorem Store.decision_without_issue {e : Entry .consumable Consumable}
    {asked : Except Refusal Unit} (positive : 0 < quantity.toInt)
    (named : s.named? .consumable item = some e)
    (none_held : s.openIssue e.id ctx.actor.id = none) :
    s.decision d ctx item quantity asked = .error (.missing (.openIssue item)) := by
  have spelled : e.val.publicId = item := beq_iff_eq.1 (Table.mem_of_find? named).2
  rw [decision, Custody.positive_bind positive, Store.named_ok.2 named, Results.ok_bind,
    Custody.ownIssue, none_held, spelled]
  rfl

/-- With enough units in an open issue, nothing is in the way. -/
theorem Store.decision_with_issue {e : Entry .consumable Consumable}
    {i : Entry .consumableIssue ConsumableIssue} (positive : 0 < quantity.toInt)
    (named : s.named? .consumable item = some e) (own : s.openIssue e.id ctx.actor.id = some i)
    (enough : quantity.toInt ≤ i.val.quantity) (logged : d.audit = .log) :
    s.decision d ctx item quantity (.ok ()) = .ok () := by
  rw [decision, Custody.positive_bind positive, Store.named_ok.2 named, Results.ok_bind,
    Custody.ownIssue_ok.2 own, Results.ok_bind, Results.ok_bind, Setting.allows, if_pos enough,
    logged]
  rfl

theorem Store.AlikeFor.ownIssue (alike : s.AlikeFor ctx.actor.id s')
    {e e' : Entry .consumable Consumable} (same : Plain.item e = Plain.item e') :
    (Custody.ownIssue ctx e s).map Plain.issue = (Custody.ownIssue ctx e' s').map Plain.issue := by
  have id : e.id = e'.id := congrArg (·.id) same
  have publicId : e.val.publicId = e'.val.publicId := congrArg (·.val.publicId) same
  have seen (t : Store) (e : Entry .consumable Consumable) :
      (Custody.ownIssue ctx e t).map Plain.issue =
        ((t.openIssue e.id ctx.actor.id).map Plain.issue).elim
          (.error (.missing (.openIssue e.val.publicId))) .ok := by
    unfold Custody.ownIssue
    cases t.openIssue e.id ctx.actor.id <;> rfl
  rw [seen, seen, id, publicId, alike.openIssue]

/-- In stores that are alike it is decided alike. -/
theorem Store.AlikeFor.decision (alike : s.AlikeFor ctx.actor.id s') {asked : Except Refusal Unit} :
    s.decision d ctx item quantity asked = s'.decision d ctx item quantity asked := by
  refine Results.bind_congr_ok fun _ _ => Results.bind_alike (alike.named item) ?_
  intro e e' _ _ same
  refine Results.bind_alike (alike.ownIssue same) fun i i' _ _ same => ?_
  have quantity : i.val.quantity = i'.val.quantity := congrArg (·.val.quantity) same
  simp only [Setting.allows, quantity]

/-- An operation is refused in the phase that is. -/
theorem Setting.run_decided {α β : Type} {p : TwoPhase β α} {f : α → Answer} :
    ((d.run s p).mapOk f).answer.map (fun _ => ()) =
      p.read s >>= fun found => (p.commit found s).map fun _ => () := by
  unfold run
  cases p.read s with
  | error why => rfl
  | ok found =>
    show ((d.commit s (p.commit found)).mapOk f).answer.map _ = (p.commit found s).map _
    unfold commit Store.transact
    cases p.commit found s <;> rfl

namespace Custody

theorem recordConsumable_decided {α : Type} {action : String} {e : Entry .consumable Consumable}
    {details : List (String × Json)} {a : α} :
    ((recordConsumable d ctx action e details >>= fun _ => pure a) s).map (fun _ => ()) =
      d.audit.accepts := by
  cases logged : d.audit with
  | log =>
    obtain ⟨s', recorded⟩ : ∃ s', recordConsumable d ctx action e details s = .ok ((), s') :=
      Tx.record_goes logged
    rw [Tx.bind_of_ok recorded]
    rfl
  | failing text =>
    have failed : recordConsumable d ctx action e details s = .error (.auditSink text) := by
      rw [recordConsumable, logged]
      rfl
    rw [Tx.bind_of_error failed]
    rfl

/-- Units go out of an open issue of the caller if they are there and the change is recorded; no
write fails. -/
theorem reduceCustody_decided {action : String} {e : Entry .consumable Consumable}
    {type : EventType} {i : Entry .consumableIssue ConsumableIssue} (sound : s.Sound)
    (linked : s.Linked) (positive : 0 < quantity.toInt) (here : s.row? e.id = some e)
    (own : s.openIssue e.id ctx.actor.id = some i) (known : type ∈ EventType.consumable) :
    (reduceCustody d ctx action e i type quantity.toInt s).map (fun _ => ()) =
      d.allows i quantity.toInt := by
  obtain ⟨row, _, by_caller, opened⟩ := sound.openIssue own
  have holder_there := (linked.ends_of_issue (Table.mem_of_get? row).1).2
  have caller_there : s.users.has ctx.actor.id = true := by_caller ▸ holder_there
  have row_there : s.consumableIssues.has i.id = true := Store.has_of_row row
  unfold reduceCustody Setting.allows
  by_cases enough : quantity.toInt ≤ i.val.quantity
  · obtain ⟨after, s₁, reduced⟩ := Tx.reduceIssue_goes sound linked row opened positive enough
    rw [if_pos enough, Tx.bind_of_ok (a := ()) (Tx.require_ok.2 ⟨decide_eq_true enough, rfl⟩),
      Tx.bind_of_ok reduced]
    obtain ⟨event, s₂, appended⟩ : ∃ event s₂, Tx.appendConsumableEvent e.id (some after.id) type
        (some after.val.holder) quantity.toInt (-quantity.toInt) ctx.actor.id none s₁ =
          .ok (event, s₂) := by
      obtain ⟨rfl, _, rfl⟩ := Tx.reduceIssue_ok sound row opened reduced
      exact Tx.appendConsumableEvent_goes known ⟨fitsWord_toInt quantity, fitsWord_neg positive⟩
        (Store.has_of_row here) (Table.within_put _ row_there) holder_there caller_there
    rw [Tx.bind_of_ok appended]
    exact recordConsumable_decided
  · rw [if_neg enough, decide_eq_false enough]
    rfl

/-- A transaction that takes units out of an own issue, and then does what cannot fail, is decided
by the issue. -/
theorem commit_decided {action : String} {e : Entry .consumable Consumable}
    {type : EventType} {i : Entry .consumableIssue ConsumableIssue} {α : Type}
    {rest : Entry .consumable Consumable → Entry .consumableIssue ConsumableIssue → Tx α}
    (sound : s.Sound) (linked : s.Linked) (positive : 0 < quantity.toInt)
    (here : s.row? e.id = some e) (own : s.openIssue e.id ctx.actor.id = some i)
    (known : type ∈ EventType.consumable)
    (goes : ∀ after s', s'.users = s.users → ∃ r, rest e after s' = .ok r) :
    ((do
      let e ← lock e
      let i ← Tx.read (ownIssue ctx e)
      let i ← reduceCustody d ctx action e i type quantity.toInt
      rest e i) s).map (fun _ => ()) = d.allows i quantity.toInt := by
  obtain ⟨row, _, _, opened⟩ := sound.openIssue own
  rw [Tx.bind_of_ok (lock_self here), Tx.bind_of_ok (Tx.read_ok.2 ⟨ownIssue_ok.2 own, rfl⟩),
    ← reduceCustody_decided sound linked positive here own known]
  cases ran : reduceCustody d ctx action e i type quantity.toInt s with
  | error why =>
    rw [Tx.bind_of_error ran]
    rfl
  | ok r =>
    obtain ⟨_, _, _, _, _, _, _, _, _, _, left⟩ := reduceCustody_ok sound row opened ran
    obtain ⟨done, through⟩ := goes r.1 r.2 (by rw [left])
    rw [Tx.bind_of_ok ran, through]
    rfl

end Custody

open Custody (commit_decided positive_ok ownIssue_ok)

theorem ConsumableOp.use_decided (sound : s.Sound) (linked : s.Linked) :
    ((ConsumableOp.use item quantity).run d s ctx).answer.map (fun _ => ()) =
      s.decision d ctx item quantity (.ok ()) := by
  refine Setting.run_decided.trans ?_
  simp only [Custody.useConsumable, Store.decision, bind_assoc, pure_bind]
  refine Results.bind_congr_ok fun _ counted => Results.bind_congr_ok fun e named =>
    Results.bind_congr_ok fun i own => ?_
  have here := sound.consumables.get?_of_find? (Store.named_ok.1 named)
  exact commit_decided sound linked (positive_ok.1 counted) here (ownIssue_ok.1 own) (by decide)
    fun _ _ _ => ⟨_, rfl⟩

theorem ConsumableOp.reportLoss_decided {kind : LossKind} (sound : s.Sound) (linked : s.Linked) :
    ((ConsumableOp.reportLoss item quantity kind).run d s ctx).answer.map (fun _ => ()) =
      s.decision d ctx item quantity ((s.named .user ctx.actor.publicId).map fun _ => ()) := by
  refine Setting.run_decided.trans ?_
  simp only [Custody.reportLoss, Store.decision, bind_assoc, pure_bind]
  refine Results.bind_congr_ok fun _ counted => Results.bind_congr_ok fun e named =>
    Results.bind_congr_ok fun i own => ?_
  cases caller : s.named .user ctx.actor.publicId with
  | error why => rfl
  | ok u =>
    have here := sound.consumables.get?_of_find? (Store.named_ok.1 named)
    have caller_here := sound.users.get?_of_find? (Store.named_ok.1 caller)
    have known : kind.eventType ∈ EventType.consumable := by cases kind <;> decide
    refine commit_decided sound linked (positive_ok.1 counted) here (ownIssue_ok.1 own) known ?_
    intro after s' people
    have again : s'.row? u.id = some u := by
      rw [← caller_here]
      exact congrArg (·.get? u.id) people
    obtain ⟨recipients, asked⟩ : ∃ recipients, s'.responsible u.val.room = .ok recipients :=
      Store.responsible_goes
    rw [Tx.bind_of_ok (Custody.reload_ok.2 ⟨again, rfl⟩), Tx.bind_of_ok (Tx.read_ok.2 ⟨asked, rfl⟩)]
    exact ⟨_, rfl⟩

end Decided

/-! ## What is done -/

/-- What an operation leaves of the custody of consumables, if units went out of the custody of the
user: the open issue has that many less, and is answered. No other issue is touched. -/
inductive Store.Takes (s : Store) (u : UserId) (item : ConsumableId) (units : Int)
    (o : Outcome (Except Refusal Answer)) : Prop
  | took {e : Entry .consumable Consumable} {i : Entry .consumableIssue ConsumableIssue}
      {until' : Stamp}
      (here : s.row? item = some e)
      (own : s.openIssue item u = some i)
      (answer : o.answer = .ok (.consumableCustody
        { item := e, issue := some { i with val := i.val.less units until' } }))
      (issues : o.store.consumableIssues =
        s.consumableIssues.put i.id (i.val.less units until')) : Takes s u item units o

/-- Two operations, each on its own store, come to the same for the user. -/
structure Outcome.AlikeFor (u : UserId) (s s' : Store) (o o' : Outcome (Except Refusal Answer)) :
    Prop where
  answers : o.answer.map Answer.plain = o'.answer.map Answer.plain
  events : o.events = o'.events
  deliveries : o.deliveries = o'.deliveries
  issues : (o.store = s ∧ o'.store = s') ∨
    ∃ item units, s.Takes u item units o ∧ s'.Takes u item units o'
  stock : o.store.consumables = s.consumables ∧ o'.store.consumables = s'.consumables
  /-- Nothing that comes after can tell the stores apart either. -/
  stores : o.store.AlikeFor u o'.store

theorem ConsumableIssue.plain_less {i : ConsumableIssue} {units : Int} {until' : Stamp} :
    (i.less units until').plain = (i.plain.less units ⟨0⟩).plain := by
  by_cases rest : i.quantity - units = 0
  · simp [plain, less, rest]
  · simp [plain, less, rest, Function.comp_def]

/-- Takes units out of the open issue of an item. -/
def Plain.less (item : ConsumableId) (units : Int) (i : Entry .consumableIssue ConsumableIssue) :
    Entry .consumableIssue ConsumableIssue :=
  if i.val.consumable = item ∧ i.val.isOpen = true then
    issue { i with val := i.val.less units ⟨0⟩ }
  else i

section Taken

variable {d : Setting} {u : UserId} {s s' t : Store} {name : String} {item : ConsumableId}
  {units : Int} {e e' : Entry .consumable Consumable}
  {i i' : Entry .consumableIssue ConsumableIssue} {until₁ until₂ : Stamp}

/-- The open issue is the only row of the user that changes, and what `plain` keeps tells which one
it is. -/
theorem Store.issuesOf_put (sound : s.Sound) (own : s.openIssue item u = some i)
    (put : t.consumableIssues = s.consumableIssues.put i.id (i.val.less units until₁)) :
    (t.issuesOf u).map Plain.issue =
      ((s.issuesOf u).map Plain.issue).map (Plain.less item units) := by
  obtain ⟨row, rfl, rfl, opened⟩ := sound.openIssue own
  have member := (Table.mem_of_get? row).1
  have kept : (s.consumableIssues.put i.id (i.val.less units until₁)).filter
      (·.holder == i.val.holder) = (s.issuesOf i.val.holder).map fun x =>
        if x.id = i.id then { x with val := i.val.less units until₁ } else x :=
    Table.filter_put_of_same sound.consumableIssues.numbered row rfl
  rw [issuesOf, put, kept, List.map_map, List.map_map]
  refine List.map_congr_left fun x among => ?_
  obtain ⟨there, held⟩ := Table.mem_filter.1 among
  by_cases same : x.id = i.id
  · obtain rfl := sound.consumableIssues.numbered.eq_of_id there member same
    have chosen : (Plain.issue x).val.consumable = x.val.consumable ∧
        (Plain.issue x).val.isOpen = true := ⟨rfl, opened⟩
    simp only [Function.comp_apply, if_true]
    rw [Plain.less, if_pos chosen]
    exact congrArg (Entry.mk _) ConsumableIssue.plain_less
  · -- another open issue of the item would clash with this one
    have other : ¬ (x.val.consumable = i.val.consumable ∧ x.val.isOpen = true) := by
      rintro ⟨of_item, also_open⟩
      have found := sound.openIssue_of_mem there also_open
      rw [of_item, beq_iff_eq.1 held, own] at found
      exact same (congrArg (·.id) (Option.some.inj found)).symm
    simp only [Function.comp_apply, if_neg same]
    exact (if_neg other).symm

/-- Where the same units go out of issues that look the same, it comes to the same, and the stores
stay alike. -/
theorem Store.AlikeFor.took {events events' : List CustodyEvent} {notice notice' : Option Notice}
    {ledger ledger' : Table .consumableEvent ConsumableEvent} {audit audit' : Table .audit AuditRow}
    {clock clock' minted minted' : Nat} (alike : s.AlikeFor u s') (sound : s.Sound)
    (sound' : s'.Sound) (item_named : s.named? .consumable name = some e)
    (item_named' : s'.named? .consumable name = some e') (own : s.openIssue e.id u = some i)
    (own' : s'.openIssue e'.id u = some i') (told : events = events') (noticed : notice = notice') :
    Outcome.AlikeFor u s s'
      (d.outcome
        { answer := Answer.consumableCustody
            { item := e, issue := some { i with val := i.val.less units until₁ } }
          events, notice }
        { s with
          consumableIssues := s.consumableIssues.put i.id (i.val.less units until₁)
          consumableEvents := ledger, audit, clock, minted })
      (d.outcome
        { answer := Answer.consumableCustody
            { item := e', issue := some { i' with val := i'.val.less units until₂ } }
          events := events', notice := notice' }
        { s' with
          consumableIssues := s'.consumableIssues.put i'.id (i'.val.less units until₂)
          consumableEvents := ledger', audit := audit', clock := clock', minted := minted' }) := by
  subst told noticed
  have same := alike.item_alike item_named item_named'
  have id : e.id = e'.id := congrArg (·.id) same
  have issue := alike.issue_alike own (id ▸ own')
  have after : (i.val.less units until₁).plain = (i'.val.less units until₂).plain := by
    rw [ConsumableIssue.plain_less, show i.val.plain = i'.val.plain from congrArg (·.val) issue,
      ← ConsumableIssue.plain_less]
  refine ⟨?_, rfl, rfl, .inr ⟨e.id, units, ?_, ?_⟩, ⟨rfl, rfl⟩, ?_⟩
  · show Except.ok (Answer.consumableCustody ⟨Plain.item e, some ⟨_, _⟩⟩) =
      Except.ok (Answer.consumableCustody ⟨Plain.item e', some ⟨_, _⟩⟩)
    rw [same, after]
  · exact .took (sound.consumables.get?_of_find? item_named) own rfl rfl
  · rw [id]
    exact .took (sound'.consumables.get?_of_find? item_named') own' rfl rfl
  · have issues := congrArg (List.map (Plain.less e.id units)) alike.issues
    exact { alike with
      issues := (issuesOf_put sound own rfl).trans
        (issues.trans (id ▸ (issuesOf_put sound' own' rfl).symm)) }

end Taken

/-! ## Self-service -/

/-- The operation takes units out of the caller's own issue of an item. -/
inductive ConsumableOp.Draws (item : String) (quantity : Int64) : ConsumableOp → Prop
  | use : Draws item quantity (.use item quantity)
  | reportLoss {kind : LossKind} : Draws item quantity (.reportLoss item quantity kind)

/-- What everybody may ask for themselves. -/
inductive CallerOp.SelfService : CallerOp → Prop
  | holdings : SelfService .holdings
  | draws {item : String} {quantity : Int64} {op : ConsumableOp} :
      op.Draws item quantity → SelfService (.consumables op)

section Served

variable {d : Setting} {ctx : Context} {u : UserId} {s s' : Store} {item : String}
  {quantity : Int64}

/-- What leaves no trace on either side is alike if the answers are. -/
theorem Outcome.alikeFor_void {o o' : Outcome (Except Refusal Answer)} (alike : s.AlikeFor u s')
    (void : o.Void s) (void' : o'.Void s')
    (answers : o.answer.map Answer.plain = o'.answer.map Answer.plain) :
    Outcome.AlikeFor u s s' o o' where
  answers := answers
  events := void.events.trans void'.events.symm
  deliveries := void.deliveries.trans void'.deliveries.symm
  issues := .inl ⟨void.store, void'.store⟩
  stock := ⟨congrArg _ void.store, congrArg _ void'.store⟩
  stores := by
    rw [void.store, void'.store]
    exact alike

theorem ConsumableOp.run_error {op : ConsumableOp} {why : Refusal}
    (refused : (op.run d s ctx).answer = .error why) : (op.run d s ctx).Void s := by
  have whole : ((Operation.caller ctx (.consumables op)).run d s).answer = .error why := refused
  exact Operation.run_error whole

theorem ConsumableOp.eq_ofRead {op : ConsumableOp} {why : Refusal}
    (refused : (op.run d s ctx).answer = .error why) :
    op.run d s ctx = .ofRead s (.error why) :=
  (run_error refused).eq_ofRead.trans (by rw [refused])

/-- Where it is decided alike, it is enough to look at what is done. -/
theorem ConsumableOp.alike_of_decided {op : ConsumableOp} (alike : s.AlikeFor u s')
    (sound : s.Sound) (sound' : s'.Sound)
    (decided : (op.run d s ctx).answer.map (fun _ => ()) =
      (op.run d s' ctx).answer.map (fun _ => ()))
    (steps : ∀ {done done' t t'}, ConsumableStep d ctx s op done t →
      ConsumableStep d ctx s' op done' t' →
        Outcome.AlikeFor u s s' (d.outcome done t) (d.outcome done' t')) :
    Outcome.AlikeFor u s s' (op.run d s ctx) (op.run d s' ctx) := by
  cases answered : (op.run d s ctx).answer with
  | error why =>
    rw [answered] at decided
    have answered' := Results.map_error.1 decided.symm
    exact Outcome.alikeFor_void alike (run_error answered) (run_error answered')
      (by rw [answered, answered'])
  | ok answer =>
    rw [answered] at decided
    obtain ⟨answer', answered', _⟩ := Results.map_ok.1 decided.symm
    obtain ⟨done, t, step, _, out⟩ := ConsumableOp.run_ok sound answered
    obtain ⟨done', t', step', _, out'⟩ := ConsumableOp.run_ok sound' answered'
    rw [out, out']
    exact steps step step'

theorem ConsumableOp.use_alike (alike : s.AlikeFor ctx.actor.id s') (sound : s.Sound)
    (sound' : s'.Sound) (linked : s.Linked) (linked' : s'.Linked) :
    Outcome.AlikeFor ctx.actor.id s s' ((ConsumableOp.use item quantity).run d s ctx)
      ((ConsumableOp.use item quantity).run d s' ctx) := by
  refine alike_of_decided alike sound sound' ?_ fun step step' => ?_
  · rw [use_decided sound linked, use_decided sound' linked', alike.decision]
  · cases step with
    | read reads => cases reads
    | use _ item_named own _ reduced =>
      cases step' with
      | read reads => cases reads
      | use _ item_named' own' _ reduced' =>
        subst reduced reduced'
        have called := alike.item_called item_named item_named'
        refine alike.took sound sound' item_named item_named' own own' ?_ rfl
        simp only [Custody.consumableEvent, called]

theorem ConsumableOp.reportLoss_alike {kind : LossKind} (alike : s.AlikeFor ctx.actor.id s')
    (sound : s.Sound) (sound' : s'.Sound) (linked : s.Linked) (linked' : s'.Linked) :
    Outcome.AlikeFor ctx.actor.id s s' ((ConsumableOp.reportLoss item quantity kind).run d s ctx)
      ((ConsumableOp.reportLoss item quantity kind).run d s' ctx) := by
  have caller : s.named .user ctx.actor.publicId = s'.named .user ctx.actor.publicId := by
    rw [Store.named, Store.named, alike.user_named]
  refine alike_of_decided alike sound sound' ?_ fun step step' => ?_
  · rw [reportLoss_decided sound linked, reportLoss_decided sound' linked', caller, alike.decision]
  · cases step with
    | read reads => cases reads
    | reportLoss _ item_named caller_named own _ reduced _ _ responsible =>
      cases step' with
      | read reads => cases reads
      | reportLoss _ item_named' caller_named' own' _ reduced' _ _ responsible' =>
        subst reduced reduced'
        have called := alike.item_called item_named item_named'
        rw [alike.user_named, caller_named'] at caller_named
        obtain rfl := Option.some.inj caller_named
        rw [alike.responsible, responsible'] at responsible
        obtain rfl := Except.ok.inj responsible
        refine alike.took sound sound' item_named item_named' own own' ?_ ?_
        · simp only [Custody.consumableEvent, called]
        · simp only [called]

/-- Without an open issue of the item, the caller is told so. -/
theorem ConsumableOp.Draws.without_issue {op : ConsumableOp} {e : Entry .consumable Consumable}
    (draws : op.Draws item quantity) (sound : s.Sound) (linked : s.Linked)
    (positive : 0 < quantity.toInt) (named : s.named? .consumable item = some e)
    (none_held : s.openIssue e.id ctx.actor.id = none) :
    (op.run d s ctx).answer = .error (.missing (.openIssue item)) := by
  refine Results.map_error.1 (?_ : (op.run d s ctx).answer.map (fun _ => ()) = _)
  cases draws with
  | use =>
    rw [use_decided sound linked, Store.decision_without_issue positive named none_held]
  | reportLoss =>
    rw [reportLoss_decided sound linked, Store.decision_without_issue positive named none_held]

/-- With enough units in an open issue, the caller gets through. -/
theorem ConsumableOp.Draws.with_issue {op : ConsumableOp} {e : Entry .consumable Consumable}
    {i : Entry .consumableIssue ConsumableIssue} (draws : op.Draws item quantity) (sound : s.Sound)
    (linked : s.Linked) (known : s.Knows ctx) (logged : d.audit = .log)
    (positive : 0 < quantity.toInt) (named : s.named? .consumable item = some e)
    (own : s.openIssue e.id ctx.actor.id = some i) (enough : quantity.toInt ≤ i.val.quantity) :
    (op.run d s ctx).answer.isOk = true := by
  have goes : (op.run d s ctx).answer.map (fun _ => ()) = .ok () := by
    cases draws with
    | use =>
      rw [use_decided sound linked, Store.decision_with_issue positive named own enough logged]
    | reportLoss =>
      obtain ⟨caller, row, called⟩ := known
      have found := Store.named_of_mem sound.users (Table.mem_of_get? row).1
      rw [reportLoss_decided sound linked, ← called, found]
      exact Store.decision_with_issue positive named own enough logged
  obtain ⟨answer, answered, _⟩ := Results.map_ok.1 goes
  exact Results.isOk_iff.2 ⟨answer, answered⟩

/-- Whatever a user asks for as self-service comes to the same in stores that are alike. -/
theorem CallerOp.SelfService.alike {op : CallerOp} (self : op.SelfService)
    (alike : s.AlikeFor ctx.actor.id s') (sound : s.Sound) (sound' : s'.Sound) (linked : s.Linked)
    (linked' : s'.Linked) :
    Outcome.AlikeFor ctx.actor.id s s' (op.run d s ctx) (op.run d s' ctx) := by
  cases self with
  | holdings =>
    exact Outcome.alikeFor_void alike Outcome.void_ofRead Outcome.void_ofRead alike.holdings
  | draws draws =>
    cases draws with
    | use => exact ConsumableOp.use_alike alike sound sound' linked linked'
    | reportLoss => exact ConsumableOp.reportLoss_alike alike sound sound' linked linked'

/-- Self-service of a user, under whatever binding. -/
inductive Operation.SelfServiceOf (u : UserId) : Operation → Prop
  | own {ctx : Context} {op : CallerOp} :
      ctx.actor.id = u → op.SelfService → SelfServiceOf u (.caller ctx op)

/-- Stores stay alike for a user along any self-service of the user. -/
theorem Store.AlikeFor.serve {ops : List Operation} (alike : s.AlikeFor u s') (h : Reachable s)
    (h' : Reachable s') (own : ∀ op ∈ ops, op.SelfServiceOf u) :
    (s.serve d ops).AlikeFor u (s'.serve d ops) := by
  induction ops generalizing s s' with
  | nil => exact alike
  | cons op rest ih =>
    refine ih ?_ (h.run d op) (h'.run d op) fun later among =>
      own later (List.mem_cons_of_mem _ among)
    cases own op (List.mem_cons_self ..) with
    | own by_user self =>
      subst by_user
      exact (self.alike alike h.sound h'.sound h.linked h'.linked).stores

end Served

/-- Self-service of a caller is the same in both stores. -/
structure Store.ServesAlike (d : Setting) (ctx : Context) (s s' : Store) : Prop where
  alike : ∀ {op : CallerOp}, op.SelfService →
    Outcome.AlikeFor ctx.actor.id s s' (op.run d s ctx) (op.run d s' ctx)
  /-- Who has no open issue of an item is told that, and neither store shows who else has one. -/
  without_issue : ∀ {op : ConsumableOp} {item : String} {quantity : Int64}
    {e : Entry .consumable Consumable}, op.Draws item quantity → 0 < quantity.toInt →
    s.named? .consumable item = some e → s.openIssue e.id ctx.actor.id = none →
      op.run d s ctx = .ofRead s (.error (.missing (.openIssue item))) ∧
        op.run d s' ctx = .ofRead s' (.error (.missing (.openIssue item)))
  /-- Who has the units gets through. -/
  with_issue : ∀ {op : ConsumableOp} {item : String} {quantity : Int64}
    {e : Entry .consumable Consumable} {i : Entry .consumableIssue ConsumableIssue},
    s.Knows ctx → d.audit = .log → op.Draws item quantity → 0 < quantity.toInt →
    s.named? .consumable item = some e → s.openIssue e.id ctx.actor.id = some i →
    quantity.toInt ≤ i.val.quantity →
      (op.run d s ctx).answer.isOk = true ∧ (op.run d s' ctx).answer.isOk = true

/-- Two stores that differ in what others were issued, in the ledgers and in the audit log only, are
the same to the user: every operation of self-service has the same refusal, or the same answer up to
minted ids and readings of the clock; it takes the same from the user's own issue, leaves the stock,
and tells and notifies the same. -/
theorem Reachable.self_service_alike {s s' : Store} {u : UserId} {ctx : Context} (h : Reachable s)
    (h' : Reachable s') (alike : s.AlikeFor u s') (own : ctx.actor.id = u) (d : Setting) :
    s.ServesAlike d ctx s' := by
  subst own
  have served {op : CallerOp} (self : op.SelfService) :=
    self.alike (d := d) alike h.sound h'.sound h.linked h'.linked
  refine ⟨served, fun draws positive named none_held => ?_,
    fun known logged draws positive named is_held enough => ?_⟩
  · have told := draws.without_issue (d := d) h.sound h.linked positive named none_held
    have answers := (served (.draws draws)).answers
    have told' := Results.map_error.1 (answers.symm.trans (Results.map_error.2 told))
    exact ⟨ConsumableOp.eq_ofRead told, ConsumableOp.eq_ofRead told'⟩
  · have goes := draws.with_issue h.sound h.linked known logged positive named is_held enough
    have answers := (served (.draws draws)).answers
    obtain ⟨answer, answered⟩ := Results.isOk_iff.1 goes
    obtain ⟨_, answered', _⟩ := Results.map_ok.1 (answers.symm.trans (congrArg _ answered))
    exact ⟨goes, Results.isOk_iff.2 ⟨_, answered'⟩⟩

/-- A canteen with tea for everybody, and whatever is done there. -/
def canteen (done : List Operation) : Store :=
  Store.serve {} {} <|
    [.directory (.bootstrap "root" "Root"),
     .directory (.createUser { publicId := some "ada", displayName := "Ada" }),
     .directory (.createUser { publicId := some "bob", displayName := "Bob" }),
     .caller root (.consumables (.register
       { publicId := some "tea", name := "Tea", quantity := 10 }))] ++ done
where
  root : Context := { actor := ⟨⟨1⟩, "root", "Root"⟩, binding := some .siteAdmin }
  ada : Context := { actor := ⟨⟨2⟩, "ada", "Ada"⟩, binding := none }
  /-- Tea goes to ada. -/
  alone : Store := canteen [.caller root (.consumables (.issue "tea" "ada" 4 none))]
  /-- Tea goes to bob before, and what was on the shelf is restored. -/
  shared : Store := canteen
    [.caller root (.consumables (.issue "tea" "bob" 3 none)),
     .caller root (.consumables (.restock "tea" 3)),
     .caller root (.consumables (.issue "tea" "ada" 4 none))]

/-- Ada cannot tell whether bob was given tea. -/
theorem canteen_serves_alike :
    (canteen.alone.issuesOf ⟨3⟩).length = 0 ∧ (canteen.shared.issuesOf ⟨3⟩).length = 1 ∧
      ((ConsumableOp.use "tea" 4).run {} canteen.shared canteen.ada).answer.isOk = true ∧
      canteen.alone.ServesAlike {} canteen.ada canteen.shared := by
  have reachable {done : List Operation} : Reachable (canteen done) :=
    (Reachable.seeded (.empty 0 0 0)).serve
  have alike : canteen.alone.AlikeFor ⟨2⟩ canteen.shared := by decide +kernel
  exact ⟨by decide +kernel, by decide +kernel, by decide +kernel,
    Reachable.self_service_alike reachable reachable alike rfl {}⟩

end Quartermaster
