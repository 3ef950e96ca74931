import Quartermaster.Proofs.Refusals.Consumable

/-!
# What the storage ever refuses

An operation on a reachable store, for a caller that was told who it is, is refused ordinarily if at
all; the one exception is an issue that runs over (`CallerOp.Overflows`), which the storage refuses.

1. `Leads.ready`: a user stays a user, so a reachable store is ready for a caller whose context was
   made in it or before.
2. `RoleOp.ordinary`, `DirectoryOp.ordinary`, `CallerOp.ordinary`.
3. `Leads.refused_ordinarily`.
-/

namespace Quartermaster

open Results (Ordinary ordinary_ok ordinary_error)
open Tx (ordinary_pure ordinary_bind ordinary_look)

variable {d : Setting} {ctx : Context} {s s' : Store}

/-! ## Users stay -/

theorem RoleStep.keeps_users {op : RoleOp} {done : Committed Answer}
    (step : RoleStep ctx s op done s') : s.users.Within s'.users := by
  cases step with
  | list | grantMore | activateUnknown => exact Table.within_refl
  | grantFirst | activate => exact Table.within_put
  | revoke => exact Table.within_map

theorem DirectoryStep.keeps_users {op : DirectoryOp} {done : Committed Answer}
    (step : DirectoryStep s op done s') : s.users.Within s'.users := by
  cases step with
  | chain | createDepartment | createLocation | createRoom | relocateRoom | relocateLocation =>
    exact Table.within_refl
  | @deleteNode _ scope =>
    cases scope with
    | site | detached | department | location => exact Table.within_refl
    | room => exact Table.within_map
  | createUser => exact Table.within_insert
  | moveUser | bootstrapKnown => exact Table.within_put
  | bootstrapNew => exact fun id here => Table.within_put id (Table.within_insert id here)

theorem OperationStep.keeps_users {op : Operation} {done : Committed Answer}
    (step : OperationStep d s op done s') : s.users.Within s'.users := by
  cases step with
  | directory step => exact step.keeps_users
  | caller step =>
    cases step with
    | holdings => exact Table.within_refl
    | roles step => exact step.keeps_users
    | equipment step =>
      rw [step.frame]
      exact Table.within_refl
    | accessories step =>
      rw [step.frame]
      exact Table.within_refl
    | consumables step =>
      rw [step.frame]
      exact Table.within_refl

theorem Leads.keeps_users {may : Setting → Store → Operation → Prop} {s₀ : Store}
    (h : Leads may s₀ s) (sound : s₀.Sound) : s₀.users.Within s.users :=
  h.invariant (P := fun s => s₀.users.Within s.users) sound Table.within_refl
    fun _ _ _ _ _ _ _ _ before step id here => step.keeps_users id (before id here)

/-- The actor of a context is a user of the store that it was made in. -/
theorem Store.context_knows {user : String} {chosen : Option String}
    (known : s.context user chosen = .ok ctx) : s.users.has ctx.actor.id = true := by
  unfold context at known
  cases named : s.named? .user user with
  | none => simp [named] at known
  | some u =>
    have here : s.users.has u.id = true := has_of_named named
    simp only [named] at known
    split at known
    · split at known
      · obtain rfl := Except.ok.inj known
        exact here
      · cases known
    · obtain rfl := Except.ok.inj known
      exact here

theorem Leads.ready {may : Setting → Store → Operation → Prop} {s₀ : Store} {user : String}
    {chosen : Option String} (h : Leads may s₀ s) (start : Reachable s₀)
    (known : s₀.context user chosen = .ok ctx) : s.Ready ctx where
  sound := h.sound start.sound
  linked := (h.reachable start).linked
  backed := (h.reachable start).backed
  caller := h.keeps_users start.sound _ (Store.context_knows known)

/-! ## Roles -/

namespace Grants

theorem bindingOf_ordinary {role : Role} {scope : Option Locator} :
    Ordinary (bindingOf role scope s) := by
  have bind (role : Role) (scope : Scope) : Ordinary (Binding.bind role scope) := by
    unfold Binding.bind
    split
    · split
      · exact ordinary_ok
      · exact ordinary_error rfl
    · exact ordinary_error rfl
  unfold bindingOf
  split
  · exact ordinary_ok
  · exact ordinary_error rfl
  · exact ordinary_error rfl
  · exact s.resolve_ordinary.bind fun _ _ => bind _ _

instance {role : Role} {scope : Option Locator} : Tx.Looks (Tx.read (bindingOf role scope)) :=
  .read fun _ => bindingOf_ordinary

theorem grant_ordinary {input : GrantInput} (ready : s.Ready ctx) (logged : d.audit = .log) :
    Ordinary (grant d ctx input s) := by
  unfold grant
  refine ordinary_look fun b _ => ordinary_look fun _ _ => ordinary_look fun u _ =>
    ordinary_bind Tx.createRoleAssignment_ordinary fun a s₁ created => ?_
  have linked : s₁.Linked := Tx.Composed.linked ready.linked created
  obtain ⟨_, _, _, rfl, _, rfl⟩ := Tx.createRoleAssignment_ok created
  split
  · exact ordinary_bind (Tx.setActive_ordinary linked Table.has_insert) fun _ _ _ =>
      ordinary_bind (Tx.record_ordinary logged) fun _ _ _ => ordinary_pure
  · exact ordinary_bind (Tx.record_ordinary logged) fun _ _ _ => ordinary_pure

theorem activate_ordinary {assignment : String} (linked : s.Linked) :
    Ordinary (activate ctx assignment s) := by
  unfold activate
  refine ordinary_look fun t here => ordinary_look fun a own => ?_
  obtain rfl := (Tx.get_ok.1 here).1
  obtain ⟨named, _⟩ := Option.filter_eq_some_iff.1 (Tx.present_ok.1 own).1
  exact ordinary_bind (Tx.setActive_ordinary linked (Store.has_of_named named)) fun _ _ _ =>
    ordinary_pure

theorem revoke_ordinary {assignment : String} (logged : d.audit = .log) :
    Ordinary (revoke d ctx assignment s) := by
  unfold revoke
  exact ordinary_look fun _ _ => ordinary_look fun _ _ => ordinary_look fun _ _ =>
    ordinary_bind ordinary_ok fun _ _ _ =>
      ordinary_bind (Tx.record_ordinary logged) fun _ _ _ => ordinary_pure

end Grants

theorem RoleOp.ordinary (op : RoleOp) (ready : s.Ready ctx) (logged : d.audit = .log) :
    Ordinary (op.run d s ctx).answer := by
  cases op with
  | list => exact ordinary_ok
  | grant input => exact Setting.commit_ordinary (Grants.grant_ordinary ready logged)
  | activate assignment =>
    exact Setting.commitQuietly_ordinary (Grants.activate_ordinary ready.linked)
  | revoke assignment => exact Setting.commit_ordinary (Grants.revoke_ordinary logged)

/-! ## The directory -/

namespace Directory

theorem moveUser_ordinary {user : String} {room : Option String} (linked : s.Linked) :
    Ordinary (moveUser user room s) := by
  unfold moveUser
  refine ordinary_look fun u _ => ordinary_look fun target placed => ?_
  have there := Store.rooms_resolve (Tx.read_ok.1 placed).1
  exact ordinary_bind (Tx.setUserRoom_ordinary linked there) fun _ _ _ => Tx.Looks.ordinary _

theorem bootstrap_ordinary {user displayName : String} (linked : s.Linked) :
    Ordinary (bootstrap user displayName s) := by
  have appoint (u : Entry .user User) {t : Store} (linked : t.Linked) :
      Ordinary ((do
        let a ← Tx.createRoleAssignment none u.id .siteAdmin none
        Tx.setActive u.id (some a.id)
        return a) t) := by
    refine ordinary_bind Tx.createRoleAssignment_ordinary fun a t₁ created => ?_
    have linked : t₁.Linked := Tx.Composed.linked linked created
    obtain ⟨_, _, _, rfl, _, rfl⟩ := Tx.createRoleAssignment_ok created
    exact ordinary_bind (Tx.setActive_ordinary linked Table.has_insert) fun _ _ _ => ordinary_pure
  unfold bootstrap
  refine ordinary_look fun _ _ => ordinary_look fun _ _ => ordinary_look fun t _ => ?_
  cases t.named? .user user with
  | some u => exact ordinary_look fun _ _ => appoint _ linked
  | none =>
    exact ordinary_bind Tx.createUser_ordinary fun u s₁ created =>
      appoint u (Tx.Composed.linked linked created)

end Directory

theorem DirectoryOp.ordinary (op : DirectoryOp) (linked : s.Linked) :
    Ordinary (op.run d s).answer := by
  cases op with
  | chain node => exact s.chain_ordinary.map
  | createDepartment input => exact Setting.commitQuietly_ordinary Tx.createDepartment_ordinary
  | createLocation input => exact Setting.commitQuietly_ordinary Tx.createLocation_ordinary
  | createRoom input => exact Setting.commitQuietly_ordinary Tx.createRoom_ordinary
  | relocateRoom room location => exact Setting.commitQuietly_ordinary Tx.relocateRoom_ordinary
  | relocateLocation location department =>
    exact Setting.commitQuietly_ordinary Tx.relocateLocation_ordinary
  | deleteNode node => exact Setting.commitQuietly_ordinary Tx.deleteNode_ordinary
  | createUser input => exact Setting.commitQuietly_ordinary Tx.createUser_ordinary
  | moveUser user room => exact Setting.commitQuietly_ordinary (Directory.moveUser_ordinary linked)
  | bootstrap user displayName =>
    exact Setting.commitQuietly_ordinary (Directory.bootstrap_ordinary linked)

/-! ## All operations -/

theorem Store.holdings_ordinary {holder : UserId} : Ordinary (s.holdings holder) := by
  unfold holdings
  refine .bind (.mapM fun _ _ => s.numbered_ordinary.map) fun _ _ => ?_
  refine .bind (.mapM fun _ _ => s.numbered_ordinary.map) fun _ _ => ?_
  exact .bind (.mapM fun _ _ => s.numbered_ordinary.map) fun _ _ => ordinary_ok

/-- The operation is an issue that runs over. -/
def CallerOp.Overflows (s : Store) (ctx : Context) : CallerOp → Prop
  | .consumables op => s.Overflows ctx op
  | _ => False

theorem CallerOp.ordinary (op : CallerOp) (ready : s.Ready ctx) (logged : d.audit = .log)
    (no_overflow : ¬ op.Overflows s ctx) : Ordinary (op.run d s ctx).answer := by
  cases op with
  | holdings => exact s.holdings_ordinary.map
  | roles op => exact op.ordinary ready logged
  | equipment op => exact op.ordinary ready logged
  | accessories op => exact op.ordinary ready logged
  | consumables op => exact op.ordinary ready logged no_overflow

theorem CallerOp.overflow_refused {op : CallerOp} (sound : s.Sound) (linked : s.Linked)
    (overflows : op.Overflows s ctx) : (op.run d s ctx).answer = .error (.storage .outOfRange) := by
  cases op with
  | consumables op => exact ConsumableOp.overflow_refused sound linked overflows
  | _ => exact overflows.elim

/-- All counts of units fit a word. -/
structure Store.Counted (s : Store) : Prop where
  accessories : ∀ e ∈ s.accessories.entries, fitsWord e.val.quantity = true
  accessoryAssignments : ∀ a ∈ s.accessoryAssignments.entries, fitsWord a.val.quantity = true
  consumables : ∀ e ∈ s.consumables.entries, fitsWord e.val.quantity = true
  consumableIssues : ∀ i ∈ s.consumableIssues.entries,
    fitsWord i.val.quantity = true ∧ fitsWord i.val.issuedQuantity = true

theorem Store.Sound.counted (sound : s.Sound) : s.Counted where
  accessories e member := (sound.accessories.valid e member).1
  accessoryAssignments a member := (sound.accessoryAssignments.valid a member).1
  consumables e member := (Bool.and_eq_true_iff.1 (sound.consumables.valid e member).1).1
  consumableIssues i member := Bool.and_eq_true_iff.1 (sound.consumableIssues.valid i member).1

/-- With a working audit log an operation is refused ordinarily if at all, in whatever store a run has
left and for whoever was known before it; only an issue that runs over is refused by the storage. Every
count of units that is kept fits a word, whatever was asked for. -/
theorem Leads.refused_ordinarily {s₀ : Store} {user : String} {chosen : Option String}
    (run : Leads Anything s₀ s) (start : Reachable s₀) (known : s₀.context user chosen = .ok ctx)
    (logged : d.audit = .log) :
    s.Counted ∧ (∀ op : DirectoryOp, Ordinary (op.run d s).answer) ∧
      ∀ op : CallerOp,
        (¬ op.Overflows s ctx → Ordinary (op.run d s ctx).answer) ∧
          (op.Overflows s ctx → (op.run d s ctx).answer = .error (.storage .outOfRange)) := by
  have ready := run.ready start known
  exact ⟨ready.sound.counted, fun op => op.ordinary ready.linked, fun op =>
    ⟨op.ordinary ready logged, CallerOp.overflow_refused ready.sound ready.linked⟩⟩

/-- As many bolts as can be kept are all issued to somebody, who brings one back. -/
def lastBolt : Store :=
  Store.serve {} {}
    [.directory (.bootstrap "root" "Root"),
     .caller root (.consumables (.register
       { publicId := some "bolts", name := "Bolts", quantity := Int64.maxValue })),
     .caller root (.consumables (.issue "bolts" "root" Int64.maxValue none)),
     .caller root (.consumables (.takeBack (Minted.text 0 2) 1))]
where
  root : Context := { actor := ⟨⟨1⟩, "root", "Root"⟩, binding := some .siteAdmin }

namespace lastBolt

theorem reachable : Reachable lastBolt := Reachable.serve (.seeded (.empty 0 0 0))

theorem known : lastBolt.context "root" none = .ok root := Results.toOption_iff.1 (by decide +kernel)

/-- The bolts with what is in stock of them. -/
def bolts : Entry .consumable Consumable :=
  (lastBolt.named? .consumable "bolts").get (by decide +kernel)

/-- Who has all the others. -/
def holder : Entry .user User := (lastBolt.named? .user "root").get (by decide +kernel)

def held : Entry .consumableIssue ConsumableIssue :=
  (lastBolt.openIssue bolts.id holder.id).get (by decide +kernel)

/-- Issuing the bolt that came back runs over. -/
theorem overflows : lastBolt.Overflows root (.issue "bolts" "root" 1 none) :=
  .issue (e := bolts) (u := holder) (by decide) (Option.some_get _).symm (Option.some_get _).symm
    (Results.toOption_iff.1 (by decide +kernel)) (by decide +kernel)
    (show _ = some held from (Option.some_get _).symm) (by decide +kernel)

end lastBolt

/-- The last bolt is in stock, somebody who may issue it asks for it, and the refusal is a fatal
one. -/
theorem lastBolt_issue_fatal :
    Reachable lastBolt ∧ lastBolt.context "root" none = .ok lastBolt.root ∧
      ∃ why, (ConsumableOp.run {} lastBolt lastBolt.root (.issue "bolts" "root" 1 none)).answer =
        .error why ∧ why.isOrdinary = false ∧ why.report.kind = .fatal :=
  ⟨lastBolt.reachable, lastBolt.known, .storage .outOfRange,
    ConsumableOp.overflow_refused lastBolt.reachable.sound lastBolt.reachable.linked
      lastBolt.overflows, rfl, rfl⟩

/-- Restocking beyond what can be kept is refused ordinarily, where issuing beyond it is not. -/
theorem lastBolt_refused_ordinarily :
    lastBolt.Counted ∧
      (ConsumableOp.run {} lastBolt lastBolt.root (.restock "bolts" Int64.maxValue)).answer.isOk = false ∧
      Ordinary (ConsumableOp.run {} lastBolt lastBolt.root (.restock "bolts" Int64.maxValue)).answer ∧
      (ConsumableOp.run {} lastBolt lastBolt.root (.issue "bolts" "root" 1 none)).answer =
        .error (.storage .outOfRange) := by
  obtain ⟨counted, _, asked⟩ :=
    Leads.refused_ordinarily (d := {}) .refl lastBolt.reachable lastBolt.known rfl
  refine ⟨counted, by decide +kernel, ?_, ?_⟩
  · exact (asked (.consumables (.restock "bolts" Int64.maxValue))).1 nofun
  · exact (asked (.consumables (.issue "bolts" "root" 1 none))).2 lastBolt.overflows

end Quartermaster
