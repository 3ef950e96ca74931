import Quartermaster.Proofs.Phases

/-!
# Calls at the same time

Many calls are under way at once, each with a setting and a context of its own. A call that has two
phases reads at one moment and decides at a later one, and any number of others may read and decide in
between; every other call is one transaction or one read. Whatever the interleaving, the calls were
answered, and the store was left, as if each had been carried out alone, in the order in which they
decided.

1. `Pending.Whole`: what is left of a call that has read is the whole call, now and later.
2. `Traffic.Step.sequential`, `Traffic.Run.sequential`: one step, and a whole run.
3. `Reachable.linearizable`.
-/

namespace Quartermaster

/-- An operation with the setting that it is carried out under. -/
structure Call where
  setting : Setting
  op : Operation

namespace Call

/-- What comes of a call that is alone. -/
def run (c : Call) (s : Store) : Outcome (Except Refusal Answer) := c.op.run c.setting s

/-- The phases of a call that has two. -/
def phases (c : Call) : Option Phased :=
  match c.op with
  | .directory _ => none
  | .caller ctx op => op.phases c.setting ctx

end Call

/-- A call that has read. What is left of it is one transaction. -/
structure Pending where
  call : Call
  rest : Tx (Committed Answer)

/-- What comes of it when it decides. -/
def Pending.decide (w : Pending) (s : Store) : Outcome (Except Refusal Answer) :=
  w.call.setting.commit s w.rest

/-- The calls that were begun, those of them that are between their phases, and those that are
answered, with what came of them, in the order of the answers. -/
structure Traffic where
  store : Store
  begun : List Call := []
  pending : List Pending := []
  answered : List (Call × Outcome (Except Refusal Answer)) := []

namespace Traffic

/-- What can happen next. -/
inductive Step (t : Traffic) : Traffic → Prop
  /-- A call without phases is carried out. -/
  | whole {c : Call} : c.phases = none →
      Step t { t with
        store := (c.run t.store).store
        begun := t.begun ++ [c]
        answered := t.answered ++ [(c, c.run t.store)] }
  /-- A call reads, and finds what it looks for. -/
  | reads {c : Call} {p : Phased} {found : p.Found} :
      c.phases = some p → p.phases.read t.store = .ok found →
      Step t { t with
        begun := t.begun ++ [c]
        pending := t.pending ++ [⟨c, p.phases.commit found⟩] }
  /-- A call reads, and is refused. -/
  | refused {c : Call} {p : Phased} {why : Refusal} :
      c.phases = some p → p.phases.read t.store = .error why →
      Step t { t with
        begun := t.begun ++ [c]
        answered := t.answered ++ [(c, { answer := .error why, store := t.store })] }
  /-- Any of the calls that have read decides. -/
  | decides {before after : List Pending} {w : Pending} : t.pending = before ++ w :: after →
      Step t { t with
        store := (w.decide t.store).store
        pending := before ++ after
        answered := t.answered ++ [(w.call, w.decide t.store)] }

/-- What can become of a store that calls come to. -/
inductive Run (s₀ : Store) : Traffic → Prop
  | start : Run s₀ { store := s₀ }
  | step {t t' : Traffic} : Run s₀ t → t.Step t' → Run s₀ t'

end Traffic

/-- The call of a turn, with what comes of the turn. -/
def Turn.answered (turn : Turn) : Call × Outcome (Except Refusal Answer) :=
  (⟨turn.setting, turn.op⟩, turn.outcome)

/-- The calls that are answered took turns: each was carried out alone on the store that the one
before it left. Every call that was begun is answered once, or has still to decide. -/
def Traffic.Sequential (s₀ : Store) (t : Traffic) : Prop :=
  (∃ turns, LeadsBy Anything s₀ turns t.store ∧ t.answered = turns.map Turn.answered) ∧
    (t.answered.map (·.1) ++ t.pending.map (·.call)).Perm t.begun

/-! ## Deciding later -/

/-- What is left of the call is the whole call, and stays so whatever happens. -/
def Pending.Whole (w : Pending) (s : Store) : Prop :=
  ∀ s', Leads Anything s s' → w.decide s' = w.call.run s'

variable {s₀ s : Store}

theorem Pending.Whole.later {s' : Store} {w : Pending} (h : w.Whole s) (run : Leads Anything s s') :
    w.Whole s' :=
  fun _ next => h _ (run.trans next)

theorem Call.run_phases {c : Call} {p : Phased} (phased : c.phases = some p) :
    c.run s = c.setting.run s p.phases := by
  obtain ⟨d, op⟩ := c
  cases op with
  | directory op => cases phased
  | caller ctx op => exact op.run_phases phased

theorem Call.stands {c : Call} {p : Phased} {found : p.Found} (later : s₀.Later s)
    (phased : c.phases = some p) (reads : p.phases.read s₀ = .ok found) :
    p.phases.Stands found s := by
  obtain ⟨d, op⟩ := c
  cases op with
  | directory op => cases phased
  | caller ctx op => exact op.stands later phased reads

/-- A call that has read has the whole call left. -/
theorem Pending.whole_of_reads {c : Call} {p : Phased} {found : p.Found} (sound : s.Sound)
    (phased : c.phases = some p) (reads : p.phases.read s = .ok found) :
    Pending.Whole ⟨c, p.phases.commit found⟩ s := by
  intro s' run
  have later : s.Later s' := ⟨sound, run.sound sound, run.lasting sound⟩
  calc c.setting.commit s' (p.phases.commit found)
      = c.setting.run s' p.phases := (c.stands later phased reads).commit_eq_run
    _ = c.run s' := (Call.run_phases phased).symm

/-! ## The order of the answers -/

namespace Traffic

/-- What every step keeps. -/
structure Orderly (s₀ : Store) (t : Traffic) : Prop where
  sequential : t.Sequential s₀
  whole : ∀ w ∈ t.pending, w.Whole t.store

/-- A call that is answered as it would be alone takes the next turn. -/
theorem next_turn {t : Traffic} {turns : List Turn} (c : Call)
    (led : LeadsBy Anything s₀ turns t.store) (answered : t.answered = turns.map Turn.answered) :
    ∃ turns', LeadsBy Anything s₀ turns' (c.run t.store).store ∧
      t.answered ++ [(c, c.run t.store)] = turns'.map Turn.answered := by
  refine ⟨_, led.snoc c.setting c.op trivial, ?_⟩
  rw [List.map_append, answered]
  rfl

/-- One more answer for one more call. -/
theorem perm_of_answer {answered waiting begun : List Call} (c : Call)
    (all : (answered ++ waiting).Perm begun) :
    ((answered ++ [c]) ++ waiting).Perm (begun ++ [c]) := by
  calc ((answered ++ [c]) ++ waiting).Perm (answered ++ (waiting ++ [c])) := by
        rw [List.append_assoc]
        exact List.perm_append_comm.append_left answered
    _ = answered ++ waiting ++ [c] := (List.append_assoc ..).symm
    _ |>.Perm (begun ++ [c]) := all.append_right [c]

theorem Step.orderly {t t' : Traffic} (step : t.Step t') (sound : t.store.Sound)
    (h : t.Orderly s₀) : t'.Orderly s₀ := by
  obtain ⟨⟨⟨turns, led, answered⟩, all⟩, whole⟩ := h
  cases step with
  | @whole c =>
    refine ⟨⟨next_turn c led answered, ?_⟩, fun w waits => ?_⟩
    · rw [List.map_append]
      exact perm_of_answer c all
    · exact (whole w waits).later (Leads.refl.run c.setting c.op trivial)
  | @reads c p found phased found_now =>
    refine ⟨⟨⟨turns, led, answered⟩, ?_⟩, fun w waits => ?_⟩
    · rw [List.map_append, ← List.append_assoc]
      exact all.append_right _
    · rcases List.mem_append.1 waits with old | new
      · exact whole w old
      · obtain rfl := List.mem_singleton.1 new
        exact Pending.whole_of_reads sound phased found_now
  | @refused c p why phased fails =>
    -- the whole call is refused by its first phase too
    have alone : c.run t.store = { answer := .error why, store := t.store } := by
      rw [Call.run_phases phased, Setting.run, fails]
    obtain ⟨turns', led', answered'⟩ := next_turn c led answered
    rw [alone] at led' answered'
    refine ⟨⟨⟨turns', led', answered'⟩, ?_⟩, whole⟩
    rw [List.map_append]
    exact perm_of_answer c all
  | @decides before after w split =>
    have mine : w ∈ t.pending := by
      rw [split]
      exact List.mem_append_right _ (List.mem_cons_self ..)
    have alone : w.decide t.store = w.call.run t.store := whole w mine _ .refl
    rw [alone]
    refine ⟨⟨next_turn w.call led answered, ?_⟩, fun v waits => ?_⟩
    · rw [split, List.map_append, List.map_cons] at all
      have moved : (w.call :: (before.map (·.call) ++ after.map (·.call))).Perm
          (before.map (·.call) ++ w.call :: after.map (·.call)) := List.perm_middle.symm
      rw [List.map_append, List.map_append, List.append_assoc]
      exact (moved.append_left _).trans all
    · have old : v ∈ t.pending := by
        rw [split]
        rcases List.mem_append.1 waits with first | last
        · exact List.mem_append_left _ first
        · exact List.mem_append_right _ (List.mem_cons_of_mem _ last)
      exact (whole v old).later (Leads.refl.run w.call.setting w.call.op trivial)

theorem Run.orderly {t : Traffic} (run : Run s₀ t) (sound : s₀.Sound) : t.Orderly s₀ := by
  induction run with
  | start => exact ⟨⟨⟨[], .nil, rfl⟩, .refl _⟩, fun _ waits => absurd waits List.not_mem_nil⟩
  | step _ next ih =>
    obtain ⟨_, led, _⟩ := ih.sequential.1
    exact next.orderly (led.leads.sound sound) ih

end Traffic

/-! ## Linearizability -/

/-- In the store `s₀` and ever after, an operation in two phases decides as the whole operation would;
and calls that come at the same time are answered as they would be one after the other. -/
structure Store.Linearizable (s₀ : Store) : Prop where
  decides (d : Setting) (ctx : Context) (op : CallerOp) (p : Phased) (found : p.Found) (s : Store) :
    op.phases d ctx = some p → p.phases.read s₀ = .ok found → Leads Anything s₀ s →
      d.commit s (p.phases.commit found) = op.run d s ctx
  sequential (t : Traffic) : Traffic.Run s₀ t → t.Sequential s₀

theorem Reachable.linearizable (h : Reachable s₀) : s₀.Linearizable where
  decides d ctx op p found s phased reads run := by
    have later : s₀.Later s := ⟨h.sound, run.sound h.sound, run.lasting h.sound⟩
    rw [(op.stands later phased reads).commit_eq_run, op.run_phases phased]
  sequential _ run := (run.orderly h.sound).sequential

/-- A shop with one drill that two clerks want to hand out. -/
def drillShop : Store :=
  Store.serve {} {}
    [.directory (.bootstrap "root" "Root"),
     .directory (.createUser { publicId := some "guest", displayName := "Guest" }),
     .caller root (.equipment (.register { publicId := some "drill", name := "Drill" }))]
where
  root : Context := { actor := ⟨⟨1⟩, "root", "Root"⟩, binding := some .siteAdmin }
  /-- One clerk hands it to the guest, the other keeps it. -/
  lend : CallerOp := .equipment (.assign "drill" "guest" none)
  keep : CallerOp := .equipment (.assign "drill" "root" none)
  /-- The phases of both. -/
  lending : Phased :=
    ⟨(Custody.assignEquipment {} root "drill" "guest" none).map .equipmentCustody⟩
  keeping : Phased :=
    ⟨(Custody.assignEquipment {} root "drill" "root" none).map .equipmentCustody⟩

/-- Both clerks find the drill on its shelf; the one that decides first hands it out, and the other is
refused as one that comes too late. -/
theorem drillShop_linearizable :
    ∃ lent kept t, drillShop.lending.phases.read drillShop = .ok lent ∧
      drillShop.keeping.phases.read drillShop = .ok kept ∧
      Setting.commit {} (drillShop.lend.run {} drillShop drillShop.root).store
        (drillShop.keeping.phases.commit kept) =
          drillShop.keep.run {} (drillShop.lend.run {} drillShop drillShop.root).store
            drillShop.root ∧
      Traffic.Run drillShop t ∧ t.pending = [] ∧
      t.answered.map (·.2.answer.isOk) = [true, false] ∧ t.Sequential drillShop := by
  have linearizable := Reachable.linearizable
    (show Reachable drillShop from Reachable.serve (.seeded (.empty 0 0 0)))
  have lends : (drillShop.lending.phases.read drillShop).isOk = true := by decide +kernel
  have keeps : (drillShop.keeping.phases.read drillShop).isOk = true := by decide +kernel
  obtain ⟨lent, reads⟩ := Results.isOk_iff.1 lends
  obtain ⟨kept, reads'⟩ := Results.isOk_iff.1 keeps
  have first := linearizable.decides {} drillShop.root drillShop.lend drillShop.lending lent
    drillShop rfl reads .refl
  have second : Setting.commit {} (drillShop.lend.run {} drillShop drillShop.root).store
      (drillShop.keeping.phases.commit kept) =
        drillShop.keep.run {} (drillShop.lend.run {} drillShop drillShop.root).store
          drillShop.root :=
    linearizable.decides {} drillShop.root drillShop.keep drillShop.keeping kept _ rfl reads'
      (Leads.refl.run {} (.caller drillShop.root drillShop.lend) trivial)
  -- both read, then both decide
  have run := (((Traffic.Run.start.step (.reads (c := ⟨{}, .caller _ drillShop.lend⟩) rfl reads)).step
    (.reads (c := ⟨{}, .caller _ drillShop.keep⟩) rfl reads')).step
    (@Traffic.Step.decides _ [] _ _ rfl)).step (@Traffic.Step.decides _ [] _ _ rfl)
  refine ⟨lent, kept, _, reads, reads', second, run, rfl, ?_, linearizable.sequential _ run⟩
  have in_time : (drillShop.lend.run {} drillShop drillShop.root).answer.isOk = true := by
    decide +kernel
  have too_late : (drillShop.keep.run {} (drillShop.lend.run {} drillShop drillShop.root).store
      drillShop.root).answer.isOk = false := by
    decide +kernel
  show [(Setting.commit {} drillShop (drillShop.lending.phases.commit lent)).answer.isOk,
    (Setting.commit {} (Setting.commit {} drillShop (drillShop.lending.phases.commit lent)).store
      (drillShop.keeping.phases.commit kept)).answer.isOk] = _
  rw [first, second, in_time, too_late]

end Quartermaster
