import Quartermaster.Proofs.Reachable

/-!
# Runs

`Leads may s₀ s`: operations in a row lead from the store `s₀` to the store `s`, each of them one
that `may` happen under its setting in the store that it meets. Settings and callers may change from
one operation to the next, and refused operations are among them. With `Anything` a run is not
restricted. `LeadsBy may s₀ turns s` is such a run with its turns written down.

Results:

1. `Leads.reachable`: what a run leaves is reachable if its start is.
2. `Leads.invariant`: what holds at the start of a run and is kept by every step that may happen
   holds at its end.
3. `LeadsBy.leads`, `LeadsBy.serve`: a run with its turns is a run, and operations in a row are one.
4. `LeadsBy.turn`, `LeadsBy.later`: every turn is between the start and the end of its run.
5. `LeadsBy.collects`: what is only added to has grown by what the turns add, one by one.
-/

namespace Quartermaster

inductive Leads (may : Setting → Store → Operation → Prop) (s₀ : Store) : Store → Prop
  | refl : Leads may s₀ s₀
  | run {s : Store} (d : Setting) (op : Operation) :
      Leads may s₀ s → may d s op → Leads may s₀ (op.run d s).store

/-- Every operation may happen. -/
def Anything : Setting → Store → Operation → Prop := fun _ _ _ => True

variable {may : Setting → Store → Operation → Prop} {s₀ s : Store}

/-- Operations in a row are a run. -/
theorem Leads.serve {d : Setting} {ops : List Operation} (h : Leads Anything s₀ s) :
    Leads Anything s₀ (s.serve d ops) := by
  induction ops generalizing s with
  | nil => exact h
  | cons op rest ih => exact ih (h.run d op trivial)

theorem Leads.reachable (h : Leads may s₀ s) (start : Reachable s₀) : Reachable s := by
  induction h with
  | refl => exact start
  | run d op _ _ ih => exact ih.run d op

theorem Leads.sound (h : Leads may s₀ s) (start : s₀.Sound) : s.Sound := by
  induction h with
  | refl => exact start
  | run d op _ _ ih => exact Operation.store_sound ih

/-- What holds at the start and is kept by every step that may happen holds at the end. -/
theorem Leads.invariant {P : Store → Prop} (h : Leads may s₀ s) (sound : s₀.Sound) (start : P s₀)
    (step : ∀ d s op done s', may d s op → (op.run d s).answer = .ok done.answer → s.Sound → P s →
      OperationStep d s op done s' → P s') : P s := by
  induction h with
  | refl => exact start
  | @run s d op before allowed ih =>
    have here := before.sound sound
    cases answered : (op.run d s).answer with
    | ok answer =>
      obtain ⟨done, s', taken, _, out⟩ := Operation.run_ok here answered
      rw [out]
      exact step d s op done s' allowed (by rw [out]; rfl) here ih taken
    | error why =>
      -- a refused operation leaves the store
      rw [(Operation.run_error answered).store]
      exact ih

/-- A run that goes on from another run. -/
theorem Leads.trans {s' : Store} (h : Leads may s₀ s) (next : Leads may s s') : Leads may s₀ s' := by
  induction next with
  | refl => exact h
  | run d op _ allowed ih => exact ih.run d op allowed

/-! ## Turns -/

/-- An operation of a run, with its setting and the store that it meets. -/
structure Turn where
  setting : Setting
  before : Store
  op : Operation

/-- What comes of a turn. -/
def Turn.outcome (t : Turn) : Outcome (Except Refusal Answer) := t.op.run t.setting t.before

/-- A run with its turns, in order. -/
inductive LeadsBy (may : Setting → Store → Operation → Prop) (s₀ : Store) :
    List Turn → Store → Prop
  | nil : LeadsBy may s₀ [] s₀
  | snoc {turns : List Turn} {s : Store} (d : Setting) (op : Operation) :
      LeadsBy may s₀ turns s → may d s op →
      LeadsBy may s₀ (turns ++ [⟨d, s, op⟩]) (op.run d s).store

/-- The turns of operations in a row. -/
def Store.turns (s : Store) (d : Setting) : List Operation → List Turn
  | [] => []
  | op :: rest => ⟨d, s, op⟩ :: (op.run d s).store.turns d rest

variable {turns : List Turn}

theorem LeadsBy.leads (h : LeadsBy may s₀ turns s) : Leads may s₀ s := by
  induction h with
  | nil => exact .refl
  | snoc d op _ allowed ih => exact ih.run d op allowed

theorem LeadsBy.serve {d : Setting} {ops : List Operation} (h : LeadsBy may s₀ turns s)
    (allowed : ∀ t ∈ s.turns d ops, may t.setting t.before t.op) :
    LeadsBy may s₀ (turns ++ s.turns d ops) (s.serve d ops) := by
  induction ops generalizing s turns with
  | nil =>
    rw [Store.turns, List.append_nil]
    exact h
  | cons op rest ih =>
    have first := h.snoc d op (allowed _ (List.mem_cons_self ..))
    have whole := ih first fun t later => allowed t (List.mem_cons_of_mem _ later)
    rwa [List.append_assoc] at whole

/-- Operations in a row, each of which may happen where it does, are a run. -/
theorem Store.leadsBy_turns {d : Setting} {ops : List Operation}
    (allowed : ∀ t ∈ s.turns d ops, may t.setting t.before t.op) :
    LeadsBy may s (s.turns d ops) (s.serve d ops) :=
  @LeadsBy.serve may s s [] d ops .nil allowed

/-- Every turn meets a store that the run has led to. -/
theorem LeadsBy.turn (h : LeadsBy may s₀ turns s) :
    ∀ t ∈ turns, Leads may s₀ t.before ∧ may t.setting t.before t.op := by
  induction h with
  | nil => exact fun _ among => absurd among List.not_mem_nil
  | snoc d op before allowed ih =>
    intro t among
    rcases List.mem_append.1 among with earlier | last
    · exact ih t earlier
    · obtain rfl := List.mem_singleton.1 last
      exact ⟨before.leads, allowed⟩

/-- Whatever a turn leaves leads on to what the run leaves. -/
theorem LeadsBy.later (h : LeadsBy may s₀ turns s) :
    ∀ t ∈ turns, Leads may t.outcome.store s := by
  induction h with
  | nil => exact fun _ among => absurd among List.not_mem_nil
  | snoc d op _ allowed ih =>
    intro t among
    rcases List.mem_append.1 among with earlier | last
    · exact (ih t earlier).run d op allowed
    · obtain rfl := List.mem_singleton.1 last
      exact .refl

/-- What a turn adds to a list that it only adds to. -/
def Turn.added {β : Type} (list : Store → List β) (t : Turn) : List β :=
  (list t.outcome.store).drop (list t.before).length

theorem Turn.added_eq {β : Type} {list : Store → List β} {t : Turn} {rows : List β}
    (grows : list t.outcome.store = list t.before ++ rows) : t.added list = rows := by
  rw [added, grows, List.drop_left]

/-- Where every turn only adds to a list, the run adds what its turns add, in order. -/
theorem LeadsBy.collects {β : Type} (h : LeadsBy may s₀ turns s) (list : Store → List β)
    (adds : ∀ t ∈ turns, list t.outcome.store = list t.before ++ t.added list) :
    list s = list s₀ ++ turns.flatMap (Turn.added list) := by
  induction h with
  | nil => exact (List.append_nil _).symm
  | @snoc turns s d op _ _ ih =>
    have last := adds ⟨d, s, op⟩ (List.mem_append_right _ (List.mem_singleton_self _))
    rw [List.flatMap_append, List.flatMap_singleton, ← List.append_assoc,
      ← ih fun t earlier => adds t (List.mem_append_left _ earlier)]
    exact last

end Quartermaster
