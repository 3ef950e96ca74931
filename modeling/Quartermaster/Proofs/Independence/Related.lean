import Quartermaster.Proofs.Inversion

/-!
# Two runs of a transaction

`Related P x y`: both results are the same refusal, or both are answers, and `P` holds of the two.
A transaction that runs on two stores is followed step by step: what its first step comes to on both
is handed to the rest (`Tx.related_bind`), and a step that only looks, and finds the same on both, is
passed over (`Tx.related_read`, ...).
-/

namespace Quartermaster

variable {α α' β β' γ γ' : Type} {s t : Store}

/-- One refusal, or two answers of which something holds. -/
inductive Related (P : α → β → Prop) : Except Refusal α → Except Refusal β → Prop
  | refused (why : Refusal) : Related P (.error why) (.error why)
  | answered {a : α} {b : β} : P a b → Related P (.ok a) (.ok b)

namespace Related

variable {P : α → β → Prop} {Q : α' → β' → Prop} {x : Except Refusal α} {y : Except Refusal β}

theorem bind {f : α → Except Refusal α'} {g : β → Except Refusal β'} (h : Related P x y)
    (rest : ∀ a b, x = .ok a → y = .ok b → P a b → Related Q (f a) (g b)) :
    Related Q (x >>= f) (y >>= g) := by
  cases h with
  | refused why => exact .refused why
  | answered holds => exact rest _ _ rfl rfl holds

end Related

namespace Tx

variable {P : α × Store → β × Store → Prop} {Q : γ × Store → γ' × Store → Prop} {x : Tx α} {y : Tx β}
  {f : α → Tx γ} {g : β → Tx γ'}

/-- What the first step comes to on both stores is handed to the rest. -/
theorem related_bind (h : Related P (x s) (y t))
    (rest : ∀ a s' b t', x s = .ok (a, s') → y t = .ok (b, t') → P (a, s') (b, t') →
      Related Q (f a s') (g b t')) : Related Q ((x >>= f) s) ((y >>= g) t) :=
  h.bind fun r r' ran ran' holds => rest r.1 r.2 r'.1 r'.2 ran ran' holds

theorem related_pure {a : α} {b : β} (holds : P (a, s) (b, t)) :
    Related P ((pure a : Tx α) s) ((pure b : Tx β) t) :=
  .answered holds

theorem read_bind {p : Store → Except Refusal α} : (read p >>= f) s = p s >>= fun a => f a s := by
  show ((p s).map (·, s) >>= fun r => f r.1 r.2) = _
  cases p s <;> rfl

/-- A step that only looks. -/
theorem related_look {R : α → β → Prop} {p : Store → Except Refusal α} {q : Store → Except Refusal β}
    (h : Related R (p s) (q t))
    (rest : ∀ a b, p s = .ok a → q t = .ok b → R a b → Related Q (f a s) (g b t)) :
    Related Q ((read p >>= f) s) ((read q >>= g) t) := by
  rw [read_bind, read_bind]
  exact h.bind rest

/-- A step that looks, and finds the same. -/
theorem related_read {p q : Store → Except Refusal α} {g : α → Tx γ'} (same : p s = q t)
    (rest : ∀ a, p s = .ok a → Related Q (f a s) (g a t)) :
    Related Q ((read p >>= f) s) ((read q >>= g) t) := by
  rw [read_bind, read_bind, ← same]
  cases asked : p s with
  | ok a => exact rest a asked
  | error why => exact .refused why

theorem related_require {ok ok' : Bool} {why : Refusal} {f : Unit → Tx γ} {g : Unit → Tx γ'}
    (same : ok = ok') (rest : ok = true → Related Q (f () s) (g () t)) :
    Related Q ((require ok why >>= f) s) ((require ok' why >>= g) t) := by
  subst same
  cases ok with
  | true => exact rest rfl
  | false => exact .refused why

theorem related_present {value value' : Option α} {why : Refusal} {g : α → Tx γ'}
    (same : value = value') (rest : ∀ a, value = some a → Related Q (f a s) (g a t)) :
    Related Q ((present value why >>= f) s) ((present value' why >>= g) t) := by
  subst same
  cases value with
  | some a => exact rest a rfl
  | none => exact .refused why

/-- Both stores are looked at as they are. -/
theorem related_get {f : Store → Tx γ} {g : Store → Tx γ'} (rest : Related Q (f s s) (g t t)) :
    Related Q ((get >>= f) s) ((get >>= g) t) := rest

/-- Both take a reading of the clock. -/
theorem related_now {f : Stamp → Tx γ} {g : Stamp → Tx γ'}
    (rest : Related Q (f ⟨s.clock⟩ { s with clock := s.clock + 1 })
      (g ⟨t.clock⟩ { t with clock := t.clock + 1 })) :
    Related Q ((now >>= f) s) ((now >>= g) t) := rest

/-- Both mint a public id, each one that is new to it. -/
theorem related_mint {f : String → Tx γ} {g : String → Tx γ'}
    (rest : ∀ publicId minted publicId' minted', publicId ∉ s.publicIds → publicId' ∉ t.publicIds →
      Related Q (f publicId { s with minted }) (g publicId' { t with minted := minted' })) :
    Related Q ((mint >>= f) s) ((mint >>= g) t) :=
  rest _ _ _ _ (mint_fresh rfl) (mint_fresh rfl)

/-- A row that one of the stores refuses the other refuses as well, for the same reason. -/
theorem related_insertOr {k : Kind} [Record k α] {R : Entry k α × Store → Entry k α × Store → Prop}
    {told : Constraint → Refusal} {v w : α} (fault : s.insertFault k v = t.insertFault k w)
    (taken : R (⟨(Record.table s : Table k α).next, v⟩,
        Record.setTable s ((Record.table s : Table k α).insert v))
      (⟨(Record.table t : Table k α).next, w⟩,
        Record.setTable t ((Record.table t : Table k α).insert w))) :
    Related R (insertOr k told v s) (insertOr k told w t) := by
  unfold insertOr
  rw [← fault]
  cases s.insertFault k v with
  | none => exact .answered taken
  | some fault =>
    cases fault with
    | constraint rule => exact .refused _
    | outOfRange => exact .refused _
    | aborted => exact .refused _
    | unavailable => exact .refused _

theorem related_put {k : Kind} [Record k α] {R : Unit × Store → Unit × Store → Prop} {id : Id k}
    {v w : α} (fault : s.updateFault k v = t.updateFault k w)
    (written : R ((), Record.setTable s ((Record.table s : Table k α).put id v))
      ((), Record.setTable t ((Record.table t : Table k α).put id w))) :
    Related R (put id v s) (put id w t) := by
  unfold put
  rw [← fault]
  cases s.updateFault k v with
  | none => exact .answered written
  | some fault => exact .refused _

theorem related_overwrite {k : Kind} [Record k α] {R : Unit × Store → Unit × Store → Prop}
    {id : Id k} {v w : α} (fault : s.ruleFault k v = t.ruleFault k w)
    (written : R ((), Record.setTable s ((Record.table s : Table k α).put id v))
      ((), Record.setTable t ((Record.table t : Table k α).put id w))) :
    Related R (overwrite id v s) (overwrite id w t) := by
  unfold overwrite
  rw [← fault]
  cases s.ruleFault k v with
  | none => exact .answered written
  | some fault => exact .refused _

end Tx

/-! ## Faults -/

namespace Store

variable {k : Kind} [Record k α] {v w : α}

/-- Rows that clash with nothing are refused for their own sake, or for what they refer to. -/
theorem insertFault_congr (fits : Record.fits k v = Record.fits k w)
    (holds : Record.holds k v = Record.holds k w)
    (refers : Record.refers k s v = Record.refers k t w)
    (alone : ∀ e ∈ (Record.table s : Table k α).entries, Record.clashes k v e.val = false)
    (alone' : ∀ e ∈ (Record.table t : Table k α).entries, Record.clashes k w e.val = false) :
    s.insertFault k v = t.insertFault k w := by
  have none_here : (Record.table s : Table k α).find? (Record.clashes k v) = none :=
    List.find?_eq_none.2 fun e member => by rw [alone e member]; exact Bool.false_ne_true
  have none_there : (Record.table t : Table k α).find? (Record.clashes k w) = none :=
    List.find?_eq_none.2 fun e member => by rw [alone' e member]; exact Bool.false_ne_true
  unfold insertFault
  rw [fits, holds, refers, none_here, none_there]

theorem ruleFault_congr (holds : Record.holds k v = Record.holds k w)
    (refers : Record.refers k s v = Record.refers k t w) :
    s.ruleFault k v = t.ruleFault k w := by
  unfold ruleFault
  rw [holds, refers]

theorem updateFault_congr (fits : Record.fits k v = Record.fits k w)
    (holds : Record.holds k v = Record.holds k w)
    (refers : Record.refers k s v = Record.refers k t w) :
    s.updateFault k v = t.updateFault k w := by
  unfold updateFault
  rw [fits, ruleFault_congr holds refers]

end Store

end Quartermaster
