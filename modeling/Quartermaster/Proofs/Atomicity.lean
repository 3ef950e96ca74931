import Quartermaster.Http.Server
import Quartermaster.Proofs.FailClosed
import Quartermaster.Proofs.Reachable

/-!
# Refusals leave no trace

Whatever is refused leaves the store as it was, with its clock, its supply of ids and the numbers of
its next rows; and nobody is told anything. It does not matter how far a transaction came: what its
first steps wrote is gone when a later one is refused, be it by a rule of the storage, by a row that
is not there, or by the audit log, which comes after all of them.

1. `Tx.bind_refused`, `Statement.mapM_refused`: a refusal at some step is the refusal of the whole.
2. `Http.handle_refused`: a response with a status of 400 or above changed nothing.
3. `Store.refusals_leave_no_trace`.
-/

namespace Quartermaster

variable {α β : Type} {d : Setting} {s s₁ : Store} {why : Refusal}

/-! ## Refusals midway -/

/-- The first steps went through, to the store `s₁`, and the next one is refused there. -/
theorem Tx.bind_refused {x : Tx α} {f : α → Tx β} {a : α} (through : x s = .ok (a, s₁))
    (refused : f a s₁ = .error why) : (x >>= f) s = .error why :=
  (bind_of_ok through).trans refused

theorem Store.transact_refused {tx : Tx α} (refused : tx s = .error why) :
    s.transact tx = (.error why, s) := by
  rw [transact, refused]

theorem Setting.commit_refused {tx : Tx (Committed α)} (refused : tx s = .error why) :
    d.commit s tx = { answer := .error why, store := s } := by
  rw [commit, Store.transact_refused refused]

/-- Statements that went through do not help when the next one is refused. -/
theorem Statement.mapM_refused {through rest : List Statement} {st : Statement}
    {answers : List StatementAnswer} (went : through.mapM run s = .ok (answers, s₁))
    (refused : st.run s₁ = .error why) : (through ++ st :: rest).mapM run s = .error why := by
  induction through generalizing s answers with
  | nil =>
    obtain ⟨_, rfl⟩ := Tx.pure_ok.1 went
    rw [List.nil_append, List.mapM_cons]
    exact Tx.bind_of_error refused
  | cons first later ih =>
    rw [List.mapM_cons, Tx.bind_ok] at went
    obtain ⟨answer, between, done, went⟩ := went
    obtain ⟨_, _, went, _, rfl⟩ := Tx.bind_ok.1 went
    rw [List.cons_append, List.mapM_cons]
    -- the first went through to where the others begin
    exact Tx.bind_refused done (Tx.bind_of_error (ih went))

/-! ## Requests -/

theorem Outcome.Void.map {o : Outcome α} (h : o.Void s) (f : α → β) : (o.map f).Void s :=
  ⟨h.store, h.events, h.deliveries⟩

namespace Http

theorem Success.status_lt (how : Success) (answer : Answer) :
    (how.response answer).status < 400 := by
  cases how with
  | ok =>
    show 200 < 400
    decide
  | created =>
    show 201 < 400
    decide
  | noContent =>
    show 204 < 400
    decide

theorem void_refuse : (refuse s why).Void s := ⟨rfl, rfl, rfl⟩

/-- A request is answered without the store, or is one operation on it. -/
theorem handle_cases (d : Setting) (s : Store) (r : Request) :
    (handle d s r).Void s ∨
      ∃ success operation, handle d s r = (Operation.run d s operation).map (respond success) := by
  unfold handle
  by_cases alive : r.isHealthCheck = true
  · rw [if_pos alive]
    exact .inl Outcome.void_ofRead
  rw [if_neg alive]
  cases r.context s with
  | error why => exact .inl void_refuse
  | ok ctx =>
    dsimp only
    cases Endpoint.find ctx r.method (segments r.target) with
    | error why => exact .inl void_refuse
    | ok endpoint =>
      cases endpoint with
      | notFound => exact .inl Outcome.void_ofRead
      | call success op =>
        dsimp only
        cases op r.body with
        | error why => exact .inl void_refuse
        | ok operation => exact .inr ⟨success, operation, rfl⟩

/-- A request that is answered with an error changed nothing. -/
theorem handle_refused {r : Request} (failed : 400 ≤ (handle d s r).answer.status) :
    (handle d s r).Void s := by
  rcases handle_cases d s r with untouched | ⟨success, operation, run⟩
  · exact untouched
  · rw [run] at failed ⊢
    cases answered : (operation.run d s).answer with
    | error why => exact (Operation.run_error answered).map _
    | ok answer =>
      have shown : ((operation.run d s).map (respond success)).answer = success.response answer :=
        congrArg (respond success) answered
      rw [shown] at failed
      exact absurd failed (Nat.not_le_of_lt (success.status_lt answer))

end Http

/-- Whatever is refused in the store, or answered with an error, leaves it as it was and tells
nothing. A transaction is refused as soon as one of its steps is, and what would have gone through
is refused by an audit log that takes no rows. -/
structure LeavesNoTrace (d : Setting) (s : Store) : Prop where
  operation (op : Operation) (why : Refusal) :
    (op.run d s).answer = .error why → (op.run d s).Void s
  request (r : Http.Request) :
    400 ≤ (Http.handle d s r).answer.status → (Http.handle d s r).Void s
  batch (batch : List Statement) (why : Refusal) :
    (s.runBatch batch).1 = .error why → (s.runBatch batch).2 = s
  midway {α β : Type} (x : Tx α) (f : α → Tx (Committed β)) (a : α) (s₁ : Store) (why : Refusal) :
    x s = .ok (a, s₁) → f a s₁ = .error why →
      d.commit s (x >>= f) = { answer := .error why, store := s }
  midwayBatch (through rest : List Statement) (st : Statement) (answers : List StatementAnswer)
    (s₁ : Store) (why : Refusal) :
    through.mapM Statement.run s = .ok (answers, s₁) → st.run s₁ = .error why →
      s.runBatch (through ++ st :: rest) = (.error why, s)
  unrecorded (ctx : Context) (op : CallerOp) (answer : Answer) (text : String) :
    op.isRecorded = true → (op.run d s ctx).answer = .ok answer →
      (op.run (d.unrecorded text) s ctx).answer = .error (.auditSink text) ∧
        (op.run (d.unrecorded text) s ctx).Void s

theorem Store.refusals_leave_no_trace (d : Setting) (s : Store) : LeavesNoTrace d s where
  operation _ _ refused := Operation.run_error refused
  request _ failed := Http.handle_refused failed
  batch _ _ refused := Store.transact_error refused
  midway _ _ _ _ _ through refused := Setting.commit_refused (Tx.bind_refused through refused)
  midwayBatch _ _ _ _ _ _ through refused :=
    Store.transact_refused (Statement.mapM_refused through refused)
  unrecorded ctx op answer text changes through := by
    have refused : ((Operation.caller ctx op).run (d.unrecorded text) s).answer = _ :=
      op.fails_closed text changes through
    exact ⟨refused, Operation.run_error refused⟩

/-- An office with an administrator and nothing else. -/
def office : Store := Store.serve {} {} [.directory (.bootstrap "root" "Root")]
where
  root : Context := { actor := ⟨⟨1⟩, "root", "Root"⟩, binding := some .siteAdmin }
  /-- Puts a desk into the office. -/
  desk : CallerOp := .equipment (.register { name := "Desk" })
  /-- The second department has the public id of the first. -/
  twice : List Statement :=
    [.tree (.createDepartment { publicId := some "physics", name := "Physics" }),
     .tree (.createDepartment { publicId := some "physics", name := "Physics too" })]

/-- The desk is not put there when that cannot be recorded, and of two departments under one public
id not even the first. -/
theorem office_keeps_no_trace :
    (office.desk.run {} office office.root).answer.isOk = true ∧
      (office.desk.run (Setting.unrecorded {} "disk full") office office.root).Void office ∧
      (office.runBatch office.twice).1.isOk = false ∧
      (office.runBatch office.twice).2 = office := by
  have succeeds : (office.desk.run {} office office.root).answer.isOk = true := by decide +kernel
  have fails : (office.runBatch office.twice).1.isOk = false := by decide +kernel
  obtain ⟨answer, answered⟩ := Results.isOk_iff.1 succeeds
  obtain ⟨why, refused⟩ := Results.isOk_eq_false_iff.1 fails
  have traceless := Store.refusals_leave_no_trace {} office
  exact ⟨succeeds, (traceless.unrecorded _ _ answer "disk full" rfl answered).2, fails,
    traceless.batch _ why refused⟩

end Quartermaster
