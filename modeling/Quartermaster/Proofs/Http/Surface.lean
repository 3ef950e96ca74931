import Quartermaster.Proofs.Atomicity
import Quartermaster.Proofs.Http.Routes
import Quartermaster.Proofs.Http.Segments
import Quartermaster.Proofs.Mediation

/-!
# Requests add nothing

A request comes to nothing, or to one operation: the one that the table of routes has at its method
and path, with the arguments from path and body, for the context that its headers resolve to. What
it is answered is what the operation answers, in the words and with the status of HTTP.

1. `Handled`: the six ways in which a request can be handled; `handle_handled`.
2. `Surface`: what holds of a request, and `surface`: it holds of every one.
-/

namespace Quartermaster.Http

variable {d : Setting} {s : Store} {r : Request}

namespace Request

/-- The context that the headers of a request resolve to. -/
def Resolves (r : Request) (s : Store) (ctx : Context) : Prop :=
  ∃ actor, r.actor.bind headerText = some actor ∧
    s.context actor (r.assignment.bind headerText) = .ok ctx

/-- What the table has at the method and the path of a request. -/
def Asks (r : Request) (ctx : Context) (e : Endpoint) : Prop :=
  Route ctx r.method (segments r.target) e

/-- The request asks for the operation, for the context that its headers resolve to. -/
def Calls (r : Request) (s : Store) (ctx : Context) (success : Success) (operation : Operation) :
    Prop :=
  r.Resolves s ctx ∧ ∃ op, r.Asks ctx (.call success op) ∧ op r.body = .ok operation

theorem context_ok {ctx : Context} : r.context s = .ok ctx ↔ r.Resolves s ctx := by
  unfold context Resolves
  cases r.actor.bind headerText with
  | none => exact iff_of_false nofun (by rintro ⟨_, none_named, _⟩; cases none_named)
  | some actor =>
    constructor
    · exact fun resolved => ⟨actor, rfl, resolved⟩
    · rintro ⟨_, named, resolved⟩
      obtain rfl := Option.some.inj named
      exact resolved

/-- Whoever does not resolve is not known. -/
theorem context_error {why : Refusal} (h : r.context s = .error why) :
    (∀ ctx, ¬ r.Resolves s ctx) ∧ ∃ fault, why = .unauthenticated fault := by
  refine ⟨fun ctx resolved => ?_, ?_⟩
  · cases (context_ok.2 resolved).symm.trans h
  · unfold context at h
    split at h
    · unfold Store.context at h
      split at h
      · exact ⟨_, (Except.error.inj h).symm⟩
      · split at h
        · split at h
          · cases h
          · exact ⟨_, (Except.error.inj h).symm⟩
        · cases h
    · exact ⟨_, (Except.error.inj h).symm⟩

end Request

/-- The status of a success. -/
def Success.status : Success → Nat
  | .ok => 200
  | .created => 201
  | .noContent => 204

/-- How a request is handled. -/
inductive Handled (d : Setting) (s : Store) (r : Request) : Outcome Response → Prop
  | alive (health : r.isHealthCheck = true) :
      Handled d s r (.ofRead s (.json 200 (.sorted [("status", .str "ok")])))
  | unresolved {fault : AuthFault} (unresolved : ∀ ctx, ¬ r.Resolves s ctx) :
      Handled d s r (refuse s (.unauthenticated fault))
  | gated {ctx : Context} {rest : List String} (resolved : r.Resolves s ctx)
      (below : segments r.target = "admin" :: rest) (lower : Endpoint.isSiteAdmin ctx = false) :
      Handled d s r (refuse s (.forbidden .siteAdmin "scope tree"))
  | unknown {ctx : Context} (resolved : r.Resolves s ctx) (nowhere : ∀ e, ¬ r.Asks ctx e) :
      Handled d s r (.ofRead s .notFound)
  | undecoded {ctx : Context} {success : Success} {op : Body → Except Refusal Operation}
      {why : Refusal} (resolved : r.Resolves s ctx) (asks : r.Asks ctx (.call success op))
      (undecoded : op r.body = .error why) : Handled d s r (refuse s why)
  | ran {ctx : Context} {success : Success} {operation : Operation}
      (calls : r.Calls s ctx success operation) :
      Handled d s r ((operation.run d s).map (respond success))

theorem handle_handled (d : Setting) (s : Store) (r : Request) : Handled d s r (handle d s r) := by
  unfold handle
  by_cases health : r.isHealthCheck = true
  · rw [if_pos health]
    exact .alive health
  rw [if_neg health]
  cases resolved : r.context s with
  | error why =>
    obtain ⟨unresolved, fault, rfl⟩ := Request.context_error resolved
    exact .unresolved unresolved
  | ok ctx =>
    have resolves := Request.context_ok.1 resolved
    dsimp only
    cases found : Endpoint.find ctx r.method (segments r.target) with
    | error why =>
      obtain ⟨lower, ⟨rest, below⟩, rfl⟩ := Endpoint.find_error found
      exact .gated resolves below lower
    | ok endpoint =>
      cases endpoint with
      | notFound => exact .unknown resolves (Endpoint.find_notFound found)
      | call success op =>
        have there : Endpoint.call success op ≠ .notFound := nofun
        have asks : r.Asks ctx (.call success op) := (Endpoint.find_iff there).1 found
        dsimp only
        cases decoded : op r.body with
        | error why => exact .undecoded resolves asks decoded
        | ok operation => exact .ran ⟨resolves, op, asks, decoded⟩

/-! ## What a request comes to -/

section Resolved

variable {ctx : Context} {success : Success} {op : Body → Except Refusal Operation}

/-- A request with a caller is what is found at its method and path. -/
theorem handle_of_resolves (awake : r.isHealthCheck = false) (resolved : r.Resolves s ctx) :
    handle d s r = match Endpoint.find ctx r.method (segments r.target) with
      | .error why => refuse s why
      | .ok .notFound => .ofRead s .notFound
      | .ok (.call success op) =>
        match op r.body with
        | .error why => refuse s why
        | .ok operation => (operation.run d s).map (respond success) := by
  unfold handle
  rw [if_neg (Bool.eq_false_iff.1 awake)]
  exact Request.context_ok.2 resolved ▸ rfl

/-- Only the path that is `health` alone asks if anybody is there. -/
theorem Request.awake (elsewhere : segments r.target ≠ ["health"]) : r.isHealthCheck = false :=
  Bool.eq_false_iff.2 fun health => elsewhere (beq_iff_eq.1 (Bool.and_eq_true_iff.1 health).2)

end Resolved

namespace Handled

variable {o : Outcome Response} {ctx : Context}

/-- Only what is called for does anything. -/
theorem effect (h : Handled d s r o) : o.Void s ∨ ∃ ctx success operation,
    r.Calls s ctx success operation ∧ o = (operation.run d s).map (respond success) := by
  cases h with
  | alive | unknown => exact .inl Outcome.void_ofRead
  | unresolved | gated | undecoded => exact .inl void_refuse
  | ran calls => exact .inr ⟨_, _, _, calls, rfl⟩

theorem get (h : Handled d s r o) (get : r.method = "GET") : o.Void s := by
  rcases h.effect with untouched | ⟨ctx, success, operation, ⟨_, op, asks, decoded⟩, rfl⟩
  · exact untouched
  · exact (asks.reads get decoded).map _

/-- The tree, and who is where, change only for the holder of the highest role. -/
theorem tree (h : Handled d s r o) (sound : s.Sound)
    (lower : ∀ ctx, r.Resolves s ctx → Endpoint.isSiteAdmin ctx = false) :
    o.store.departments = s.departments ∧ o.store.locations = s.locations ∧
      o.store.rooms = s.rooms ∧ ∀ user, (o.store.users.get? user).map (·.val.room) =
        (s.users.get? user).map (·.val.room) := by
  have same {o : Outcome Response} (untouched : o.Void s) : o.store.departments = s.departments ∧
      o.store.locations = s.locations ∧ o.store.rooms = s.rooms ∧
      ∀ user, (o.store.users.get? user).map (·.val.room) =
        (s.users.get? user).map (·.val.room) := by
    rw [untouched.store]
    exact ⟨rfl, rfl, rfl, fun _ => rfl⟩
  rcases h.effect with untouched | ⟨ctx, success, operation, ⟨resolved, op, asks, decoded⟩, rfl⟩
  · exact same untouched
  · rcases asks.caller decoded with highest | ⟨act, rfl⟩
    · rw [lower ctx resolved] at highest
      cases highest
    cases answered : ((Operation.caller ctx act).run d s).answer with
    | error why => exact same ((Operation.run_error answered).map _)
    | ok answer =>
      obtain ⟨done, s', step, _, out⟩ := Operation.run_ok sound answered
      rw [out]
      exact (step.mediated sound).tree ctx act rfl

end Handled

end Quartermaster.Http
