import Quartermaster.Proofs.Http.Surface
import Quartermaster.Proofs.OwnRoles

/-!
# The role that a request chooses

Once its user is known, a request is handled for one context. The role that it chooses governs it, if
the header that says so can be read. If not, the request is handled as if it had chosen none.

1. `Store.context_own`, `Store.context_notHeld`, `Store.context_unchosen`: the contexts of a user.
2. `Request.under`: the request as it is handled for a context; `Request.under_effect`.
3. `headerText_readable`, `headerText_unreadable`: which headers are read.
4. `role_governs`: what a request of a known user is handled under.
-/

namespace Quartermaster

/-! ## The contexts of a user -/

namespace Store

variable {s : Store} {user chosen : String} {u : Entry .user User}

/-- The context of a user who chooses no role: the active one, if any. -/
def unchosen (s : Store) (u : Entry .user User) : Context :=
  { actor := u.actor, binding := (u.val.active.bind s.row?).map (·.val.binding) }

theorem context_unchosen (named : s.named? .user user = some u) :
    s.context user none = .ok (s.unchosen u) := by
  rw [context, named]
  rfl

/-- A role that the user holds is acted under. -/
theorem context_own {a : Entry .roleAssignment RoleAssignment} (named : s.named? .user user = some u)
    (found : s.named? .roleAssignment chosen = some a) (own : a.val.user = u.id) :
    s.context user (some chosen) = .ok (u.acting a) := by
  have kept : (s.named? .roleAssignment chosen).filter (·.val.user == u.id) = some a := by
    rw [found, Option.filter_some, if_pos (beq_iff_eq.2 own)]
  unfold context
  simp only [named, kept]
  rfl

/-- What the user does not hold is refused. -/
theorem context_notHeld (named : s.named? .user user = some u)
    (foreign : ∀ a, s.named? .roleAssignment chosen = some a → a.val.user ≠ u.id) :
    s.context user (some chosen) = .error (.unauthenticated (.notHeld chosen)) := by
  have dropped : (s.named? .roleAssignment chosen).filter (·.val.user == u.id) = none := by
    refine Option.filter_eq_none_iff.2 fun a found => ?_
    simpa using foreign a found
  unfold context
  simp only [named, dropped]

end Store

namespace Http

variable {d : Setting} {s : Store} {r : Request} {ctx : Context}

/-! ## Requests for a context -/

/-- The request as it is handled for a context. -/
def Request.under (r : Request) (d : Setting) (s : Store) (ctx : Context) : Outcome Response :=
  match Endpoint.find ctx r.method (segments r.target) with
  | .error why => refuse s why
  | .ok .notFound => .ofRead s .notFound
  | .ok (.call success op) =>
    match op r.body with
    | .error why => refuse s why
    | .ok operation => (operation.run d s).map (respond success)

/-- What is done for a context is done by its caller, or is left to holders of the highest role. -/
theorem Request.under_effect : (r.under d s ctx).Void s ∨
    ∃ (success : Success) (operation : Operation),
      r.under d s ctx = (operation.run d s).map (respond success) ∧
        (Endpoint.isSiteAdmin ctx = true ∨ ∃ act, operation = .caller ctx act) := by
  unfold under
  cases found : Endpoint.find ctx r.method (segments r.target) with
  | error why => exact .inl void_refuse
  | ok endpoint =>
    cases endpoint with
    | notFound => exact .inl Outcome.void_ofRead
    | call success op =>
      have there : Endpoint.call success op ≠ .notFound := nofun
      dsimp only
      cases asked : op r.body with
      | error why => exact .inl void_refuse
      | ok operation =>
        exact .inr ⟨success, operation, rfl, ((Endpoint.find_iff there).1 found).caller asked⟩

theorem handle_unresolved {why : Refusal} (awake : r.isHealthCheck = false)
    (refused : r.context s = .error why) : handle d s r = refuse s why := by
  unfold handle
  rw [if_neg (Bool.eq_false_iff.1 awake)]
  exact refused ▸ rfl

/-! ## Headers -/

/-- Whether a byte can stand in a header that is read: a tab, a space or a visible ASCII character. -/
def readable (b : UInt8) : Bool := b == 9 || (0x20 ≤ b && b < 0x7F)

/-- The text that bytes spell, one character each. -/
def spelled (value : List UInt8) : String := String.ofList (value.map Char.ofUInt8)

theorem headerText_readable {value : List UInt8} (h : ∀ b ∈ value, readable b = true) :
    headerText value = some (spelled value) :=
  if_pos (List.all_eq_true.2 h)

theorem headerText_unreadable {value : List UInt8} {b : UInt8} (among : b ∈ value)
    (h : readable b = false) : headerText value = none :=
  if_neg fun all => by cases h.symm.trans (List.all_eq_true.1 all b among)

/-! ## The role of a request -/

/-- What a request of a user is handled under. -/
structure RoleGoverns (d : Setting) (s : Store) (r : Request) (u : Entry .user User) : Prop where
  /-- If anybody is there is answered without a look at who asks. -/
  health : r.isHealthCheck = true →
    handle d s r = .ofRead s (.json 200 (.sorted [("status", .str "ok")]))
  /-- Without a choice the active role governs. -/
  unchosen : r.isHealthCheck = false → r.assignment = none →
    handle d s r = r.under d s (s.unchosen u)
  /-- A choice that can be read governs, or is refused as not held by the user. -/
  chosen (value : List UInt8) : r.isHealthCheck = false → r.assignment = some value →
    (∀ b ∈ value, readable b = true) →
      (∃ a, s.named? .roleAssignment (spelled value) = some a ∧ a.val.user = u.id ∧
        handle d s r = r.under d s (u.acting a)) ∨
      ((∀ a, s.named? .roleAssignment (spelled value) = some a → a.val.user ≠ u.id) ∧
        handle d s r = refuse s (.unauthenticated (.notHeld (spelled value))) ∧
        (handle d s r).answer.status = 401 ∧ (handle d s r).Void s)
  /-- A choice that cannot be read is no choice: the active role governs again. -/
  unreadable (value : List UInt8) (b : UInt8) : r.assignment = some value → b ∈ value →
    readable b = false →
      handle d s r = handle d s { r with assignment := none } ∧
        (r.isHealthCheck = false → handle d s r = r.under d s (s.unchosen u))
  /-- What is done for a context is done by its caller, or is left to holders of the highest role. -/
  effect (ctx : Context) : (r.under d s ctx).Void s ∨
    ∃ (success : Success) (operation : Operation),
      r.under d s ctx = (operation.run d s).map (respond success) ∧
        (Endpoint.isSiteAdmin ctx = true ∨ ∃ act, operation = .caller ctx act)

/-- A request of a user is handled under the role that it chooses readably, and is refused if the user
does not hold that. The active role governs whenever no header can be read that chooses one. -/
theorem role_governs (d : Setting) {actor : String} {u : Entry .user User}
    (tells : r.actor.bind headerText = some actor) (known : s.named? .user actor = some u) :
    RoleGoverns d s r u where
  health alive := if_pos alive
  unchosen awake absent := by
    refine handle_of_resolves awake ⟨actor, tells, ?_⟩
    rw [absent]
    exact Store.context_unchosen known
  chosen value awake present legible := by
    have choice : r.assignment.bind headerText = some (spelled value) := by
      rw [present]
      exact headerText_readable legible
    by_cases held : ∃ a, s.named? .roleAssignment (spelled value) = some a ∧ a.val.user = u.id
    · obtain ⟨a, found, own⟩ := held
      refine .inl ⟨a, found, own, handle_of_resolves awake ⟨actor, tells, ?_⟩⟩
      rw [choice]
      exact Store.context_own known found own
    · have foreign a (found : s.named? .roleAssignment (spelled value) = some a) :
          a.val.user ≠ u.id := fun own => held ⟨a, found, own⟩
      have refused : handle d s r = refuse s (.unauthenticated (.notHeld (spelled value))) := by
        refine handle_unresolved awake ?_
        rw [Request.context, tells, choice]
        exact Store.context_notHeld known foreign
      refine .inr ⟨foreign, refused, ?_, ?_⟩ <;> rw [refused]
      · rfl
      · exact void_refuse
  unreadable value b present among illegible := by
    have dropped : r.assignment.bind headerText = none := by
      rw [present]
      exact headerText_unreadable among illegible
    have same : r.context s = Request.context { r with assignment := none } s := by
      simp only [Request.context, dropped, Option.bind_none]
    refine ⟨?_, fun awake => handle_of_resolves awake ⟨actor, tells, ?_⟩⟩
    · unfold handle
      rw [same]
      rfl
    · rw [dropped]
      exact Store.context_unchosen known
  effect _ := Request.under_effect

/-- A house with an annex, where root also has a seat that is only for looking on. -/
def foyer : Store :=
  Store.serve {} {}
    [.directory (.bootstrap "root" "Root"),
     .directory (.createDepartment { publicId := some "annex", name := "Annex" }),
     .caller root (.roles (.grant
      { publicId := some "seat", user := "root", role := .departmentViewer
        scope := some (.department "annex") }))]
where
  root : Context := { actor := ⟨⟨1⟩, "root", "Root"⟩, binding := some .siteAdmin }
  /-- The annex is to go. -/
  demolition (chosen : Option (List UInt8)) : Request :=
    { method := "DELETE", target := "/admin/departments/annex"
      actor := some "root".toUTF8.toList, assignment := chosen }

namespace foyer

def caller : Entry .user User := (foyer.named? .user "root").get (by decide +kernel)

theorem known : foyer.named? .user "root" = some caller := (Option.some_get _).symm

theorem tells (chosen : Option (List UInt8)) :
    (demolition chosen).actor.bind headerText = some "root" :=
  show (some "root".toUTF8.toList).bind headerText = some "root" by decide +kernel

end foyer

/-- From the seat root may not tear down the annex, which the active role allows. -/
theorem foyer_role_governs :
    (foyer.unchosen foyer.caller).binding = some .siteAdmin ∧
    (∃ a, a.val.role = .departmentViewer ∧
      handle {} foyer (foyer.demolition (some "seat".toUTF8.toList)) =
        (foyer.demolition (some "seat".toUTF8.toList)).under {} foyer (foyer.caller.acting a)) ∧
    (handle {} foyer (foyer.demolition (some "seat".toUTF8.toList))).answer.status = 403 ∧
    handle {} foyer (foyer.demolition (some "rôle".toUTF8.toList)) =
      handle {} foyer (foyer.demolition none) := by
  have governs (chosen : Option (List UInt8)) :
      RoleGoverns {} foyer (foyer.demolition chosen) foyer.caller :=
    role_governs {} (foyer.tells chosen) foyer.known
  have viewer : (foyer.named? .roleAssignment (spelled "seat".toUTF8.toList)).map
      (fun a => (a.val.role, a.val.user == foyer.caller.id)) = some (.departmentViewer, true) := by
    decide +kernel
  obtain ⟨a, found, seen⟩ := Option.map_eq_some_iff.1 viewer
  obtain ⟨role, own⟩ := Prod.mk.inj seen
  refine ⟨by decide +kernel, ⟨a, role, ?_⟩, by decide +kernel, ?_⟩
  · rcases (governs _).chosen "seat".toUTF8.toList (by decide +kernel) rfl
        (by decide +kernel) with
      ⟨b, found', _, under⟩ | ⟨foreign, _⟩
    · obtain rfl := Option.some.inj (found.symm.trans found')
      exact under
    · exact absurd (beq_iff_eq.1 own) (foreign a found)
  · exact ((governs (some "rôle".toUTF8.toList)).unreadable _ 0xC3 rfl (by decide +kernel) rfl).1

/-- A choice that is spelled with a letter outside of ASCII names no role that there is. The request is
not refused for it, and the annex is torn down. -/
theorem foyer_choice_dropped :
    (foyer.demolition (some "rôle".toUTF8.toList)).actor.bind headerText = some "root" ∧
    foyer.named? .user "root" = some foyer.caller ∧
    (∀ a ∈ foyer.roleAssignments.entries, a.val.publicId.toUTF8.toList ≠ "rôle".toUTF8.toList) ∧
    (handle {} foyer (foyer.demolition (some "rôle".toUTF8.toList))).answer.status = 204 ∧
    foyer.departments.entries.length = 1 ∧
    (handle {} foyer (foyer.demolition (some "rôle".toUTF8.toList))).store.departments.entries = [] :=
  ⟨foyer.tells _, foyer.known, by decide +kernel⟩

end Http

end Quartermaster
