import Quartermaster.Http.Body
import Quartermaster.Http.Target
import Quartermaster.Json.Answers
import Quartermaster.Report

/-!
# Requests and responses

A request names its caller in one header and may choose one of the caller's roles in another. Its
method and the segments of its path choose an operation, whose arguments come from the segments and
the body. Every request is answered.
-/

namespace Quartermaster.Http

open Json (Document)

inductive Body where
  | bytes (content : List UInt8)
  /-- Reading the body fails with this text. -/
  | unreadable (text : String)

structure Request where
  method : String
  target : String
  /-- The header that names the caller. -/
  actor : Option (List UInt8) := none
  /-- The header that chooses a role. -/
  assignment : Option (List UInt8) := none
  body : Body := .bytes []

structure Response where
  status : Nat
  contentType : Option String := none
  body : Option Json := none

namespace Response

def json (status : Nat) (body : Json) : Response :=
  { status, contentType := some "application/json", body := some body }

def noContent : Response := { status := 204 }

def errorText (status : Nat) (text : String) : Response :=
  json status (.sorted [("error", .str text)])

def ofRefusal (why : Refusal) : Response :=
  errorText why.report.status why.report.text

def notFound : Response := errorText 404 "Not Found"

end Response

/-- The text of a header. A header with a byte that is neither a tab nor a visible ASCII character
or space reads as if it were not there. -/
def headerText (value : List UInt8) : Option String :=
  if value.all fun b => b == 9 || (0x20 ≤ b && b < 0x7F) then
    some (String.ofList (value.map Char.ofUInt8))
  else none

/-- The context of a request. -/
def Request.context (r : Request) (s : Store) : Except Refusal Context :=
  match r.actor.bind headerText with
  | some actor => s.context actor (r.assignment.bind headerText)
  | none => .error (.unauthenticated .actorNotNamed)

/-- Reads a body as a record. -/
def Body.read {α : Type} (shape : Document.Shape α) : Body → Except Refusal α
  | .unreadable text => .error (.internal s!"Failed to read body: {text}")
  | .bytes content =>
    match (Document.parse content).bind shape with
    | some value => .ok value
    | none => .error .json

/-- How a success is answered. -/
inductive Success where
  | ok | created | noContent
  deriving DecidableEq, Repr

def Success.response (how : Success) (answer : Answer) : Response :=
  match how with
  | .ok => .json 200 answer.json
  | .created => .json 201 answer.json
  | .noContent => .noContent

/-- What a request asks for: an operation that its body completes, or nothing that there is. -/
inductive Endpoint where
  | call (success : Success) (op : Body → Except Refusal Operation)
  | notFound

namespace Endpoint

/-- An operation for the caller that takes nothing from the body. -/
def plain (ctx : Context) (op : CallerOp) : Endpoint :=
  .call .ok fun _ => .ok (.caller ctx op)

/-- An operation for the caller over a record in the body. -/
def withBody {α : Type} (success : Success) (ctx : Context) (shape : Document.Shape α)
    (op : α → CallerOp) : Endpoint :=
  .call success fun body => (body.read shape).map fun a => .caller ctx (op a)

/-- An operation on the directory over a record in the body. -/
def directory {α : Type} (success : Success) (shape : Document.Shape α) (op : α → DirectoryOp) :
    Endpoint :=
  .call success fun body => (body.read shape).map fun a => .directory (op a)

def equipment (ctx : Context) (method : String) (rest : List String) : Endpoint :=
  match method, rest with
  | "GET", [] => plain ctx (.equipment .list)
  | "POST", [] => withBody .created ctx equipmentInput fun input => .equipment (.register input)
  | "GET", [id] => plain ctx (.equipment (.get id))
  | "GET", [id, "history"] => plain ctx (.equipment (.history id))
  | "POST", [id, "assign"] =>
    withBody .created ctx handover fun (user, notes) => .equipment (.assign id user notes)
  | "POST", [id, "unassign"] =>
    withBody .ok ctx handover fun (user, notes) => .equipment (.unassign id user notes)
  | "POST", [id, "reassign"] =>
    withBody .ok ctx reassignment fun (giver, receiver, notes) =>
      .equipment (.reassign id giver receiver notes)
  | "POST", [id, "status"] =>
    withBody .ok ctx statusChange fun (status, notes) => .equipment (.changeStatus id status notes)
  | _, _ => .notFound

def accessories (ctx : Context) (method : String) (rest : List String) : Endpoint :=
  match method, rest with
  | "GET", [] => plain ctx (.accessories .list)
  | "POST", [] => withBody .created ctx accessoryInput fun input => .accessories (.register input)
  | "GET", [id] => plain ctx (.accessories (.get id))
  | "GET", [id, "history"] => plain ctx (.accessories (.history id))
  | "POST", [id, "assign"] =>
    withBody .created ctx unitsFor fun (user, quantity) => .accessories (.assign id user quantity)
  | "POST", [id, "condemn"] =>
    withBody .ok ctx units fun quantity => .accessories (.condemn id quantity)
  | "POST", [id, "restock"] =>
    withBody .ok ctx units fun quantity => .accessories (.restock id quantity)
  | _, _ => .notFound

def consumables (ctx : Context) (method : String) (rest : List String) : Endpoint :=
  match method, rest with
  | "GET", [] => plain ctx (.consumables .list)
  | "POST", [] => withBody .created ctx consumableInput fun input => .consumables (.register input)
  | "GET", [id] => plain ctx (.consumables (.get id))
  | "GET", [id, "history"] => plain ctx (.consumables (.history id))
  | "POST", [id, "issue"] =>
    withBody .created ctx issue fun (user, quantity, purpose) =>
      .consumables (.issue id user quantity purpose)
  | "POST", [id, "use"] => withBody .ok ctx units fun quantity => .consumables (.use id quantity)
  | "POST", [id, "loss"] =>
    withBody .ok ctx loss fun (quantity, kind) => .consumables (.reportLoss id quantity kind)
  | "POST", [id, "restock"] =>
    withBody .ok ctx units fun quantity => .consumables (.restock id quantity)
  | _, _ => .notFound

/-- The node of a collection and a public id. -/
def node? (collection publicId : String) : Option Locator :=
  match collection with
  | "departments" => some (.department publicId)
  | "locations" => some (.location publicId)
  | "rooms" => some (.room publicId)
  | _ => none

def admin (method : String) (rest : List String) : Endpoint :=
  match method, rest with
  | "POST", ["departments"] => directory .created nodeInput .createDepartment
  | "POST", ["locations"] => directory .created nodeInput .createLocation
  | "POST", ["rooms"] => directory .created nodeInput .createRoom
  | "POST", ["users"] => directory .created userInput .createUser
  | "POST", ["rooms", id, "relocate"] => directory .ok parent (.relocateRoom id)
  | "POST", ["locations", id, "relocate"] => directory .ok parent (.relocateLocation id)
  | "POST", ["users", id, "room"] => directory .ok roomOfUser (.moveUser id)
  | "DELETE", [collection, id] =>
    match node? collection id with
    | some node => .call .noContent fun _ => .ok (.directory (.deleteNode node))
    | none => .notFound
  | _, _ => .notFound

/-- Whether the context may build the tree and place people in it. -/
def isSiteAdmin (ctx : Context) : Bool := ctx.binding.any (·.role == .siteAdmin)

/-- The endpoint of a method and the segments of a path. Whatever is below `admin` is refused to
everybody but holders of the highest role, before it is looked at. -/
def find (ctx : Context) (method : String) (path : List String) : Except Refusal Endpoint :=
  match method, path with
  | "GET", ["me", "custody"] => .ok (plain ctx .holdings)
  | "GET", ["me", "roles"] => .ok (plain ctx (.roles .list))
  | "POST", ["roles"] => .ok (withBody .created ctx grantInput fun input => .roles (.grant input))
  | "POST", ["roles", id, "activate"] => .ok (plain ctx (.roles (.activate id)))
  | "DELETE", ["roles", id] =>
    .ok (.call .noContent fun _ => .ok (.caller ctx (.roles (.revoke id))))
  | method, "equipment" :: rest => .ok (equipment ctx method rest)
  | method, "accessories" :: rest => .ok (accessories ctx method rest)
  | method, "consumables" :: rest => .ok (consumables ctx method rest)
  | "POST", ["accessory-assignments", id, "return"] =>
    .ok (withBody .ok ctx units fun quantity => .accessories (.takeBack id quantity))
  | "POST", ["consumable-issues", id, "return"] =>
    .ok (withBody .ok ctx units fun quantity => .consumables (.takeBack id quantity))
  | "POST", ["consumable-issues", id, "loss"] =>
    .ok (withBody .ok ctx loss fun (quantity, kind) => .consumables (.recordLoss id quantity kind))
  | method, "admin" :: rest =>
    if isSiteAdmin ctx then .ok (admin method rest)
    else .error (.forbidden .siteAdmin "scope tree")
  | _, _ => .ok .notFound

end Endpoint

/-- Answers a refusal without doing anything. -/
def refuse (s : Store) (why : Refusal) : Outcome Response :=
  { answer := .ofRefusal why, store := s }

/-- Whether the request only asks if anybody is there. That needs no caller. -/
def Request.isHealthCheck (r : Request) : Bool :=
  r.method == "GET" && segments r.target == ["health"]

/-- What an operation came to, as a response. -/
def respond (success : Success) : Except Refusal Answer → Response
  | .ok answer => success.response answer
  | .error why => .ofRefusal why

/-- Answers a request. -/
def handle (d : Setting) (s : Store) (r : Request) : Outcome Response :=
  if r.isHealthCheck then .ofRead s (.json 200 (.sorted [("status", .str "ok")]))
  else
    match r.context s with
    | .error why => refuse s why
    | .ok ctx =>
      match Endpoint.find ctx r.method (segments r.target) with
      | .error why => refuse s why
      | .ok .notFound => .ofRead s .notFound
      | .ok (.call success op) =>
        match op r.body with
        | .error why => refuse s why
        | .ok operation => (operation.run d s).map (respond success)

end Quartermaster.Http
