import Quartermaster.Refusal

/-!
# Reports

How a refusal is told: its class, its words and its HTTP status. A report carries no more than the
words, so the class of an error and its text can be stated without the operation behind it.
-/

namespace Quartermaster

/-- The broad kinds of errors. -/
inductive ErrorKind where
  | forbidden | invalid | notFound | unauthenticated | fatal
  deriving DecidableEq, Repr

/-- The name of the kind. -/
def ErrorKind.name : ErrorKind → String
  | .forbidden => "Forbidden"
  | .invalid => "Invalid"
  | .notFound => "NotFound"
  | .unauthenticated => "Unauthenticated"
  | .fatal => "Fatal"

/-- The status code of an answer with an error of the kind. -/
def ErrorKind.status : ErrorKind → Nat
  | .forbidden => 403
  | .invalid => 400
  | .notFound => 404
  | .unauthenticated => 401
  | .fatal => 500

/-- An error in words. -/
inductive Report where
  | forbidden (required : Role) (target : String)
  | invalidRequest (field reason : String)
  | notFound (what : String)
  | auth (text : String)
  | appendOnlyViolation (table : String)
  | database
  | auditSink (text : String)
  | config
  | io
  | json
  | internal (text : String)
  deriving DecidableEq, Repr

namespace Report

/-- The name of the class. -/
def name : Report → String
  | .forbidden .. => "Forbidden"
  | .invalidRequest .. => "InvalidRequest"
  | .notFound _ => "NotFound"
  | .auth _ => "Auth"
  | .appendOnlyViolation _ => "AppendOnlyViolation"
  | .database => "Database"
  | .auditSink _ => "AuditSink"
  | .config => "Config"
  | .io => "Io"
  | .json => "Json"
  | .internal _ => "Internal"

def kind : Report → ErrorKind
  | .forbidden .. => .forbidden
  | .invalidRequest .. | .json => .invalid
  | .notFound _ => .notFound
  | .auth _ => .unauthenticated
  | .appendOnlyViolation _ | .database | .auditSink _ | .config | .io | .internal _ => .fatal

/-- The words of a report, where they are this library's own. -/
def message? : Report → Option String
  | .forbidden required target => some s!"Forbidden: requires {required.name} for {target}"
  | .invalidRequest field reason => some s!"Invalid request: {field}: {reason}"
  | .notFound what => some s!"Not found: {what}"
  | .auth text => some s!"Authentication error: {text}"
  | .appendOnlyViolation table => some s!"Append-only table {table} rejects updates and deletes"
  | .auditSink text => some s!"Audit sink error: {text}"
  | .internal text => some s!"Internal error: {text}"
  | .database | .config | .io | .json => none

/-- What a caller is told: the words, or the class alone where the words are not ours. -/
def text (r : Report) : String :=
  match r with
  | .database => "Database error"
  | .config => "Configuration error"
  | .io => "IO error"
  | .json => "JSON error"
  | r => r.message?.getD r.name

def status (r : Report) : Nat := r.kind.status

end Report

namespace Invalid

/-- The field of the request that is at fault. -/
def field : Invalid → String
  | .blankName => "name"
  | .blankDisplayName => "display_name"
  | .blankPublicId | .publicIdTaken _ => "public_id"
  | .locationWithoutDepartment | .roomWithoutLocation => "parent"
  | .scopeRequired | .tierMismatch _ | .siteAdminTakesNoScope => "scope"
  | .roleAlreadyHeld => "role"
  | .siteAdminExists | .notHolder => "user"
  | .notPositive | .negativeQuantity | .stockLimit | .onlyAvailable _ | .onlyInStock _
  | .holderHasOnly _ => "quantity"
  | .negativeThreshold => "low_stock_threshold"
  | .statusIs _ | .statusAlready _ | .stillAssigned => "status"
  | .equipmentAssigned | .equipmentNotAssigned => "equipment"
  | .notPassedOnByHolder => "from_user"
  | .sameHolder => "to_user"
  | .assignmentClosed => "assignment"
  | .issueClosed => "issue"
  | .assignmentOpen | .issueOpen => "holder"

def reason : Invalid → String
  | .blankName | .blankDisplayName | .blankPublicId => "must not be blank"
  | .publicIdTaken kind => s!"{kind.noun} already exists"
  | .locationWithoutDepartment => "a location needs a department"
  | .roomWithoutLocation => "a room needs a location"
  | .scopeRequired => "a scope node is required"
  | .tierMismatch role => s!"{role.name} must be bound at the {role.tier.title} tier"
  | .siteAdminTakesNoScope => "SITE_ADMIN is not bound to a node"
  | .roleAlreadyHeld => "user already holds this role at this scope"
  | .siteAdminExists => "a site administrator already exists"
  | .notPositive => "must be a positive integer"
  | .negativeQuantity | .negativeThreshold => "must not be negative"
  | .stockLimit => "exceeds the maximum stock"
  | .onlyAvailable units => s!"only {units} available"
  | .onlyInStock units => s!"only {units} in stock"
  | .holderHasOnly units => s!"holder has only {units}"
  | .statusIs status => s!"equipment is {status.name}"
  | .statusAlready status => s!"equipment is already {status.name}"
  | .stillAssigned => "equipment is still assigned"
  | .equipmentAssigned => "equipment is already assigned"
  | .equipmentNotAssigned => "equipment is not assigned"
  | .notHolder | .notPassedOnByHolder => "equipment is not held by this user"
  | .sameHolder => "must differ from the current holder"
  | .assignmentClosed => "assignment is already closed"
  | .issueClosed => "issue is already closed"
  | .assignmentOpen => "holder already has an open assignment"
  | .issueOpen => "holder already has an open issue"

end Invalid

/-- What is missing, in words. A node that was to be deleted is named by its table. -/
def Missing.text : Missing → String
  | .named kind publicId => s!"{kind.noun} {publicId}"
  | .numbered kind row => s!"{kind.noun} #{row}"
  | .node kind publicId => s!"{kind.noun}s {publicId}"
  | .openIssue consumable => s!"open issue of consumable {consumable}"

def AuthFault.text : AuthFault → String
  | .unknownActor user => s!"unknown actor {user}"
  | .notHeld assignment => s!"role assignment {assignment} is not held by the actor"
  | .actorNotNamed => "missing X-Actor-Id header"

/-- The report of a refusal. -/
def Refusal.report : Refusal → Report
  | .forbidden required target => .forbidden required target
  | .invalid why => .invalidRequest why.field why.reason
  | .missing what => .notFound what.text
  | .unauthenticated why => .auth why.text
  | .appendOnly table => .appendOnlyViolation table
  | .storage _ => .database
  | .auditSink text => .auditSink text
  | .config => .config
  | .io => .io
  | .json => .json
  | .internal text => .internal text

end Quartermaster
