/-!
# Event types

What a ledger row records. The three ledgers share one vocabulary, and each of them takes a part of
it: `equipment`, `accessory` and `consumable` list the types that a ledger accepts.
-/

namespace Quartermaster

inductive EventType where
  | assigned | returned | statusChanged
  | issued | used | lost | damaged | expired | condemned | restocked
  deriving DecidableEq, Repr

namespace EventType

def all : List EventType :=
  [.assigned, .returned, .statusChanged, .issued, .used, .lost, .damaged, .expired, .condemned,
   .restocked]

def name : EventType → String
  | .assigned => "assigned"
  | .returned => "returned"
  | .statusChanged => "status_changed"
  | .issued => "issued"
  | .used => "used"
  | .lost => "lost"
  | .damaged => "damaged"
  | .expired => "expired"
  | .condemned => "condemned"
  | .restocked => "restocked"

def ofName? (name : String) : Option EventType :=
  all.find? (·.name == name)

/-- The types that the equipment ledger accepts. -/
def equipment : List EventType := [.assigned, .returned, .statusChanged]

/-- The types that the accessory ledger accepts. -/
def accessory : List EventType := [.assigned, .returned, .condemned, .restocked]

/-- The types that the consumable ledger accepts. -/
def consumable : List EventType :=
  [.issued, .used, .returned, .lost, .damaged, .expired, .condemned, .restocked]

end EventType

/-- Why units left a holder's custody without being used. -/
inductive LossKind where
  | lost | damaged | expired | condemned
  deriving DecidableEq, Repr

namespace LossKind

def all : List LossKind := [.lost, .damaged, .expired, .condemned]

/-- The ledger event that records the loss. -/
def eventType : LossKind → EventType
  | .lost => .lost
  | .damaged => .damaged
  | .expired => .expired
  | .condemned => .condemned

def name (k : LossKind) : String := k.eventType.name

def ofName? (name : String) : Option LossKind :=
  all.find? (·.name == name)

end LossKind

end Quartermaster
