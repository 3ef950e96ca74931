/-!
# Status of equipment and of custody

The life cycle of a piece of equipment, and whether a custody row is still open.
-/

namespace Quartermaster

inductive EquipmentStatus where
  | ok | damaged | underRepair | lost | retired | condemned
  deriving DecidableEq, Repr

namespace EquipmentStatus

def all : List EquipmentStatus := [.ok, .damaged, .underRepair, .lost, .retired, .condemned]

def name : EquipmentStatus → String
  | .ok => "ok"
  | .damaged => "damaged"
  | .underRepair => "under_repair"
  | .lost => "lost"
  | .retired => "retired"
  | .condemned => "condemned"

def ofName? (name : String) : Option EquipmentStatus :=
  all.find? (·.name == name)

/-- Nothing leaves a terminal status. -/
def isTerminal (s : EquipmentStatus) : Bool := s == .condemned

/-- Whether an item of this status may be given to a new holder. -/
def isAssignable : EquipmentStatus → Bool
  | .lost | .retired | .condemned => false
  | .ok | .damaged | .underRepair => true

/-- Whether the status can be entered only while nobody holds the item. -/
def requiresUnassigned : EquipmentStatus → Bool
  | .retired | .condemned => true
  | .ok | .damaged | .underRepair | .lost => false

end EquipmentStatus

/-- A custody row is open from the moment it is made until everything is back. -/
inductive CustodyState where
  | opened | closed
  deriving DecidableEq, Repr

namespace CustodyState

def all : List CustodyState := [.opened, .closed]

def name : CustodyState → String
  | .opened => "open"
  | .closed => "closed"

def ofName? (name : String) : Option CustodyState :=
  all.find? (·.name == name)

end CustodyState

end Quartermaster
