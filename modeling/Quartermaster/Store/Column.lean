import Quartermaster.Ledger.EventType
import Quartermaster.Role
import Quartermaster.Status

/-!
# Text columns

How a name that was stored as text is read back. A column that holds no text, or a name of nothing,
is rejected.
-/

namespace Quartermaster

/-- Why a stored value is not what its column is for. -/
inductive ColumnFault where
  | notText
  | unknown (noun text : String)
  deriving DecidableEq, Repr

namespace Column

/-- Reads a name. -/
def read {α : Type} (noun : String) (ofName? : String → Option α) (stored : Option String) :
    Except ColumnFault α :=
  match stored with
  | none => .error .notText
  | some text =>
    match ofName? text with
    | some value => .ok value
    | none => .error (.unknown noun text)

def role : Option String → Except ColumnFault Role := read "role" Role.ofName?

def status : Option String → Except ColumnFault EquipmentStatus :=
  read "equipment status" EquipmentStatus.ofName?

def custodyState : Option String → Except ColumnFault CustodyState :=
  read "custody state" CustodyState.ofName?

def eventType : Option String → Except ColumnFault EventType :=
  read "event type" EventType.ofName?

end Column

/-- The words for a rejected value; a column without text has none. -/
def ColumnFault.message? : ColumnFault → Option String
  | .notText => none
  | .unknown noun text => some s!"unknown {noun}: {text}"

end Quartermaster
