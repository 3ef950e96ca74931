import Quartermaster.Text.Hex

/-!
# JSON values

Values that are written, with their compact text. There are no fractions: every number is an
integer. A string is quoted so that a quote, a backslash and the control characters are escaped and
every other character stands for itself.
-/

namespace Quartermaster

inductive Json where
  | null
  | bool (b : Bool)
  | int (n : Int)
  | str (s : String)
  | arr (items : List Json)
  | obj (fields : List (String × Json))
  deriving Repr, Inhabited

namespace Json

/-- Absent text is `null`. -/
def text? (s : Option String) : Json := s.elim .null .str

/-- An absent number is `null`. -/
def int? (n : Option Int) : Json := n.elim .null .int

/-- An object with its fields in ascending order of their names. -/
def sorted (fields : List (String × Json)) : Json :=
  .obj (fields.mergeSort fun a b => decide (a.1 ≤ b.1))

/-- The escape of a character inside a quoted string. -/
def escape (c : Char) : List Char :=
  match c with
  | '"' => ['\\', '"']
  | '\\' => ['\\', '\\']
  | '\x08' => ['\\', 'b']
  | '\x0c' => ['\\', 'f']
  | '\n' => ['\\', 'n']
  | '\r' => ['\\', 'r']
  | '\t' => ['\\', 't']
  | c => if c.toNat < 32 then '\\' :: 'u' :: Text.Hex.padded 4 c.toNat else [c]

/-- A string in quotes. -/
def quote (s : String) : String :=
  String.ofList ('"' :: (s.toList.flatMap escape ++ ['"']))

mutual

/-- The compact text: no white space, fields in their order. -/
def compact : Json → String
  | .null => "null"
  | .bool b => if b then "true" else "false"
  | .int n => toString n
  | .str s => quote s
  | .arr items => "[" ++ ",".intercalate (compactItems items) ++ "]"
  | .obj fields => "\x7b" ++ ",".intercalate (compactFields fields) ++ "\x7d"

def compactItems : List Json → List String
  | [] => []
  | v :: rest => compact v :: compactItems rest

def compactFields : List (String × Json) → List String
  | [] => []
  | (name, v) :: rest => (quote name ++ ":" ++ compact v) :: compactFields rest

end

end Json

end Quartermaster
