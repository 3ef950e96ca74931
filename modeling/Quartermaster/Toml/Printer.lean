import Quartermaster.Text.Hex

/-!
# Writing TOML

A string is written as it is wherever there is a kind of quotes that allows it: double quotes before
single ones, and one of a kind before three. Where none does, it is written with escapes. A string
with line ends takes three quotes and begins on a line of its own.
-/

namespace Quartermaster.Toml

/-- Whether a character is a control character that can only be written as an escape. -/
def needsEscape (c : Char) : Bool := c != '\t' && c != '\n' && (c < ' ' || c == '\x7f')

/-- The longest row of a character. -/
def longestRow (mark : Char) (cs : List Char) : Nat :=
  (cs.foldl (fun (longest, row) c =>
    if c == mark then (max longest (row + 1), row + 1) else (longest, 0)) (0, 0)).1

/-- The kinds of quotes. -/
inductive Quotes where
  | double | single | threeDouble | threeSingle
  deriving DecidableEq, Repr

/-- The quotes that a string is written in. -/
def quotesFor (cs : List Char) : Quotes :=
  let lines := cs.contains '\n'
  let escaped : Quotes := if lines then .threeDouble else .double
  let doubles := longestRow '"' cs
  let singles := longestRow '\'' cs
  if cs.any needsEscape then escaped
  else if !lines && doubles = 0 && !cs.contains '\\' then .double
  else if !lines && singles = 0 then .single
  else if doubles ≤ 2 && !cs.contains '\\' then .threeDouble
  else if singles ≤ 2 then .threeSingle
  else escaped

/-- A character in double quotes that is not one itself. -/
def escape (lines : Bool) (c : Char) : List Char :=
  match c with
  | '\x08' => ['\\', 'b']
  | '\t' => ['\\', 't']
  | '\n' => if lines then ['\n'] else ['\\', 'n']
  | '\x0c' => ['\\', 'f']
  | '\r' => ['\\', 'r']
  | '\\' => ['\\', '\\']
  | c =>
    if needsEscape c then '\\' :: 'u' :: (Text.Hex.padded 4 c.toNat).map Char.toUpper else [c]

/-- Characters in double quotes, of which up to `limit` in a row stand for themselves; `row` of them
come right before. -/
def escapeAll (lines : Bool) (limit row : Nat) : List Char → List Char
  | [] => []
  | '"' :: cs =>
    if row < limit then '"' :: escapeAll lines limit (row + 1) cs
    else '\\' :: '"' :: escapeAll lines limit 0 cs
  | c :: cs => escape lines c ++ escapeAll lines limit 0 cs

/-- A string as it is written. -/
def quote (s : String) : String :=
  let cs := s.toList
  let margin := if cs.contains '\n' then "\n" else ""
  match quotesFor cs with
  | .double => "\"" ++ String.ofList (escapeAll false 0 0 cs) ++ "\""
  | .single => "'" ++ s ++ "'"
  | .threeDouble => "\"\"\"" ++ margin ++ String.ofList (escapeAll true 2 0 cs) ++ "\"\"\""
  | .threeSingle => "'''" ++ margin ++ s ++ "'''"

/-- A line with a key and its value. -/
def assignment (key written : String) : String := key ++ " = " ++ written ++ "\n"

end Quartermaster.Toml
