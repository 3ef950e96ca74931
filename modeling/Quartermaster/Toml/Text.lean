import Quartermaster.Text.Hex
import Quartermaster.Toml.Reader

/-!
# TOML strings and keys

Strings in double quotes have escapes, strings in single quotes have none, and three quotes begin
either kind over several lines. A string over several lines may end in up to two quotes of its own.
-/

namespace Quartermaster.Toml

/-- How far a character of a quoted string has been read. -/
inductive Escape where
  | plain
  /-- Behind a backslash. -/
  | escape
  /-- Before the last `left` digits of a code point. -/
  | code (left value : Nat)
  /-- Behind a backslash and blanks, before the end of the line. -/
  | lineEnd
  /-- In the blanks and line ends that an escaped line end takes with it. -/
  | margin
  deriving DecidableEq, Repr

/-- The character that one behind a backslash stands for. -/
def escaped? (c : Char) : Option Char :=
  match c with
  | 'b' => some '\x08'
  | 't' => some '\t'
  | 'n' => some '\n'
  | 'f' => some '\x0c'
  | 'r' => some '\r'
  | '"' => some '"'
  | '\\' => some '\\'
  | _ => none

/-- What comes behind a character that follows a backslash: the character it stands for, or the
digits of a code point. -/
def escapeStep? (c : Char) : Option (List Char × Escape) :=
  match c with
  | 'u' => some ([], .code 4 0)
  | 'U' => some ([], .code 8 0)
  | c => (escaped? c).map fun e => ([e], .plain)

/-- What comes behind a digit of a code point. -/
def codeStep? (left value : Nat) (c : Char) : Option (List Char × Escape) :=
  (Text.Hex.digitValue? c).bind fun d =>
    let value := value * 16 + d
    if 1 < left then some ([], .code (left - 1) value)
    else if value.isValidChar then some ([Char.ofNat value], .plain)
    else none

/-- The text of characters that are kept last one first. -/
def textOf (found : List Char) : String := String.ofList found.reverse

/-- The rest of a string in double quotes behind the characters in `found`. -/
def basicRest (found : List Char) : Escape → List Char → Option (String × List Char)
  | _, [] => none
  | .escape, c :: rest =>
    match escapeStep? c with
    | some (new, phase) => basicRest (new ++ found) phase rest
    | none => none
  | .code left value, c :: rest =>
    match codeStep? left value c with
    | some (new, phase) => basicRest (new ++ found) phase rest
    | none => none
  | _, c :: rest =>
    if c == '"' then some (textOf found, rest)
    else if c == '\\' then basicRest found .escape rest
    else if isLineChar c then basicRest (c :: found) .plain rest
    else none

/-- The rest of a string in three double quotes behind the characters in `found`, of which the last
`quotes` are quotes in a row. The string ends with the third of these that nothing but a quote
follows, or with the fifth. -/
def basicLinesRest (found : List Char) (quotes : Nat) :
    Escape → List Char → Option (String × List Char)
  | .plain, [] => if 3 ≤ quotes then some (textOf (found.drop 3), []) else none
  | _, [] => none
  | .escape, '\r' :: '\n' :: rest => basicLinesRest found 0 .margin rest
  | .escape, c :: rest =>
    match escapeStep? c with
    | some (new, phase) => basicLinesRest (new ++ found) 0 phase rest
    | none =>
      if isBlankChar c then basicLinesRest found 0 .lineEnd rest
      else if c == '\n' then basicLinesRest found 0 .margin rest
      else none
  | .code left value, c :: rest =>
    match codeStep? left value c with
    | some (new, phase) => basicLinesRest (new ++ found) 0 phase rest
    | none => none
  | .lineEnd, '\r' :: '\n' :: rest => basicLinesRest found 0 .margin rest
  | .lineEnd, c :: rest =>
    if isBlankChar c then basicLinesRest found 0 .lineEnd rest
    else if c == '\n' then basicLinesRest found 0 .margin rest
    else none
  | .margin, '\r' :: '\n' :: rest => basicLinesRest found 0 .margin rest
  | .margin, c :: rest =>
    if isBlankChar c || c == '\n' then basicLinesRest found 0 .margin rest
    else if c == '"' then basicLinesRest (c :: found) 1 .plain rest
    else if c == '\\' then basicLinesRest found 0 .escape rest
    else if isLineChar c then basicLinesRest (c :: found) 0 .plain rest
    else none
  | .plain, c :: rest =>
    if c == '"' then
      if quotes = 4 then some (textOf (found.drop 2), rest)
      else basicLinesRest (c :: found) (quotes + 1) .plain rest
    else if 3 ≤ quotes then some (textOf (found.drop 3), c :: rest)
    else if c == '\\' then basicLinesRest found 0 .escape rest
    else if c == '\n' || isLineChar c then basicLinesRest (c :: found) 0 .plain rest
    else
      match c, rest with
      | '\r', '\n' :: rest => basicLinesRest ('\n' :: found) 0 .plain rest
      | _, _ => none

/-- The rest of a string in single quotes. -/
def literalRest (found : List Char) : List Char → Option (String × List Char)
  | [] => none
  | c :: rest =>
    if c == '\'' then some (textOf found, rest)
    else if isLineChar c then literalRest (c :: found) rest
    else none

/-- The rest of a string in three single quotes behind the characters in `found`, of which the last
`quotes` are quotes in a row. -/
def literalLinesRest (found : List Char) (quotes : Nat) : List Char → Option (String × List Char)
  | [] => if 3 ≤ quotes then some (textOf (found.drop 3), []) else none
  | c :: rest =>
    if c == '\'' then
      if quotes = 4 then some (textOf (found.drop 2), rest)
      else literalLinesRest (c :: found) (quotes + 1) rest
    else if 3 ≤ quotes then some (textOf (found.drop 3), c :: rest)
    else if c == '\n' || isLineChar c then literalLinesRest (c :: found) 0 rest
    else
      match c, rest with
      | '\r', '\n' :: rest => literalLinesRest ('\n' :: found) 0 rest
      | _, _ => none

/-- A string on one line. -/
def shortString : Reader String
  | '"' :: rest => basicRest [] .plain rest
  | '\'' :: rest => literalRest [] rest
  | _ => none

/-- A string of either kind. A line end right behind three quotes is no part of the string. -/
def string : Reader String
  | '"' :: '"' :: '"' :: '\n' :: rest => basicLinesRest [] 0 .plain rest
  | '"' :: '"' :: '"' :: '\r' :: '\n' :: rest => basicLinesRest [] 0 .plain rest
  | '"' :: '"' :: '"' :: rest => basicLinesRest [] 0 .plain rest
  | '\'' :: '\'' :: '\'' :: '\n' :: rest => literalLinesRest [] 0 rest
  | '\'' :: '\'' :: '\'' :: '\r' :: '\n' :: rest => literalLinesRest [] 0 rest
  | '\'' :: '\'' :: '\'' :: rest => literalLinesRest [] 0 rest
  | text => shortString text

def isBareChar (c : Char) : Bool := c.isAlphanum || c == '-' || c == '_'

/-- One part of a key. -/
def simpleKey : Reader String := do
  match ← Reader.peek with
  | some '"' | some '\'' => shortString
  | _ =>
    let first ← Reader.satisfy isBareChar
    return String.ofList (first :: (← Reader.run isBareChar))

/-- How deep values and keys may go. -/
def depthLimit : Nat := 80

/-- A key, by its parts. -/
def key : Reader (List String) := do
  let part : Reader String := do
    blanks
    let k ← simpleKey
    blanks
    return k
  let parts ← Reader.separated part (Reader.char '.')
  if parts.length < depthLimit then return parts else failure

end Quartermaster.Toml
