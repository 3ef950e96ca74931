import Quartermaster.Toml.Number
import Quartermaster.Toml.Text

/-!
# TOML documents

A document is a sequence of lines: key and value, header, or nothing. `parse` gives the table that
they make.
-/

namespace Quartermaster.Toml

/-- A word that stands for a value. -/
def word (w : String) (v : Value) : Reader Value := do
  Reader.exactly w.toList
  return v

/-- The last part of a key and the path to it. -/
def splitKey (parts : List String) : List String × String :=
  (parts.dropLast, parts.getLastD "")

mutual

/-- A value with `room` levels of lists and tables in it. -/
def value (room : Nat) : Reader Value := do
  match ← Reader.peek with
  | some '"' | some '\'' => .text <$> string
  | some 't' => word "true" (.boolean true)
  | some 'f' => word "false" (.boolean false)
  | some '[' => array room
  | some '\x7b' => inlineTable room
  | _ => scalar

def array (room : Nat) : Reader Value := do
  match room with
  | 0 => failure
  | room + 1 =>
    Reader.char '['
    let item : Reader Value := do
      space
      let v ← value room
      space
      return v
    let items ← Reader.optional (Reader.separated item (Reader.char ','))
    if items.isSome then
      let _ ← Reader.optional (Reader.char ',')
    space
    Reader.char ']'
    return .array (items.getD [])

def inlineTable (room : Nat) : Reader Value := do
  match room with
  | 0 => failure
  | room + 1 =>
    Reader.char '\x7b'
    let member : Reader (List String × Value) := do
      let parts ← key
      Reader.char '='
      blanks
      let v ← value room
      blanks
      return (parts, v)
    let members ← Reader.optional (Reader.separated member (Reader.char ','))
    blanks
    Reader.char '\x7d'
    let add (es : Entries) (m : List String × Value) : Option Entries :=
      let (path, name) := splitKey m.1
      es.put path name m.2 .header
    match (members.getD []).foldlM add [] with
    | some es => return .inlineTable es
    | none => failure

end

/-- The table so far, and the path of the header that is in force. -/
structure Draft where
  entries : Entries := []
  header : List String := []

/-- A key with its value, in the table of the header that is in force. -/
def keyValue (d : Draft) : Reader Draft := do
  let parts ← key
  Reader.char '='
  blanks
  let v ← value (depthLimit - 1)
  endOfLine
  let (path, name) := splitKey parts
  match Entries.descend false (Entries.put path name v) d.header .header d.entries with
  | some entries => return { d with entries }
  | none => failure

def header (d : Draft) : Reader Draft := do
  Reader.char '['
  let parts ← key
  Reader.char ']'
  endOfLine
  let (path, name) := splitKey parts
  match d.entries.openTable path name with
  | some entries => return { entries, header := parts }
  | none => failure

def repeatedHeader (d : Draft) : Reader Draft := do
  Reader.exactly ['[', '[']
  let parts ← key
  Reader.exactly [']', ']']
  endOfLine
  let (path, name) := splitKey parts
  match d.entries.openNext path name with
  | some entries => return { entries, header := parts }
  | none => failure

/-- One line. -/
def line (d : Draft) : Reader Draft := do
  let text ← get
  match text with
  | '#' :: _ =>
    comment
    newline <|> Reader.done
    return d
  | '\n' :: _ | '\r' :: _ =>
    newline
    return d
  | '[' :: '[' :: _ => repeatedHeader d
  | '[' :: _ => header d
  | _ => keyValue d

/-- The lines up to the end of the text, at most `fuel` of them. -/
def lines (d : Draft) : Nat → Reader Draft
  | 0 => do
    blanks
    Reader.done
    return d
  | fuel + 1 => do
    blanks
    if (← Reader.peek).isNone then return d
    else lines (← line d) fuel

/-- The table of a document. A byte order mark in front of it is skipped. -/
def parse (text : String) : Option Entries :=
  let cs := match text.toList with
    | '\ufeff' :: rest => rest
    | cs => cs
  (Reader.all (lines {} cs.length) cs).map (·.entries)

end Quartermaster.Toml
