import Quartermaster.Json.Token

/-!
# JSON documents

The tree of a JSON text as it was written: fields in their order, repeated ones too, and strings
that may have no text. It is built from the tokens with the open lists and objects kept on a stack,
so no depth is too deep.
-/

namespace Quartermaster.Json

inductive Document where
  | null
  | bool (b : Bool)
  | number (value : Option Int)
  | text (s : Option String)
  | list (items : List Document)
  | fields (members : List (Option String × Document))
  deriving Inhabited

namespace Document

/-- A list or an object that is open, its parts with the last one first. -/
inductive Frame where
  | list (items : List Document)
  /-- An object with the key whose value is due. -/
  | fields (members : List (Option String × Document)) (key : Option String)

/-- What may come next. -/
inductive Due where
  | value
  /-- A value, or the end of the list that was just opened. -/
  | valueOrEnd
  /-- A key, or the end of the object that was just opened. -/
  | keyOrEnd
  | key
  | colon
  /-- A comma, or the end of what is open. -/
  | separator
  /-- Nothing: the tree is complete. -/
  | nothing (root : Document)

structure Builder where
  stack : List Frame := []
  due : Due := .value

namespace Builder

/-- A value is complete. -/
def put (stack : List Frame) (v : Document) : Builder :=
  match stack with
  | [] => { stack := [], due := .nothing v }
  | .list items :: rest => { stack := .list (v :: items) :: rest, due := .separator }
  | .fields members key :: rest =>
    { stack := .fields ((key, v) :: members) none :: rest, due := .separator }

/-- A token at the place of a value. -/
def value (stack : List Frame) : Token → Option Builder
  | .null => some (put stack .null)
  | .bool b => some (put stack (.bool b))
  | .number n => some (put stack (.number n))
  | .text s => some (put stack (.text s))
  | .openList => some { stack := .list [] :: stack, due := .valueOrEnd }
  | .openFields => some { stack := .fields [] none :: stack, due := .keyOrEnd }
  | .closeList | .closeFields | .comma | .colon => none

/-- A token at the place of a key. -/
def key (stack : List Frame) (t : Token) : Option Builder :=
  match stack, t with
  | .fields members _ :: rest, .text s =>
    some { stack := .fields members s :: rest, due := .colon }
  | _, _ => none

/-- A token that ends what is open. -/
def close (stack : List Frame) (t : Token) : Option Builder :=
  match stack, t with
  | .list items :: rest, .closeList => some (put rest (.list items.reverse))
  | .fields members _ :: rest, .closeFields => some (put rest (.fields members.reverse))
  | _, _ => none

def step (b : Builder) (t : Token) : Option Builder :=
  match b.due with
  | .value => value b.stack t
  | .valueOrEnd => if t = .closeList then close b.stack t else value b.stack t
  | .keyOrEnd => if t = .closeFields then close b.stack t else key b.stack t
  | .key => key b.stack t
  | .colon => if t = .colon then some { b with due := .value } else none
  | .separator =>
    match t, b.stack with
    | .comma, .list _ :: _ => some { b with due := .value }
    | .comma, .fields .. :: _ => some { b with due := .key }
    | _, _ => close b.stack t
  | .nothing _ => none

/-- The tree once all tokens are read. -/
def run (b : Builder) : List Token → Option Document
  | [] =>
    match b.due with
    | .nothing root => some root
    | _ => none
  | t :: rest =>
    match b.step t with
    | some next => run next rest
    | none => none

end Builder

/-- The tree of a JSON text. -/
def parse (bytes : List UInt8) : Option Document :=
  (Token.all bytes).bind fun tokens => Builder.run {} tokens

end Document

end Quartermaster.Json
