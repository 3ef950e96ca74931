/-!
# TOML values

A document is a table. A table is written by its own header, implied by a longer one, or made by a
dotted key, and which of these it was decides what may still be added to it: a header may be given
once, and a dotted key opens no table that has a header. A value in line is closed.
-/

namespace Quartermaster.Toml

/-- How a table came to be. -/
inductive Origin where
  /-- By a header of its own. -/
  | header
  /-- By the header of a table below it. -/
  | implied
  /-- By a dotted key. -/
  | dotted
  deriving DecidableEq, Repr

inductive Value where
  | text (s : String)
  | integer (n : Int)
  /-- A float as it is written. -/
  | float (written : String)
  | boolean (b : Bool)
  /-- A date, a time or both as they are written. -/
  | dateTime (written : String)
  | array (items : List Value)
  | inlineTable (entries : List (String × Value))
  | table (origin : Origin) (entries : List (String × Value))
  /-- The tables under one repeated header. -/
  | tables (items : List (List (String × Value)))
  deriving Inhabited

abbrev Entries := List (String × Value)

namespace Entries

def get? (es : Entries) (key : String) : Option Value := (List.find? (·.1 == key) es).map (·.2)

/-- Replaces the value of a key. -/
def set (es : Entries) (key : String) (v : Value) : Entries :=
  es.map fun e => if e.1 == key then (key, v) else e

/-- Changes the table at the end of a path. Tables that are not there are made; a repeated header
stands for its last table. -/
def descend (viaDots : Bool) (change : Origin → Entries → Option Entries) :
    List String → Origin → Entries → Option Entries
  | [], origin, es => change origin es
  | key :: rest, _, es =>
    match es.get? key with
    | none => do
      let origin := if viaDots then Origin.dotted else Origin.implied
      let sub ← descend viaDots change rest origin []
      return es ++ [(key, .table origin sub)]
    | some (.table origin sub) =>
      if viaDots && origin == .header then none
      else (descend viaDots change rest origin sub).map fun sub => es.set key (.table origin sub)
    | some (.tables items) => do
      let last ← items.getLast?
      let sub ← descend viaDots change rest .header last
      return es.set key (.tables (items.dropLast ++ [sub]))
    | some _ => none

/-- Gives a key a value in the table at the end of a dotted path. The table must have been made by
such a path, and the key must be new. -/
def put (path : List String) (key : String) (v : Value) (origin : Origin) (es : Entries) :
    Option Entries :=
  descend true
    (fun origin es =>
      if (origin == .dotted) == path.isEmpty then none
      else if (es.get? key).isSome then none
      else some (es ++ [(key, v)]))
    path origin es

/-- Opens the table of a header. -/
def openTable (path : List String) (key : String) (es : Entries) : Option Entries :=
  descend false
    (fun _ es =>
      match es.get? key with
      | none => some (es ++ [(key, .table .header [])])
      | some (.table .implied sub) => some (es.set key (.table .header sub))
      | some _ => none)
    path .header es

/-- Opens the next table of a repeated header. -/
def openNext (path : List String) (key : String) (es : Entries) : Option Entries :=
  descend false
    (fun _ es =>
      match es.get? key with
      | none => some (es ++ [(key, .tables [[]])])
      | some (.tables items) => some (es.set key (.tables (items ++ [[]])))
      | some _ => none)
    path .header es

end Entries

end Quartermaster.Toml
