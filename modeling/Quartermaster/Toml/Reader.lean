/-!
# Readers

A reader takes a value off the front of a text, or refuses the text. Of two readers the second is
tried where the first refuses.
-/

namespace Quartermaster.Toml

abbrev Reader := StateT (List Char) Option

namespace Reader

variable {α : Type}

/-- The next character, which is left in place. -/
def peek : Reader (Option Char) := fun text => some (text.head?, text)

/-- A character with a property. -/
def satisfy (p : Char → Bool) : Reader Char
  | [] => none
  | c :: rest => if p c then some (c, rest) else none

def char (c : Char) : Reader Unit := do
  let _ ← satisfy (· == c)

/-- The text `cs`. -/
def exactly : List Char → Reader Unit
  | [] => pure ()
  | c :: cs => do
    char c
    exactly cs

/-- As many characters with a property as there are. -/
def run (p : Char → Bool) : Reader (List Char) :=
  fun text => some (text.span p)

/-- Exactly `n` characters with a property. -/
def times (n : Nat) (p : Char → Bool) : Reader (List Char) :=
  match n with
  | 0 => pure []
  | n + 1 => do
    let c ← satisfy p
    return c :: (← times n p)

/-- What the reader takes, or nothing where it refuses. -/
def optional (r : Reader α) : Reader (Option α) :=
  (some <$> r) <|> pure none

/-- The end of the text. -/
def done : Reader Unit
  | [] => some ((), [])
  | _ :: _ => none

/-- Applies a reader until it refuses or takes nothing, at most `fuel` times. -/
def repeated (r : Reader α) : Nat → Reader (List α)
  | 0, text => some ([], text)
  | fuel + 1, text =>
    match r text with
    | none => some ([], text)
    | some (a, rest) =>
      if rest.length < text.length then
        (repeated r fuel rest).map fun (as, rest) => (a :: as, rest)
      else some ([], text)

/-- Applies a reader as often as it takes something. -/
def many (r : Reader α) : Reader (List α) := fun text => repeated r text.length text

/-- Values with separators between them, and at least one. -/
def separated (r : Reader α) (separator : Reader Unit) : Reader (List α) := do
  let first ← r
  let others ← many (do
    separator
    r)
  return first :: others

/-- Runs a reader on a whole text. -/
def all (r : Reader α) (text : List Char) : Option α :=
  match r text with
  | some (a, []) => some a
  | _ => none

end Reader

/-- White space within a line. -/
def isBlankChar (c : Char) : Bool := c == ' ' || c == '\t'

/-- Characters that may stand in a comment: no control character but the tab. -/
def isLineChar (c : Char) : Bool := c == '\t' || (' ' ≤ c && c ≠ '\x7f')

def blanks : Reader Unit := do
  let _ ← Reader.run isBlankChar

def newline : Reader Unit := Reader.char '\n' <|> Reader.exactly ['\r', '\n']

def comment : Reader Unit := do
  Reader.char '#'
  let _ ← Reader.run isLineChar

/-- What may follow an expression on its line. -/
def endOfLine : Reader Unit := do
  blanks
  let _ ← Reader.optional comment
  newline <|> Reader.done

/-- White space and comments over any number of lines. -/
def space : Reader Unit := do
  blanks
  let _ ← Reader.many (do
    let _ ← Reader.optional comment
    newline
    blanks)

end Quartermaster.Toml
