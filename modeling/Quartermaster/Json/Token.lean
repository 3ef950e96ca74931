import Quartermaster.Text.Hex

/-!
# JSON tokens

The tokens of a JSON text, scanned from its bytes one byte at a time. A string whose bytes are no
UTF-8, or whose escapes are unpaired surrogates, is still one token: it has no text, and only
whoever wants its text has to refuse it. A number has a value if it is written as an integer.
-/

namespace Quartermaster.Json

inductive Token where
  | openList | closeList
  | openFields | closeFields
  | comma | colon
  | null
  | bool (b : Bool)
  /-- A number, with its value if it is written without fraction and exponent. -/
  | number (value : Option Int)
  /-- A string, with its text if it has one. -/
  | text (s : Option String)
  deriving DecidableEq, Repr

/-- How far a number has been read. -/
inductive NumberPhase where
  | sign | zero | whole | point | fraction | mark | markSign | exponent
  deriving DecidableEq, Repr

/-- How far a character of a string has been read. -/
inductive TextPhase where
  | plain
  /-- Behind a backslash. -/
  | escape
  /-- Before the last `left` digits of a code unit. -/
  | unit (left value : Nat)
  deriving DecidableEq, Repr

/-- The part of a string that has been read. -/
structure Written where
  /-- The bytes, last one first. -/
  bytes : List UInt8 := []
  /-- The first half of a surrogate pair, while the second is due. -/
  high : Option Nat := none
  /-- Whether every surrogate so far has its other half. -/
  paired : Bool := true
  deriving DecidableEq, Repr

/-- What a scanner is in the middle of. -/
inductive Scan where
  | between
  | word (rest : List Char) (token : Token)
  | number (negative : Bool) (phase : NumberPhase) (value : Nat)
  | text (written : Written) (phase : TextPhase)
  deriving DecidableEq, Repr

def isSpace (c : Char) : Bool := c == ' ' || c == '\t' || c == '\n' || c == '\r'

namespace NumberPhase

/-- The phase behind one more character; `none` when the number has ended. -/
def next (p : NumberPhase) (c : Char) : Option NumberPhase :=
  match p with
  | sign => if c == '0' then some zero else if c.isDigit then some whole else none
  | zero =>
    if c == '.' then some point else if c == 'e' || c == 'E' then some mark else none
  | whole =>
    if c.isDigit then some whole
    else if c == '.' then some point
    else if c == 'e' || c == 'E' then some mark
    else none
  | point => if c.isDigit then some fraction else none
  | fraction =>
    if c.isDigit then some fraction else if c == 'e' || c == 'E' then some mark else none
  | mark =>
    if c.isDigit then some exponent else if c == '+' || c == '-' then some markSign else none
  | markSign => if c.isDigit then some exponent else none
  | exponent => if c.isDigit then some exponent else none

/-- Whether a number may end here. -/
def isComplete : NumberPhase → Bool
  | zero | whole | fraction | exponent => true
  | sign | point | mark | markSign => false

/-- The value of digits in the phase. A negative zero is no integer. -/
def value (p : NumberPhase) (negative : Bool) (digits : Nat) : Option Int :=
  match p with
  | zero => if negative then none else some 0
  | whole => some (if negative then -(digits : Int) else digits)
  | _ => none

end NumberPhase

namespace Written

/-- A byte that stands for itself, or an escaped one. -/
def push (w : Written) (b : UInt8) : Written :=
  { bytes := b :: w.bytes, high := none, paired := w.paired && w.high.isNone }

/-- An escaped code unit. -/
def pushUnit (w : Written) (unit : Nat) : Written :=
  let encoded (n : Nat) := (String.utf8EncodeChar (Char.ofNat n)).reverse
  if 0xD800 ≤ unit ∧ unit < 0xDC00 then
    { w with high := some unit, paired := w.paired && w.high.isNone }
  else if 0xDC00 ≤ unit ∧ unit < 0xE000 then
    match w.high with
    | some high =>
      { w with
        bytes := encoded (0x10000 + (high - 0xD800) * 0x400 + (unit - 0xDC00)) ++ w.bytes
        high := none }
    | none => { w with paired := false }
  else
    { bytes := encoded unit ++ w.bytes, high := none, paired := w.paired && w.high.isNone }

/-- The text, if every half of a pair is there and the bytes are UTF-8. -/
def text? (w : Written) : Option String :=
  if w.paired && w.high.isNone then String.fromUTF8? (ByteArray.mk w.bytes.reverse.toArray)
  else none

end Written

/-- The byte that a character behind a backslash stands for. -/
def escaped? (c : Char) : Option UInt8 :=
  match c with
  | '"' => some 0x22
  | '\\' => some 0x5C
  | '/' => some 0x2F
  | 'b' => some 0x08
  | 'f' => some 0x0C
  | 'n' => some 0x0A
  | 'r' => some 0x0D
  | 't' => some 0x09
  | _ => none

namespace Scan

/-- What a byte begins. -/
def start (b : UInt8) : Option (Scan × List Token) :=
  let c := Char.ofUInt8 b
  match c with
  | '[' => some (between, [.openList])
  | ']' => some (between, [.closeList])
  | '\x7b' => some (between, [.openFields])
  | '\x7d' => some (between, [.closeFields])
  | ',' => some (between, [.comma])
  | ':' => some (between, [.colon])
  | 'n' => some (word "ull".toList .null, [])
  | 't' => some (word "rue".toList (.bool true), [])
  | 'f' => some (word "alse".toList (.bool false), [])
  | '"' => some (text {} .plain, [])
  | '-' => some (number true .sign 0, [])
  | '0' => some (number false .zero 0, [])
  | c =>
    if c.isDigit then some (number false .whole (c.toNat - 48), [])
    else if isSpace c then some (between, [])
    else none

/-- One more byte of a string. A control character has to be escaped. -/
def stepText (w : Written) (phase : TextPhase) (b : UInt8) : Option (Scan × List Token) :=
  let c := Char.ofUInt8 b
  match phase with
  | .plain =>
    if c == '"' then some (between, [.text w.text?])
    else if c == '\\' then some (text w .escape, [])
    else if b < 0x20 then none
    else some (text (w.push b) .plain, [])
  | .escape =>
    if c == 'u' then some (text w (.unit 4 0), [])
    else (escaped? c).map fun e => (text (w.push e) .plain, [])
  | .unit left value =>
    (Text.Hex.digitValue? c).map fun d =>
      let value := value * 16 + d
      if left ≤ 1 then (text (w.pushUnit value) .plain, [])
      else (text w (.unit (left - 1) value), [])

/-- One more byte, with the tokens that it completes. -/
def step : Scan → UInt8 → Option (Scan × List Token)
  | between, b => start b
  | word (c :: rest) token, b =>
    if Char.ofUInt8 b != c then none
    else if rest.isEmpty then some (between, [token])
    else some (word rest token, [])
  | word [] token, b => (start b).map fun r => (r.1, token :: r.2)
  | number negative phase value, b =>
    let c := Char.ofUInt8 b
    match phase.next c with
    | some phase =>
      let value := if phase == .whole then value * 10 + (c.toNat - 48) else value
      some (number negative phase value, [])
    | none =>
      if phase.isComplete then
        (start b).map fun r => (r.1, .number (phase.value negative value) :: r.2)
      else none
  | text w phase, b => stepText w phase b

/-- The tokens that the end of the text completes. -/
def finish : Scan → Option (List Token)
  | between => some []
  | word [] token => some [token]
  | word (_ :: _) _ => none
  | number negative phase value =>
    if phase.isComplete then some [.number (phase.value negative value)] else none
  | text .. => none

/-- The tokens of the bytes behind `scan`, after the tokens in `found`, which has the last one
first. -/
def tokensFrom (scan : Scan) (found : List Token) : List UInt8 → Option (List Token)
  | [] => scan.finish.map fun last => (last.reverse ++ found).reverse
  | b :: rest =>
    match scan.step b with
    | some (next, tokens) => tokensFrom next (tokens.reverse ++ found) rest
    | none => none

end Scan

/-- The tokens of a text; `none` where a byte fits no token. -/
def Token.all (bytes : List UInt8) : Option (List Token) :=
  Scan.between.tokensFrom [] bytes

end Quartermaster.Json
