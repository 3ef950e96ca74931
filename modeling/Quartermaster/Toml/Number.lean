import Quartermaster.Text.Hex
import Quartermaster.Toml.Value
import Quartermaster.Toml.Reader
import Quartermaster.Word

/-!
# TOML numbers, dates and times

Single underscores may stand between digits. An integer has 64 bits. A float is kept as it is
written, and one that is too large to be finite is refused; a negative one is not.
-/

namespace Quartermaster.Toml

/-- Whether digits are there and underscores stand singly between them. -/
def wellSpaced : List Char → Bool
  | [] => false
  | [c] => c != '_'
  | '_' :: _ => false
  | _ :: '_' :: rest => wellSpaced rest
  | _ :: rest => wellSpaced rest

/-- Digits without their underscores. -/
def digits (isDigit : Char → Bool) : Reader (List Char) := do
  let written ← Reader.run fun c => isDigit c || c == '_'
  if wellSpaced written then return written.filter (· != '_') else failure

/-- Decimal digits without a leading zero. -/
def wholeDigits : Reader (List Char) := do
  let ds ← digits Char.isDigit
  if ds.head? == some '0' && 1 < ds.length then failure
  return ds

/-- The number of decimal digits. -/
def decimal (ds : List Char) : Nat := ds.foldl (fun n c => n * 10 + (c.toNat - 48)) 0

/-- A sign; whether it is a minus. -/
def sign : Reader Bool := do
  match ← Reader.optional (Reader.satisfy fun c => c == '+' || c == '-') with
  | some c => return c == '-'
  | none => return false

/-- The number of digits of a base up to sixteen. -/
def ofBase (base : Nat) (ds : List Char) : Nat :=
  ds.foldl (fun n c => n * base + (Text.Hex.digitValue? c).getD 0) 0

/-- An integer with the mark of a base. -/
def based (mark : Char) (base : Nat) : Reader Int := do
  Reader.exactly ['0', mark]
  let ds ← digits fun c => (Text.Hex.digitValue? c).any (· < base)
  return ofBase base ds

/-- An integer of 64 bits. -/
def integer : Reader Int := do
  let n ← based 'x' 16 <|> based 'o' 8 <|> based 'b' 2 <|> (do
    let negative ← sign
    let n : Int := decimal (← wholeDigits)
    return if negative then -n else n)
  if fitsWord n then return n else failure

/-- Whether `m` times ten to the power `e` rounds to no finite double. -/
def isInfinite (m : Nat) (e : Int) : Bool :=
  let width : Int := (toString m).length
  if m = 0 ∨ width + e < 300 then false
  else if 400 < width + e then true
  else
    let limit := Nat.pow 2 1024 - Nat.pow 2 970
    if 0 ≤ e then limit ≤ m * Nat.pow 10 e.toNat else limit * Nat.pow 10 (-e).toNat ≤ m

/-- An exponent. -/
def exponent : Reader Int := do
  let _ ← Reader.satisfy fun c => c == 'e' || c == 'E'
  let negative ← sign
  let n : Int := decimal (← digits Char.isDigit)
  return if negative then -n else n

/-- A float with a fraction, an exponent or both. -/
def plainFloat : Reader Unit := do
  let negative ← sign
  let whole ← wholeDigits
  let fraction ← Reader.optional (do
    Reader.char '.'
    digits Char.isDigit)
  let e ← Reader.optional exponent
  if fraction.isNone && e.isNone then failure
  let places := fraction.getD []
  if !negative && isInfinite (decimal (whole ++ places)) (e.getD 0 - places.length) then failure

/-- A float that is written as a word. -/
def namedFloat : Reader Unit := do
  let _ ← sign
  Reader.exactly "inf".toList <|> Reader.exactly "nan".toList

/-- What a reader takes, as it is written. -/
def written (r : Reader Unit) : Reader String := fun text =>
  (r text).map fun (_, rest) => (String.ofList (text.take (text.length - rest.length)), rest)

/-- A number of `width` digits from `low` to `high`. -/
def field (width low high : Nat) : Reader Nat := do
  let n := decimal (← Reader.times width Char.isDigit)
  if low ≤ n ∧ n ≤ high then return n else failure

def isLeapYear (year : Nat) : Bool := year % 4 = 0 && (year % 100 != 0 || year % 400 = 0)

def daysInMonth (year month : Nat) : Nat :=
  if month = 2 then if isLeapYear year then 29 else 28
  else if month ∈ [4, 6, 9, 11] then 30
  else 31

def date : Reader Unit := do
  let year ← field 4 0 9999
  Reader.char '-'
  let month ← field 2 1 12
  Reader.char '-'
  let _ ← field 2 1 (daysInMonth year month)

def time : Reader Unit := do
  let _ ← field 2 0 23
  Reader.char ':'
  let _ ← field 2 0 59
  Reader.char ':'
  let _ ← field 2 0 60
  let _ ← Reader.optional (do
    Reader.char '.'
    let _ ← Reader.satisfy Char.isDigit
    Reader.run Char.isDigit)

/-- A distance from universal time. -/
def offset : Reader Unit := do
  let c ← Reader.satisfy (['Z', 'z', '+', '-'].contains ·)
  if c == '+' || c == '-' then
    let _ ← field 2 0 23
    Reader.char ':'
    let _ ← field 2 0 59

def dateTime : Reader Unit :=
  (do
    date
    let _ ← Reader.optional (do
      let _ ← Reader.satisfy (['T', 't', ' '].contains ·)
      time
      Reader.optional offset)) <|> time

/-- A number, a date or a time. -/
def scalar : Reader Value :=
  (.dateTime <$> written dateTime) <|> (.float <$> written plainFloat)
    <|> (.integer <$> integer) <|> (.float <$> written namedFloat)

end Quartermaster.Toml
