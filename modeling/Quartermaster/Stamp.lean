/-!
# Stamps

A stamp is one reading of the clock, in microseconds since 1970-01-01T00:00:00Z. The clock of a
store moves on by one with each reading, so no reading repeats, and two stamps of one store are
equal only if they are the same reading.
-/

namespace Quartermaster

structure Stamp where
  micros : Nat
  deriving DecidableEq, Repr

namespace Stamp

/-- The civil date of a day count from 1970-01-01: year, month, day. The year is taken to begin in
March, so that the leap day is its last. -/
def civil (days : Nat) : Nat × Nat × Nat :=
  let shifted := days + 719468
  let era := shifted / 146097
  let dayOfEra := shifted % 146097
  let yearOfEra := (dayOfEra - dayOfEra / 1460 + dayOfEra / 36524 - dayOfEra / 146096) / 365
  let dayOfYear := dayOfEra - (365 * yearOfEra + yearOfEra / 4 - yearOfEra / 100)
  let shiftedMonth := (5 * dayOfYear + 2) / 153
  let day := dayOfYear - (153 * shiftedMonth + 2) / 5 + 1
  let month := if shiftedMonth < 10 then shiftedMonth + 3 else shiftedMonth - 9
  let year := yearOfEra + era * 400 + (if month ≤ 2 then 1 else 0)
  (year, month, day)

example : civil 11016 = (2000, 2, 29) := by decide

/-- Decimal text with leading zeros. -/
def decimal (width n : Nat) : String :=
  let digits := toString n
  String.ofList (List.replicate (width - digits.length) '0') ++ digits

/-- The stamp as date and time in UTC, with six decimals of a second. -/
def text (t : Stamp) : String :=
  let seconds := t.micros / 1000000
  let (year, month, day) := civil (seconds / 86400)
  let clock := seconds % 86400
  s!"{decimal 4 year}-{decimal 2 month}-{decimal 2 day}T" ++
    s!"{decimal 2 (clock / 3600)}:{decimal 2 (clock / 60 % 60)}:{decimal 2 (clock % 60)}" ++
    s!".{decimal 6 (t.micros % 1000000)}+00:00"

end Stamp

end Quartermaster
