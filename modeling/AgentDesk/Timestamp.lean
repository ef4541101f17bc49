import AgentDesk.Text.Blank
/-!
# Timestamps

A timestamp is a date and a time of day in universal time, to the nanosecond; the second 60 is a
leap second. It is written in the profile of ISO 8601 that data formats use, and read from a
slightly wider one: blanks may surround the fields, the separator of date and time may be a
blank, and the time may carry an offset, which is subtracted.

## Main definitions

* `Timestamp` — date and time.
* `Timestamp.write`, `Timestamp.writeSortable` and `Timestamp.parse?` — the written form.
* `Timestamp.ofNanos` — the time so many nanoseconds after the start of 1970.
-/

namespace AgentDesk

/-- A date and time of day in universal time. -/
structure Timestamp where
  year : Int
  month : Nat
  day : Nat
  hour : Nat
  minute : Nat
  second : Nat
  nanos : Nat
deriving Repr, BEq, DecidableEq, Inhabited

namespace Timestamp

/-- Whether a year has 366 days. -/
def isLeap (year : Int) : Bool := (year % 4 == 0 && year % 100 != 0) || year % 400 == 0

/-- The number of days of a month. -/
def daysIn (year : Int) (month : Nat) : Nat :=
  match month with
  | 2 => if isLeap year then 29 else 28
  | 4 | 6 | 9 | 11 => 30
  | _ => 31

/-- The first and the last year that can be expressed. -/
def yearRange : Int × Int := (-262143, 262142)

/-- Whether every field is in its range. -/
def isValid (t : Timestamp) : Bool :=
  yearRange.1 ≤ t.year && t.year ≤ yearRange.2 && 1 ≤ t.month && t.month ≤ 12 && 1 ≤ t.day &&
    t.day ≤ daysIn t.year t.month && t.hour < 24 && t.minute < 60 && t.second ≤ 60 &&
    t.nanos < 1000000000

/-- The number of a date, counted from the start of 1970. -/
def dayNumber (year : Int) (month day : Nat) : Int :=
  let y := if month ≤ 2 then year - 1 else year
  let era := y / 400
  let inEra := y - era * 400
  let shifted : Int := if month ≤ 2 then (month : Int) + 9 else (month : Int) - 3
  let inYear := (153 * shifted + 2) / 5 + day - 1
  era * 146097 + (inEra * 365 + inEra / 4 - inEra / 100 + inYear) - 719468

/-- The date with a given number. -/
def dateOf (number : Int) : Int × Nat × Nat :=
  let z := number + 719468
  let era := z / 146097
  let inEra := z - era * 146097
  let yearInEra := (inEra - inEra / 1460 + inEra / 36524 - inEra / 146096) / 365
  let inYear := inEra - (365 * yearInEra + yearInEra / 4 - yearInEra / 100)
  let shifted := (5 * inYear + 2) / 153
  let day := inYear - (153 * shifted + 2) / 5 + 1
  let month := if shifted < 10 then shifted + 3 else shifted - 9
  let year := yearInEra + era * 400 + (if month ≤ 2 then 1 else 0)
  (year, month.toNat, day.toNat)

/-- The timestamp `minutes` earlier. -/
def back (t : Timestamp) (minutes : Int) : Timestamp :=
  if minutes == 0 then t
  else
    let total := dayNumber t.year t.month t.day * 1440 + t.hour * 60 + t.minute - minutes
    let (year, month, day) := dateOf (total / 1440)
    let rest := (total % 1440).toNat
    { t with year, month, day, hour := rest / 60, minute := rest % 60 }

/-- The time so many nanoseconds after the start of 1970. -/
def ofNanos (n : Nat) : Timestamp :=
  let seconds := n / 1000000000
  let (year, month, day) := dateOf (seconds / 86400)
  let rest := seconds % 86400
  ⟨year, month, day, rest / 3600, rest % 3600 / 60, rest % 60, n % 1000000000⟩

/-- Whether one timestamp is before another. -/
def before (a b : Timestamp) : Bool :=
  let key (t : Timestamp) : List Int :=
    [t.year, t.month, t.day, t.hour, t.minute, t.second, t.nanos]
  (compare (key a) (key b)).isLT

/-! ## The written form -/

/-- A decimal number with at least `width` digits. -/
def padded (width n : Nat) : List Char :=
  let ds := (toString n).toList
  List.replicate (width - ds.length) '0' ++ ds

/-- A year: four digits, or a sign and at least four digits outside of 0 to 9999. -/
def writeYear (year : Int) : List Char :=
  if 0 ≤ year && year ≤ 9999 then padded 4 year.toNat
  else (if year < 0 then '-' else '+') :: padded 4 year.natAbs

/-- The fraction of a second: none, or three, six or nine digits. -/
def writeNanos (nanos : Nat) : List Char :=
  if nanos == 0 then []
  else if nanos % 1000000 == 0 then '.' :: padded 3 (nanos / 1000000)
  else if nanos % 1000 == 0 then '.' :: padded 6 (nanos / 1000)
  else '.' :: padded 9 nanos

/-- The written date and time of day, without an offset. -/
def writeFields (t : Timestamp) : List Char :=
  writeYear t.year ++ '-' :: padded 2 t.month ++ '-' :: padded 2 t.day ++
  'T' :: padded 2 t.hour ++ ':' :: padded 2 t.minute ++ ':' :: padded 2 t.second ++
  writeNanos t.nanos

/-- The written form, in universal time. -/
def write (t : Timestamp) : String := String.ofList (t.writeFields ++ ['Z'])

/-- The written form with an offset in digits. In years of four digits the texts are in the order of
the times, because the sign of the offset comes before a point and before every digit. -/
def writeSortable (t : Timestamp) : String := String.ofList (t.writeFields ++ "+00:00".toList)

/-- The number written by at most `max` digits in front, and at least one. -/
def number? (max : Nat) (s : List Char) : Option (Nat × List Char) :=
  let ds := (s.takeWhile Char.isDigit).take max
  if ds.isEmpty then none
  else some (ds.foldl (fun n c => n * 10 + (c.toNat - 48)) 0, s.drop ds.length)

/-- A field of two digits, with blanks in front. -/
def field? (s : List Char) : Option (Nat × List Char) := number? 2 (Text.dropBlank s)

/-- A separator, with blanks in front. -/
def sep? (c : Char) (s : List Char) : Option (List Char) :=
  match Text.dropBlank s with
  | d :: r => if c == d then some r else none
  | [] => none

/-- A year of up to four digits, or of any number of digits behind a sign. -/
def year? (s : List Char) : Option (Int × List Char) :=
  match Text.dropBlank s with
  | '-' :: r => (number? r.length r).map fun (n, r) => (-(n : Int), r)
  | '+' :: r => (number? r.length r).map fun (n, r) => ((n : Int), r)
  | r => (number? 4 r).map fun (n, r) => ((n : Int), r)

/-- The fraction of a second; digits behind the ninth are dropped. -/
def nanos? (s : List Char) : Option (Nat × List Char) :=
  match s with
  | '.' :: r => do
    let (n, _) ← number? 9 r
    let ds := r.takeWhile Char.isDigit
    pure (n * Nat.pow 10 (9 - Nat.min 9 ds.length), r.drop ds.length)
  | r => some (0, r)

/-- The characters between the hours and the minutes of an offset. -/
def isOffsetGap (c : Char) : Bool := c == ':' || Text.isBlank c

/-- Two digits without blanks in front. -/
def twoDigits? : List Char → Option (Nat × List Char)
  | a :: b :: r =>
    if a.isDigit && b.isDigit then some ((a.toNat - 48) * 10 + (b.toNat - 48), r) else none
  | _ => none

/-- Hours and minutes of an offset. -/
def offsetBody? (sign : Int) (s : List Char) : Option (Int × List Char) := do
  let (h, s) ← twoDigits? s
  let (m, s) ← twoDigits? (s.dropWhile isOffsetGap)
  if m < 60 && h < 24 then pure (sign * (h * 60 + m : Nat), s) else none

/-- An offset in minutes: `Z`, `UTC`, or a sign with hours and minutes. -/
def offset? (s : List Char) : Option (Int × List Char) :=
  match Text.dropBlank s with
  | 'Z' :: r | 'z' :: r => some (0, r)
  | '+' :: r => offsetBody? 1 r
  | '-' :: r => offsetBody? (-1) r
  | a :: b :: c :: r =>
    if (a == 'U' || a == 'u') && (b == 'T' || b == 't') && (c == 'C' || c == 'c') then some (0, r)
    else if a == Char.ofNat 0x2212 then offsetBody? (-1) (b :: c :: r)
    else none
  | _ => none

/-- The separator of date and time. -/
def timeMark? : List Char → Option (List Char)
  | 'T' :: r | 't' :: r | ' ' :: r => some r
  | _ => none

/-- Reads a timestamp. -/
def parse? (text : String) : Option Timestamp := do
  let (year, s) ← year? text.toList
  let (month, s) ← (sep? '-' s).bind field?
  let (day, s) ← (sep? '-' s).bind field?
  let (hour, s) ← (timeMark? s).bind field?
  let (minute, s) ← (sep? ':' s).bind field?
  let (second, s) ← (sep? ':' s).bind field?
  let (nanos, s) ← nanos? s
  let (offset, s) ← offset? s
  let stated : Timestamp := ⟨year, month, day, hour, minute, second, nanos⟩
  let t := stated.back offset
  if (Text.dropBlank s).isEmpty && stated.isValid && t.isValid then some t else none

end Timestamp

end AgentDesk
