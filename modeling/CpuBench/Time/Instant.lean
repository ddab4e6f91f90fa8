/-!
# Instants in UTC

An instant is a day, counted from 1970-01-01 in the proleptic Gregorian calendar, the second of
that day, and the nanoseconds of that second. A leap second is the last second of a minute with
its nanoseconds raised by `10^9`, so it is written as second `60`.

Days and civil dates correspond by the usual era arithmetic: 400 Gregorian years are 146097
days, and a year counted from March puts the leap day last. Dates run from year -262143 to
year 262142.

Three notations are written: RFC 3339 with the offset `+00:00`, the same with `Z`, and a
summary form `2025-01-01 00:00:00 UTC`. Years outside `0 … 9999` carry their sign and at least
four digits (`+10000`, `-0001`). A fraction of a second is written with 3, 6 or 9 digits, the
fewest that show it exactly, and not at all when it is zero.
-/

namespace CpuBench.Time

/-- A calendar date. -/
structure Date where
  year : Int
  month : Nat
  day : Nat
  deriving DecidableEq, Repr

/-- The first year a date may have. -/
def minYear : Int := -262143

/-- The last year a date may have. -/
def maxYear : Int := 262142

/-- Whether a year has 29 February. -/
def isLeapYear (y : Int) : Bool :=
  (y % 4 == 0 && y % 100 != 0) || y % 400 == 0

/-- The number of days of a month. -/
def daysInMonth (y : Int) (m : Nat) : Nat :=
  if m == 2 then (if isLeapYear y then 29 else 28)
  else if m == 4 || m == 6 || m == 9 || m == 11 then 30
  else 31

/-- Whether a date exists and lies in the supported years. -/
def Date.isValid (d : Date) : Bool :=
  minYear ≤ d.year && d.year ≤ maxYear && 1 ≤ d.month && d.month ≤ 12 && 1 ≤ d.day &&
    d.day ≤ daysInMonth d.year d.month

/-- The day number of a date, counted from 1970-01-01. -/
def Date.toDays (d : Date) : Int :=
  let y := if d.month ≤ 2 then d.year - 1 else d.year
  let era := y / 400
  let yoe := y - era * 400
  let mp : Int := (d.month + 9) % 12
  let doy := (153 * mp + 2) / 5 + d.day - 1
  let doe := yoe * 365 + yoe / 4 - yoe / 100 + doy
  era * 146097 + doe - 719468

/-- The date of a day number counted from 1970-01-01. -/
def Date.ofDays (z : Int) : Date :=
  let z := z + 719468
  let era := z / 146097
  let doe := z - era * 146097
  let yoe := (doe - doe / 1460 + doe / 36524 - doe / 146096) / 365
  let doy := doe - (365 * yoe + yoe / 4 - yoe / 100)
  let mp := (5 * doy + 2) / 153
  let d := doy - (153 * mp + 2) / 5 + 1
  let m := if mp < 10 then mp + 3 else mp - 9
  ⟨if m ≤ 2 then yoe + era * 400 + 1 else yoe + era * 400, m.toNat, d.toNat⟩

/-- A moment in UTC. -/
structure Instant where
  days : Int
  secs : Nat
  nanos : Nat
  deriving DecidableEq, Repr

namespace Instant

/-- The instant `ns` nanoseconds after 1970-01-01 00:00:00 UTC (before it when negative). -/
def ofUnixNanos (ns : Int) : Instant :=
  let perDay : Int := 86400 * 1000000000
  let days := ns.fdiv perDay
  let within := (ns.fmod perDay).toNat
  ⟨days, within / 1000000000, within % 1000000000⟩

/-- The instant at the start of 2025. -/
def newYear2025 : Instant :=
  ⟨(Date.mk 2025 1 1).toDays, 0, 0⟩

/-- The calendar date of the instant. -/
def date (t : Instant) : Date :=
  Date.ofDays t.days

/-- Hour, minute and second as written: a leap second is second 60. -/
def clock (t : Instant) : Nat × Nat × Nat :=
  (t.secs / 3600, t.secs / 60 % 60, t.secs % 60 + t.nanos / 1000000000)

/-- The nanoseconds as written after the point. -/
def subsecond (t : Instant) : Nat :=
  t.nanos % 1000000000

end Instant

/-- `n` in decimal with at least `width` digits. -/
def padded (width n : Nat) : String :=
  let s := Nat.repr n
  String.ofList (List.replicate (width - s.length) '0') ++ s

/-- A year: four digits inside `0 … 9999`, otherwise a sign and at least four digits. -/
def yearText (y : Int) : String :=
  if 0 ≤ y ∧ y ≤ 9999 then padded 4 y.toNat
  else (if y < 0 then "-" else "+") ++ padded 4 y.natAbs

/-- A date as `YYYY-MM-DD`. -/
def Date.text (d : Date) : String :=
  yearText d.year ++ "-" ++ padded 2 d.month ++ "-" ++ padded 2 d.day

namespace Instant

/-- The time of day as `HH:MM:SS`. -/
def clockText (t : Instant) : String :=
  let (h, m, s) := t.clock
  padded 2 h ++ ":" ++ padded 2 m ++ ":" ++ padded 2 s

/-- The fraction of a second with the fewest of 3, 6 or 9 digits that show it, or nothing. -/
def fractionText (t : Instant) : String :=
  let n := t.subsecond
  if n == 0 then ""
  else if n % 1000000 == 0 then "." ++ padded 3 (n / 1000000)
  else if n % 1000 == 0 then "." ++ padded 6 (n / 1000)
  else "." ++ padded 9 n

/-- RFC 3339 with the offset written `+00:00`. -/
def rfc3339 (t : Instant) : String :=
  t.date.text ++ "T" ++ t.clockText ++ t.fractionText ++ "+00:00"

/-- RFC 3339 with the offset written `Z`. -/
def rfc3339Z (t : Instant) : String :=
  t.date.text ++ "T" ++ t.clockText ++ t.fractionText ++ "Z"

/-- The summary form: date, time of day and `UTC`, without a fraction. -/
def summaryText (t : Instant) : String :=
  t.date.text ++ " " ++ t.clockText ++ " UTC"

end Instant

end CpuBench.Time
