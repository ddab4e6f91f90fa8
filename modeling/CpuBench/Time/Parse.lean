import CpuBench.Time.Instant
import CpuBench.Text.Blank

/-!
# Reading instants

Two readers of date-and-time text, both answering an instant in UTC or the reason the text
was refused.

* `Instant.ofRfc3339` reads RFC 3339 exactly: `YYYY-MM-DD`, `T`, `t` or a space,
  `HH:MM:SS`, an optional fraction, and `Z`, `z` or an offset `±HH:MM` of less than a day.
  Text shorter than a date and a time ends too soon. The date is checked once its three fields
  are read, the time once its three fields are read, and the offset's range only after the
  text is known to end with it.
* `Instant.ofText` is lenient: blanks may stand around the separators, the year may carry a
  sign and more digits, the offset may be `UTC` in any case or use blanks in place of its colon,
  and blanks may end the text.

Both accept second 60 as a leap second, take at most nine digits of a fraction and skip the
rest, and move a local time to UTC by subtracting its offset.
-/

namespace CpuBench.Time

/-- Why a text is not an instant. -/
inductive ParseError where
  | outOfRange
  | impossible
  | notEnough
  | invalid
  | tooShort
  | tooLong
  deriving DecidableEq, Repr

/-- The text of a reading error. -/
def ParseError.message : ParseError → String
  | .outOfRange => "input is out of range"
  | .impossible => "no possible date and time matching input"
  | .notEnough => "input is not enough for unique date and time"
  | .invalid => "input contains invalid characters"
  | .tooShort => "premature end of input"
  | .tooLong => "trailing input"

/-- A reader of characters. -/
abbrev Scan := StateT (List Char) (Except ParseError)

namespace Scan

/-- Fails with `e`. -/
def fail (e : ParseError) : Scan α :=
  throw e

/-- Skips leading blanks. -/
def blanks : Scan Unit :=
  modify Text.dropBlanks

/-- Reads a number of `min` to `max` digits; fewer bytes than `min` end too soon, a non-digit
among the first `min` is invalid. -/
def number (min max : Nat) : Scan Nat := do
  let s ← get
  if Text.byteLength s < min then fail .tooShort
  let digits := (s.take max).takeWhile Char.isDigit
  if digits.length < min then fail .invalid
  set (s.drop digits.length)
  let n := digits.foldl (fun n c => n * 10 + (c.toNat - 48)) 0
  if n ≥ Nat.pow 2 63 then fail .outOfRange
  pure n

/-- Reads the character `c`. -/
def char (c : Char) : Scan Unit := do
  match ← get with
  | d :: rest => if d == c then set rest else fail .invalid
  | [] => fail .tooShort

/-- A value that must lie in `lo … hi`. -/
def within (lo hi : Nat) (n : Nat) : Scan Nat :=
  if lo ≤ n ∧ n ≤ hi then pure n else fail .outOfRange

/-- Reads a fraction of a second after its point: up to nine digits, scaled to nanoseconds,
and any further digits skipped. -/
def fraction : Scan Nat := do
  let before ← get
  let n ← number 1 9
  let used := before.length - (← get).length
  modify (·.dropWhile Char.isDigit)
  pure (n * Nat.pow 10 (9 - used))

/-- Reads an offset in seconds east of UTC: `Z` or `z`, or a sign (`+`, `-` or the minus
sign), two digits of hours, a separator read by `colon`, two digits of minutes below 60. -/
def offset (colon : Scan Unit) : Scan Int := do
  match ← get with
  | 'Z' :: rest | 'z' :: rest => do set rest; pure 0
  | c :: rest =>
    let negative ← if c == '+' then pure false
      else if c == '-' || c == '−' then pure true
      else fail .invalid
    set rest
    let hours ← twoDigits (fun a b => if a.isDigit && b.isDigit then pure () else fail .invalid)
    colon
    let minutes ← twoDigits fun a b =>
      if ('0' ≤ a && a ≤ '5') && b.isDigit then pure ()
      else if ('6' ≤ a && a ≤ '9') && b.isDigit then fail .outOfRange
      else fail .invalid
    let total : Int := hours * 3600 + minutes * 60
    pure (if negative then -total else total)
  | [] => fail .tooShort
where
  twoDigits (check : Char → Char → Scan Unit) : Scan Nat := do
    let s ← get
    if Text.byteLength s < 2 then fail .tooShort
    match s with
    | a :: b :: rest => do
      check a b
      set rest
      pure ((a.toNat - 48) * 10 + (b.toNat - 48))
    | _ => fail .invalid

end Scan

/-- The fields of a date and time as read, before they are checked together. -/
structure Fields where
  year : Int
  month : Nat
  day : Nat
  hour : Nat
  minute : Nat
  second : Nat
  nanos : Nat
  offset : Int

/-- The instant the fields name: the date must exist, the offset must be under a day, and the
time in UTC must stay within the supported dates. -/
def Fields.toInstant (f : Fields) : Except ParseError Instant := do
  let date : Date := ⟨f.year, f.month, f.day⟩
  if !date.isValid then throw .outOfRange
  if f.offset.natAbs ≥ 86400 then throw .outOfRange
  let (second, leap) := if f.second == 60 then (59, 1000000000) else (f.second, 0)
  let utc : Int := f.hour * 3600 + f.minute * 60 + second - f.offset
  let days := date.toDays + utc / 86400
  let t : Instant := ⟨days, (utc % 86400).toNat, leap + f.nanos⟩
  if !t.date.isValid then throw .impossible
  pure t

namespace Instant

open Scan in
/-- Reads RFC 3339 text exactly. -/
def ofRfc3339 (text : String) : Except ParseError Instant := do
  let s := text.toList
  if Text.byteLength s < 19 then throw .tooShort
  let read : Scan Fields := do
    let year ← number 4 4
    char '-'
    let month ← number 2 2
    char '-'
    let day ← number 2 2
    if !(Date.isValid ⟨year, month, day⟩) then fail .outOfRange
    match ← get with
    | c :: rest => if c == 'T' || c == 't' || c == ' ' then set rest else fail .invalid
    | [] => fail .tooShort
    let hour ← number 2 2
    char ':'
    let minute ← number 2 2
    char ':'
    let second ← number 2 2
    if hour > 23 || minute > 59 || second > 60 then fail .outOfRange
    let nanos ← match ← get with
      | '.' :: rest => do set rest; within 0 999999999 (← fraction)
      | _ => pure 0
    let off ← offset (char ':')
    pure ⟨year, month, day, hour, minute, second, nanos, off⟩
  let (fields, rest) ← read.run s
  if !rest.isEmpty then throw .tooLong
  if fields.offset.natAbs > (23 * 60 + 59) * 60 then throw .outOfRange
  fields.toInstant

open Scan in
/-- Reads date-and-time text leniently. -/
def ofText (text : String) : Except ParseError Instant := do
  let read : Scan Fields := do
    blanks
    let year : Int ← match ← get with
      | '-' :: rest => do set rest; pure (-((← number 1 (Nat.pow 2 64)) : Int))
      | '+' :: rest => do set rest; pure ((← number 1 (Nat.pow 2 64)) : Int)
      | _ => do pure ((← number 1 4) : Int)
    if year < -(Nat.pow 2 31 : Int) || year ≥ (Nat.pow 2 31 : Int) then fail .outOfRange
    blanks
    char '-'
    blanks
    let month ← within 1 12 (← number 1 2)
    blanks
    char '-'
    blanks
    let day ← within 1 31 (← number 1 2)
    match ← get with
    | c :: rest => if c == 'T' || c == 't' || c == ' ' then set rest else fail .invalid
    | [] => fail .tooShort
    blanks
    let hour ← within 0 23 (← number 1 2)
    blanks
    char ':'
    blanks
    let minute ← within 0 59 (← number 1 2)
    blanks
    char ':'
    blanks
    let second ← within 0 60 (← number 1 2)
    let nanos ← match ← get with
      | '.' :: rest => do set rest; within 0 999999999 (← fraction)
      | _ => pure 0
    blanks
    let s ← get
    let off ← match s with
      | u :: t :: c :: rest =>
        if u.toLower == 'u' && t.toLower == 't' && c.toLower == 'c' then do set rest; pure 0
        else offset (modify (·.dropWhile fun c => c == ':' || Text.isBlank c))
      | _ => offset (modify (·.dropWhile fun c => c == ':' || Text.isBlank c))
    pure ⟨year, month, day, hour, minute, second, nanos, off⟩
  let (fields, rest) ← read.run text.toList
  if !(Text.dropBlanks rest).isEmpty then throw .tooLong
  fields.toInstant

end Instant

end CpuBench.Time
