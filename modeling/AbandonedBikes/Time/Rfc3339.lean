import AbandonedBikes.Text.Blank
import AbandonedBikes.Time.Instant
/-!
# Instants as text

Instants are written in the form of RFC 3339, in universal time and with the fewest groups of three
fraction digits that lose nothing. A leap second is written as second 60.

Reading is more generous. Numbers may lack their leading zeros, white space may stand around every
part, and the date and the time may be separated by a space. The offset may be `Z` or `UTC` in
either case, or a sign, hours and minutes with colons and white space between them or not. Second 60
is read in every minute. A fraction has any number of digits, of which nine count.
-/

namespace AbandonedBikes.Instant

/-- Decimal digits, padded with zeros to `width`. -/
def padded (width n : Nat) : List Char :=
  let digits := Nat.toDigits 10 n
  List.replicate (width - digits.length) '0' ++ digits

/-- Years from 0 to 9999 have four digits. Others have a sign and at least four digits. -/
def yearText (year : Int) : List Char :=
  if 0 ≤ year ∧ year ≤ 9999 then padded 4 year.toNat
  else (if year < 0 then '-' else '+') :: padded 4 year.natAbs

/-- The fraction of a second in 0, 3, 6 or 9 digits. -/
def fractionText (nanos : Nat) : List Char :=
  if nanos = 0 then []
  else if nanos % 1000000 = 0 then '.' :: padded 3 (nanos / 1000000)
  else if nanos % 1000 = 0 then '.' :: padded 6 (nanos / 1000)
  else '.' :: padded 9 nanos

/-- The seconds of the minute with their fraction. A leap second is one more than the second it
follows. -/
def secondText (t : Instant) : List Char :=
  padded 2 (t.secondOfDay % 60 + t.nanos / secondNanos) ++ fractionText (t.nanos % secondNanos)

/-- The characters of the text of an instant. -/
def toChars (t : Instant) : List Char :=
  let date := Date.ofDays t.day
  yearText date.year ++ '-' :: padded 2 date.month ++ '-' :: padded 2 date.day ++
    'T' :: padded 2 (t.secondOfDay / 3600) ++ ':' :: padded 2 (t.secondOfDay / 60 % 60) ++
    ':' :: t.secondText ++ ['Z']

/-- The text of an instant. -/
def toText (t : Instant) : String := String.ofList t.toChars

/-- The text after the white space at its start. -/
def skipBlanks (cs : List Char) : List Char := cs.dropWhile Text.isBlank

/-- The number that decimal digits stand for. -/
def digitsValue (digits : List Char) : Nat :=
  digits.foldl (fun value c => value * 10 + (c.toNat - '0'.toNat)) 0

/-- Reads the digits at the start of a text as a number. There has to be one. -/
def natural? (cs : List Char) : Option (Nat × List Char) :=
  let digits := cs.takeWhile Char.isDigit
  if digits.isEmpty then none else some (digitsValue digits, cs.dropWhile Char.isDigit)

/-- Reads a number of one to `width` digits. -/
def number? (width : Nat) (cs : List Char) : Option (Nat × List Char) :=
  (natural? (cs.take width)).map fun (value, rest) => (value, rest ++ cs.drop width)

/-- Reads a year. It has at most four digits, or a sign and any number of digits. -/
def year? : List Char → Option (Int × List Char)
  | '-' :: cs => (natural? cs).map fun (value, rest) => (-value, rest)
  | '+' :: cs => (natural? cs).map fun (value, rest) => (value, rest)
  | cs => (number? 4 cs).map fun (value, rest) => (value, rest)

/-- Reads one of the given characters. -/
def oneOf? (allowed : List Char) : List Char → Option (List Char)
  | c :: cs => if allowed.contains c then some cs else none
  | [] => none

/-- Reads a mark and a number of one or two digits, with white space before each. -/
def part? (mark : Char) (cs : List Char) : Option (Nat × List Char) := do
  number? 2 (skipBlanks (← oneOf? [mark] (skipBlanks cs)))

/-- Reads a date that exists. -/
def date? (cs : List Char) : Option (Date × List Char) := do
  let (year, cs) ← year? (skipBlanks cs)
  let (month, cs) ← part? '-' cs
  let (day, cs) ← part? '-' cs
  let date : Date := ⟨year, month, day⟩
  guard (date.valid ∧ inCalendar date.toDays)
  some (date, cs)

/-- The value of a fraction in nanoseconds. Digits after the ninth are dropped. -/
def fractionNanos (digits : List Char) : Nat :=
  digitsValue (digits.take 9 ++ List.replicate (9 - digits.length) '0')

/-- Reads a fraction, if there is one, in nanoseconds. A point needs at least one digit. -/
def fraction? : List Char → Option (Nat × List Char)
  | '.' :: cs =>
    let digits := cs.takeWhile Char.isDigit
    if digits.isEmpty then none else some (fractionNanos digits, cs.dropWhile Char.isDigit)
  | cs => some (0, cs)

/-- Reads a time of day in seconds and nanoseconds, as an instant has them. -/
def timeOfDay? (cs : List Char) : Option ((Nat × Nat) × List Char) := do
  let (hours, cs) ← number? 2 (skipBlanks cs)
  let (minutes, cs) ← part? ':' cs
  let (seconds, cs) ← part? ':' cs
  let (nanos, cs) ← fraction? cs
  guard (hours < 24 ∧ minutes < 60 ∧ seconds ≤ 60)
  let minute := hours * 3600 + minutes * 60
  some (if seconds = 60 then (minute + 59, secondNanos + nanos) else (minute + seconds, nanos), cs)

/-- Reads exactly two decimal digits. -/
def twoDigits? : List Char → Option (Nat × List Char)
  | a :: b :: cs => if a.isDigit ∧ b.isDigit then some (digitsValue [a, b], cs) else none
  | _ => none

/-- The value of a sign, which may be a hyphen, a plus sign or a minus sign. -/
def sign? : Char → Option Int
  | '+' => some 1
  | '-' => some (-1)
  | '\u2212' => some (-1)
  | _ => none

/-- Reads an offset of hours and minutes, less than a day, in seconds. -/
def clockOffset? : List Char → Option (Int × List Char)
  | [] => none
  | c :: cs => do
    let sign ← sign? c
    let (hours, cs) ← twoDigits? cs
    let (minutes, cs) ← twoDigits? (cs.dropWhile fun c => c = ':' || Text.isBlank c)
    guard (hours < 24 ∧ minutes < 60)
    some (sign * (hours * 3600 + minutes * 60 : Nat), cs)

/-- Reads an offset from universal time in seconds. -/
def offset? (cs : List Char) : Option (Int × List Char) :=
  if (cs.take 3).map Char.toUpper = ['U', 'T', 'C'] then some (0, cs.drop 3)
  else match oneOf? ['Z', 'z'] cs with
    | some rest => some (0, rest)
    | none => clockOffset? cs

/-- Reads an instant. Dates that do not exist, times outside the day and instants outside the
calendar are refused. -/
def ofChars? (cs : List Char) : Option Instant := do
  let (date, cs) ← date? cs
  let ((second, nanos), cs) ← timeOfDay? (← oneOf? ['T', 't', ' '] cs)
  let (offset, cs) ← offset? (skipBlanks cs)
  guard (skipBlanks cs).isEmpty
  let t ← of? (date.toDays * daySeconds + second - offset) nanos
  guard (inCalendar t.day)
  some t

/-- Reads an instant from text. -/
def ofText? (text : String) : Option Instant := ofChars? text.toList

end AbandonedBikes.Instant
