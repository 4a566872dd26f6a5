import AbandonedBikes.Number.Binary64
/-!
# Numbers and switches written as text

Settings arrive as text. Integers are read digit by digit against the bounds of their field, so
that the first offence from the left is the one reported; radii follow the usual grammar of decimal
literals. Each reader says why it refuses.
-/

namespace AbandonedBikes.Literal

/-- Why a text is not the literal that was asked for. -/
inductive Malformed where
  | emptyInteger
  | invalidDigit
  | tooLarge
  | tooSmall
  | emptyFloat
  | invalidFloat
  | notBoolean
deriving DecidableEq, Repr

def Malformed.message : Malformed → String
  | .emptyInteger => "cannot parse integer from empty string"
  | .invalidDigit => "invalid digit found in string"
  | .tooLarge => "number too large to fit in target type"
  | .tooSmall => "number too small to fit in target type"
  | .emptyFloat => "cannot parse float from empty string"
  | .invalidFloat => "invalid float literal"
  | .notBoolean => "provided string was not \x60true\x60 or \x60false\x60"

/-- The range of integers that a field can hold. -/
structure IntegerRange where
  least : Int
  greatest : Int
deriving DecidableEq, Repr

def IntegerRange.contains (range : IntegerRange) (n : Int) : Bool :=
  decide (range.least ≤ n ∧ n ≤ range.greatest)

/-- Signed 64 bit integers. -/
def signed64 : IntegerRange := ⟨-9223372036854775808, 9223372036854775807⟩

/-- Signed 32 bit integers. -/
def signed32 : IntegerRange := ⟨-2147483648, 2147483647⟩

/-- Signed 16 bit integers. -/
def signed16 : IntegerRange := ⟨-32768, 32767⟩

/-- Unsigned 32 bit integers. -/
def unsigned32 : IntegerRange := ⟨0, 4294967295⟩

/-- Unsigned 64 bit integers. -/
def unsigned64 : IntegerRange := ⟨0, 18446744073709551615⟩

def digit? (c : Char) : Option Nat :=
  if '0' ≤ c ∧ c ≤ '9' then some (c.toNat - '0'.toNat) else none

/-- Extends a number by one digit, away from zero, and refuses to leave the range. -/
def pushDigit (range : IntegerRange) (negative : Bool) (value : Int) (c : Char) :
    Except Malformed Int :=
  match digit? c with
  | none => .error .invalidDigit
  | some d =>
    let next := if negative then value * 10 - d else value * 10 + d
    if next < range.least then .error .tooSmall
    else if range.greatest < next then .error .tooLarge
    else .ok next

def digits (range : IntegerRange) (negative : Bool) : List Char → Except Malformed Int
  | [] => .error .invalidDigit
  | cs => cs.foldlM (pushDigit range negative) 0

/-- Reads an integer of the given range. A plus sign is always allowed, a minus sign only where the
range has negative members; elsewhere it is an invalid digit. -/
def integer (range : IntegerRange) (text : String) : Except Malformed Int :=
  match text.toList with
  | [] => .error .emptyInteger
  | '+' :: rest => digits range false rest
  | '-' :: rest => if range.least < 0 then digits range true rest else .error .invalidDigit
  | cs => digits range false cs

/-- Reads a switch. -/
def boolean (text : String) : Except Malformed Bool :=
  if text = "true" then .ok true
  else if text = "false" then .ok false
  else .error .notBoolean

/-- The value of a list of characters already known to be digits. -/
def valueOf (cs : List Char) : Nat :=
  cs.foldl (fun value c => value * 10 + (c.toNat - '0'.toNat)) 0

/-- A sign, if there is one, and what follows it. -/
def splitSign : List Char → Bool × List Char
  | '+' :: rest => (false, rest)
  | '-' :: rest => (true, rest)
  | cs => (false, cs)

/-- The exponent part of a decimal literal, which may be missing altogether. -/
def exponentPart? : List Char → Option Int
  | [] => some 0
  | c :: rest =>
    if c = 'e' ∨ c = 'E' then
      let (negative, digits) := splitSign rest
      if digits.isEmpty ∨ ¬ digits.all Char.isDigit then none
      else some (if negative then -(valueOf digits : Int) else valueOf digits)
    else none

/-- Digits, a point and more digits, with at least one digit on either side, then the exponent. -/
def decimal? (negative : Bool) (cs : List Char) : Option Float :=
  let whole := cs.takeWhile Char.isDigit
  let afterWhole := cs.dropWhile Char.isDigit
  let (fraction, rest) :=
    match afterWhole with
    | '.' :: tail => (tail.takeWhile Char.isDigit, tail.dropWhile Char.isDigit)
    | tail => ([], tail)
  if whole.isEmpty ∧ fraction.isEmpty then none
  else
    (exponentPart? rest).map fun exponent =>
      Binary64.ofDecimal negative (valueOf (whole ++ fraction)) (exponent - fraction.length)

/-- Reads a floating number: the words for infinity and not-a-number in any case, or a decimal. -/
def float (text : String) : Except Malformed Float :=
  match text.toList with
  | [] => .error .emptyFloat
  | cs =>
    let (negative, body) := splitSign cs
    let word := body.map Char.toLower
    if word = "inf".toList ∨ word = "infinity".toList then
      .ok (Binary64.ofMagnitude negative Binary64.infinityMagnitude)
    else if word = "nan".toList then .ok (0.0 / 0.0)
    else
      match decimal? negative body with
      | some x => .ok x
      | none => .error .invalidFloat

end AbandonedBikes.Literal
