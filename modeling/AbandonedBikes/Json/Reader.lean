import AbandonedBikes.Json.Value
import AbandonedBikes.Number.Binary64
import AbandonedBikes.Text.Hex
/-!
# Reading JSON text

The reader follows the grammar of JSON. Values nest, so it is given one unit of fuel for every
character of the text, and each step that calls itself has consumed a character. Arrays and objects
nest in each other up to a limit.
-/

namespace AbandonedBikes.Json

def isSpace (c : Char) : Bool := c == ' ' || c == '\t' || c == '\n' || c == '\r'

def skipSpace (cs : List Char) : List Char := cs.dropWhile isSpace

/-- The code unit of four hexadecimal digits. -/
def codeUnit? : List Char → Option (Nat × List Char)
  | a :: b :: c :: d :: rest => do
    let a ← Text.hexValue? a
    let b ← Text.hexValue? b
    let c ← Text.hexValue? c
    let d ← Text.hexValue? d
    some (((a * 16 + b) * 16 + c) * 16 + d, rest)
  | _ => none

/-- The character of a `u` escape. A high surrogate needs a low one after it. -/
def unicodeEscape? (cs : List Char) : Option (Char × List Char) := do
  let (unit, rest) ← codeUnit? cs
  if 0xd800 ≤ unit ∧ unit < 0xdc00 then
    match rest with
    | '\\' :: 'u' :: rest =>
      let (low, rest) ← codeUnit? rest
      if 0xdc00 ≤ low ∧ low < 0xe000 then
        some (Char.ofNat (0x10000 + (unit - 0xd800) * 0x400 + (low - 0xdc00)), rest)
      else none
    | _ => none
  else if 0xdc00 ≤ unit ∧ unit < 0xe000 then none
  else some (Char.ofNat unit, rest)

/-- The character of a short escape. -/
def shortEscape? : Char → Option Char
  | '"' => some '"'
  | '\\' => some '\\'
  | '/' => some '/'
  | 'b' => some '\x08'
  | 'f' => some '\x0c'
  | 'n' => some '\n'
  | 'r' => some '\r'
  | 't' => some '\t'
  | _ => none

/-- Reads a text up to its closing quotation mark; what has been read is kept in reverse. -/
def readText : Nat → List Char → List Char → Option (String × List Char)
  | 0, _, _ => none
  | _ + 1, _, [] => none
  | fuel + 1, reversed, c :: rest =>
    if c = '"' then some (String.ofList reversed.reverse, rest)
    else if c = '\\' then
      match rest with
      | 'u' :: rest =>
        match unicodeEscape? rest with
        | some (c, rest) => readText fuel (c :: reversed) rest
        | none => none
      | e :: rest =>
        match shortEscape? e with
        | some c => readText fuel (c :: reversed) rest
        | none => none
      | [] => none
    else if c.toNat < 0x20 then none
    else readText fuel (c :: reversed) rest

/-- The number written by decimal digits. -/
def digitsValue (cs : List Char) : Nat :=
  cs.foldl (fun value c => value * 10 + (c.toNat - '0'.toNat)) 0

/-- The digits after a point, none if there is no point. -/
def readFraction? : List Char → Option (List Char × List Char)
  | '.' :: rest =>
    let digits := rest.takeWhile Char.isDigit
    if digits.isEmpty then none else some (digits, rest.dropWhile Char.isDigit)
  | rest => some ([], rest)

/-- The exponent of a number, if one is written. -/
def readExponent? : List Char → Option (Option Int × List Char)
  | c :: rest =>
    if c = 'e' ∨ c = 'E' then
      let (negative, rest) :=
        match rest with
        | '+' :: rest => (false, rest)
        | '-' :: rest => (true, rest)
        | rest => (false, rest)
      let digits := rest.takeWhile Char.isDigit
      let value : Int := digitsValue digits
      if digits.isEmpty then none
      else some (some (if negative then -value else value), rest.dropWhile Char.isDigit)
    else some (none, c :: rest)
  | [] => some (none, [])

/-- An integer that fits in 64 bits, signed or not, is kept as an integer. Negative zero is not
one. -/
def ofInteger (negative : Bool) (digits : Nat) : Json :=
  if negative then
    if digits = 0 ∨ Nat.pow 2 63 < digits then .float (Binary64.ofDecimal true digits 0)
    else .int (-(digits : Int))
  else if digits < Nat.pow 2 64 then .int digits
  else .float (Binary64.ofDecimal false digits 0)

/-- Reads a number whose sign has been taken off. Doubles must be finite. -/
def readNumber? (negative : Bool) (cs : List Char) : Option (Json × List Char) := do
  let whole := cs.takeWhile Char.isDigit
  let rest := cs.dropWhile Char.isDigit
  guard (whole ≠ [] ∧ (whole.length = 1 ∨ whole.head? ≠ some '0'))
  let (fraction, rest) ← readFraction? rest
  let (exponent, rest) ← readExponent? rest
  let value : Json :=
    if fraction.isEmpty ∧ exponent.isNone then ofInteger negative (digitsValue whole)
    else .float (Binary64.ofDecimal negative (digitsValue (whole ++ fraction))
      (exponent.getD 0 - fraction.length))
  match value with
  | .float x => if Binary64.isFinite x then some (value, rest) else none
  | _ => some (value, rest)

/-- Reads one of the three words of JSON. -/
def readWord? : List Char → Option (Json × List Char)
  | 't' :: 'r' :: 'u' :: 'e' :: rest => some (.bool true, rest)
  | 'f' :: 'a' :: 'l' :: 's' :: 'e' :: rest => some (.bool false, rest)
  | 'n' :: 'u' :: 'l' :: 'l' :: rest => some (.null, rest)
  | _ => none

/-- The arrays and objects that may stand inside each other. -/
def nestingLimit : Nat := 127

mutual

/-- Reads a value and the blanks before it. The value may have as many levels as are given. -/
def readValue : Nat → Nat → List Char → Option (Json × List Char)
  | 0, _, _ => none
  | fuel + 1, levels, cs =>
    match skipSpace cs, levels with
    | '"' :: rest, _ => (readText fuel [] rest).map fun (written, rest) => (.text written, rest)
    | '[' :: rest, levels + 1 =>
      match skipSpace rest with
      | ']' :: rest => some (.array [], rest)
      | rest => readItems fuel levels [] rest
    | '\x7b' :: rest, levels + 1 =>
      match skipSpace rest with
      | '\x7d' :: rest => some (.object [], rest)
      | rest => readMembers fuel levels [] rest
    | '-' :: rest, _ => readNumber? true rest
    | c :: rest, _ => if c.isDigit then readNumber? false (c :: rest) else readWord? (c :: rest)
    | [], _ => none

/-- Reads the items of an array up to its closing bracket. -/
def readItems : Nat → Nat → List Json → List Char → Option (Json × List Char)
  | 0, _, _, _ => none
  | fuel + 1, levels, reversed, cs =>
    match readValue fuel levels cs with
    | none => none
    | some (item, rest) =>
      match skipSpace rest with
      | ',' :: rest => readItems fuel levels (item :: reversed) rest
      | ']' :: rest => some (.array (item :: reversed).reverse, rest)
      | _ => none

/-- Reads the members of an object up to its closing brace. -/
def readMembers : Nat → Nat → List (String × Json) → List Char → Option (Json × List Char)
  | 0, _, _, _ => none
  | fuel + 1, levels, members, cs =>
    match skipSpace cs with
    | '"' :: rest =>
      match readText fuel [] rest with
      | none => none
      | some (name, rest) =>
        match skipSpace rest with
        | ':' :: rest =>
          match readValue fuel levels rest with
          | none => none
          | some (value, rest) =>
            match skipSpace rest with
            | ',' :: rest => readMembers fuel levels (setMember name value members) rest
            | '\x7d' :: rest => some (.object (setMember name value members), rest)
            | _ => none
        | _ => none
    | _ => none

end

/-- The value that a text holds, with nothing but blanks around it. -/
def ofText? (text : String) : Option Json :=
  let cs := text.toList
  match readValue (cs.length + 2) nestingLimit cs with
  | some (value, rest) => if (skipSpace rest).isEmpty then some value else none
  | none => none

end AbandonedBikes.Json
