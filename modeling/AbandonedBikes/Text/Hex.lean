/-!
# Hexadecimal text
-/

namespace AbandonedBikes.Text

/-- The hexadecimal digits of `n`, padded with zeros to `width`. -/
def hexDigits (width n : Nat) : List Char :=
  let digits := Nat.toDigits 16 n
  List.replicate (width - digits.length) '0' ++ digits

/-- Sixteen lower-case digits for a word of 64 bits. -/
def hexWord (word : UInt64) : String := String.ofList (hexDigits 16 word.toNat)

/-- Two lower-case digits for each byte. -/
def hexBytes (bytes : List UInt8) : String :=
  String.ofList (bytes.flatMap fun byte => hexDigits 2 byte.toNat)

/-- The value of a hexadecimal digit. -/
def hexValue? (c : Char) : Option Nat :=
  if '0' ≤ c ∧ c ≤ '9' then some (c.toNat - '0'.toNat)
  else if 'a' ≤ c ∧ c ≤ 'f' then some (c.toNat - 'a'.toNat + 10)
  else if 'A' ≤ c ∧ c ≤ 'F' then some (c.toNat - 'A'.toNat + 10)
  else none

/-- The word of 64 bits that sixteen digits stand for. -/
def hexWord? (digits : List Char) : Option UInt64 := do
  guard (digits.length = 16)
  let values ← digits.mapM hexValue?
  some (UInt64.ofNat (values.foldl (fun word value => word * 16 + value) 0))

end AbandonedBikes.Text
