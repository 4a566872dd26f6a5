import AbandonedBikes.Text.Hex
/-!
# Public identifiers

The public identifier of a report is a random word of 32 bits in hexadecimal.
-/

namespace AbandonedBikes.PublicId

/-- Eight upper-case hexadecimal digits. -/
def text (word : UInt32) : String :=
  String.ofList ((Text.hexDigits 8 word.toNat).map Char.toUpper)

end AbandonedBikes.PublicId
