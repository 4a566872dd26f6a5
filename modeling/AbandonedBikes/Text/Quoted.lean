import AbandonedBikes.Text.Printable
/-!
# Quoted text

A message that repeats a setting shows it between quotation marks, so that blanks at its ends and
characters that cannot be seen do not get lost. Quotation marks and backslashes are escaped, the
common controls have names, and every other character that is not printable is shown by its number.
-/

namespace AbandonedBikes.Text

/-- How one character is shown between quotation marks. -/
def escape (c : Char) : List Char :=
  match c with
  | '"' => ['\\', '"']
  | '\\' => ['\\', '\\']
  | '\t' => ['\\', 't']
  | '\n' => ['\\', 'n']
  | '\r' => ['\\', 'r']
  | '\x00' => ['\\', '0']
  | c => if isPrintable c then [c] else ['\\', 'u', '\x7b'] ++ Nat.toDigits 16 c.toNat ++ ['\x7d']

/-- The text between quotation marks. -/
def quoted (text : String) : String :=
  String.ofList ('"' :: text.toList.flatMap escape ++ ['"'])

end AbandonedBikes.Text
