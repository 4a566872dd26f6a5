import AbandonedBikes.Json.Value
import AbandonedBikes.Number.Positional
import AbandonedBikes.Text.Hex
/-!
# Writing JSON text

Values are written on one line without blanks. A double keeps a point, so that it reads back as a
double, and one that is not finite is written as `null`.
-/

namespace AbandonedBikes.Json

/-- How one character is written inside a text. -/
def escapeChar (c : Char) : String :=
  if c = '"' then "\\\""
  else if c = '\\' then "\\\\"
  else if c = '\n' then "\\n"
  else if c = '\r' then "\\r"
  else if c = '\t' then "\\t"
  else if c.toNat < 0x20 then "\\u" ++ String.ofList (Text.hexDigits 4 c.toNat)
  else c.toString

def writeText (text : String) : String :=
  "\"" ++ text.foldl (fun written c => written ++ escapeChar c) "" ++ "\""

def writeFloat (x : Float) : String :=
  if Binary64.isFinite x then
    let body := Positional.text x
    if body.contains '.' then body else body ++ ".0"
  else "null"

mutual

/-- The text of a value. -/
def write : Json → String
  | .null => "null"
  | .bool b => if b then "true" else "false"
  | .int n => toString n
  | .float x => writeFloat x
  | .text s => writeText s
  | .array items => "[" ++ writeItems items ++ "]"
  | .object members => "\x7b" ++ writeMembers members ++ "\x7d"

/-- Items with commas between them. -/
def writeItems : List Json → String
  | [] => ""
  | [item] => write item
  | item :: rest => write item ++ "," ++ writeItems rest

/-- Members with commas between them. -/
def writeMembers : List (String × Json) → String
  | [] => ""
  | [(name, value)] => writeText name ++ ":" ++ write value
  | (name, value) :: rest => writeText name ++ ":" ++ write value ++ "," ++ writeMembers rest

end

end AbandonedBikes.Json
