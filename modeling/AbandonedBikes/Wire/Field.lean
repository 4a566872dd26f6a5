import AbandonedBikes.Json.Value
import AbandonedBikes.Number.Binary64
import AbandonedBikes.Number.Literal
import AbandonedBikes.Text.Hex
import AbandonedBikes.Time.Rfc3339
/-!
# Reading records from JSON

A record is written as an object, whose unknown members are ignored, or as the array of its fields
in order. An integer has to be written as one and has to fit its field; a double may be written as
any number. A word of an enumeration is a text, or an object whose only member is named by the word
and is null.
-/

namespace AbandonedBikes.Json

/-- An integer in a range. -/
def int? (range : Literal.IntegerRange) : Json → Option Int
  | .int n => if range.contains n then some n else none
  | _ => none

/-- A number of a report, a group or an entry of the log. -/
def id? : Json → Option Int := int? Literal.signed64

/-- A counter. -/
def word32? (value : Json) : Option UInt32 :=
  (int? Literal.unsigned32 value).map fun n => UInt32.ofNat n.toNat

/-- A count. -/
def count? (value : Json) : Option Nat := (int? Literal.unsigned64 value).map Int.toNat

def float? : Json → Option Float
  | .int n => some (Binary64.ofInt n)
  | .float x => some x
  | _ => none

/-- A double where numbers that JSON does not know are written as text: by name, or any double by its
bits in hexadecimal. -/
def double? : Json → Option Float
  | .text "NaN" => some (0.0 / 0.0)
  | .text "inf" => some (1.0 / 0.0)
  | .text "-inf" => some (-1.0 / 0.0)
  | .text s =>
    match s.toList with
    | '0' :: 'x' :: digits => (Text.hexWord? digits).map Float.ofBits
    | _ => none
  | value => value.float?

def bool? : Json → Option Bool
  | .bool b => some b
  | _ => none

def text? : Json → Option String
  | .text s => some s
  | _ => none

def instant? (value : Json) : Option Instant := value.text?.bind Instant.ofText?

def list? {α : Type} (read : Json → Option α) : Json → Option (List α)
  | .array items => items.mapM read
  | _ => none

/-- `null`, or a value. -/
def nullable? {α : Type} (read : Json → Option α) : Json → Option (Option α)
  | .null => some none
  | value => (read value).map some

/-- The word of an enumeration. -/
def word? : Json → Option String
  | .text word => some word
  | .object [(word, .null)] => some word
  | _ => none

/-- A member of an enumeration. -/
def named? {α : Type} (ofName? : String → Option α) (value : Json) : Option α :=
  value.word?.bind ofName?

/-- A double, `null` if it is not finite. -/
def ofFloat (x : Float) : Json := if Binary64.isFinite x then .float x else .null

def ofInstant (t : Instant) : Json := .text t.toText

def ofOption {α : Type} (write : α → Json) : Option α → Json
  | some value => write value
  | none => .null

end Json

/-- The fields of a record that were found. -/
abbrev Fields := List (String × Json)

namespace Fields

/-- The fields of a record with the given names in order. An array must not have more items. -/
def of? (names : List String) : Json → Option Fields
  | .object members => some members
  | .array items => if items.length ≤ names.length then some (names.zip items) else none
  | _ => none

/-- A field that must be there. -/
def required? {α : Type} (fields : Fields) (name : String) (read : Json → Option α) : Option α :=
  (fields.lookup name).bind read

/-- A field that may be missing or null. -/
def optional? {α : Type} (fields : Fields) (name : String) (read : Json → Option α) :
    Option (Option α) :=
  match fields.lookup name with
  | some value => Json.nullable? read value
  | none => some none

/-- A field that has a default if it is missing. -/
def withDefault? {α : Type} (fields : Fields) (name : String) (default : α)
    (read : Json → Option α) : Option α :=
  match fields.lookup name with
  | some value => read value
  | none => some default

end Fields

end AbandonedBikes
