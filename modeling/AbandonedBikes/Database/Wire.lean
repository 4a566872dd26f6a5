import AbandonedBikes.Database.Dialogue
/-!
# Statements and replies as JSON

A statement is written as its text and its parameters. A public identifier is left to the receiver
to draw. A reply is an object with the rows, the number of changed rows, or the text of an error.
-/

namespace AbandonedBikes

/-- What stands for a public identifier that the receiver draws. -/
def Parameter.publicIdMark : String := "<public_id>"

def Parameter.toJson : Parameter → Json
  | .null => .null
  | .int n => .int n
  | .float x => .float x
  | .text s => .text s
  | .time t => Json.ofInstant t
  | .ints ns => .array (ns.map Json.int)
  | .texts ss => .array (ss.map Json.text)
  | .json value => value
  | .freshPublicId => .text publicIdMark

def Statement.toJson (statement : Statement) : Json :=
  .array [.text statement.text, .array (statement.parameters.map Parameter.toJson)]

/-- Reads a row: an object with a member for each column. -/
def Row.ofJson? : Json → Option Row
  | .object cells => some cells
  | _ => none

/-- Reads a reply. -/
def Reply.ofJson? (value : Json) : Option Reply :=
  match value.member? "error", value.member? "rows" with
  | some text, _ => text.text?.map .error
  | none, some found => (Json.list? Row.ofJson? found).map .rows
  | none, none => (value.member? "affected").bind fun count => count.count?.map .affected

end AbandonedBikes
