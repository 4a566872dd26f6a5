/-!
# JSON values

A JSON number is an integer if it is written as one and fits in 64 bits, and a double otherwise, so
that `1` and `1.0` are different values. The members of an object keep their order, and a name
occurs once.
-/

namespace AbandonedBikes

/-- A JSON value. -/
inductive Json where
  | null
  | bool (value : Bool)
  | int (value : Int)
  | float (value : Float)
  | text (value : String)
  | array (items : List Json)
  | object (members : List (String × Json))
deriving Inhabited

namespace Json

/-- The member of the given name, for an object that has one. -/
def member? (value : Json) (name : String) : Option Json :=
  match value with
  | .object members => members.lookup name
  | _ => none

/-- The member of the given name, and `null` if there is none. -/
def member (value : Json) (name : String) : Json := (value.member? name).getD .null

def isNull : Json → Bool
  | .null => true
  | _ => false

/-- Sets a member. A name that is already there keeps its place. -/
def setMember (name : String) (value : Json) : List (String × Json) → List (String × Json)
  | [] => [(name, value)]
  | (n, v) :: rest => if n = name then (n, value) :: rest else (n, v) :: setMember name value rest

mutual

/-- The value with every double below it replaced. -/
def mapFloats (f : Float → Json) : Json → Json
  | .float x => f x
  | .array items => .array (mapFloatsItems f items)
  | .object members => .object (mapFloatsMembers f members)
  | .null => .null
  | .bool b => .bool b
  | .int n => .int n
  | .text s => .text s

def mapFloatsItems (f : Float → Json) : List Json → List Json
  | [] => []
  | item :: rest => mapFloats f item :: mapFloatsItems f rest

def mapFloatsMembers (f : Float → Json) : List (String × Json) → List (String × Json)
  | [] => []
  | (name, value) :: rest => (name, mapFloats f value) :: mapFloatsMembers f rest

end

end Json

end AbandonedBikes
