/-!
# Enumerations with written names

The enumerations of this library are written as words, in rows of the database as well as in JSON.
A word that is in no vocabulary is reported together with the kind of thing it was meant to name.
-/

namespace AbandonedBikes

/-- The vocabularies that text is read against. -/
inductive Vocabulary where
  | status
  | strength
  | source
  | reporter
deriving DecidableEq, Repr

/-- How a vocabulary is called in messages. -/
def Vocabulary.title : Vocabulary → String
  | .status => "report status"
  | .strength => "signal strength"
  | .source => "report source"
  | .reporter => "reporter identity"

/-- A text that is not in the vocabulary it was read against. -/
structure UnknownWord where
  vocabulary : Vocabulary
  word : String
deriving DecidableEq, Repr

def UnknownWord.message (unknown : UnknownWord) : String :=
  "unknown " ++ unknown.vocabulary.title ++ ": " ++ unknown.word

/-- The member of a list that has the given name. -/
def findNamed? {α : Type} (name : α → String) (members : List α) (word : String) : Option α :=
  members.find? fun member => name member == word

/-- Reads a word against a vocabulary. -/
def readWord {α : Type} (vocabulary : Vocabulary) (name : α → String) (members : List α)
    (word : String) : Except UnknownWord α :=
  match findNamed? name members word with
  | some member => .ok member
  | none => .error ⟨vocabulary, word⟩

end AbandonedBikes
