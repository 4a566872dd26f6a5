/-!
# Text for a terminal

A text may hold control characters and escape sequences that a terminal obeys instead of showing
them. A message that repeats such a text leaves them out: only printable characters, tabs and line
breaks stay.

A sequence starts with an escape character and goes on until a character ends it. A tab or a line
break in the middle of one suspends it: text is shown again until the next control character, and
what follows that one is read as the rest of the sequence. In a string for a device line breaks
belong to the sequence.

A sequence is read byte by byte. The byte 9C, which ends a string in encodings of one byte, ends one
here too where it is a part of a longer character; the whole character is then left out.
-/

namespace AbandonedBikes.Terminal

/-- What has been read of an escape sequence. -/
inductive Sequence where
  /-- The escape character. -/
  | start
  /-- The escape character and blanks or punctuation. -/
  | intermediate
  /-- The opening of a control sequence, and perhaps some of its parameters. -/
  | control
  /-- A part of a command to the system, which a bell ends. -/
  | command
  /-- The opening of a control string for a device. -/
  | deviceStart
  /-- The opening of a device control string and some of its parameters. -/
  | deviceParameters
  /-- The opening of a device control string and blanks or punctuation. -/
  | deviceIntermediate
  /-- A part of the text of a string, which is not for a reader. -/
  | string
deriving DecidableEq, Repr

namespace Sequence

/-- Whether any character may stand inside, so that line breaks belong to the sequence too. -/
def takesAll : Sequence → Bool
  | command | deviceStart | deviceParameters | deviceIntermediate | string => true
  | start | intermediate | control => false

/-- What a printable ASCII character makes of the sequence. The last one ends it. -/
def after (c : Char) : Sequence → Option Sequence
  | start =>
    if c ≤ '/' then some intermediate
    else if c = '[' then some control
    else if c = ']' then some command
    else if c = 'P' then some deviceStart
    else if c ∈ ['X', '^', '_'] then some string
    else none
  | intermediate => if c ≤ '/' then some intermediate else none
  | control => if c < '@' then some control else none
  | command => some command
  | deviceStart =>
    if c ≤ '/' then some deviceIntermediate
    else if c < '@' then some deviceParameters
    else some string
  | deviceParameters =>
    if c ≤ '/' then some deviceIntermediate
    else if c ≤ ';' then some deviceParameters
    else some string
  | deviceIntermediate => if c ≤ '/' then some deviceIntermediate else some string
  | string => some string

/-- Whether a control character or a longer one ends the sequence without a trace. -/
def endsAt (c : Char) : Sequence → Bool
  | command => c == '\x07'
  | string => (String.utf8EncodeChar c).contains 0x9c
  | _ => false

end Sequence

/-- Where in a text a character is met. -/
inductive Position where
  | outside
  | inside (sequence : Sequence)
  | suspended (sequence : Sequence)
deriving DecidableEq, Repr

/-- Whether a character is an ASCII control character. -/
def isControl (c : Char) : Bool := decide (c < ' ') || c == '\x7f'

/-- Whether a control character only moves on in the text. -/
def isBreak (c : Char) : Bool := c == '\t' || c == '\n' || c == '\x0c' || c == '\r'

namespace Position

/-- The position after a character, and whether the character is shown. -/
def step (position : Position) (c : Char) : Position × Bool :=
  if c = '\x1b' then (.inside .start, false)
  else if c = '\x18' ∨ c = '\x1a' then (.outside, false)
  else match position with
    | .outside => (.outside, !isControl c || isBreak c)
    | .inside sequence =>
      if sequence.endsAt c then (.outside, false)
      else if isBreak c && !sequence.takesAll then (.suspended sequence, true)
      else if isControl c || '\x7f' < c then (.inside sequence, false)
      else ((sequence.after c).elim .outside .inside, false)
    | .suspended sequence =>
      if '\x7f' < c then (.outside, true)
      else if isControl c && !isBreak c then (.inside sequence, false)
      else (.suspended sequence, true)

/-- The characters that are shown from a position on. -/
def visible (position : Position) : List Char → List Char
  | [] => []
  | c :: cs =>
    let (next, shown) := position.step c
    if shown then c :: next.visible cs else next.visible cs

end Position

/-- The text without its control characters and escape sequences. -/
def visible (text : String) : String := String.ofList (Position.outside.visible text.toList)

end AbandonedBikes.Terminal
