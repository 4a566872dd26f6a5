import AbandonedBikes.Wire.Field
import AbandonedBikes.Text.Quoted
/-!
# Replies of the database

The database answers a statement with rows, with the number of rows that it changed, or with an
error. The cells of a row are found by the names of their columns. A cell that is missing, or that
does not hold what is read from it, counts as null.
-/

namespace AbandonedBikes

/-- One row, as cells with the names of their columns. -/
abbrev Row := List (String × Json)

/-- The answer to a statement. -/
inductive Reply where
  | rows (rows : List Row)
  | affected (count : Nat)
  | error (text : String)
deriving Inhabited

namespace Reply

/-- The answer of a database that finds nothing to do. -/
def nothing : Reply := .affected 0

/-- Whether the database has refused the statement. -/
def isError : Reply → Bool
  | .error _ => true
  | _ => false

end Reply

/-- Why a statement gives no result. -/
inductive QueryError where
  | refused (text : String)
  /-- The one row that a statement should give is not there. -/
  | noRow
  /-- A cell is null where a value is needed. -/
  | unexpectedNull (column : String)
deriving DecidableEq, Repr

def QueryError.message : QueryError → String
  | .refused text => "error returned from database: " ++ text
  | .noRow => "no rows returned by a query that expected to return at least one row"
  | .unexpectedNull column =>
    "error occurred while decoding column " ++ column ++
      ": unexpected null; try decoding as an \x60Option\x60"

namespace Reply

/-- The rows of an answer to a statement that gives rows. -/
def rows? : Reply → Except QueryError (List Row)
  | .rows found => .ok found
  | .affected _ => .ok []
  | .error text => .error (.refused text)

/-- The number of rows that a statement which gives none has changed. Rows that come with the answer
are not looked at and only counted. -/
def affected? : Reply → Except QueryError Nat
  | .rows found => .ok found.length
  | .affected count => .ok count
  | .error text => .error (.refused text)

end Reply

namespace Row

/-- The value of a cell that may be null. -/
def optional? {α : Type} (row : Row) (column : String) (read : Json → Option α) : Option α :=
  (row.lookup column).bind read

/-- The value of a cell that is not null. -/
def required {α : Type} (row : Row) (column : String) (read : Json → Option α) :
    Except QueryError α :=
  match row.optional? column read with
  | some value => .ok value
  | none => .error (.unexpectedNull (Text.quoted column))

/-- The value of the only cell of a row, which is known by its place. -/
def single {α : Type} (row : Row) (column : String) (read : Json → Option α) :
    Except QueryError α :=
  match row.optional? column read with
  | some value => .ok value
  | none => .error (.unexpectedNull "0")

end Row

end AbandonedBikes
