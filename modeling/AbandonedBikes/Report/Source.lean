import AbandonedBikes.Report.Named
/-!
# Where a report comes from
-/

namespace AbandonedBikes

/-- The channel that a report was filed through. -/
inductive Source where
  | web
  | partnerImport
deriving DecidableEq, Repr, Inhabited

namespace Source

def all : List Source := [.web, .partnerImport]

def name : Source → String
  | .web => "web"
  | .partnerImport => "partner_import"

/-- The source with the given name. -/
def ofName? (word : String) : Option Source := findNamed? name all word

/-- Reads the name of a source. -/
def read (word : String) : Except UnknownWord Source := readWord .source name all word

@[simp] theorem ofName?_name (source : Source) : ofName? source.name = some source := by
  cases source <;> decide

end Source

end AbandonedBikes
