import AbandonedBikes.Report.Named
import AbandonedBikes.Digest.Sha256
/-!
# Who reports

A reporter is known by a key: the number of a registered user, or a digest that stands for an
anonymous device. Two reports have the same reporter exactly if their keys are equal. The content of
a report never enters the key.
-/

namespace AbandonedBikes

/-- The identity of a reporter. -/
structure Reporter where
  key : String
deriving DecidableEq, Repr, Inhabited

namespace Reporter

def userMark : String := "user:"

def anonymousMark : String := "anon:"

/-- A registered user. -/
def user (id : Int) : Reporter := ⟨userMark ++ toString id⟩

/-- The bytes whose digest stands for a device under a secret of the server. -/
def preimage (deviceToken secret : String) : List UInt8 :=
  (deviceToken ++ ":" ++ secret).toUTF8.toList

/-- An anonymous device. -/
def anonymous (deviceToken secret : String) : Reporter :=
  ⟨anonymousMark ++ Sha256.hexDigest (preimage deviceToken secret)⟩

/-- What follows a mark at the start of a key. -/
def afterMark? (mark key : String) : Option (List Char) :=
  if mark.toList.isPrefixOf key.toList then some (key.toList.drop mark.length) else none

/-- Takes a key that was derived earlier. It needs one of the two marks and something after it. -/
def ofKey (key : String) : Except UnknownWord Reporter :=
  match (afterMark? userMark key).or (afterMark? anonymousMark key) with
  | some (_ :: _) => .ok ⟨key⟩
  | _ => .error ⟨.reporter, key⟩

def isAuthenticated (reporter : Reporter) : Bool := (afterMark? userMark reporter.key).isSome

/-- How the audit log names a reporter who files a report. -/
def actor (reporter : Reporter) : String :=
  if reporter.isAuthenticated then "citizen_authenticated" else "citizen_anonymous"

end Reporter

/-- The actor of entries that the system makes by itself. -/
def systemActor : String := "system"

end AbandonedBikes
