import AbandonedBikes.Sorting.Insertion
import AbandonedBikes.Sorting.Merge
/-!
# Sorting short lists

A list of few dozen elements is sorted by halves. Each half is sorted by insertion, with a fixed
network of comparisons for its first four elements, and the halves are merged from both ends.
-/

namespace AbandonedBikes.Sorting

variable {α : Type} (precedes : α → α → Bool)

/-- The greatest length that counts as short. -/
def shortLength : Nat := 32

/-- Two elements in order. -/
def sortTwo (a b : α) : α × α := if precedes b a then (b, a) else (a, b)

/-- Four elements in order, found by five comparisons: two pairs, then their first elements and
their last elements, then the two that are left. -/
def sortFour (a b c d : α) : List α :=
  let (a, b) := sortTwo precedes a b
  let (c, d) := sortTwo precedes c d
  match precedes c a, precedes d b with
  | false, false => let (low, high) := sortTwo precedes b c; [a, low, high, d]
  | false, true => let (low, high) := sortTwo precedes c d; [a, low, high, b]
  | true, false => let (low, high) := sortTwo precedes a b; [c, low, high, d]
  | true, true => let (low, high) := sortTwo precedes a d; [c, low, high, b]

/-- Sorts a half of a list. -/
def sortHalf (byFour : Bool) : List α → List α
  | a :: b :: c :: d :: rest =>
    if byFour then insertAll precedes (sortFour precedes a b c d) rest
    else insertionSort precedes (a :: b :: c :: d :: rest)
  | xs => insertionSort precedes xs

/-- Sorts a short list. The network is used if both halves have four elements. -/
def sortShort (xs : List α) : Option (List α) :=
  if xs.length < 2 then some xs
  else
    let (first, second) := xs.splitAt (xs.length / 2)
    let byFour := decide (8 ≤ xs.length)
    mergeFromBothEnds precedes (sortHalf precedes byFour first) (sortHalf precedes byFour second)

end AbandonedBikes.Sorting
