import AbandonedBikes.Sorting.Runs
import AbandonedBikes.Sorting.Short
/-!
# Stable quicksort

A list is split by one of its elements: those that precede it come first, and both parts keep their
order. Elements that are equal to the splitting one are set aside together, since nothing is left to
be sorted among them. The number of splits is bounded; a list that needs more of them is sorted by
its runs instead.
-/

namespace AbandonedBikes.Sorting

variable {α : Type} (precedes : α → α → Bool)

/-- Sorts a list by its runs, where every new run is sorted as soon as it is cut. -/
def sortEagerly : List α → Option (List α) :=
  sortByRuns precedes
    (fun xs => (sortShort precedes (xs.take shortLength)).map fun sorted => ⟨sorted, true⟩)
    (sortShort precedes)

/-- An element of a list with its place. -/
structure Placed (α : Type) where
  place : Nat
  element : α

/-- The middle one of three elements. -/
def median (a b c : Placed α) : Placed α :=
  let ab := precedes a.element b.element
  let ac := precedes a.element c.element
  if ab = ac then if precedes b.element c.element = ab then b else c else a

/-- A typical one of some elements that begin at a place: the median of three typical ones, from the
front, the middle and the end. -/
def typical (element : Nat → α) (start length : Nat) : Placed α :=
  if length < 8 then ⟨start, element start⟩
  else
    let eighth := length / 8
    median precedes (typical element start eighth) (typical element (start + 4 * eighth) eighth)
      (typical element (start + 7 * eighth) eighth)
termination_by length
decreasing_by all_goals omega

/-- The elements that belong to the first part, then the others. The element that splits the list
belongs where it is told to. -/
def splitBy (pivot : Placed α) (pivotFirst : Bool) (belongsFirst : α → Bool) (xs : List α) :
    List α × List α :=
  let (first, second) := xs.zipIdx.partition fun (x, place) =>
    if place = pivot.place then pivotFirst else belongsFirst x
  (first.map Prod.fst, second.map Prod.fst)

/-- Sorts a list by a number of splits. No element precedes `least`, if there is one. -/
def sortBySplits : Nat → Option α → List α → Option (List α)
  | _, _, [] => some []
  | splits, least, x :: xs =>
    if xs.length < shortLength then sortShort precedes (x :: xs)
    else
      match splits with
      | 0 => sortEagerly precedes (x :: xs)
      | splits + 1 =>
        let elements := (x :: xs).toArray
        let pivot := typical precedes (fun place => elements.getD place x) 0 elements.size
        let (lower, upper) := splitBy pivot false (precedes · pivot.element) (x :: xs)
        if lower.isEmpty || least.any (fun least => !precedes least pivot.element) then do
          let (same, greater) := splitBy pivot true (fun y => !precedes pivot.element y) (x :: xs)
          some (same ++ (← sortBySplits splits none greater))
        else do
          some ((← sortBySplits splits least lower) ++
            (← sortBySplits splits (some pivot.element) upper))

/-- Sorts a list by at most twice as many splits as an even splitting takes. -/
def quickSort (xs : List α) : Option (List α) :=
  sortBySplits precedes (2 * xs.length.log2) none xs

end AbandonedBikes.Sorting
