/-!
# Merging sorted lists

Two sorted lists become one. Where elements do not precede each other, those of the first list come
first.

Two lists of nearly equal length can be merged from the front and from the end at once, half of the
elements each way. If the order contradicts itself, the two halves may claim an element twice and
leave another out; such a merge has no result.
-/

namespace AbandonedBikes.Sorting

variable {α : Type} (precedes : α → α → Bool)

/-- Merges two sorted lists. If the second is the shorter one, it is merged from the ends; this makes
a difference only where the order contradicts itself. -/
def merge (xs ys : List α) : List α :=
  if xs.length ≤ ys.length then List.merge xs ys fun x y => !precedes y x
  else (List.merge ys.reverse xs.reverse fun y x => !precedes y x).reverse

/-- The first elements of a merge, and what is left of both lists. An element of the second list is
taken where it is to overtake that of the first. -/
def mergeSome (overtaken : α → α → Bool) : Nat → List α → List α → List α × List α × List α
  | count + 1, x :: xs, y :: ys =>
    if overtaken x y then
      let (taken, rest) := mergeSome overtaken count (x :: xs) ys
      (y :: taken, rest)
    else
      let (taken, rest) := mergeSome overtaken count xs (y :: ys)
      (x :: taken, rest)
  | _, xs, ys => ([], xs, ys)

/-- The elements of a list that neither way of a merge has taken, unless both have taken the same.
The list has as many elements as `whole`; each way leaves a part of it. -/
def untaken (whole : Nat) (ahead behind : List α) : Option (List α) :=
  if ahead.length + behind.length < whole then none
  else some (ahead.take (ahead.length + behind.length - whole))

/-- Merges two sorted lists from both ends. The second has as many elements as the first, or one
more. -/
def mergeFromBothEnds (xs ys : List α) : Option (List α) := do
  let (front, xsAhead, ysAhead) := mergeSome (fun x y => precedes y x) xs.length xs ys
  let (back, ysBehind, xsBehind) := mergeSome precedes xs.length ys.reverse xs.reverse
  let left ← untaken xs.length xsAhead xsBehind
  let right ← untaken ys.length ysAhead ysBehind
  some (front ++ left ++ right ++ back.reverse)

end AbandonedBikes.Sorting
