import AbandonedBikes.Sorting.Merge
/-!
# Merging runs

A long list is cut into runs. A stretch of it that already goes up, or strictly down, is a sorted
run if it is long enough; elsewhere a run is made of the elements that come next. Neighbouring runs
are merged in the order of a tree that is balanced over the whole list: the boundary between two
runs has a depth in the tree, and runs are merged as soon as the next boundary is no deeper.

Runs that are not sorted are not merged but put together, so that they are sorted at once later.
-/

namespace AbandonedBikes.Sorting

variable {α : Type} (precedes : α → α → Bool)

/-- A part of a list. -/
structure Run (α : Type) where
  elements : List α
  sorted : Bool

namespace Run

/-- The elements in order; they are sorted now if they were not before. -/
def settle (sort : List α → Option (List α)) (run : Run α) : Option (List α) :=
  if run.sorted then some run.elements else sort run.elements

/-- Two neighbouring runs as one. -/
def join (sort : List α → Option (List α)) (left right : Run α) : Option (Run α) :=
  if left.sorted || right.sorted then do
    some ⟨merge precedes (← left.settle sort) (← right.settle sort), true⟩
  else some ⟨left.elements ++ right.elements, false⟩

end Run

/-- The number of elements that go on in the direction of those before them. -/
def lengthOnward (descending : Bool) (last : α) : List α → Nat
  | [] => 0
  | x :: xs =>
    if precedes x last = descending then lengthOnward descending x xs + 1 else 0

/-- The length of the stretch at the front of a list that goes up or strictly down, and whether it
goes down. -/
def stretch : List α → Nat × Bool
  | [] => (0, false)
  | [_] => (1, false)
  | x :: y :: rest =>
    let descending := precedes y x
    (lengthOnward precedes descending y rest + 2, descending)

/-- Cuts a list into runs. `fresh` makes a run of the elements at the front of a list. -/
def cut (enough : Nat) (fresh : List α → Option (Run α)) : List α → Option (List (Run α))
  | [] => some []
  | x :: xs => do
    let (length, descending) := stretch precedes (x :: xs)
    let run ←
      if enough ≤ length then
        let elements := (x :: xs).take length
        some ⟨if descending then elements.reverse else elements, true⟩
      else fresh (x :: xs)
    let rest ← cut enough fresh (xs.drop (run.elements.length - 1))
    some (run :: rest)
termination_by xs => xs.length
decreasing_by simp only [List.length_drop, List.length_cons]; omega

/-- The length from which a stretch is worth keeping in a list of a given length: half of the list
but at most 64, or about the square root of the length of a very long one. -/
def enoughFor (length : Nat) : Nat :=
  if length ≤ 4096 then min (length - length / 2) 64
  else
    let half := (length.log2 + 1) / 2
    ((1 <<< half) + (length >>> half)) / 2

/-- The depth of the boundary in the middle of two runs, in the balanced tree over a list of `length`
elements. The centres of both runs are scaled to 62 bits; the boundary is as deep as the first bit
in which they differ. -/
def boundaryDepth (length left middle right : Nat) : Nat :=
  let scale := (Nat.pow 2 62 + length - 1) / length
  let difference := (scale * (left + middle)) ^^^ (scale * (middle + right))
  if difference = 0 then 64 else 63 - difference.log2

/-- A run that waits for its right neighbour, with the depth of the boundary between them. -/
structure Waiting (α : Type) where
  run : Run α
  depth : Nat

/-- Joins a run with the runs before it, as long as their boundaries are no less deep than the next
one. -/
def joinBack (sort : List α → Option (List α)) (depth : Nat) :
    List (Waiting α) → Run α → Option (List (Waiting α) × Run α)
  | [], run => some ([], run)
  | last :: earlier, run =>
    if depth ≤ last.depth then do
      joinBack sort depth earlier (← last.run.join precedes sort run)
    else some (last :: earlier, run)

/-- Joins all runs of a list of `length` elements. The current run begins at `start`; the runs before
it wait, the last one first. -/
def joinRuns (sort : List α → Option (List α)) (length start : Nat) (waiting : List (Waiting α))
    (run : Run α) : List (Run α) → Option (Run α)
  | [] => do
    let (_, whole) ← joinBack precedes sort 0 waiting run
    some whole
  | next :: rest => do
    let middle := start + run.elements.length
    let depth := boundaryDepth length start middle (middle + next.elements.length)
    let (earlier, joined) ← joinBack precedes sort depth waiting run
    joinRuns sort length middle (⟨joined, depth⟩ :: earlier) next rest

/-- Sorts a list by its runs. `fresh` makes a run where no stretch is long enough, and `sort` sorts
what has been put together unsorted. -/
def sortByRuns (fresh : List α → Option (Run α)) (sort : List α → Option (List α)) (xs : List α) :
    Option (List α) := do
  match ← cut precedes (enoughFor xs.length) fresh xs with
  | [] => some []
  | run :: rest => (← joinRuns precedes sort xs.length 0 [] run rest).settle sort

end AbandonedBikes.Sorting
