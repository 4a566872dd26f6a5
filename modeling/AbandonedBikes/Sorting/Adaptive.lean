import AbandonedBikes.Sorting.Quick
/-!
# Adaptive stable sort

Very short lists are sorted by insertion, others by their runs. If the order is consistent, every
stable sort gives the same list. If it contradicts itself, as an order of scores that are not numbers
may, the result depends on which elements are compared; and if the contradiction is noticed, there is
no result.
-/

namespace AbandonedBikes

namespace Sorting

variable {α : Type} (precedes : α → α → Bool)

/-- Sorts a list by its runs. New runs of a list that is not much longer than a short one are sorted
when they are cut, those of a longer list later. -/
def sortLong (xs : List α) : Option (List α) :=
  if xs.length ≤ 2 * shortLength then sortEagerly precedes xs
  else
    sortByRuns precedes (fun rest => some ⟨rest.take (enoughFor xs.length), false⟩)
      (quickSort precedes) xs

end Sorting

/-- Sorts a list, unless the order is found to contradict itself. -/
def adaptiveSort {α : Type} (precedes : α → α → Bool) (xs : List α) : Option (List α) :=
  if xs.length ≤ 20 then some (insertionSort precedes xs) else Sorting.sortLong precedes xs

end AbandonedBikes
