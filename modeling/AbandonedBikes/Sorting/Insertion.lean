/-!
# Stable insertion sort

Elements are put in one at a time, each moving from the end toward the front past the elements that
it precedes. The order may leave elements unrelated, as scores that are not numbers are; then the
result still depends on the comparisons of neighbours alone.
-/

namespace AbandonedBikes

/-- Puts an element into a list kept from its last element to its first. -/
def insertFromEnd {α : Type} (precedes : α → α → Bool) (x : α) : List α → List α
  | [] => [x]
  | last :: rest =>
    if precedes x last then last :: insertFromEnd precedes x rest else x :: last :: rest

/-- Puts elements, one after the other, into a list that is sorted. -/
def insertAll {α : Type} (precedes : α → α → Bool) (sorted xs : List α) : List α :=
  (xs.foldl (fun backward x => insertFromEnd precedes x backward) sorted.reverse).reverse

/-- Sorts a list. Elements that do not precede each other stay in the order of the list. -/
def insertionSort {α : Type} (precedes : α → α → Bool) (xs : List α) : List α :=
  insertAll precedes [] xs

theorem perm_insertFromEnd {α : Type} (precedes : α → α → Bool) (x : α) (xs : List α) :
    (insertFromEnd precedes x xs).Perm (x :: xs) := by
  induction xs with
  | nil => exact List.Perm.refl _
  | cons last rest ih =>
    simp only [insertFromEnd]
    split
    · exact (ih.cons last).trans (List.Perm.swap x last rest)
    · exact List.Perm.refl _

theorem perm_foldl_insertFromEnd {α : Type} (precedes : α → α → Bool) (xs backward : List α) :
    (xs.foldl (fun backward x => insertFromEnd precedes x backward) backward).Perm
      (backward ++ xs) := by
  induction xs generalizing backward with
  | nil => simp
  | cons x xs ih =>
    refine (ih _).trans (((perm_insertFromEnd precedes x backward).append_right xs).trans ?_)
    exact List.perm_middle.symm

/-- Nothing is lost or added. -/
theorem perm_insertAll {α : Type} (precedes : α → α → Bool) (sorted xs : List α) :
    (insertAll precedes sorted xs).Perm (sorted ++ xs) :=
  (List.reverse_perm _).trans ((perm_foldl_insertFromEnd precedes xs _).trans
    ((List.reverse_perm sorted).append_right xs))

/-- Sorting only rearranges. -/
theorem perm_insertionSort {α : Type} (precedes : α → α → Bool) (xs : List α) :
    (insertionSort precedes xs).Perm xs :=
  perm_insertAll precedes [] xs

/-! ## Orders without contradictions -/

/-- A comparison that ranks the elements of a list. Elements that do not precede each other rank
equal. -/
structure Ranks {α : Type} (precedes : α → α → Bool) (xs : List α) : Prop where
  asymm : ∀ a ∈ xs, ∀ b ∈ xs, precedes a b = true → precedes b a = false
  trans : ∀ a ∈ xs, ∀ b ∈ xs, ∀ c ∈ xs,
    precedes a b = false → precedes b c = false → precedes a c = false

theorem Ranks.of_subset {α : Type} {precedes : α → α → Bool} {xs ys : List α}
    (ranks : Ranks precedes ys) (subset : xs ⊆ ys) : Ranks precedes xs where
  asymm a ha b hb := ranks.asymm a (subset ha) b (subset hb)
  trans a ha b hb c hc := ranks.trans a (subset ha) b (subset hb) c (subset hc)

/-- In a list kept from its last element to its first, no element precedes one that comes later. -/
theorem pairwise_insertFromEnd {α : Type} {precedes : α → α → Bool} {x : α} {backward : List α}
    (ranks : Ranks precedes (x :: backward))
    (sorted : backward.Pairwise fun later earlier => precedes later earlier = false) :
    (insertFromEnd precedes x backward).Pairwise
      fun later earlier => precedes later earlier = false := by
  induction backward with
  | nil => exact List.pairwise_singleton _ _
  | cons last rest ih =>
    obtain ⟨last_rest, rest_sorted⟩ := List.pairwise_cons.mp sorted
    have x_mem : x ∈ x :: last :: rest := List.mem_cons_self
    have last_mem : last ∈ x :: last :: rest := List.mem_cons_of_mem x List.mem_cons_self
    simp only [insertFromEnd]
    split
    next x_first =>
      have within : x :: rest ⊆ x :: last :: rest :=
        List.cons_subset_cons x (List.subset_cons_self last rest)
      refine List.pairwise_cons.mpr ⟨fun y member => ?_, ih (ranks.of_subset within) rest_sorted⟩
      rcases List.mem_cons.mp ((perm_insertFromEnd precedes x rest).mem_iff.mp member) with rfl | below
      · exact ranks.asymm _ x_mem _ last_mem x_first
      · exact last_rest y below
    next not_first =>
      have not_first : precedes x last = false := by simpa using not_first
      refine List.pairwise_cons.mpr ⟨fun y member => ?_, sorted⟩
      rcases List.mem_cons.mp member with rfl | below
      · exact not_first
      · have y_mem : y ∈ x :: last :: rest := List.mem_cons_of_mem x (List.mem_cons_of_mem last below)
        exact ranks.trans x x_mem last last_mem y y_mem not_first (last_rest y below)

theorem pairwise_foldl_insertFromEnd {α : Type} {precedes : α → α → Bool} {xs backward : List α}
    (ranks : Ranks precedes (backward ++ xs))
    (sorted : backward.Pairwise fun later earlier => precedes later earlier = false) :
    (xs.foldl (fun backward x => insertFromEnd precedes x backward) backward).Pairwise
      fun later earlier => precedes later earlier = false := by
  induction xs generalizing backward with
  | nil => exact sorted
  | cons x xs ih =>
    have same : (insertFromEnd precedes x backward ++ xs).Perm (backward ++ x :: xs) :=
      ((perm_insertFromEnd precedes x backward).append_right xs).trans List.perm_middle.symm
    have here : x :: backward ⊆ backward ++ x :: xs := by
      intro y member
      rcases List.mem_cons.mp member with rfl | before <;> simp [*]
    exact ih (ranks.of_subset same.subset) (pairwise_insertFromEnd (ranks.of_subset here) sorted)

/-- In a sorted list no element precedes one that comes earlier. -/
theorem pairwise_insertionSort {α : Type} {precedes : α → α → Bool} {xs : List α}
    (ranks : Ranks precedes xs) :
    (insertionSort precedes xs).Pairwise fun earlier later => precedes later earlier = false :=
  List.pairwise_reverse.mpr (pairwise_foldl_insertFromEnd ranks List.Pairwise.nil)

theorem insertFromEnd_of_not_first {α : Type} {precedes : α → α → Bool} {x : α} {backward : List α}
    (last : ∀ a ∈ backward, precedes x a = false) :
    insertFromEnd precedes x backward = x :: backward := by
  cases backward with
  | nil => rfl
  | cons a rest => rw [insertFromEnd, last a List.mem_cons_self, if_neg Bool.false_ne_true]

theorem foldl_insertFromEnd_of_pairwise {α : Type} {precedes : α → α → Bool} {xs backward : List α}
    (sorted : (backward.reverse ++ xs).Pairwise
      fun earlier later => precedes later earlier = false) :
    xs.foldl (fun backward x => insertFromEnd precedes x backward) backward = xs.reverse ++ backward := by
  induction xs generalizing backward with
  | nil => rfl
  | cons x xs ih =>
    have stays : insertFromEnd precedes x backward = x :: backward :=
      insertFromEnd_of_not_first fun a member =>
        (List.pairwise_append.mp sorted).2.2 a (List.mem_reverse.mpr member) x List.mem_cons_self
    rw [List.foldl_cons, stays, ih (by simpa using sorted), List.reverse_cons, List.append_assoc]
    rfl

/-- A list that is sorted stays as it is. -/
theorem insertionSort_of_pairwise {α : Type} {precedes : α → α → Bool} {xs : List α}
    (sorted : xs.Pairwise fun earlier later => precedes later earlier = false) :
    insertionSort precedes xs = xs := by
  rw [insertionSort, insertAll, List.reverse_nil, foldl_insertFromEnd_of_pairwise sorted,
    List.append_nil, List.reverse_reverse]

section Map

variable {α β : Type} {precedes : α → α → Bool} {precedes' : β → β → Bool} {replace : α → β}
  (same : ∀ a b, precedes' (replace a) (replace b) = precedes a b)

include same

theorem map_insertFromEnd (x : α) (backward : List α) :
    (insertFromEnd precedes x backward).map replace =
      insertFromEnd precedes' (replace x) (backward.map replace) := by
  induction backward with
  | nil => rfl
  | cons last rest ih =>
    simp only [insertFromEnd, List.map_cons, same]
    split
    · rw [List.map_cons, ih]
    · rfl

theorem map_foldl_insertFromEnd (xs backward : List α) :
    (xs.foldl (fun backward x => insertFromEnd precedes x backward) backward).map replace =
      (xs.map replace).foldl (fun backward x => insertFromEnd precedes' x backward)
        (backward.map replace) := by
  induction xs generalizing backward with
  | nil => rfl
  | cons x xs ih =>
    rw [List.foldl_cons, List.map_cons, List.foldl_cons, ih, map_insertFromEnd same]

/-- Elements may be replaced before they are sorted, if the order does not see the difference. -/
theorem map_insertionSort (xs : List α) :
    (insertionSort precedes xs).map replace = insertionSort precedes' (xs.map replace) := by
  rw [insertionSort, insertAll, List.map_reverse, map_foldl_insertFromEnd same]
  rfl

end Map

theorem foldl_insertFromEnd_cons {α : Type} {precedes : α → α → Bool} {xs : List α} {last : α}
    (passes : ∀ a ∈ xs, precedes a last = true) (backward : List α) :
    xs.foldl (fun backward x => insertFromEnd precedes x backward) (last :: backward) =
      last :: xs.foldl (fun backward x => insertFromEnd precedes x backward) backward := by
  induction xs generalizing backward with
  | nil => rfl
  | cons a xs ih =>
    rw [List.forall_mem_cons] at passes
    rw [List.foldl_cons, insertFromEnd, if_pos passes.1, ih passes.2, List.foldl_cons]

/-- An element that all others precede moves to the last place, wherever it was given, and the others are
ordered as if it were not there. -/
theorem insertionSort_last {α : Type} {precedes : α → α → Bool} {front back : List α} {last : α}
    (stays : ∀ a ∈ front, precedes last a = false) (passes : ∀ a ∈ back, precedes a last = true) :
    insertionSort precedes (front ++ last :: back) =
      insertionSort precedes (front ++ back) ++ [last] := by
  have front_only : front.foldl (fun backward x => insertFromEnd precedes x backward) [] ⊆ front :=
    (perm_foldl_insertFromEnd precedes front []).subset
  rw [insertionSort, insertAll, insertionSort, insertAll, List.reverse_nil, List.foldl_append,
    List.foldl_cons, insertFromEnd_of_not_first fun a member => stays a (front_only member),
    foldl_insertFromEnd_cons passes, List.reverse_cons, List.foldl_append]

/-- Where no two elements rank equal, the order of the list does not matter. -/
theorem insertionSort_eq_of_perm {α : Type} {precedes : α → α → Bool} {xs ys : List α}
    (ranks : Ranks precedes xs)
    (strict : ∀ a ∈ xs, ∀ b ∈ xs, precedes a b = false → precedes b a = false → a = b)
    (same : xs.Perm ys) : insertionSort precedes xs = insertionSort precedes ys := by
  have sorted := pairwise_insertionSort ranks
  have also_sorted := pairwise_insertionSort (ranks.of_subset same.symm.subset)
  have xs_perm := perm_insertionSort precedes xs
  have ys_perm := (perm_insertionSort precedes ys).trans same.symm
  refine List.Perm.eq_of_pairwise ?_ sorted also_sorted (xs_perm.trans ys_perm.symm)
  intro a b ha hb b_not_first a_not_first
  exact strict a (xs_perm.mem_iff.mp ha) b (ys_perm.mem_iff.mp hb) a_not_first b_not_first

end AbandonedBikes
