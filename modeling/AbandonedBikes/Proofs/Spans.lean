/-!
# Where a span of characters ends

What reads digits or blanks takes characters as long as they are of its kind. So what stands after such
a span is left alone, if it starts with a character of another kind.
-/

namespace AbandonedBikes

variable {p : Char → Bool} {span rest : List Char}

theorem takeWhile_of_head (stop : ∀ c ∈ rest.head?, p c = false) : rest.takeWhile p = [] := by
  cases rest with
  | nil => rfl
  | cons c cs => simp [stop c rfl]

theorem dropWhile_of_head (stop : ∀ c ∈ rest.head?, p c = false) : rest.dropWhile p = rest := by
  cases rest with
  | nil => rfl
  | cons c cs => simp [stop c rfl]

theorem takeWhile_span (all : ∀ c ∈ span, p c = true) (stop : ∀ c ∈ rest.head?, p c = false) :
    (span ++ rest).takeWhile p = span := by
  rw [List.takeWhile_append_of_pos all, takeWhile_of_head stop, List.append_nil]

theorem dropWhile_span (all : ∀ c ∈ span, p c = true) (stop : ∀ c ∈ rest.head?, p c = false) :
    (span ++ rest).dropWhile p = rest := by
  rw [List.dropWhile_append_of_pos all, dropWhile_of_head stop]

end AbandonedBikes
