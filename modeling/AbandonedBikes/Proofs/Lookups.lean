import Mathlib.Data.List.Nodup
/-!
# What a lookup finds

Histories, tables and classifications are lists that are searched by a key. As long as the keys are
different, a search finds what has the key, wherever it stands. In an ascending list the search for a
property finds the smallest number that has it.
-/

namespace AbandonedBikes

variable {α β κ : Type}

/-- If the keys are different, a key leads to what has it. -/
theorem find?_key_eq_some_iff [BEq κ] [LawfulBEq κ] {keyOf : α → κ} {items : List α}
    (keys : (items.map keyOf).Nodup) {key : κ} {item : α} :
    items.find? (fun other => keyOf other == key) = some item ↔
      item ∈ items ∧ keyOf item = key := by
  constructor
  · intro found
    exact ⟨List.mem_of_find?_eq_some found, by simpa using List.find?_some found⟩
  · rintro ⟨member, rfl⟩
    have some_found : (items.find? fun other => keyOf other == keyOf item).isSome = true :=
      List.find?_isSome.mpr ⟨item, member, BEq.rfl⟩
    obtain ⟨other, found⟩ := Option.isSome_iff_exists.mp some_found
    have same_key : keyOf other = keyOf item := by simpa using List.find?_some found
    rw [found, List.inj_on_of_nodup_map keys (List.mem_of_find?_eq_some found) member same_key]

theorem lookup_of_mem [BEq κ] [LawfulBEq κ] {pairs : List (κ × β)} {key : κ} {value : β}
    (keys : (pairs.map Prod.fst).Nodup) (member : (key, value) ∈ pairs) :
    pairs.lookup key = some value := by
  obtain ⟨before, after, rfl⟩ := List.append_of_mem member
  rw [List.map_append, List.map_cons] at keys
  refine List.lookup_eq_some_iff.mpr ⟨before, after, rfl, fun pair pair_member => ?_⟩
  have different := (List.nodup_append.mp keys).2.2 pair.1 (List.mem_map_of_mem pair_member) key
    List.mem_cons_self
  exact bne_iff_ne.mpr different.symm

/-- What is left of the pairs of some keys is found as before. -/
theorem lookup_filter_key [BEq κ] [LawfulBEq κ] (kept : κ → Bool) (pairs : List (κ × β)) (key : κ) :
    (pairs.filter fun pair => kept pair.1).lookup key =
      if kept key then pairs.lookup key else none := by
  induction pairs with
  | nil => simp
  | cons pair rest ih =>
    obtain ⟨other, value⟩ := pair
    by_cases same : key = other
    · subst same
      cases keeps : kept key <;> simp [keeps, ih]
    · have differ : (key == other) = false := beq_eq_false_iff_ne.mpr same
      have passed (pairs : List (κ × β)) : ((other, value) :: pairs).lookup key = pairs.lookup key := by
        rw [List.lookup_cons, differ]
      rw [List.filter_cons, passed, ← ih]
      split
      next => exact passed _
      next => rfl

/-- In an ascending list the first number with a property is the smallest one. -/
theorem find?_ascending_eq_some_iff {ids : List Int} (ascending : ids.Pairwise (· < ·))
    {p : Int → Bool} {first : Int} :
    ids.find? p = some first ↔
      first ∈ ids ∧ p first = true ∧ ∀ other ∈ ids, p other = true → first ≤ other := by
  have smallest {first : Int} (found : ids.find? p = some first) :
      ∀ other ∈ ids, p other = true → first ≤ other := by
    obtain ⟨_, before, after, rfl, skipped⟩ := List.find?_eq_some_iff_append.mp found
    intro other member holds
    rcases List.mem_append.mp member with earlier | here
    · exact absurd holds (by simpa using skipped other earlier)
    · have from_first := (List.pairwise_append.mp ascending).2.1
      rcases List.mem_cons.mp here with rfl | later
      · exact Int.le_refl _
      · exact Int.le_of_lt (List.rel_of_pairwise_cons from_first later)
  constructor
  · intro found
    exact ⟨List.mem_of_find?_eq_some found, List.find?_some found, smallest found⟩
  · rintro ⟨member, holds, least⟩
    have some_found : (ids.find? p).isSome = true := List.find?_isSome.mpr ⟨first, member, holds⟩
    obtain ⟨other, found⟩ := Option.isSome_iff_exists.mp some_found
    have below := smallest found first member holds
    have above := least other (List.mem_of_find?_eq_some found) (List.find?_some found)
    rw [found, Int.le_antisymm below above]

end AbandonedBikes
