import Mathlib.Data.Finset.Card
import Mathlib.Data.List.Nodup
import Mathlib.Data.Rat.Cast.Order
import Mathlib.Tactic.Positivity
import AbandonedBikes.Report.Score
/-!
# The tags that two reports share

Tags are compared twice. A gate asks whether there is a shared tag, and a score says which part of all
tags is shared. The gate runs over the lists and the score counts different tags, but both depend only
on the two sets of tags: `share_eq_card_div_card` says that the score is the size of their intersection
over that of their union. So the gate is open exactly if the score is positive.

The score is a quotient of counts. It is stated here for numbers of any kind, so that the quotient of
doubles that the program takes is one case and the exact quotient is another.
-/

namespace AbandonedBikes

theorem nodup_eraseDups {α : Type} [BEq α] [LawfulBEq α] : ∀ list : List α, list.eraseDups.Nodup
  | [] => List.nodup_nil
  | a :: rest => by
    rw [List.eraseDups_cons, List.nodup_cons, List.mem_eraseDups]
    exact ⟨by simp, nodup_eraseDups _⟩
termination_by list => list.length
decreasing_by exact Nat.lt_succ_of_le (List.length_filter_le _ _)

namespace Score

/-- The part of all tags that is shared, with counts read as numbers of some kind. -/
def shareBy {α : Type} [Div α] (number : Nat → α) (a b : List String) : α :=
  if allTags a b = 0 then number 0 else number (sharedTags a b) / number (allTags a b)

/-- The score of the program is the quotient of the counts as doubles. -/
theorem ofTags_eq_shareBy (a b : List String) : ofTags a b = shareBy Float.ofNat a b := rfl

/-- The exact part of all tags that is shared. -/
def share (a b : List String) : ℚ := shareBy Nat.cast a b

variable {a b : List String}

/-! ## Counts -/

theorem sharedTags_eq_card : sharedTags a b = (a.toFinset ∩ b.toFinset).card := by
  rw [sharedTags, ← List.toFinset_card_of_nodup ((nodup_eraseDups a).filter _)]
  congr 1
  ext tag
  simp

theorem allTags_eq_card : allTags a b = (a.toFinset ∪ b.toFinset).card := by
  rw [allTags, ← List.toFinset_card_of_nodup (nodup_eraseDups _)]
  congr 1
  ext tag
  simp

/-- The score is the size of the intersection of the two sets over the size of their union. -/
theorem share_eq_card_div_card (a b : List String) :
    share a b = (a.toFinset ∩ b.toFinset).card / (a.toFinset ∪ b.toFinset).card := by
  rw [share, shareBy, sharedTags_eq_card, allTags_eq_card]
  split
  next none => rw [none, Nat.cast_zero, div_zero]
  next => rfl

/-! ## What the score says about the sets -/

theorem share_le_one : share a b ≤ 1 := by
  have within : (a.toFinset ∩ b.toFinset).card ≤ (a.toFinset ∪ b.toFinset).card :=
    Finset.card_le_card Finset.inter_subset_union
  rw [share_eq_card_div_card]
  exact div_le_one_of_le₀ (by exact_mod_cast within) (Nat.cast_nonneg _)

theorem share_eq_zero_iff : share a b = 0 ↔ ∀ tag ∈ a, tag ∉ b := by
  have disjoint : a.toFinset ∩ b.toFinset = ∅ ↔ ∀ tag ∈ a, tag ∉ b := by
    simp [← Finset.disjoint_iff_inter_eq_empty, Finset.disjoint_left]
  rw [share_eq_card_div_card, div_eq_zero_iff, Nat.cast_eq_zero, Nat.cast_eq_zero,
    Finset.card_eq_zero, Finset.card_eq_zero, ← disjoint]
  -- Without any tags there is none in the intersection either.
  refine ⟨fun none => none.elim id fun none => ?_, .inl⟩
  rw [Finset.union_eq_empty] at none
  rw [none.1, Finset.empty_inter]

theorem share_pos_iff : 0 < share a b ↔ ∃ tag ∈ a, tag ∈ b := by
  have nonneg : 0 ≤ share a b := by
    rw [share_eq_card_div_card]
    positivity
  rw [nonneg.lt_iff_ne', ne_eq, share_eq_zero_iff]
  push Not
  rfl

theorem share_eq_one_iff : share a b = 1 ↔ a ≠ [] ∧ ∀ tag, tag ∈ a ↔ tag ∈ b := by
  have same : a.toFinset = b.toFinset ↔ ∀ tag, tag ∈ a ↔ tag ∈ b := by
    simp [Finset.ext_iff]
  rw [share_eq_card_div_card, ← same]
  constructor
  · intro full
    have counts : (a.toFinset ∩ b.toFinset).card = (a.toFinset ∪ b.toFinset).card := by
      exact_mod_cast eq_of_div_eq_one full
    have equal : a.toFinset = b.toFinset :=
      inf_eq_sup.mp (Finset.eq_of_subset_of_card_le Finset.inter_subset_union counts.ge)
    refine ⟨?_, equal⟩
    rintro rfl
    simp [← equal] at full
  · rintro ⟨filled, equal⟩
    have positive : (a.toFinset.card : ℚ) ≠ 0 := by simpa using filled
    rw [← equal, Finset.inter_self, Finset.union_self, div_self positive]

theorem share_comm (a b : List String) : share a b = share b a := by
  rw [share_eq_card_div_card, share_eq_card_div_card, Finset.inter_comm, Finset.union_comm]

theorem share_congr {a' b' : List String} (same : ∀ tag, tag ∈ a ↔ tag ∈ a')
    (same_too : ∀ tag, tag ∈ b ↔ tag ∈ b') : share a b = share a' b' := by
  have set : a.toFinset = a'.toFinset := by simpa [Finset.ext_iff] using same
  have set_too : b.toFinset = b'.toFinset := by simpa [Finset.ext_iff] using same_too
  rw [share_eq_card_div_card, share_eq_card_div_card, set, set_too]

/-- The exact score is the one of the program but for the kind of numbers. It is the same in either
direction and depends only on the two sets of tags. It is 1 for one set that is not empty, 0 if no tag
is shared, and never more than 1. The gate is open exactly if it is positive. -/
theorem share_compares_sets (a b : List String) :
    ofTags a b = shareBy Float.ofNat a b ∧ share a b = shareBy Nat.cast a b ∧
    share a b = share b a ∧
    (∀ a' b' : List String, (∀ tag, tag ∈ a ↔ tag ∈ a') → (∀ tag, tag ∈ b ↔ tag ∈ b') →
      share a b = share a' b') ∧
    (shareTag a b = true ↔ 0 < share a b) ∧
    (share a b = 1 ↔ a ≠ [] ∧ ∀ tag, tag ∈ a ↔ tag ∈ b) ∧
    (share a b = 0 ↔ ∀ tag ∈ a, tag ∉ b) ∧
    share a b ≤ 1 := by
  have gate : shareTag a b = true ↔ ∃ tag ∈ a, tag ∈ b := by simp [shareTag]
  exact ⟨ofTags_eq_shareBy a b, rfl, share_comm a b, fun _ _ => share_congr,
    gate.trans share_pos_iff.symm, share_eq_one_iff, share_eq_zero_iff, share_le_one⟩

example : share ["rusty", "rusty", "flat_tires"] ["no_chain", "rusty"] = 1 / 3 := by decide +kernel

end Score

end AbandonedBikes
