import Mathlib.Data.Finset.Card
import AbandonedBikes.Signal.Timeline
/-!
# Labels of reporters

Reporters are numbered in the order in which they appear, and a label spells such a number with letters,
so that different reporters have different labels, however many there are.

`Timeline.met` lists the reporters of a history in this order. Going on with a history only adds to the
end of the list, so the number of a reporter never changes once it is given out.
-/

namespace AbandonedBikes

namespace Timeline

/-! ## Labels -/

theorem letter_inj : ∀ i j : Fin 26,
    Char.ofNat ('A'.toNat + i) = Char.ofNat ('A'.toNat + j) → i = j := by decide

/-- The rounds of letters are told apart by their numbers, and the first one by having none. -/
theorem eq_of_round_eq {i j : Nat}
    (same : (if i < 26 then "" else toString (i / 26 + 1)) =
      if j < 26 then "" else toString (j / 26 + 1)) : i / 26 = j / 26 := by
  by_cases first : i < 26
  · by_cases first' : j < 26
    · omega
    · rw [if_pos first, if_neg first'] at same
      exact absurd same.symm Nat.repr_ne_empty
  · by_cases first' : j < 26
    · rw [if_neg first, if_pos first'] at same
      exact absurd same Nat.repr_ne_empty
    · rw [if_neg first, if_neg first'] at same
      have read (n : Nat) : Nat.ofDigitChars 10 (toString n).toList 0 = n := by
        rw [Nat.toString_eq_repr, Nat.toList_repr, Nat.ofDigitChars_ten_toDigits]
      have numbers := read (i / 26 + 1)
      rw [same, read] at numbers
      exact (Nat.succ.inj numbers).symm

/-- Different places have different labels. -/
theorem label_inj {i j : Nat} : label i = label j ↔ i = j := by
  refine ⟨fun same => ?_, congrArg label⟩
  simp only [label, String.append_assoc, String.append_right_inj] at same
  have characters := congrArg String.toList same
  simp only [String.toList_append, String.toList_singleton, List.singleton_append,
    List.cons.injEq, String.toList_inj] at characters
  have letter : i % 26 = j % 26 := congrArg Fin.val
    (letter_inj ⟨i % 26, Nat.mod_lt _ (by decide)⟩ ⟨j % 26, Nat.mod_lt _ (by decide)⟩ characters.1)
  have round := eq_of_round_eq characters.2
  omega

example : label 25 = "Reporter Z" ∧ label 26 = "Reporter A2" ∧ label 53 = "Reporter B3" := by decide

/-! ## The order of appearance -/

variable {known : List Reporter} {history : List Report} {reporter other : Reporter}

theorem mem_meet : other ∈ meet known reporter ↔ other ∈ known ∨ other = reporter := by
  rw [meet]
  split
  next contained =>
    have member : reporter ∈ known := List.contains_iff_mem.mp contained
    exact ⟨.inl, fun either => either.elim (fun inside => inside) fun same => same ▸ member⟩
  next => rw [List.mem_append, List.mem_singleton]

theorem nodup_meet (nodup : known.Nodup) : (meet known reporter).Nodup := by
  rw [meet]
  split
  · exact nodup
  next unknown =>
    rw [List.contains_iff_mem] at unknown
    refine List.nodup_append.mpr ⟨nodup, List.nodup_singleton _, ?_⟩
    rintro r member s single rfl
    exact unknown (List.mem_singleton.mp single ▸ member)

theorem prefix_meet (known : List Reporter) (reporter : Reporter) : known <+: meet known reporter := by
  rw [meet]
  split
  · exact List.prefix_rfl
  · exact List.prefix_append _ _

/-- The reporters of a history in the order in which they appear. -/
def met (history : List Report) : List Reporter :=
  history.foldl (fun known report => meet known report.reporter) []

theorem met_concat (history : List Report) (report : Report) :
    met (history ++ [report]) = meet (met history) report.reporter := by
  rw [met, List.foldl_append]
  rfl

theorem mem_met : reporter ∈ met history ↔ ∃ report ∈ history, report.reporter = reporter := by
  induction history using List.reverseRecOn with
  | nil => simp [met]
  | append_singleton history report ih =>
    rw [met_concat, mem_meet, ih]
    simp only [List.mem_append, List.mem_singleton, or_and_right, exists_or, exists_eq_left,
      eq_comm (a := reporter)]

theorem nodup_met (history : List Report) : (met history).Nodup := by
  induction history using List.reverseRecOn with
  | nil => exact List.nodup_nil
  | append_singleton history report ih =>
    rw [met_concat]
    exact nodup_meet ih

theorem length_met (history : List Report) :
    (met history).length = (history.map Report.reporter).toFinset.card := by
  rw [← List.toFinset_card_of_nodup (nodup_met history)]
  congr 1
  ext reporter
  rw [List.mem_toFinset, List.mem_toFinset, mem_met, List.mem_map]

theorem prefix_met (earlier later : List Report) : met earlier <+: met (earlier ++ later) := by
  induction later using List.reverseRecOn with
  | nil => rw [List.append_nil]
  | append_singleton later report ih =>
    rw [← List.append_assoc, met_concat]
    exact ih.trans (prefix_meet _ _)

/-- The place of a reporter stays the same as the history goes on. -/
theorem idxOf_met {earlier : List Report} (later : List Report)
    (member : reporter ∈ met earlier) :
    (met (earlier ++ later)).idxOf reporter = (met earlier).idxOf reporter := by
  obtain ⟨more, whole⟩ := prefix_met earlier later
  rw [← whole, List.idxOf_append_of_mem member]

/-- A reporter who appears for the first time is numbered by the reporters before. -/
theorem idxOf_met_of_new {report : Report}
    (unseen : ∀ earlier ∈ history, earlier.reporter ≠ report.reporter) :
    (met (history ++ [report])).idxOf report.reporter =
      (history.map Report.reporter).toFinset.card := by
  have unknown : report.reporter ∉ met history := by
    rw [mem_met]
    rintro ⟨earlier, member, same⟩
    exact unseen earlier member same
  have not_contained : ¬ (met history).contains report.reporter = true := by
    rwa [List.contains_iff_mem]
  rw [met_concat, meet, if_neg not_contained, List.idxOf_append_of_notMem unknown,
    List.idxOf_cons_self, Nat.add_zero, length_met]

end Timeline

end AbandonedBikes
