import Mathlib.Data.List.Sort
import AbandonedBikes.Proofs.Replay.Causality
import AbandonedBikes.Signal.Triage
/-!
# Filtered and sorted views

Filtering keeps the order of the views. Sorting by signal moves a stronger or a newer view before a
weaker or an older one and leaves all others as they came, so the order of a list refines the order in
which its views were given. Whatever order that was, `SignalFilter.pairwise_apply` says what becomes of
it.
-/

namespace AbandonedBikes

/-- Sorting by merging is stable: of members that may stand either way, the one that was given first
stays first. -/
theorem pairwise_stable {α : Type} {le : α → α → Bool} {given : α → α → Prop} {list : List α}
    (trans : ∀ a b c, le a b = true → le b c = true → le a c = true)
    (total : ∀ a b, (le a b || le b a) = true) (ordered : list.Pairwise given) :
    (list.mergeSort le).Pairwise fun a b => le a b = true ∧ (le b a = true → given a b) := by
  -- The same sort with every member tagged by its place in the list; places decide between equals.
  have sorted := List.pairwise_mergeSort (List.zipIdxLE_trans trans) (List.zipIdxLE_total total)
    list.zipIdx
  have permuted := List.mergeSort_perm list.zipIdx (List.zipIdxLE le)
  have places : ((list.zipIdx.mergeSort (List.zipIdxLE le)).map Prod.snd).Nodup := by
    rw [(permuted.map Prod.snd).nodup_iff, List.zipIdx_map_snd]
    exact List.nodup_range'
  rw [← List.mergeSort_zipIdx, List.pairwise_map]
  refine (sorted.and (List.pairwise_map.mp places)).imp_of_mem ?_
  rintro ⟨a, place⟩ ⟨b, other⟩ member other_member ⟨before, different⟩
  obtain ⟨bound, at_place⟩ := List.getElem?_eq_some_iff.mp
    (List.mem_zipIdx_iff_getElem?.mp (permuted.mem_iff.mp member))
  obtain ⟨other_bound, at_other⟩ := List.getElem?_eq_some_iff.mp
    (List.mem_zipIdx_iff_getElem?.mp (permuted.mem_iff.mp other_member))
  dsimp only at at_place at_other different
  simp only [List.zipIdxLE] at before
  split at before
  next first =>
    refine ⟨first, fun either => ?_⟩
    rw [if_pos either, decide_eq_true_eq] at before
    have earlier : place < other := by omega
    rw [← at_place, ← at_other]
    exact List.pairwise_iff_getElem.mp ordered place other bound other_bound earlier
  next => exact absurd before Bool.false_ne_true

namespace SignalFilter

/-- The signal of a view meets the conditions on it. -/
structure Admits (filter : SignalFilter) (view : OperatorView) : Prop where
  strength : ∀ strength, filter.strength = some strength → view.strength = strength
  strong : filter.strongOnly = true → view.strength = .strongDistinctReporters
  qualifying : ∀ wanted, filter.hasQualifying = some wanted →
    view.summary.hasQualifying = wanted

variable {filter : SignalFilter} {views : List OperatorView} {a b c : OperatorView}

theorem accepts_iff {view : OperatorView} : filter.accepts view = true ↔ filter.Admits view := by
  simp only [accepts, Bool.and_eq_true, Bool.or_eq_true, Bool.not_eq_true', Option.all_eq_true,
    beq_iff_eq]
  constructor
  · rintro ⟨⟨strength, strong⟩, qualifying⟩
    exact ⟨strength, fun only => strong.resolve_left (by simp [only]), qualifying⟩
  · rintro ⟨strength, strong, qualifying⟩
    refine ⟨⟨strength, ?_⟩, qualifying⟩
    cases only : filter.strongOnly with
    | false => exact .inl rfl
    | true => exact .inr (strong only)

theorem signalOrder_iff :
    signalOrder a b = true ↔ b.strength.priority < a.strength.priority ∨
      (b.strength.priority = a.strength.priority ∧
        b.report.createdAt ≤ a.report.createdAt) := by
  simp [signalOrder]

theorem signalOrder_trans (a b c : OperatorView) (first : signalOrder a b = true)
    (second : signalOrder b c = true) : signalOrder a c = true := by
  rw [signalOrder_iff, Instant.le_iff] at first second ⊢
  omega

theorem signalOrder_total (a b : OperatorView) : (signalOrder a b || signalOrder b a) = true := by
  rw [Bool.or_eq_true, signalOrder_iff, signalOrder_iff, Instant.le_iff, Instant.le_iff]
  omega

/-- Sorting neither loses nor repeats a view. -/
theorem apply_perm (filter : SignalFilter) (views : List OperatorView) :
    (filter.apply views).Perm (views.filter filter.accepts) := by
  rw [apply]
  cases filter.sort with
  | newest => exact .refl _
  | signal => exact List.mergeSort_perm _ signalOrder

theorem mem_apply {view : OperatorView} :
    view ∈ filter.apply views ↔ view ∈ views ∧ filter.accepts view = true := by
  rw [(apply_perm filter views).mem_iff, List.mem_filter]

end SignalFilter

/-- The order that a sort makes of a given one. -/
def ReportSort.refine (given : OperatorView → OperatorView → Prop) :
    ReportSort → OperatorView → OperatorView → Prop
  | .newest, a, b => given a b
  | .signal, a, b =>
    b.strength.priority < a.strength.priority ∨
      (b.strength.priority = a.strength.priority ∧
        (b.report.createdAt < a.report.createdAt ∨
          (b.report.createdAt = a.report.createdAt ∧ given a b)))

/-- Views that are given in some order are returned in the order that the sort makes of it. -/
theorem SignalFilter.pairwise_apply (filter : SignalFilter) {views : List OperatorView}
    {given : OperatorView → OperatorView → Prop} (ordered : views.Pairwise given) :
    (filter.apply views).Pairwise (filter.sort.refine given) := by
  have kept : (views.filter filter.accepts).Pairwise given := ordered.filter _
  rw [apply]
  cases filter.sort with
  | newest => exact kept
  | signal =>
    refine (pairwise_stable signalOrder_trans signalOrder_total kept).imp ?_
    rintro a b ⟨before, either⟩
    rw [signalOrder_iff, Instant.le_iff_lt_or_eq] at before either
    obtain stronger | ⟨equal, newer | same⟩ := before
    · exact .inl stronger
    · exact .inr ⟨equal, .inl newer⟩
    · exact .inr ⟨equal, .inr ⟨same, either (.inr ⟨equal.symm, .inr same.symm⟩)⟩⟩

end AbandonedBikes
