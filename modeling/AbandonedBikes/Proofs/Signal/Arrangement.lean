import AbandonedBikes.Proofs.Signal.Triage
/-!
# Lists are arranged once

A stable sort is determined by two things: its result is sorted, and members that are tied stand in the
order in which they were given (`eq_of_tied`). Dropping members disturbs neither, so it makes no
difference whether views are filtered before or after they are sorted, and a list that has been filtered
and sorted stays as it is.
-/

namespace AbandonedBikes

section StableSort

variable {α : Type} {le : α → α → Bool}

/-- Two members may stand either way. -/
def tied (le : α → α → Bool) (a b : α) : Bool := le a b && le b a

theorem tied_iff {a b : α} : tied le a b = true ↔ le a b = true ∧ le b a = true :=
  Bool.and_eq_true_iff

variable (trans : ∀ a b c, le a b = true → le b c = true → le a c = true)
  (total : ∀ a b, (le a b || le b a) = true)

section

include total

theorem tied_self (a : α) : tied le a a = true := by
  simpa [tied] using total a a

/-- The first member of a list is before all others that are sorted with it. -/
theorem le_of_mem_of_sorted {a b : α} {rest : List α}
    (sorted : (a :: rest).Pairwise fun a b => le a b = true) (member : b ∈ a :: rest) :
    le a b = true := by
  obtain rfl | later := List.mem_cons.mp member
  · exact (tied_iff.mp (tied_self total b)).1
  · exact List.rel_of_pairwise_cons sorted later

theorem mem_of_filter_tied_eq {list other : List α} {a : α}
    (same : list.filter (tied le a) = other.filter (tied le a)) (member : a ∈ list) : a ∈ other :=
  List.mem_of_mem_filter (same ▸ List.mem_filter.mpr ⟨member, tied_self total a⟩)

/-- Sorted lists are equal if in both of them those that are tied stand in the same order. -/
theorem eq_of_tied {list other : List α} (sorted : list.Pairwise fun a b => le a b = true)
    (other_sorted : other.Pairwise fun a b => le a b = true)
    (same : ∀ a, list.filter (tied le a) = other.filter (tied le a)) : list = other := by
  induction list generalizing other with
  | nil =>
    refine (List.eq_nil_iff_forall_not_mem.mpr fun a member => ?_).symm
    exact List.not_mem_nil (mem_of_filter_tied_eq total (same a).symm member)
  | cons a rest ih =>
    cases other with
    | nil => exact absurd (mem_of_filter_tied_eq total (same a) List.mem_cons_self) List.not_mem_nil
    | cons b others =>
      -- Each head is somewhere in the other list, so the heads are tied, and hence the same.
      have a_first := le_of_mem_of_sorted total sorted
        (mem_of_filter_tied_eq total (same b).symm List.mem_cons_self)
      have b_first := le_of_mem_of_sorted total other_sorted
        (mem_of_filter_tied_eq total (same a) List.mem_cons_self)
      have heads := same a
      rw [List.filter_cons_of_pos (tied_self total a),
        List.filter_cons_of_pos (tied_iff.mpr ⟨a_first, b_first⟩)] at heads
      obtain rfl := (List.cons.inj heads).1
      refine congrArg (a :: ·) (ih sorted.of_cons other_sorted.of_cons fun c => ?_)
      have tails := same c
      rw [List.filter_cons, List.filter_cons] at tails
      split at tails
      · exact (List.cons.inj tails).2
      · exact tails

end

section

include trans

/-- Members that are tied with one member are tied with each other. -/
theorem pairwise_filter_tied (list : List α) (a : α) :
    (list.filter (tied le a)).Pairwise fun b c => le b c = true := by
  refine List.pairwise_of_forall_mem_list fun b b_kept c c_kept => ?_
  have b_tied := tied_iff.mp (List.mem_filter.mp b_kept).2
  have c_tied := tied_iff.mp (List.mem_filter.mp c_kept).2
  exact trans b a c b_tied.2 c_tied.1

include total

/-- Sorting leaves the members that are tied with a given one in their order. -/
theorem filter_tied_mergeSort (list : List α) (a : α) :
    (list.mergeSort le).filter (tied le a) = list.filter (tied le a) := by
  have kept : (list.filter (tied le a)).Sublist (list.mergeSort le) :=
    List.sublist_mergeSort trans total (pairwise_filter_tied trans list a) List.filter_sublist
  have inside : (list.filter (tied le a)).Sublist ((list.mergeSort le).filter (tied le a)) := by
    simpa using kept.filter (tied le a)
  have permuted := (List.mergeSort_perm list le).filter (tied le a)
  exact (inside.eq_of_length permuted.length_eq.symm).symm

/-- Members may be dropped before or after sorting. -/
theorem filter_mergeSort (keep : α → Bool) (list : List α) :
    (list.mergeSort le).filter keep = (list.filter keep).mergeSort le := by
  have sorted := (List.pairwise_mergeSort trans total list).filter keep
  refine eq_of_tied total sorted (List.pairwise_mergeSort trans total _) fun a => ?_
  rw [List.filter_comm, filter_tied_mergeSort trans total, filter_tied_mergeSort trans total,
    List.filter_comm]

end

end StableSort

namespace Instant

theorem le_of_eq {a b : Instant} (same : a = b) : a ≤ b := (le_iff_lt_or_eq a b).mpr (.inr same)

theorem le_antisymm {a b : Instant} (first : a ≤ b) (second : b ≤ a) : a = b := by
  obtain early | same := (le_iff_lt_or_eq a b).mp first
  · obtain late | same := (le_iff_lt_or_eq b a).mp second
    · exact absurd (lt_trans early late) (lt_irrefl a)
    · exact same.symm
  · exact same

end Instant

namespace SignalFilter

/-- The filter that sorts and lets every view pass. -/
def sorting (sort : ReportSort) : SignalFilter := { sort }

/-- The views have the same place in the order by signal. -/
def Level (a b : OperatorView) : Prop :=
  a.strength.priority = b.strength.priority ∧ a.report.createdAt = b.report.createdAt

instance (a b : OperatorView) : Decidable (Level a b) :=
  inferInstanceAs (Decidable (_ ∧ _))

/-- What a list must be that a filter makes of some views. -/
structure Arranges (filter : SignalFilter) (views result : List OperatorView) : Prop where
  /-- The accepted views are there, each as often as it was given, and no others. -/
  accepted : result.Perm (views.filter filter.accepts)
  /-- Without a sort they stay in their order. -/
  newest : filter.sort = .newest → result.Sublist views
  /-- The stronger come first, and the newer among those that are equally strong. -/
  signal : filter.sort = .signal → result.Pairwise fun a b =>
    b.strength.priority < a.strength.priority ∨
      (b.strength.priority = a.strength.priority ∧ b.report.createdAt ≤ a.report.createdAt)
  /-- Accepted views that are level stay in their order. -/
  level : filter.sort = .signal → ∀ view,
    result.filter (Level view) = (views.filter filter.accepts).filter (Level view)

theorem tied_signalOrder (a b : OperatorView) : tied signalOrder a b = decide (Level a b) := by
  rw [Bool.eq_iff_iff, tied_iff, signalOrder_iff, signalOrder_iff, decide_eq_true_iff]
  constructor
  · rintro ⟨first, second⟩
    have equal : a.strength.priority = b.strength.priority := by omega
    have newer := (first.resolve_left (by omega)).2
    have older := (second.resolve_left (by omega)).2
    exact ⟨equal, Instant.le_antisymm older newer⟩
  · rintro ⟨equal, same⟩
    have together := Instant.le_of_eq same
    have together' := Instant.le_of_eq same.symm
    exact ⟨.inr ⟨equal.symm, together'⟩, .inr ⟨equal, together⟩⟩

theorem arranges_apply (filter : SignalFilter) (views : List OperatorView) :
    filter.Arranges views (filter.apply views) := by
  refine ⟨apply_perm filter views, ?_, ?_, ?_⟩
  · intro newest
    rw [apply, newest]
    exact List.filter_sublist
  · intro signal
    rw [apply, signal]
    have sorted := List.pairwise_mergeSort signalOrder_trans signalOrder_total
      (views.filter filter.accepts)
    exact sorted.imp signalOrder_iff.mp
  · intro signal view
    rw [apply, signal]
    have kept := filter_tied_mergeSort signalOrder_trans signalOrder_total
      (views.filter filter.accepts) view
    simpa only [funext (tied_signalOrder view)] using kept

/-! ## Filtering and sorting one after the other -/

theorem filter_accepts_sorting (sort : ReportSort) (views : List OperatorView) :
    views.filter (sorting sort).accepts = views :=
  List.filter_eq_self.mpr fun _ _ => rfl

/-- What is filtered first and then sorted. -/
theorem apply_eq_sorting (filter : SignalFilter) (views : List OperatorView) :
    filter.apply views = (sorting filter.sort).apply (views.filter filter.accepts) := by
  rw [apply, apply, filter_accepts_sorting]
  rfl

/-- What is sorted first and then filtered. -/
theorem apply_eq_filter (filter : SignalFilter) (views : List OperatorView) :
    filter.apply views = ((sorting filter.sort).apply views).filter filter.accepts := by
  rw [apply, apply, filter_accepts_sorting, sorting]
  cases filter.sort with
  | newest => rfl
  | signal => exact (filter_mergeSort signalOrder_trans signalOrder_total filter.accepts views).symm

theorem apply_sorting_of_arranged {sort : ReportSort} {views : List OperatorView}
    (sorted : sort = .signal → views.Pairwise fun a b => signalOrder a b = true) :
    (sorting sort).apply views = views := by
  rw [apply, filter_accepts_sorting, sorting]
  cases sort with
  | newest => rfl
  | signal => exact List.mergeSort_of_pairwise (sorted rfl)

/-- A list that has been made by a filter is not changed by it. -/
theorem apply_apply (filter : SignalFilter) (views : List OperatorView) :
    filter.apply (filter.apply views) = filter.apply views := by
  have passing : (filter.apply views).filter filter.accepts = filter.apply views :=
    List.filter_eq_self.mpr fun view member => (mem_apply.mp member).2
  rw [apply_eq_sorting filter (filter.apply views), passing]
  refine apply_sorting_of_arranged fun signal => ?_
  exact ((arranges_apply filter views).signal signal).imp signalOrder_iff.mpr

/-- A filter accepts the views that meet its conditions, and returns them in the order asked for, those
that are level as they were given. Doing it again changes nothing, and views may be filtered before or
after they are sorted. -/
theorem apply_arranges (filter : SignalFilter) (views : List OperatorView) :
    (∀ view, filter.accepts view = true ↔ filter.Admits view) ∧
      filter.Arranges views (filter.apply views) ∧
      filter.apply (filter.apply views) = filter.apply views ∧
      filter.apply views = (sorting filter.sort).apply (views.filter filter.accepts) ∧
      filter.apply views = ((sorting filter.sort).apply views).filter filter.accepts :=
  ⟨fun _ => accepts_iff, arranges_apply filter views, apply_apply filter views,
    apply_eq_sorting filter views, apply_eq_filter filter views⟩

end SignalFilter

end AbandonedBikes
