import Mathlib.Data.List.Nodup
import AbandonedBikes.Report.Duplicates
/-!
# The ranking of duplicates

As long as the scores are numbers and no two candidates have the same report number, no two suggestions
rank equal. The ranking is then the same for every order of the candidates.

`DuplicateSearch.rank?_ranking` says what the ranking is: the first suggestions of the only order in which
each one comes before the next, so that a higher limit only goes on with it.
-/

namespace AbandonedBikes.DuplicateSearch

/-- The suggestions for the candidates that get one. -/
def scored (suggest? : Report → Option Suggestion) (candidates : List Report) : List Suggestion :=
  candidates.filterMap suggest?

/-! ## The order of the suggestions -/

/-- One suggestion stands before another one if its score is higher, and among equal scores if its report
is the newer one. -/
def Before (a b : Suggestion) : Prop :=
  Binary64.place b.score < Binary64.place a.score ∨
    (Binary64.place a.score = Binary64.place b.score ∧ b.report < a.report)

section Order

variable {a b : Suggestion} (ha : Binary64.isNaN a.score = false)
  (hb : Binary64.isNaN b.score = false)
include ha hb

theorem precedes_iff : precedes a b = true ↔ Before a b := by
  unfold Before
  simp only [precedes, Binary64.less_iff hb ha, Binary64.less_iff ha hb]
  split
  next higher => simp [higher]
  next =>
    split
    next lower =>
      simp only [Bool.false_eq_true, false_iff]
      omega
    next =>
      rw [decide_eq_true_iff]
      omega

theorem precedes_eq_false_iff :
    precedes a b = false ↔ Binary64.place a.score < Binary64.place b.score ∨
      (Binary64.place a.score = Binary64.place b.score ∧ a.report ≤ b.report) := by
  rw [← Bool.not_eq_true, precedes_iff ha hb, Before]
  omega

end Order

/-- Numbers do not contradict each other. -/
theorem ranks_of_numbers {suggestions : List Suggestion}
    (numeric : ∀ suggestion ∈ suggestions, Binary64.isNaN suggestion.score = false) :
    Ranks precedes suggestions where
  asymm a ha b hb first := by
    rw [precedes_iff (numeric a ha) (numeric b hb), Before] at first
    rw [precedes_eq_false_iff (numeric b hb) (numeric a ha)]
    omega
  trans a ha b hb c hc first second := by
    rw [precedes_eq_false_iff (numeric a ha) (numeric b hb)] at first
    rw [precedes_eq_false_iff (numeric b hb) (numeric c hc)] at second
    rw [precedes_eq_false_iff (numeric a ha) (numeric c hc)]
    omega

/-! ## Ranking -/

/-- A suggestion names the candidate that it is for. -/
def Names (suggest? : Report → Option Suggestion) : Prop :=
  ∀ candidate suggestion, suggest? candidate = some suggestion → suggestion.report = candidate.id

section Ranking

variable {suggest? : Report → Option Suggestion} {limit : Nat} {candidates : List Report}

/-- Suggestions of equal rank are the same, since they are for the same report. -/
theorem eq_of_not_precedes (names : Names suggest?)
    (distinct : ∀ a ∈ candidates, ∀ b ∈ candidates, a.id = b.id → a = b)
    (numeric : ∀ suggestion ∈ scored suggest? candidates, Binary64.isNaN suggestion.score = false)
    {a b : Suggestion} (ha : a ∈ scored suggest? candidates) (hb : b ∈ scored suggest? candidates)
    (first : precedes a b = false) (second : precedes b a = false) : a = b := by
  rw [precedes_eq_false_iff (numeric a ha) (numeric b hb)] at first
  rw [precedes_eq_false_iff (numeric b hb) (numeric a ha)] at second
  have same : a.report = b.report := by omega
  obtain ⟨x, x_mem, x_suggested⟩ := List.mem_filterMap.mp ha
  obtain ⟨y, y_mem, y_suggested⟩ := List.mem_filterMap.mp hb
  rw [names x a x_suggested, names y b y_suggested] at same
  have := distinct x x_mem y y_mem same
  subst this
  exact Option.some.inj (x_suggested.symm.trans y_suggested)

theorem rankBy_of_numbers
    (numeric : ∀ suggestion ∈ scored suggest? candidates, Binary64.isNaN suggestion.score = false) :
    rankBy suggest? limit candidates =
      some ((insertionSort precedes (scored suggest? candidates)).take limit) := by
  rw [rankBy]
  exact congrArg (Option.map _) (sort?_of_numbers numeric)

/-- The ranking does not depend on the order in which the suggestions are found. -/
theorem rankBy_eq_of_perm (names : Names suggest?) {xs ys : List Report}
    (distinct : ∀ a ∈ ys, ∀ b ∈ ys, a.id = b.id → a = b)
    (numeric : ∀ suggestion ∈ scored suggest? ys, Binary64.isNaN suggestion.score = false)
    (same : (scored suggest? xs).Perm (scored suggest? ys)) :
    rankBy suggest? limit xs = rankBy suggest? limit ys := by
  have also_numeric : ∀ suggestion ∈ scored suggest? xs, Binary64.isNaN suggestion.score = false :=
    fun suggestion member => numeric suggestion (same.mem_iff.mp member)
  rw [rankBy_of_numbers also_numeric, rankBy_of_numbers numeric]
  rw [insertionSort_eq_of_perm (ranks_of_numbers numeric)
    (fun a ha b hb => eq_of_not_precedes names distinct numeric ha hb) same.symm]

end Ranking

/-! ## The first suggestions -/

/-- The suggestions that are shown for some candidates. -/
structure Ranking (suggest? : Report → Option Suggestion) (limit : Nat) (candidates : List Report)
    (ranked : List Suggestion) : Prop where
  /-- They are the first ones of all suggestions in their order. -/
  first : ∃ order : List Suggestion, order.Perm (scored suggest? candidates) ∧ order.Pairwise Before ∧
    ranked = order.take limit
  length : ranked.length = min limit (scored suggest? candidates).length
  suggested : ∀ suggestion ∈ ranked, ∃ candidate ∈ candidates,
    candidate.id = suggestion.report ∧ suggest? candidate = some suggestion
  nodup : (ranked.map Suggestion.report).Nodup
  /-- What is left out comes after everything that is shown. -/
  left_out : ∀ other ∈ scored suggest? candidates, other ∉ ranked →
    ∀ suggestion ∈ ranked, Before suggestion other

section Numbered

variable {suggest? : Report → Option Suggestion} {candidates : List Report}
  (names : Names suggest?) (numbers : (candidates.map Report.id).Nodup)

include names numbers

/-- Each candidate is suggested once. -/
theorem nodup_reports_scored : ((scored suggest? candidates).map Suggestion.report).Nodup := by
  have apart : candidates.Pairwise fun a b => a.id ≠ b.id := List.pairwise_map.mp numbers
  refine List.pairwise_map.mpr (List.pairwise_filterMap.mpr (apart.imp ?_))
  intro a b different x x_suggested y y_suggested
  rwa [names a x x_suggested, names b y y_suggested]

variable (numeric : ∀ suggestion ∈ scored suggest? candidates,
  Binary64.isNaN suggestion.score = false)

include numeric

/-- The sorted suggestions are in a strict order. -/
theorem pairwise_before :
    (insertionSort precedes (scored suggest? candidates)).Pairwise Before := by
  have perm := perm_insertionSort precedes (scored suggest? candidates)
  have sorted := pairwise_insertionSort (ranks_of_numbers numeric)
  have apart : (insertionSort precedes (scored suggest? candidates)).Pairwise
      fun a b => a.report ≠ b.report :=
    List.pairwise_map.mp
      ((perm.map Suggestion.report).nodup_iff.mpr (nodup_reports_scored names numbers))
  refine (sorted.and apart).imp_of_mem ?_
  intro a b a_mem b_mem ⟨not_first, different⟩
  have a_number := numeric a (perm.mem_iff.mp a_mem)
  have b_number := numeric b (perm.mem_iff.mp b_mem)
  rw [precedes_eq_false_iff b_number a_number] at not_first
  unfold Before
  omega

theorem ranking_take (limit : Nat) :
    Ranking suggest? limit candidates
      ((insertionSort precedes (scored suggest? candidates)).take limit) := by
  have perm := perm_insertionSort precedes (scored suggest? candidates)
  have sorted := pairwise_before names numbers numeric
  constructor
  · exact ⟨_, perm, sorted, rfl⟩
  · rw [List.length_take, perm.length_eq]
  · intro suggestion member
    obtain ⟨candidate, candidate_mem, suggested⟩ :=
      List.mem_filterMap.mp (perm.mem_iff.mp (List.mem_of_mem_take member))
    exact ⟨candidate, candidate_mem, (names candidate suggestion suggested).symm, suggested⟩
  · have all := (perm.map Suggestion.report).nodup_iff.mpr (nodup_reports_scored names numbers)
    exact all.sublist ((List.take_sublist _ _).map Suggestion.report)
  · intro other member absent suggestion shown
    have later : other ∈ (insertionSort precedes (scored suggest? candidates)).drop limit := by
      have somewhere := perm.mem_iff.mpr member
      rw [← List.take_append_drop limit (insertionSort precedes (scored suggest? candidates)),
        List.mem_append] at somewhere
      exact somewhere.resolve_left absent
    exact sorted.rel_of_mem_take_of_mem_drop shown later

end Numbered

/-- Candidates with different numbers are ranked by their scores and numbers alone, whatever the scores
are, as long as they are numbers, and the limit cuts the ranking off. -/
theorem rankBy_ranking {suggest? : Report → Option Suggestion} {limit : Nat} {candidates : List Report}
    (names : Names suggest?) (numbers : (candidates.map Report.id).Nodup)
    (numeric : ∀ candidate ∈ candidates, ∀ suggestion,
      suggest? candidate = some suggestion → Binary64.isNaN suggestion.score = false) :
    ∃ ranked, rankBy suggest? limit candidates = some ranked ∧
      Ranking suggest? limit candidates ranked ∧
      (∀ fewer ≤ limit, ∃ shorter,
        rankBy suggest? fewer candidates = some shorter ∧ shorter <+: ranked) ∧
      ∀ others : List Report, others.Perm candidates →
        rankBy suggest? limit others = some ranked := by
  have scores : ∀ suggestion ∈ scored suggest? candidates,
      Binary64.isNaN suggestion.score = false := by
    intro suggestion member
    obtain ⟨candidate, candidate_mem, suggested⟩ := List.mem_filterMap.mp member
    exact numeric candidate candidate_mem suggestion suggested
  have answer := @rankBy_of_numbers suggest? limit candidates scores
  refine ⟨_, answer, ranking_take names numbers scores limit, ?_, ?_⟩
  · intro fewer le_limit
    exact ⟨_, rankBy_of_numbers scores, List.take_prefix_take_left le_limit⟩
  · intro others permuted
    have distinct : ∀ a ∈ candidates, ∀ b ∈ candidates, a.id = b.id → a = b :=
      fun a a_mem b b_mem same => List.inj_on_of_nodup_map numbers a_mem b_mem same
    rw [rankBy_eq_of_perm names distinct scores (permuted.filterMap _), answer]

/-! ## The search -/

section Search

variable [Trigonometry] {search : DuplicateSearch}

/-- Whether a candidate passes the gates: another report, still open, within window and radius. -/
structure Passes (search : DuplicateSearch) (candidate : Report) : Prop where
  other : candidate.id ≠ search.report.id
  status : candidate.status.isOpen = true
  window : ¬ candidate.createdAt < search.since
  radius : ¬ search.radius < search.report.location.point.distance candidate.location.point

theorem suggest?_isSome_iff {candidate : Report} :
    (search.suggest? candidate).isSome = true ↔ search.Passes candidate := by
  unfold suggest?
  constructor
  · intro suggested
    split at suggested
    next => simp at suggested
    next other =>
      simp only [not_or] at other
      simp only at suggested
      split at suggested
      next => simp at suggested
      next near => exact ⟨other.1, by simpa using other.2.1, other.2.2, near⟩
  · intro ⟨other, status, window, radius⟩
    simp [other, status, window, radius]

instance (search : DuplicateSearch) (candidate : Report) : Decidable (search.Passes candidate) :=
  decidable_of_iff _ suggest?_isSome_iff

theorem names_suggest? (search : DuplicateSearch) : Names search.suggest? := by
  intro candidate suggestion suggested
  unfold suggest? at suggested
  split at suggested
  next => simp at suggested
  next =>
    simp only at suggested
    split at suggested
    next => simp at suggested
    next =>
      injection suggested with same
      rw [← same]

/-- The reports that are shown are the first ones, by scores and numbers, of those that pass the gates. A
lower limit shows fewer of them, and the order of the candidates does not matter. -/
theorem rank?_ranking {candidates : List Report} (numbers : (candidates.map Report.id).Nodup)
    (numeric : ∀ candidate ∈ candidates, ∀ suggestion,
      search.suggest? candidate = some suggestion → Binary64.isNaN suggestion.score = false) :
    ∃ ranked, search.rank? candidates = some ranked ∧
      Ranking search.suggest? search.limit candidates ranked ∧
      (∀ suggestion ∈ ranked, ∃ candidate ∈ candidates, candidate.id = suggestion.report ∧
        search.Passes candidate) ∧
      (∀ fewer ≤ search.limit, ∃ shorter,
        { search with limit := fewer }.rank? candidates = some shorter ∧ shorter <+: ranked) ∧
      ∀ others : List Report, others.Perm candidates → search.rank? others = some ranked := by
  obtain ⟨ranked, answer, ranking, cut, same⟩ :=
    @rankBy_ranking search.suggest? search.limit candidates search.names_suggest? numbers numeric
  refine ⟨ranked, answer, ranking, fun suggestion member => ?_, cut, same⟩
  obtain ⟨candidate, candidate_mem, number, suggested⟩ := ranking.suggested suggestion member
  have passes : search.Passes candidate := suggest?_isSome_iff.mp (by rw [suggested]; rfl)
  exact ⟨candidate, candidate_mem, number, passes⟩

end Search

/-- Three candidates have the same score and one a better one, so with two places the newest of the three
is shown and the others are cut off. The report itself is left out, and so is what is resolved, too old or
too far away. -/
theorem rank?_ranking_tie_at_cut :
    let _ : Trigonometry := .series
    let day (n : Int) : Instant := .atSecond (n * 86400)
    let report : Report :=
      { (default : Report) with id := 1, createdAt := day 20200, tags := ["rusty", "flat_tires"] }
    let search : DuplicateSearch := ⟨report, day 20200, day 20170, 15.0, 30, 2⟩
    let near : Report := { report with location := ⟨0.0, 0.00004, 5.0⟩, tags := ["rusty"] }
    let candidates : List Report :=
      [{ near with id := 4 }, report, { near with id := 9 }, { near with id := 7, status := .resolved },
        { near with id := 3, tags := report.tags }, { near with id := 6 },
        { near with id := 8, createdAt := day 20160 },
        { near with id := 2, location := ⟨0.0, 0.001, 5.0⟩ }]
    (candidates.map Report.id).Nodup ∧
      (∀ candidate ∈ candidates, ∀ suggestion,
        search.suggest? candidate = some suggestion → Binary64.isNaN suggestion.score = false) ∧
      (candidates.map fun candidate => (search.suggest? candidate).map Suggestion.score) =
        [some 0.6971, none, some 0.6971, none, some 0.8221, some 0.6971, none, none] ∧
      ∃ ranked, ranked.map Suggestion.report = [3, 9] ∧
        Ranking search.suggest? 2 candidates ranked ∧
        ∀ others : List Report, others.Perm candidates → search.rank? others = some ranked := by
  intro platform day report search near candidates
  have scores : (candidates.map fun candidate => (search.suggest? candidate).map Suggestion.score) =
      [some 0.6971, none, some 0.6971, none, some 0.8221, some 0.6971, none, none] := by
    decide +kernel
  have numbers : ∀ found ∈
      candidates.map fun candidate => (search.suggest? candidate).map Suggestion.score,
      ∀ score ∈ found, Binary64.isNaN score = false := by
    rw [scores]
    decide +kernel
  have numeric : ∀ candidate ∈ candidates, ∀ suggestion,
      search.suggest? candidate = some suggestion → Binary64.isNaN suggestion.score = false := by
    intro candidate member suggestion suggested
    refine numbers _ (List.mem_map_of_mem member) _ ?_
    rw [suggested]
    rfl
  have distinct : (candidates.map Report.id).Nodup := by decide
  have shown : (search.rank? candidates).map (List.map Suggestion.report) = some [3, 9] := by
    decide +kernel
  obtain ⟨ranked, answer, ranking, _, _, same⟩ := rank?_ranking distinct numeric
  rw [answer] at shown
  exact ⟨distinct, numeric, scores, ranked, Option.some.inj shown, ranking, same⟩

end AbandonedBikes.DuplicateSearch
