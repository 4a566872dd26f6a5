import Mathlib.Data.List.Induction
import AbandonedBikes.Report.Matching
/-!
# The best match

Matching keeps a running best for each bike group and then looks through the groups. What comes out is
the leader of all scores at once: `GroupMatch.Leads` compares every score of every candidate, and says
nothing of the order in which they came. Two lists with the same scores have the same best match, up
to the sign of a zero. This holds of any way to score candidates, and `Matching.bestBy_chooses` says it
in their terms. `Matching.best?_chooses` is the case of the candidates that pass the gates.

The comparisons are those of doubles, so the scores have to be numbers.
-/

namespace AbandonedBikes

namespace GroupMatch

/-- A lower score yields to a higher one, and among equal scores the higher number to the lower. -/
def YieldsTo (a b : GroupMatch) : Prop :=
  Binary64.place a.score < Binary64.place b.score ∨
    (Binary64.place a.score = Binary64.place b.score ∧ b.group ≤ a.group)

theorem YieldsTo.refl (a : GroupMatch) : a.YieldsTo a := .inr ⟨rfl, Int.le_refl _⟩

theorem YieldsTo.trans {a b c : GroupMatch} (first : a.YieldsTo b) (second : b.YieldsTo c) :
    a.YieldsTo c := by
  unfold YieldsTo at *
  omega

/-- What decides between two matches. Scores are compared by their places, so zeros of both signs are
the same. -/
def rank (found : GroupMatch) : Int × Int := (Binary64.place found.score, found.group)

/-- Two that yield to each other rank the same. -/
theorem YieldsTo.antisymm {a b : GroupMatch} (first : a.YieldsTo b) (second : b.YieldsTo a) :
    a.rank = b.rank := by
  unfold YieldsTo at *
  refine Prod.ext ?_ ?_
  · change Binary64.place a.score = Binary64.place b.score
    omega
  · change a.group = b.group
    omega

/-- In one group it is enough to compare the scores. -/
theorem YieldsTo.of_le {a b : GroupMatch} (group : a.group = b.group)
    (score : Binary64.place a.score ≤ Binary64.place b.score) : a.YieldsTo b := by
  unfold YieldsTo
  omega

/-- The one that all yield to. -/
structure Leads (scored : List GroupMatch) (best : GroupMatch) : Prop where
  mem : best ∈ scored
  yields : ∀ other ∈ scored, other.YieldsTo best

/-- The order of the scores and their repetitions do not matter. -/
theorem Leads.rank_eq {xs ys : List GroupMatch} {a b : GroupMatch} (a_leads : Leads xs a)
    (b_leads : Leads ys b) (same : ∀ scored, scored ∈ xs ↔ scored ∈ ys) : a.rank = b.rank :=
  (b_leads.yields a ((same a).mp a_leads.mem)).antisymm
    (a_leads.yields b ((same b).mpr b_leads.mem))

end GroupMatch

namespace Matching

open GroupMatch

/-! ## Counting -/

section Counting

variable {next : GroupMatch} {best : List GroupMatch}

theorem mem_count {entry : GroupMatch} (h : entry ∈ count next.group next.score best) :
    entry = next ∨ entry ∈ best := by
  induction best with
  | nil => exact .inl (List.mem_singleton.mp h)
  | cons head rest ih =>
    simp only [count] at h
    split at h
    next => exact List.mem_cons.mp h
    next =>
      split at h
      next same =>
        rcases List.mem_cons.mp h with rfl | later
        · rcases Binary64.larger_eq_or head.score next.score with kept | taken
          · exact .inr (by simp [kept, same])
          · exact .inl (by simp [taken])
        · exact .inr (List.mem_cons_of_mem _ later)
      next =>
        rcases List.mem_cons.mp h with rfl | later
        · exact .inr List.mem_cons_self
        · exact (ih later).imp_right (List.mem_cons_of_mem _)

theorem ascending_count (ascending : best.Pairwise fun a b => a.group < b.group) :
    (count next.group next.score best).Pairwise fun a b => a.group < b.group := by
  induction best with
  | nil => exact List.pairwise_singleton _ _
  | cons head rest ih =>
    obtain ⟨head_rest, rest_ascending⟩ := List.pairwise_cons.mp ascending
    simp only [count]
    split
    next before =>
      refine List.pairwise_cons.mpr ⟨fun entry member => ?_, ascending⟩
      rcases List.mem_cons.mp member with rfl | later
      · exact before
      · exact Int.lt_trans before (head_rest entry later)
    next not_before =>
      split
      next same =>
        exact List.pairwise_cons.mpr ⟨fun entry later => same ▸ head_rest entry later, rest_ascending⟩
      next not_same =>
        refine List.pairwise_cons.mpr ⟨fun entry member => ?_, ih rest_ascending⟩
        rcases mem_count member with rfl | later
        · omega
        · exact head_rest entry later

/-- What was counted before and what is counted now yields to an entry. -/
theorem yields_count (numeric : ∀ entry ∈ next :: best, Binary64.isNaN entry.score = false) :
    ∀ scored ∈ next :: best, ∃ entry ∈ count next.group next.score best, scored.YieldsTo entry := by
  induction best with
  | nil => exact fun scored member => ⟨scored, member, .refl scored⟩
  | cons head rest ih =>
    have next_numeric := numeric next List.mem_cons_self
    have head_numeric := numeric head (by simp)
    simp only [count]
    split
    next => exact fun scored member => ⟨scored, member, .refl scored⟩
    next =>
      split
      next same =>
        intro scored member
        simp only [List.mem_cons] at member
        rcases member with rfl | rfl | later
        · exact ⟨_, List.mem_cons_self,
            .of_le rfl (Binary64.place_le_larger_right head_numeric next_numeric)⟩
        · exact ⟨_, List.mem_cons_self,
            .of_le same.symm (Binary64.place_le_larger_left head_numeric next_numeric)⟩
        · exact ⟨scored, List.mem_cons_of_mem _ later, .refl scored⟩
      next =>
        have rest_numeric : ∀ entry ∈ next :: rest, Binary64.isNaN entry.score = false :=
          fun entry member => numeric entry (List.cons_subset_cons _ (List.subset_cons_self _ _) member)
        have later_case : ∀ scored ∈ next :: rest,
            ∃ entry ∈ head :: count next.group next.score rest, scored.YieldsTo entry := by
          intro scored member
          obtain ⟨entry, counted, yields⟩ := ih rest_numeric scored member
          exact ⟨entry, List.mem_cons_of_mem _ counted, yields⟩
        intro scored member
        simp only [List.mem_cons] at member
        rcases member with rfl | rfl | later
        · exact later_case _ List.mem_cons_self
        · exact ⟨_, List.mem_cons_self, .refl _⟩
        · exact later_case _ (List.mem_cons_of_mem _ later)

end Counting

/-! ## The scores of the candidates -/

/-- The scores of the candidates that have one, each with its bike group. -/
def scored (score? : Report → Option Float) (candidates : List Report) : List GroupMatch :=
  candidates.filterMap fun candidate => (score? candidate).map (⟨candidate.bikeGroup, ·⟩)

section Scores

variable {score? : Report → Option Float} {candidates : List Report}

theorem mem_scored {entry : GroupMatch} : entry ∈ scored score? candidates ↔
    ∃ candidate ∈ candidates, candidate.bikeGroup = entry.group ∧
      score? candidate = some entry.score := by
  obtain ⟨group, score⟩ := entry
  simp only [scored, List.mem_filterMap, Option.map_eq_some_iff, GroupMatch.mk.injEq]
  grind

theorem scored_eq_nil_iff :
    scored score? candidates = [] ↔ ∀ candidate ∈ candidates, score? candidate = none := by
  simp [scored]

theorem bestPerGroup_concat (candidates : List Report) (candidate : Report) :
    bestPerGroup score? (candidates ++ [candidate]) =
      match score? candidate with
      | some score => count candidate.bikeGroup score (bestPerGroup score? candidates)
      | none => bestPerGroup score? candidates := by
  rw [bestPerGroup, List.foldl_append]
  rfl

/-- The best scores of the groups, against all scores. -/
structure Tally (scored best : List GroupMatch) : Prop where
  ascending : best.Pairwise fun a b => a.group < b.group
  subset : best ⊆ scored
  yields : ∀ other ∈ scored, ∃ entry ∈ best, other.YieldsTo entry

theorem Tally.count {scored best : List GroupMatch} (tally : Tally scored best) {next : GroupMatch}
    (numeric : ∀ entry ∈ scored ++ [next], Binary64.isNaN entry.score = false) :
    Tally (scored ++ [next]) (count next.group next.score best) where
  ascending := ascending_count tally.ascending
  subset := by
    intro entry counted
    rcases mem_count counted with rfl | before
    · simp
    · exact List.mem_append_left _ (tally.subset before)
  yields := by
    have here : ∀ entry ∈ next :: best, Binary64.isNaN entry.score = false := by
      intro entry member
      rcases List.mem_cons.mp member with rfl | before
      · exact numeric _ (by simp)
      · exact numeric _ (List.mem_append_left _ (tally.subset before))
    intro other member
    rcases List.mem_append.mp member with earlier | now
    · obtain ⟨entry, before, yields⟩ := tally.yields other earlier
      obtain ⟨kept, counted, onward⟩ := yields_count here entry (List.mem_cons_of_mem _ before)
      exact ⟨kept, counted, yields.trans onward⟩
    · obtain rfl := List.mem_singleton.mp now
      exact yields_count here other List.mem_cons_self

theorem tally_bestPerGroup
    (numeric : ∀ entry ∈ scored score? candidates, Binary64.isNaN entry.score = false) :
    Tally (scored score? candidates) (bestPerGroup score? candidates) := by
  induction candidates using List.reverseRecOn with
  | nil => exact ⟨.nil, List.Subset.refl _, fun _ member => absurd member List.not_mem_nil⟩
  | append_singleton candidates candidate ih =>
    rw [bestPerGroup_concat]
    cases score : score? candidate with
    | none =>
      have nothing : scored score? (candidates ++ [candidate]) = scored score? candidates := by
        simp [scored, score]
      rw [nothing] at numeric ⊢
      exact ih numeric
    | some value =>
      have one_more : scored score? (candidates ++ [candidate]) =
          scored score? candidates ++ [⟨candidate.bikeGroup, value⟩] := by
        simp [scored, score]
      rw [one_more] at numeric ⊢
      exact (ih fun entry member => numeric entry (List.mem_append_left _ member)).count numeric

end Scores

/-! ## The winner -/

/-- In a list of groups by ascending number, keeping the first of equal scores finds the leader. -/
theorem foldl_prefer {winner : GroupMatch} {rest : List GroupMatch}
    (ascending : (winner :: rest).Pairwise fun a b => a.group < b.group)
    (numeric : ∀ entry ∈ winner :: rest, Binary64.isNaN entry.score = false) :
    ∃ best, rest.foldl prefer (some winner) = some best ∧ Leads (winner :: rest) best := by
  induction rest generalizing winner with
  | nil =>
    exact ⟨winner, rfl, List.mem_cons_self,
      fun other member => List.mem_singleton.mp member ▸ .refl winner⟩
  | cons next rest ih =>
    obtain ⟨winner_first, rest_ascending⟩ := List.pairwise_cons.mp ascending
    have comparison := Binary64.less_iff (numeric winner (by simp)) (numeric next (by simp))
    rw [List.foldl_cons, prefer]
    split
    next higher =>
      obtain ⟨best, found, mem, yields⟩ := ih rest_ascending
        fun entry member => numeric entry (List.mem_cons_of_mem _ member)
      refine ⟨best, found, List.mem_cons_of_mem _ mem, fun other member => ?_⟩
      rcases List.mem_cons.mp member with rfl | later
      · exact YieldsTo.trans (.inl (comparison.mp higher)) (yields next List.mem_cons_self)
      · exact yields other later
    next not_higher =>
      have within : winner :: rest ⊆ winner :: next :: rest :=
        List.cons_subset_cons _ (List.subset_cons_self _ _)
      have next_yields : next.YieldsTo winner := by
        have later := winner_first next List.mem_cons_self
        have := mt comparison.mpr not_higher
        unfold YieldsTo
        omega
      have still_ascending : (winner :: rest).Pairwise fun a b => a.group < b.group :=
        ascending.sublist (List.Sublist.cons_cons winner (List.sublist_cons_self next rest))
      obtain ⟨best, found, mem, yields⟩ := ih still_ascending
        fun entry member => numeric entry (within member)
      refine ⟨best, found, within mem, fun other member => ?_⟩
      simp only [List.mem_cons] at member
      rcases member with rfl | rfl | later
      · exact yields _ List.mem_cons_self
      · exact next_yields.trans (yields winner List.mem_cons_self)
      · exact yields _ (List.mem_cons_of_mem _ later)

section Best

variable {score? : Report → Option Float} {candidates : List Report} {best : GroupMatch}
  (numeric : ∀ entry ∈ scored score? candidates, Binary64.isNaN entry.score = false)

include numeric

/-- There is no best match without a candidate that has a score, and otherwise it leads all scores. -/
theorem bestBy_cases : (bestBy score? candidates = none ∧ scored score? candidates = []) ∨
    ∃ best, bestBy score? candidates = some best ∧ Leads (scored score? candidates) best := by
  have tally := tally_bestPerGroup numeric
  unfold bestBy
  cases groups : bestPerGroup score? candidates with
  | nil =>
    rw [groups] at tally
    refine .inl ⟨rfl, List.eq_nil_iff_forall_not_mem.mpr fun entry member => ?_⟩
    obtain ⟨_, impossible, _⟩ := tally.yields entry member
    exact absurd impossible List.not_mem_nil
  | cons first rest =>
    rw [groups] at tally
    obtain ⟨best, found, mem, yields⟩ := foldl_prefer tally.ascending
      fun entry member => numeric entry (tally.subset member)
    refine .inr ⟨best, found, tally.subset mem, fun other member => ?_⟩
    obtain ⟨entry, counted, below⟩ := tally.yields other member
    exact below.trans (yields entry counted)

/-- There is no best match just when no candidate has a score. -/
theorem bestBy_eq_none_iff :
    bestBy score? candidates = none ↔ ∀ candidate ∈ candidates, score? candidate = none := by
  rw [← scored_eq_nil_iff]
  rcases bestBy_cases numeric with ⟨nothing, empty⟩ | ⟨best, found, leads⟩
  · simp [nothing, empty]
  · simp [found, List.ne_nil_of_mem leads.mem]

theorem leads_of_bestBy (found : bestBy score? candidates = some best) :
    Leads (scored score? candidates) best := by
  rcases bestBy_cases numeric with ⟨nothing, _⟩ | ⟨other, other_found, leads⟩
  · rw [nothing] at found
    injection found
  · rw [other_found] at found
    injection found with same
    exact same ▸ leads

end Best

section Order

variable {score? : Report → Option Float} {xs ys : List Report}
  (numeric : ∀ entry ∈ scored score? ys, Binary64.isNaN entry.score = false)
  (same : ∀ entry, entry ∈ scored score? xs ↔ entry ∈ scored score? ys)

include numeric same

/-- The best match depends on the scores alone. -/
theorem bestBy_rank_eq :
    (bestBy score? xs).map GroupMatch.rank = (bestBy score? ys).map GroupMatch.rank := by
  have also_numeric : ∀ entry ∈ scored score? xs, Binary64.isNaN entry.score = false :=
    fun entry member => numeric entry ((same entry).mp member)
  rcases bestBy_cases also_numeric with ⟨none_x, empty_x⟩ | ⟨a, some_x, a_leads⟩ <;>
    rcases bestBy_cases numeric with ⟨none_y, empty_y⟩ | ⟨b, some_y, b_leads⟩
  · rw [none_x, none_y]
  · simpa [empty_x] using (same b).mpr b_leads.mem
  · simpa [empty_y] using (same a).mp a_leads.mem
  · simp [some_x, some_y, a_leads.rank_eq b_leads same]

theorem bestBy_group_eq :
    (bestBy score? xs).map GroupMatch.group = (bestBy score? ys).map GroupMatch.group := by
  have ranks := congrArg (Option.map Prod.snd) (bestBy_rank_eq numeric same)
  rw [Option.map_map, Option.map_map] at ranks
  exact ranks

/-- If no two scores are zeros of different signs, the scores decide about the score as well. -/
theorem bestBy_eq_of_apart
    (apart : ∀ a ∈ scored score? ys, ∀ b ∈ scored score? ys,
      Binary64.place a.score = Binary64.place b.score → a.score = b.score) :
    bestBy score? xs = bestBy score? ys := by
  have ranks := bestBy_rank_eq numeric same
  have also_numeric : ∀ entry ∈ scored score? xs, Binary64.isNaN entry.score = false :=
    fun entry member => numeric entry ((same entry).mp member)
  cases some_x : bestBy score? xs with
  | none =>
    rw [some_x, Option.map_none, eq_comm, Option.map_eq_none_iff] at ranks
    exact ranks.symm
  | some a =>
    rw [some_x, Option.map_some, eq_comm, Option.map_eq_some_iff] at ranks
    obtain ⟨b, some_y, rank⟩ := ranks
    have a_mem := (same a).mp (leads_of_bestBy also_numeric some_x).mem
    have b_mem := (leads_of_bestBy numeric some_y).mem
    obtain ⟨place, group⟩ := Prod.ext_iff.mp rank
    have score := apart b b_mem a a_mem place
    have equal : b = a := by
      cases a
      cases b
      cases score
      cases group
      rfl
    rw [some_y, equal]

end Order

/-! ## What is chosen -/

/-- The choice of a bike group among all candidates at once. -/
structure Chooses (score? : Report → Option Float) (candidates : List Report) (best : GroupMatch) :
    Prop where
  /-- A candidate of the group has the score. -/
  reached : ∃ candidate ∈ candidates, candidate.bikeGroup = best.group ∧
    score? candidate = some best.score
  /-- No candidate scores higher. -/
  highest : ∀ candidate ∈ candidates, ∀ score, score? candidate = some score →
    Binary64.place score ≤ Binary64.place best.score
  /-- No candidate of a lower group scores as high. -/
  lowest : ∀ candidate ∈ candidates, ∀ score, score? candidate = some score →
    Binary64.place score = Binary64.place best.score → best.group ≤ candidate.bikeGroup

section Choice

variable {score? : Report → Option Float} {candidates : List Report} {best : GroupMatch}

theorem chooses_of_leads (leads : Leads (scored score? candidates) best) :
    Chooses score? candidates best := by
  have yields {candidate : Report} (member : candidate ∈ candidates) {score : Float}
      (found : score? candidate = some score) :
      GroupMatch.YieldsTo ⟨candidate.bikeGroup, score⟩ best :=
    leads.yields _ (mem_scored.mpr ⟨candidate, member, rfl, found⟩)
  constructor
  · exact mem_scored.mp leads.mem
  · intro candidate member score found
    rcases yields member found with lower | ⟨equal, _⟩
    · exact Int.le_of_lt lower
    · exact Int.le_of_eq equal
  · intro candidate member score found equal
    rcases yields member found with lower | ⟨_, group⟩
    · exact absurd equal (Int.ne_of_lt lower)
    · exact group

/-- The running bests of the groups come to the choice among all candidates, whatever their order and
whatever the scores are, as long as they are numbers. -/
theorem bestBy_chooses (numeric : ∀ candidate ∈ candidates, ∀ score,
      score? candidate = some score → Binary64.isNaN score = false) :
    (bestBy score? candidates = none ↔ ∀ candidate ∈ candidates, score? candidate = none) ∧
      (∀ best, bestBy score? candidates = some best → Chooses score? candidates best) ∧
      ∀ others : List Report, others.Perm candidates →
        (bestBy score? others).map GroupMatch.rank =
            (bestBy score? candidates).map GroupMatch.rank ∧
          ((∀ a ∈ scored score? candidates, ∀ b ∈ scored score? candidates,
              Binary64.place a.score = Binary64.place b.score → a.score = b.score) →
            bestBy score? others = bestBy score? candidates) := by
  have scores : ∀ entry ∈ scored score? candidates, Binary64.isNaN entry.score = false := by
    intro entry member
    obtain ⟨candidate, candidate_member, _, score⟩ := mem_scored.mp member
    exact numeric candidate candidate_member entry.score score
  refine ⟨bestBy_eq_none_iff scores, fun best found => chooses_of_leads (leads_of_bestBy scores found),
    fun others permuted => ?_⟩
  have same : ∀ entry, entry ∈ scored score? others ↔ entry ∈ scored score? candidates :=
    fun _ => (permuted.filterMap _).mem_iff
  exact ⟨bestBy_rank_eq scores same, bestBy_eq_of_apart scores same⟩

end Choice

/-! ## The matching -/

section Gates

variable [Trigonometry]

/-- Whether a candidate passes the gates: status, window, tags and radius. -/
structure Passes (matching : Matching) (candidate : Report) : Prop where
  status : candidate.status ≠ .invalid
  window : ¬ candidate.createdAt < matching.since
  tags : Score.shareTag matching.tags candidate.tags = true
  radius : ¬ matching.radius < matching.point.distance candidate.location.point

variable {matching : Matching}

theorem score?_isSome_iff {candidate : Report} :
    (matching.score? candidate).isSome = true ↔ matching.Passes candidate := by
  unfold score?
  constructor
  · intro scored
    split at scored
    next => simp at scored
    next current =>
      split at scored
      next tags =>
        simp only at scored
        split at scored
        next => simp at scored
        next near =>
          exact ⟨fun invalid => current (.inl invalid), fun old => current (.inr old), tags, near⟩
      next => simp at scored
  · intro ⟨status, window, tags, radius⟩
    simp [status, window, tags, radius]

instance (matching : Matching) (candidate : Report) : Decidable (matching.Passes candidate) :=
  decidable_of_iff _ score?_isSome_iff

theorem score?_eq_none_iff {candidate : Report} :
    matching.score? candidate = none ↔ ¬ matching.Passes candidate := by
  rw [← score?_isSome_iff, Option.not_isSome_iff_eq_none]

/-- The choice among the candidates that pass the gates: the highest score, and among equal scores the
lowest group. Neither depends on the order of the candidates. -/
theorem best?_chooses {candidates : List Report}
    (numeric : ∀ candidate ∈ candidates, ∀ score,
      matching.score? candidate = some score → Binary64.isNaN score = false) :
    (matching.best? candidates = none ↔ ∀ candidate ∈ candidates, ¬ matching.Passes candidate) ∧
      (∀ best, matching.best? candidates = some best →
        Chooses matching.score? candidates best ∧
          ∃ candidate ∈ candidates, matching.Passes candidate ∧ candidate.bikeGroup = best.group) ∧
      ∀ others : List Report, others.Perm candidates →
        (matching.best? others).map GroupMatch.rank =
            (matching.best? candidates).map GroupMatch.rank ∧
          ((∀ a ∈ scored matching.score? candidates, ∀ b ∈ scored matching.score? candidates,
              Binary64.place a.score = Binary64.place b.score → a.score = b.score) →
            matching.best? others = matching.best? candidates) := by
  obtain ⟨none_iff, chooses, same⟩ := bestBy_chooses numeric
  simp only [score?_eq_none_iff] at none_iff
  refine ⟨none_iff, fun best found => ?_, same⟩
  have choice := chooses best found
  obtain ⟨candidate, member, group, score⟩ := choice.reached
  have passes : matching.Passes candidate := score?_isSome_iff.mp (by rw [score]; rfl)
  exact ⟨choice, candidate, member, passes, group⟩

end Gates

/-- Two groups have the same best score. The lower one is taken, although its candidate comes later, and
neither the group with a lower number and a lower score nor what is too far away, too old or invalid. -/
theorem best?_chooses_lowest_of_tied :
    let _ : Trigonometry := .series
    let day (n : Int) : Instant := .atSecond (n * 86400)
    let matching : Matching :=
      ⟨⟨0.0, 0.0⟩, ["rusty", "flat_tires"], day 20200, day 20020, 10.0, 180⟩
    let here : Report :=
      { (default : Report) with createdAt := day 20200, tags := ["rusty"], bikeGroup := 1 }
    let candidates : List Report :=
      [{ here with location := ⟨0.0, 0.001, 5.0⟩ }, { here with createdAt := day 20000 },
        { here with status := .invalid }, { here with bikeGroup := 5 },
        { here with location := ⟨0.0, 0.00004, 5.0⟩, createdAt := day 20110, bikeGroup := 2 },
        { here with bikeGroup := 4 }, { here with createdAt := day 20110, bikeGroup := 4 }]
    (∀ candidate ∈ candidates, ∀ score,
        matching.score? candidate = some score → Binary64.isNaN score = false) ∧
      candidates.map matching.score? =
        [none, none, none, some 0.875, some 0.5331, some 0.875, some 0.8] ∧
      ∃ best, matching.best? candidates = some best ∧ best.group = 4 ∧ best.score = 0.875 ∧
        Chooses matching.score? candidates best ∧
        ∀ others : List Report, others.Perm candidates →
          (matching.best? others).map GroupMatch.group = some 4 := by
  intro platform day matching here candidates
  have scores : candidates.map matching.score? =
      [none, none, none, some 0.875, some 0.5331, some 0.875, some 0.8] := by decide +kernel
  have numbers : ∀ found ∈ candidates.map matching.score?, ∀ score ∈ found,
      Binary64.isNaN score = false := by
    rw [scores]
    decide +kernel
  have numeric : ∀ candidate ∈ candidates, ∀ score,
      matching.score? candidate = some score → Binary64.isNaN score = false :=
    fun candidate member score found => numbers _ (List.mem_map_of_mem member) score found
  have winner : (matching.best? candidates).map (fun best => (best.group, best.score)) =
      some (4, 0.875) := by decide +kernel
  obtain ⟨best, found, four⟩ := Option.map_eq_some_iff.mp winner
  obtain ⟨group, score⟩ := Prod.mk.inj four
  obtain ⟨_, chooses, same⟩ := best?_chooses numeric
  refine ⟨numeric, scores, best, found, group, score, (chooses best found).1, fun others permuted => ?_⟩
  have groups := congrArg (Option.map Prod.snd) (same others permuted).1
  rw [Option.map_map, Option.map_map, found] at groups
  exact groups.trans (congrArg some group)

end Matching

end AbandonedBikes
