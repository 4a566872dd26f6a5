/-!
# Sets of numbers

A set of report numbers is kept as the ascending list of its members, so that equal sets are equal
values and the list can be shown as it is.
-/

namespace AbandonedBikes

/-- Puts a number into an ascending list unless it is there already. -/
def insertAscending (n : Int) : List Int → List Int
  | [] => [n]
  | m :: rest =>
    if n < m then n :: m :: rest
    else if n = m then m :: rest
    else m :: insertAscending n rest

theorem mem_insertAscending {n k : Int} {ids : List Int} :
    k ∈ insertAscending n ids ↔ k = n ∨ k ∈ ids := by
  induction ids with
  | nil => simp [insertAscending]
  | cons m rest ih =>
    by_cases hlt : n < m
    · simp [insertAscending, hlt]
    · by_cases heq : n = m
      · subst heq
        simp [insertAscending]
      · simp only [insertAscending, hlt, heq, if_false, List.mem_cons, ih]
        grind

theorem pairwise_insertAscending {n : Int} {ids : List Int} (h : ids.Pairwise (· < ·)) :
    (insertAscending n ids).Pairwise (· < ·) := by
  induction ids with
  | nil => simp [insertAscending]
  | cons m rest ih =>
    obtain ⟨hm, hrest⟩ := List.pairwise_cons.mp h
    by_cases hlt : n < m
    · simp only [insertAscending, hlt, if_true]
      refine List.pairwise_cons.mpr ⟨fun k hk => ?_, h⟩
      rcases List.mem_cons.mp hk with rfl | hk
      · exact hlt
      · exact Int.lt_trans hlt (hm k hk)
    · by_cases heq : n = m
      · simpa [insertAscending, hlt, heq] using h
      · simp only [insertAscending, hlt, heq, if_false]
        refine List.pairwise_cons.mpr ⟨fun k hk => ?_, ih hrest⟩
        rcases mem_insertAscending.mp hk with rfl | hk
        · omega
        · exact hm k hk

/-- A finite set of numbers. -/
structure IdSet where
  ids : List Int
  ascending : ids.Pairwise (· < ·)
deriving DecidableEq

namespace IdSet

instance : Membership Int IdSet := ⟨fun set n => n ∈ set.ids⟩

instance (n : Int) (set : IdSet) : Decidable (n ∈ set) := inferInstanceAs (Decidable (n ∈ set.ids))

theorem mem_iff {n : Int} {set : IdSet} : n ∈ set ↔ n ∈ set.ids := Iff.rfl

def empty : IdSet := ⟨[], List.Pairwise.nil⟩

instance : Inhabited IdSet := ⟨empty⟩

/-- The set with one more member. -/
def insert (set : IdSet) (n : Int) : IdSet :=
  ⟨insertAscending n set.ids, pairwise_insertAscending set.ascending⟩

/-- The members of a list, in any order and with repetitions. -/
def ofList (ids : List Int) : IdSet := ids.foldl insert empty

/-- The members of either set. -/
def union (set other : IdSet) : IdSet := other.ids.foldl insert set

/-- The members of the first set that are not in the second. -/
def diff (set other : IdSet) : IdSet :=
  ⟨set.ids.filter fun n => decide (n ∉ other.ids), set.ascending.filter _⟩

def isEmpty (set : IdSet) : Bool := set.ids.isEmpty

@[simp] theorem mem_insert {n k : Int} {set : IdSet} : k ∈ set.insert n ↔ k = n ∨ k ∈ set :=
  mem_insertAscending

@[simp] theorem not_mem_empty {n : Int} : n ∉ empty := by simp [empty, mem_iff]

theorem mem_foldl_insert {k : Int} {ids : List Int} {set : IdSet} :
    k ∈ ids.foldl insert set ↔ k ∈ set ∨ k ∈ ids := by
  induction ids generalizing set with
  | nil => simp
  | cons n rest ih => simp only [List.foldl_cons, ih, mem_insert, List.mem_cons]; grind

@[simp] theorem mem_ofList {k : Int} {ids : List Int} : k ∈ ofList ids ↔ k ∈ ids := by
  simp [ofList, mem_foldl_insert]

@[simp] theorem mem_union {k : Int} {set other : IdSet} :
    k ∈ set.union other ↔ k ∈ set ∨ k ∈ other :=
  mem_foldl_insert

@[simp] theorem mem_diff {k : Int} {set other : IdSet} :
    k ∈ set.diff other ↔ k ∈ set ∧ k ∉ other := by
  simp [diff, mem_iff]

end IdSet

end AbandonedBikes
