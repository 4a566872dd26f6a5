import Mathlib.Data.List.Induction
import Mathlib.Data.List.Sort
import AbandonedBikes.Proofs.Locks.Consistency
/-!
# Who holds a key

The locks are used in steps: keys are asked for, and attempts are released, in any order. An attempt
`Holds` keys from its success to its release. The main statement is that the table keeps to this: no two
attempts hold a common key, an attempt fails just if another one holds one of its keys, and the table
tracks what is held and what was asked for last, nothing else.

`LockTable.Tried` says what one attempt does. A run is consistent by induction over its steps, and
`LockTable.holds_iff` reads off the table who holds what.
-/

namespace AbandonedBikes

/-- One use of the locks. -/
inductive LockStep (κ : Type) where
  | acquire (keys : List κ)
  | release (attempt : Nat)

def LockStep.isAcquire {κ : Type} : LockStep κ → Bool
  | .acquire _ => true
  | .release _ => false

namespace LockTable

/-! ## The keys of an attempt -/

section

variable {κ : Type} {table : LockTable κ}

/-- The keys that an attempt holds. -/
def keysOf (table : LockTable κ) (attempt : Nat) : Option (List κ) :=
  table.attempts[attempt]?.join.map fun slots => slots.map LockSlot.key

theorem keysOf_eq_some_iff {attempt : Nat} {keys : List κ} :
    table.keysOf attempt = some keys ↔
      ∃ slots, table.attempts[attempt]? = some (some slots) ∧
        slots.map LockSlot.key = keys := by
  simp only [keysOf, Option.map_eq_some_iff, Option.join_eq_some_iff]

@[simp] theorem keysOf_length : table.keysOf table.attempts.length = none := by
  simp [keysOf]

/-- A key is held by some attempt. -/
theorem mem_held_iff {key : κ} :
    key ∈ table.held ↔ ∃ attempt keys, table.keysOf attempt = some keys ∧ key ∈ keys := by
  simp only [held, guarded, List.mem_map, List.mem_flatMap]
  constructor
  · rintro ⟨slot, ⟨taken, member, guards⟩, rfl⟩
    cases taken with
    | none => exact absurd guards List.not_mem_nil
    | some slots =>
      obtain ⟨attempt, position⟩ := List.mem_iff_getElem?.mp member
      exact ⟨attempt, _, keysOf_eq_some_iff.mpr ⟨slots, position, rfl⟩, List.mem_map_of_mem guards⟩
  · rintro ⟨attempt, keys, holds, member⟩
    obtain ⟨slots, position, rfl⟩ := keysOf_eq_some_iff.mp holds
    obtain ⟨slot, guards, rfl⟩ := List.mem_map.mp member
    exact ⟨slot, ⟨some slots, List.mem_iff_getElem?.mpr ⟨attempt, position⟩, guards⟩, rfl⟩

/-- The keys of two attempts have nothing in common. -/
theorem Consistent.disjoint (consistent : table.Consistent) {attempt other : Nat}
    {keys others : List κ} (holds : table.keysOf attempt = some keys)
    (other_holds : table.keysOf other = some others) (different : attempt ≠ other) :
    keys.Disjoint others := by
  wlog earlier : attempt < other generalizing attempt other keys others
  · have apart := this other_holds holds different.symm (by omega)
    exact fun key member other_member => apart other_member member
  obtain ⟨slots, position, rfl⟩ := keysOf_eq_some_iff.mp holds
  obtain ⟨other_slots, other_position, rfl⟩ := keysOf_eq_some_iff.mp other_holds
  obtain ⟨bound, at_attempt⟩ := List.getElem?_eq_some_iff.mp position
  obtain ⟨other_bound, at_other⟩ := List.getElem?_eq_some_iff.mp other_position
  have nodup := consistent.nodup_held
  rw [held, guarded, List.map_flatMap, List.nodup_flatMap] at nodup
  have apart := List.pairwise_iff_getElem.mp nodup.2 attempt other bound other_bound earlier
  change List.Disjoint _ _ at apart
  rw [at_attempt, at_other] at apart
  exact apart

theorem keysOf_withAttempt (taken : Option (List (LockSlot κ))) (attempt : Nat) :
    (table.withAttempt taken).keysOf attempt =
      if attempt = table.attempts.length then taken.map fun slots => slots.map LockSlot.key
      else table.keysOf attempt := by
  rw [keysOf, keysOf, withAttempt]
  split
  next last => simp [last]
  next other =>
    rw [List.getElem?_append]
    split
    next => rfl
    next beyond =>
      rw [List.getElem?_eq_none (by simp only [List.length_singleton]; omega),
        List.getElem?_eq_none (by omega)]

theorem keysOf_release (released attempt : Nat) :
    (table.release released).2.keysOf attempt =
      if attempt = released then none else table.keysOf attempt := by
  rw [release_eq, keysOf, keysOf, List.getElem?_set]
  split
  next same =>
    rw [if_pos same.symm]
    split <;> rfl
  next other => rw [if_neg fun same => other same.symm]

end

variable {κ : Type} [LinearOrder κ] {table : LockTable κ}

/-! ## Keys in order -/

@[simp] theorem mem_dropRepeats {key : κ} {keys : List κ} :
    key ∈ dropRepeats keys ↔ key ∈ keys := by
  fun_induction dropRepeats keys with
  | case1 first rest ih => simp [ih]
  | case2 first next rest different ih => simp [ih]
  | case3 keys single => rfl

theorem pairwise_dropRepeats {keys : List κ} (sorted : keys.Pairwise (· ≤ ·)) :
    (dropRepeats keys).Pairwise (· < ·) := by
  fun_induction dropRepeats keys with
  | case1 first rest ih => exact ih (List.pairwise_cons.mp sorted).2
  | case2 first next rest different ih =>
    obtain ⟨least, sorted_rest⟩ := List.pairwise_cons.mp sorted
    refine List.pairwise_cons.mpr ⟨fun key member => ?_, ih sorted_rest⟩
    have before_next : first < next := lt_of_le_of_ne (least next List.mem_cons_self) different
    rcases List.mem_cons.mp (mem_dropRepeats.mp member) with rfl | later
    · exact before_next
    · exact lt_of_lt_of_le before_next ((List.pairwise_cons.mp sorted_rest).1 key later)
  | case3 keys single =>
    match keys, single with
    | [], _ => exact .nil
    | [key], _ => exact List.pairwise_singleton _ _
    | first :: next :: rest, single => exact absurd rfl (single first next rest)

@[simp] theorem mem_normalize {key : κ} {keys : List κ} : key ∈ normalize keys ↔ key ∈ keys := by
  simp [normalize]

theorem pairwise_normalize (keys : List κ) : (normalize keys).Pairwise (· < ·) :=
  pairwise_dropRepeats (List.pairwise_mergeSort' (· ≤ ·) keys)

theorem nodup_normalize (keys : List κ) : (normalize keys).Nodup :=
  (pairwise_normalize keys).imp ne_of_lt

/-! ## One attempt -/

/-- What an attempt answers and does. -/
structure Tried (table : LockTable κ) (asked : List κ) (answer : Option (List κ))
    (after : LockTable κ) : Prop where
  fails_iff : answer = none ↔ ∃ key ∈ asked, key ∈ table.held
  eq_normalize : ∀ keys, answer = some keys → keys = normalize asked
  mem_keys : ∀ key, key ∈ after.keys ↔ key ∈ table.held ∨ key ∈ asked
  /-- A held key keeps its lock. -/
  kept : ∀ slot ∈ table.guarded, slot ∈ after.slots
  length : after.attempts.length = table.attempts.length + 1
  keysOf : ∀ attempt, after.keysOf attempt =
    if attempt = table.attempts.length then answer else table.keysOf attempt
  consistent : after.Consistent

section

variable {asked : List κ} {slots : List (LockSlot κ)} {tracked : LockTable κ}
variable (consistent : table.Consistent)
variable (tracks : table.prune.Tracks (normalize asked) slots tracked)

include consistent tracks

/-- Whatever is taken of the slots that were looked up, the attempt does no more than that. -/
theorem tried_withAttempt {answer : Option (List κ)} {taken : Option (List (LockSlot κ))}
    (fails_iff : answer = none ↔ ∃ key ∈ asked, key ∈ table.held)
    (eq_normalize : ∀ keys, answer = some keys → keys = normalize asked)
    (keys_taken : (taken.map fun slots => slots.map LockSlot.key) = answer)
    (consistent_after : (tracked.withAttempt taken).Consistent) :
    table.Tried asked answer (tracked.withAttempt taken) where
  fails_iff := fails_iff
  eq_normalize := eq_normalize
  mem_keys key := by
    have known : key ∈ tracked.keys ↔ key ∈ table.prune.keys ∨ key ∈ normalize asked :=
      tracks.mem_keys key
    rwa [consistent.mem_keys_prune_iff, mem_normalize] at known
  kept slot guarded := tracks.kept slot (consistent.mem_prune_iff.mpr guarded)
  length := by
    have same : tracked.attempts = table.attempts := tracks.attempts
    rw [withAttempt, List.length_append, List.length_singleton, same]
  keysOf attempt := by
    have same : tracked.attempts = table.attempts := tracks.attempts
    rw [keysOf_withAttempt, keys_taken, keysOf, keysOf, same]
  consistent := consistent_after

theorem tried_free (free : ∀ key ∈ normalize asked, key ∉ table.held) :
    table.Tried asked (some (normalize asked)) (tracked.withAttempt (some slots)) := by
  refine tried_withAttempt consistent tracks (by simpa using free)
    (fun keys same => (Option.some.inj same).symm) (congrArg some tracks.keys) ?_
  refine tracks.consistent.withAttempt tracks.found ?_ ?_
  · exact List.Nodup.of_map LockSlot.key (tracks.keys ▸ nodup_normalize asked)
  · intro slot member guarded
    have asked_for : slot.key ∈ normalize asked := tracks.keys ▸ List.mem_map_of_mem member
    rw [tracks.guarded] at guarded
    exact free slot.key asked_for (List.mem_map_of_mem guarded)

theorem tried_blocked (blocked : ∃ key ∈ asked, key ∈ table.held) :
    table.Tried asked none (tracked.withAttempt none) :=
  tried_withAttempt consistent tracks (iff_of_true rfl blocked) nofun rfl
    (tracks.consistent.withAttempt (by simp) (by simp) (by simp))

end

theorem tried_acquire (consistent : table.Consistent) (asked : List κ) :
    table.Tried asked (table.acquire asked).1 (table.acquire asked).2 := by
  have tracks := tracks_trackAll consistent.prune (normalize asked)
  have can_iff := tracks.canGuard_iff (nodup_normalize asked)
  unfold acquire
  simp only
  split
  next can => exact tried_free consistent tracks (can_iff.mp can)
  next cannot =>
    rw [can_iff] at cannot
    simp only [not_forall, Decidable.not_not] at cannot
    obtain ⟨key, member, held⟩ := cannot
    exact tried_blocked consistent tracks ⟨key, mem_normalize.mp member, held⟩

/-! ## Runs -/

/-- The table after one more step. -/
def step (table : LockTable κ) : LockStep κ → LockTable κ
  | .acquire keys => (table.acquire keys).2
  | .release attempt => (table.release attempt).2

/-- The table after some steps, none of whose keys was known before. -/
def run (steps : List (LockStep κ)) : LockTable κ := steps.foldl step {}

@[simp] theorem run_concat (steps : List (LockStep κ)) (last : LockStep κ) :
    run (steps ++ [last]) = (run steps).step last := by
  simp [run]

theorem consistent_run (steps : List (LockStep κ)) : (run steps).Consistent := by
  induction steps using List.reverseRecOn with
  | nil => exact .empty
  | append_singleton earlier last ih =>
    rw [run_concat]
    cases last with
    | acquire keys => exact (tried_acquire ih keys).consistent
    | release attempt => exact ih.release attempt

theorem length_attempts_run (steps : List (LockStep κ)) :
    (run steps).attempts.length = steps.countP LockStep.isAcquire := by
  induction steps using List.reverseRecOn with
  | nil => rfl
  | append_singleton earlier last ih =>
    rw [run_concat, List.countP_append, ← ih]
    cases last with
    | acquire keys => exact (tried_acquire (consistent_run earlier) keys).length
    | release attempt =>
      rw [step, release_eq, List.length_set]
      rfl

/-- After some steps an attempt holds keys, since it succeeded and was not released. Attempts are
counted by the steps that ask for keys. -/
inductive Holds : List (LockStep κ) → Nat → List κ → Prop
  | acquired {steps : List (LockStep κ)} {asked keys : List κ}
      (succeeds : ((run steps).acquire asked).1 = some keys) :
    Holds (steps ++ [.acquire asked]) (steps.countP LockStep.isAcquire) keys
  | kept {steps : List (LockStep κ)} {attempt : Nat} {keys : List κ} (last : LockStep κ)
      (holds : Holds steps attempt keys) (unreleased : last ≠ .release attempt) :
    Holds (steps ++ [last]) attempt keys

theorem not_holds_nil {attempt : Nat} {keys : List κ} : ¬ Holds [] attempt keys := by
  generalize start : ([] : List (LockStep κ)) = steps
  rintro (_ | _) <;> simp at start

theorem holds_concat_iff {steps : List (LockStep κ)} {last : LockStep κ} {attempt : Nat}
    {keys : List κ} :
    Holds (steps ++ [last]) attempt keys ↔
      (Holds steps attempt keys ∧ last ≠ .release attempt) ∨
      (attempt = steps.countP LockStep.isAcquire ∧
        ∃ asked, last = .acquire asked ∧ ((run steps).acquire asked).1 = some keys) := by
  constructor
  · generalize whole : steps ++ [last] = all
    intro holds
    cases holds with
    | acquired succeeds =>
      obtain ⟨rfl, single⟩ := List.append_inj' whole rfl
      exact .inr ⟨rfl, _, List.head_eq_of_cons_eq single, succeeds⟩
    | kept other holds unreleased =>
      obtain ⟨rfl, single⟩ := List.append_inj' whole rfl
      exact .inl ⟨holds, List.head_eq_of_cons_eq single ▸ unreleased⟩
  · rintro (⟨holds, unreleased⟩ | ⟨rfl, asked, rfl, succeeds⟩)
    · exact .kept last holds unreleased
    · exact .acquired succeeds

/-- The table knows who holds what. -/
theorem holds_iff {steps : List (LockStep κ)} {attempt : Nat} {keys : List κ} :
    Holds steps attempt keys ↔ (run steps).keysOf attempt = some keys := by
  induction steps using List.reverseRecOn with
  | nil => exact iff_of_false not_holds_nil (by simp [run, keysOf])
  | append_singleton earlier last ih =>
    rw [holds_concat_iff, run_concat, ih, ← length_attempts_run]
    cases last with
    | acquire asked =>
      have tried := tried_acquire (consistent_run earlier) asked
      rw [step, tried.keysOf]
      split
      next last => simp [last]
      next other => simp [other]
    | release released =>
      rw [step, keysOf_release]
      split
      next same => simp [same]
      next other => simp [Ne.symm other]

/-- A key is held after some steps. -/
def Held (steps : List (LockStep κ)) (key : κ) : Prop :=
  ∃ attempt keys, Holds steps attempt keys ∧ key ∈ keys

theorem held_iff {steps : List (LockStep κ)} {key : κ} :
    Held steps key ↔ key ∈ (run steps).held := by
  simp only [Held, holds_iff, mem_held_iff]

/-! ## Exclusion -/

/-- What the locks promise after some steps. -/
structure Exclusive (steps : List (LockStep κ)) : Prop where
  disjoint : ∀ attempt other keys others, Holds steps attempt keys → Holds steps other others →
    attempt ≠ other → keys.Disjoint others
  succeeds_iff : ∀ asked, ((run steps).acquire asked).1.isSome = true ↔
    ∀ key ∈ asked, ¬ Held steps key
  ordered : ∀ asked keys, ((run steps).acquire asked).1 = some keys →
    keys.Pairwise (· < ·) ∧ ∀ key, key ∈ keys ↔ key ∈ asked
  refused : ∀ asked, ((run steps).acquire asked).1 = none →
    ∀ attempt keys, Holds (steps ++ [.acquire asked]) attempt keys ↔ Holds steps attempt keys
  tracked : ∀ asked key, key ∈ (run (steps ++ [.acquire asked])).keys ↔
    Held steps key ∨ key ∈ asked
  /-- No key has two slots. -/
  single : ∀ asked, (run (steps ++ [.acquire asked])).keys.Nodup
  /-- The slot of a held key is not replaced by a new one either. -/
  kept : ∀ asked, ∀ slot ∈ (run steps).slots, Held steps slot.key →
    slot ∈ (run (steps ++ [.acquire asked])).slots

theorem exclusive_run (steps : List (LockStep κ)) : Exclusive steps where
  disjoint attempt other keys others holds other_holds :=
    (consistent_run steps).disjoint (holds_iff.mp holds) (holds_iff.mp other_holds)
  succeeds_iff asked := by
    have tried := tried_acquire (consistent_run steps) asked
    rw [Option.isSome_iff_ne_none, ne_eq, tried.fails_iff]
    simp only [held_iff, not_exists, not_and]
  ordered asked keys succeeds := by
    have tried := tried_acquire (consistent_run steps) asked
    rw [tried.eq_normalize keys succeeds]
    exact ⟨pairwise_normalize asked, fun key => mem_normalize⟩
  refused asked fails attempt keys := by simp [holds_concat_iff, fails]
  tracked asked key := by
    rw [run_concat, held_iff]
    exact (tried_acquire (consistent_run steps) asked).mem_keys key
  single asked := (consistent_run _).keys
  kept asked slot member holds := by
    have guarded := ((consistent_run steps).mem_held_iff member).mp (held_iff.mp holds)
    rw [run_concat]
    exact (tried_acquire (consistent_run steps) asked).kept slot guarded

/-- The second attempt fails, for key 2 is held, and leaves a slot for key 3 behind. The third one
drops it. -/
example :
    let steps : List (LockStep Nat) := [.acquire [2, 1], .acquire [3, 2]]
    (run steps).keys = [1, 2, 3] ∧ (run (steps ++ [.acquire [4]])).keys = [1, 2, 4] := by
  cbv

end LockTable

end AbandonedBikes
