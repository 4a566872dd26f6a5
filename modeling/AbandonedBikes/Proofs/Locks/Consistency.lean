import Mathlib.Data.List.Nodup
import AbandonedBikes.Locks
/-!
# Slots and guards

What keeps the locks exclusive is that a key and its lock determine each other, and that a guard is
always for a lock that is still in its slot. `LockTable.Consistent` says so. The lock of a held key is
shared with its guard, so its slot is never dropped; that is why a key can get a new lock only while
nobody holds it.

`LockTable.Tracks` says what looking up the slots of some keys does. From it follows when their locks
can be guarded.
-/

namespace AbandonedBikes.LockTable

variable {κ : Type} {table after : LockTable κ}

/-- Keys and locks belong together one to one, and every guarded lock is guarded once and in its
slot. -/
structure Consistent (table : LockTable κ) : Prop where
  keys : table.keys.Nodup
  locks : (table.slots.map LockSlot.lock).Nodup
  /-- New locks are new. -/
  made : ∀ slot ∈ table.slots, slot.lock < table.made
  tracked : ∀ slot ∈ table.guarded, slot ∈ table.slots
  once : table.guarded.Nodup

namespace Consistent

theorem empty : Consistent ({} : LockTable κ) :=
  ⟨.nil, .nil, fun _ member => absurd member List.not_mem_nil,
    fun _ member => absurd member List.not_mem_nil, .nil⟩

theorem eq_of_key (consistent : table.Consistent) {slot other : LockSlot κ}
    (member : slot ∈ table.slots) (other_member : other ∈ table.slots)
    (same : slot.key = other.key) : slot = other :=
  List.inj_on_of_nodup_map consistent.keys member other_member same

theorem eq_of_lock (consistent : table.Consistent) {slot other : LockSlot κ}
    (member : slot ∈ table.slots) (other_member : other ∈ table.slots)
    (same : slot.lock = other.lock) : slot = other :=
  List.inj_on_of_nodup_map consistent.locks member other_member same

/-- A key of the table is held just if its slot is guarded. -/
theorem mem_held_iff (consistent : table.Consistent) {slot : LockSlot κ}
    (member : slot ∈ table.slots) : slot.key ∈ table.held ↔ slot ∈ table.guarded := by
  constructor
  · intro held
    obtain ⟨other, guarded, same⟩ := List.mem_map.mp held
    rwa [← consistent.eq_of_key (consistent.tracked other guarded) member same]
  · exact fun guarded => List.mem_map_of_mem guarded

/-- A slot of the table is guarded just if its lock is. -/
theorem mem_locks_iff (consistent : table.Consistent) {slot : LockSlot κ}
    (member : slot ∈ table.slots) :
    slot.lock ∈ table.guarded.map LockSlot.lock ↔ slot ∈ table.guarded := by
  constructor
  · intro locked
    obtain ⟨other, guarded, same⟩ := List.mem_map.mp locked
    rwa [← consistent.eq_of_lock (consistent.tracked other guarded) member same]
  · exact fun guarded => List.mem_map_of_mem guarded

/-- No key is held twice. -/
theorem nodup_held (consistent : table.Consistent) : table.held.Nodup := by
  refine List.Nodup.map_on ?_ consistent.once
  intro slot guarded other other_guarded same
  exact consistent.eq_of_key (consistent.tracked slot guarded)
    (consistent.tracked other other_guarded) same

/-! ## Dropping slots -/

/-- A lock of the table is shared by its slot and by its guards. -/
theorem shares_eq (consistent : table.Consistent) {slot : LockSlot κ}
    (member : slot ∈ table.slots) :
    table.shares slot.lock = 1 + (table.guarded.map LockSlot.lock).count slot.lock := by
  rw [shares, List.count_eq_one_of_mem consistent.locks (List.mem_map_of_mem member)]

/-- The slots that stay are those that are guarded. -/
theorem mem_prune_iff (consistent : table.Consistent) {slot : LockSlot κ} :
    slot ∈ table.prune.slots ↔ slot ∈ table.guarded := by
  have shared_iff (member : slot ∈ table.slots) :
      1 < table.shares slot.lock ↔ slot ∈ table.guarded := by
    rw [consistent.shares_eq member, ← consistent.mem_locks_iff member, ← List.count_pos_iff]
    omega
  rw [LockTable.prune, List.mem_filter, decide_eq_true_eq]
  constructor
  · rintro ⟨member, shared⟩
    exact (shared_iff member).mp shared
  · intro guarded
    have member := consistent.tracked slot guarded
    exact ⟨member, (shared_iff member).mpr guarded⟩

theorem mem_keys_prune_iff (consistent : table.Consistent) {key : κ} :
    key ∈ table.prune.keys ↔ key ∈ table.held := by
  simp only [LockTable.keys, held, List.mem_map, consistent.mem_prune_iff]

theorem prune (consistent : table.Consistent) : table.prune.Consistent := by
  have fewer : table.prune.slots.Sublist table.slots := List.filter_sublist
  exact ⟨consistent.keys.sublist (fewer.map _), consistent.locks.sublist (fewer.map _),
    fun slot member => consistent.made slot (fewer.subset member),
    fun slot guarded => consistent.mem_prune_iff.mpr guarded, consistent.once⟩

/-! ## Adding a slot -/

/-- A key without a slot gets one with a new lock. -/
theorem concat (consistent : table.Consistent) {key : κ} (missing : key ∉ table.keys) :
    Consistent { table with
      slots := table.slots ++ [⟨key, table.made⟩], made := table.made + 1 } where
  keys := by
    rw [LockTable.keys, List.map_append]
    exact consistent.keys.append (List.nodup_singleton _)
      (List.disjoint_singleton.mpr missing)
  locks := by
    rw [List.map_append]
    refine consistent.locks.append (List.nodup_singleton _) (List.disjoint_singleton.mpr ?_)
    intro old
    obtain ⟨slot, member, same⟩ := List.mem_map.mp old
    exact Nat.lt_irrefl _ (same ▸ consistent.made slot member)
  made := by
    intro slot member
    rcases List.mem_append.mp member with old | new
    · exact Nat.lt_succ_of_lt (consistent.made slot old)
    · rw [List.mem_singleton.mp new]
      exact Nat.lt_succ_self _
  tracked slot guarded := List.mem_append_left _ (consistent.tracked slot guarded)
  once := consistent.once

end Consistent

/-! ## Taking and releasing guards -/

/-- The table after one more attempt. -/
def withAttempt (table : LockTable κ) (taken : Option (List (LockSlot κ))) : LockTable κ :=
  { table with attempts := table.attempts ++ [taken] }

theorem guarded_withAttempt (table : LockTable κ) (taken : Option (List (LockSlot κ))) :
    (table.withAttempt taken).guarded = table.guarded ++ taken.getD [] := by
  rw [guarded, withAttempt, List.flatMap_append, List.flatMap_singleton, guarded]

/-- An attempt may guard slots of the table that are free. -/
theorem Consistent.withAttempt (consistent : table.Consistent)
    {taken : Option (List (LockSlot κ))} (found : ∀ slot ∈ taken.getD [], slot ∈ table.slots)
    (nodup : (taken.getD []).Nodup) (free : ∀ slot ∈ taken.getD [], slot ∉ table.guarded) :
    (table.withAttempt taken).Consistent where
  keys := consistent.keys
  locks := consistent.locks
  made := consistent.made
  tracked slot member := by
    rw [guarded_withAttempt] at member
    exact (List.mem_append.mp member).elim (consistent.tracked slot) (found slot)
  once := by
    rw [guarded_withAttempt]
    exact consistent.once.append nodup fun slot guarded member => free slot member guarded

theorem release_eq (table : LockTable κ) (attempt : Nat) :
    (table.release attempt).2 = { table with attempts := table.attempts.set attempt none } := by
  unfold release
  split
  next => rfl
  next not_held =>
    have same : table.attempts.set attempt none = table.attempts := by
      rcases Nat.lt_or_ge attempt table.attempts.length with bound | beyond
      · have nothing : none = table.attempts[attempt] := by
          rw [List.getElem?_eq_getElem bound] at not_held
          exact (Option.eq_none_iff_forall_ne_some.mpr fun slots taken =>
            not_held slots (congrArg some taken)).symm
        rw [nothing, List.set_getElem_self]
      · exact List.set_eq_of_length_le beyond
    rw [same]

/-- Nothing else is guarded after a release. -/
theorem guarded_release_sublist (table : LockTable κ) (attempt : Nat) :
    (table.release attempt).2.guarded.Sublist table.guarded := by
  rw [release_eq, guarded, guarded]
  generalize table.attempts = attempts
  induction attempts generalizing attempt with
  | nil => exact .refl _
  | cons taken rest ih =>
    cases attempt with
    | zero => exact List.sublist_append_right _ _
    | succ attempt => exact (ih attempt).append_left _

theorem Consistent.release (consistent : table.Consistent) (attempt : Nat) :
    (table.release attempt).2.Consistent := by
  have fewer := guarded_release_sublist table attempt
  rw [release_eq] at fewer ⊢
  exact ⟨consistent.keys, consistent.locks, consistent.made,
    fun slot guarded => consistent.tracked slot (fewer.subset guarded),
    consistent.once.sublist fewer⟩

/-! ## Looking up slots -/

/-- The slots of some keys were looked up, and those that were missing were added. -/
structure Tracks (table : LockTable κ) (asked : List κ) (slots : List (LockSlot κ))
    (after : LockTable κ) : Prop where
  keys : slots.map LockSlot.key = asked
  found : ∀ slot ∈ slots, slot ∈ after.slots
  kept : ∀ slot ∈ table.slots, slot ∈ after.slots
  mem_keys : ∀ key, key ∈ after.keys ↔ key ∈ table.keys ∨ key ∈ asked
  attempts : after.attempts = table.attempts
  consistent : after.Consistent

namespace Tracks

variable {asked : List κ} {slots : List (LockSlot κ)}

theorem nil (consistent : table.Consistent) : table.Tracks [] [] table :=
  ⟨rfl, fun _ member => absurd member List.not_mem_nil, fun _ member => member,
    fun _ => by simp, rfl, consistent⟩

theorem cons {between : LockTable κ} {key : κ} {slot : LockSlot κ}
    (first : table.Tracks [key] [slot] between) (rest : between.Tracks asked slots after) :
    table.Tracks (key :: asked) (slot :: slots) after where
  keys := by
    rw [List.map_cons, rest.keys, List.head_eq_of_cons_eq first.keys]
  found := by
    intro other member
    rcases List.mem_cons.mp member with rfl | later
    · exact rest.kept other (first.found other (List.mem_singleton_self _))
    · exact rest.found other later
  kept other member := rest.kept other (first.kept other member)
  mem_keys other := by
    rw [rest.mem_keys, first.mem_keys, List.mem_singleton, List.mem_cons, or_assoc]
  attempts := rest.attempts.trans first.attempts
  consistent := rest.consistent

theorem guarded (tracks : table.Tracks asked slots after) : after.guarded = table.guarded := by
  rw [LockTable.guarded, LockTable.guarded, tracks.attempts]

end Tracks

/-! ## Guarding locks -/

theorem canGuard_iff {guarded locks : List Nat} :
    canGuard guarded locks = true ↔ (∀ lock ∈ locks, lock ∉ guarded) ∧ locks.Nodup := by
  induction locks generalizing guarded with
  | nil => simp [canGuard]
  | cons lock rest ih =>
    rw [canGuard, Bool.and_eq_true, decide_eq_true_eq, ih, List.nodup_cons]
    simp only [List.mem_cons, not_or, forall_eq_or_imp]
    constructor
    · rintro ⟨free, others, nodup⟩
      exact ⟨⟨free, fun other member => (others other member).2⟩,
        fun member => (others lock member).1 rfl, nodup⟩
    · rintro ⟨⟨free, others⟩, new, nodup⟩
      refine ⟨free, fun other member => ⟨?_, others other member⟩, nodup⟩
      rintro rfl
      exact new member

/-- The locks of different keys can be guarded just if nobody holds any of the keys. -/
theorem Tracks.canGuard_iff {asked : List κ} {slots : List (LockSlot κ)}
    (tracks : table.Tracks asked slots after) (nodup : asked.Nodup) :
    canGuard (after.guarded.map LockSlot.lock) (slots.map LockSlot.lock) = true ↔
      ∀ key ∈ asked, key ∉ table.held := by
  have different : (slots.map LockSlot.lock).Nodup := by
    refine List.Nodup.map_on ?_ (List.Nodup.of_map LockSlot.key (tracks.keys ▸ nodup))
    intro slot member other other_member same
    exact tracks.consistent.eq_of_lock (tracks.found slot member)
      (tracks.found other other_member) same
  have same_held : after.held = table.held := by rw [held, held, tracks.guarded]
  rw [LockTable.canGuard_iff, and_iff_left different, ← same_held, ← tracks.keys]
  simp only [List.forall_mem_map]
  refine forall₂_congr fun slot member => not_congr ?_
  have tracked := tracks.found slot member
  rw [tracks.consistent.mem_locks_iff tracked, tracks.consistent.mem_held_iff tracked]

/-! ## The slots of some keys -/

variable [DecidableEq κ]

theorem tracks_track (consistent : table.Consistent) (key : κ) :
    table.Tracks [key] [(table.track key).1] (table.track key).2 := by
  unfold track
  split
  next slot found =>
    have member : slot ∈ table.slots := List.mem_of_find?_eq_some found
    have same : slot.key = key := by simpa using List.find?_some found
    have tracked : key ∈ table.keys := same ▸ List.mem_map_of_mem member
    refine ⟨by simp [same], by simpa using member, fun _ old => old, fun other => ?_, rfl,
      consistent⟩
    rw [List.mem_singleton, or_iff_left_of_imp]
    rintro rfl
    exact tracked
  next missing =>
    have no_slot : key ∉ table.keys := by
      intro tracked
      obtain ⟨slot, member, same⟩ := List.mem_map.mp tracked
      exact absurd (List.find?_eq_none.mp missing slot member) (by simp [same])
    exact ⟨rfl, fun slot single => List.mem_append_right _ single,
      fun slot old => List.mem_append_left _ old, fun other => by simp [LockTable.keys], rfl,
      consistent.concat no_slot⟩

theorem tracks_trackAll (consistent : table.Consistent) (asked : List κ) :
    table.Tracks asked (table.trackAll asked).1 (table.trackAll asked).2 := by
  induction asked generalizing table with
  | nil => exact .nil consistent
  | cons key rest ih =>
    have first := tracks_track consistent key
    exact first.cons (ih first.consistent)

end AbandonedBikes.LockTable
