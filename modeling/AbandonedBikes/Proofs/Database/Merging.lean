import Mathlib.Data.List.Find
import AbandonedBikes.Database.Store
import AbandonedBikes.Proofs.Database.Course
import AbandonedBikes.Proofs.Store.Merging
/-!
# A merge in the database

The tables look up the reports of a merge one by one; the database locks them all and looks at the
numbers that come back. Both then make the same check and the same growth of a duplicate group, which
are stated here once: `checkMembers` and `MergeOutcome.growing`.

`Opening` lists the courses in which a merge takes hold of its duplicate group, `Growing` those in which
it writes down what it yields, and `Merging` puts them together up to the end of the transaction.
Nothing is assumed of the database here.
-/

namespace AbandonedBikes

/-! ## What both stores do -/

/-- All reports of a merge have to be known. -/
def checkMembers (known : Int → Bool) (canonical : Int) (duplicates : IdSet) :
    Except Failure Unit :=
  if known canonical then
    match duplicates.ids.find? fun id => !known id with
    | some missing => .error (.duplicateNotFound missing)
    | none => .ok ()
  else .error (.canonicalNotFound canonical)

/-- The check looks only at the reports of the merge. -/
theorem checkMembers_congr {known other : Int → Bool} {canonical : Int} {duplicates : IdSet}
    (same : ∀ id ∈ duplicates.insert canonical, known id = other id) :
    checkMembers known canonical duplicates = checkMembers other canonical duplicates := by
  have same_canonical : known canonical = other canonical := same canonical (by simp)
  have same_missing : (duplicates.ids.find? fun id => !known id) =
      duplicates.ids.find? fun id => !other id := by
    refine List.find?_congr fun id member => ?_
    rw [same id (IdSet.mem_insert.mpr (.inr member))]
  rw [checkMembers, checkMembers, same_canonical, same_missing]

/-- What a merge yields that adds duplicates to a group. -/
def MergeOutcome.growing (before : DuplicateGroup) (created : Bool) (duplicates : IdSet) :
    MergeOutcome :=
  let newlyMerged := duplicates.diff before.merged
  ⟨{ before with merged := before.merged.union newlyMerged }, created, newlyMerged⟩

namespace Tables

/-- Whether there is a report with the number. -/
def knows (tables : Tables) (id : Int) : Bool := (tables.report? id).isSome

/-- The duplicate group that a merge opens. -/
def opened (tables : Tables) (canonical : Int) (createdBy : String) (now : Instant) :
    DuplicateGroup :=
  ⟨tables.lastDuplicateGroup + 1, canonical, IdSet.empty, now, createdBy⟩

variable (tables : Tables) (canonical : Int) (duplicates : IdSet) (createdBy : String)
  (now : Instant)

theorem mergeOutcome_eq :
    tables.mergeOutcome canonical duplicates createdBy now =
      .growing ((tables.duplicateGroupFor? canonical).getD (tables.opened canonical createdBy now))
        (tables.duplicateGroupFor? canonical).isNone duplicates := rfl

/-- A merge of the tables is the check and then the growth. -/
theorem mergeReports_eq :
    tables.mergeReports canonical duplicates createdBy now =
      (checkMembers tables.knows canonical duplicates).map fun _ =>
        let outcome := tables.mergeOutcome canonical duplicates createdBy now
        (outcome, tables.afterMerge outcome now) := by
  have missing : tables.missingReport? duplicates =
      duplicates.ids.find? fun id => !tables.knows id := by
    simp [missingReport?, knows]
  rw [mergeReports, checkMembers, missing, knows]
  cases tables.report? canonical with
  | none => rfl
  | some report =>
    cases duplicates.ids.find? fun id => !tables.knows id <;> rfl

end Tables

namespace Database

variable {canonical : Int} {duplicates : IdSet} {createdBy : String} {now : Instant}
  {exchanges : List Exchange}

/-! ## The courses of a merge -/

/-- The locked reports are checked as any others. -/
theorem lockMembers_eq (canonical : Int) (duplicates : IdSet) :
    lockMembers canonical duplicates =
      (Query.all (.lockReports (duplicates.insert canonical).ids) onlyId).call >>= fun found =>
        Attempt.ofExcept (checkMembers (fun id => decide (id ∈ found)) canonical duplicates) := by
  refine congrArg _ (funext fun found => ?_)
  rw [checkMembers]
  by_cases there : canonical ∈ found
  · simp only [there, not_true, if_false, decide_true, if_true, decide_not]
    cases duplicates.ids.find? fun id => !decide (id ∈ found) <;> rfl
  · simp only [there, not_false_eq_true, if_true, decide_false, Bool.false_eq_true, if_false]
    rfl

/-- What the reply to the lock comes to. -/
def checkLocked (canonical : Int) (duplicates : IdSet) (locked : Reply) : Except Failure Unit :=
  Query.answer (locked.rows? >>= fun rows => rows.mapM onlyId) >>= fun found =>
    checkMembers (fun id => decide (id ∈ found)) canonical duplicates

theorem of_course_lockMembers {result : Except Failure Unit}
    (course : (lockMembers canonical duplicates).run.Course exchanges result) :
    ∃ locked, exchanges = [⟨.lockReports (duplicates.insert canonical).ids, locked⟩] ∧
      result = checkLocked canonical duplicates locked := by
  rw [lockMembers_eq] at course
  exact Query.of_course_checked course

/-- The courses in which a merge takes hold of its duplicate group. -/
inductive Opening (canonical : Int) (createdBy : String) (now : Instant) :
    List Exchange → Except Failure (DuplicateGroup × Bool) → Prop
  | unread {locked : Reply} {error : QueryError}
      (unread : Query.Unread DuplicateGroup.decode locked error) :
    Opening canonical createdBy now [⟨.lockDuplicateGroup canonical, locked⟩]
      (.error (.database error.message))
  | found {cells : Row} {others : List Row} {group : DuplicateGroup}
      (read : DuplicateGroup.decode cells = .ok group) :
    Opening canonical createdBy now [⟨.lockDuplicateGroup canonical, .rows (cells :: others)⟩]
      (.ok (group, false))
  | failed {locked inserted : Reply} {error : QueryError} (none_there : locked.rows? = .ok [])
      (unread : Query.Unread DuplicateGroup.decode inserted error ∨
        (inserted.rows? = .ok [] ∧ error = .noRow)) :
    Opening canonical createdBy now [⟨.lockDuplicateGroup canonical, locked⟩,
      ⟨.insertDuplicateGroup canonical now createdBy, inserted⟩] (.error (.database error.message))
  | opened {locked : Reply} {cells : Row} {others : List Row} {group : DuplicateGroup}
      (none_there : locked.rows? = .ok []) (read : DuplicateGroup.decode cells = .ok group) :
    Opening canonical createdBy now [⟨.lockDuplicateGroup canonical, locked⟩,
      ⟨.insertDuplicateGroup canonical now createdBy, .rows (cells :: others)⟩] (.ok (group, true))

theorem of_course_openDuplicateGroup {result : Except Failure (DuplicateGroup × Bool)}
    (course : (openDuplicateGroup canonical createdBy now).run.Course exchanges result) :
    Opening canonical createdBy now exchanges result := by
  obtain ⟨failure, locking, rfl⟩ | ⟨group?, _, _, locking, inserting, rfl⟩ :=
    Attempt.course_bind.mp course
  · obtain ⟨locked, error, unread, rfl, rfl⟩ := Query.of_course_first?_error locking
    exact .unread unread
  obtain ⟨locked, none_there, rfl, rfl⟩ | ⟨cells, others, group, read, rfl, rfl⟩ :=
    Query.of_course_first?_ok locking
  · obtain ⟨failure, inserted, rfl⟩ | ⟨group, _, _, inserted, ending, rfl⟩ :=
      Attempt.course_bind.mp inserting
    · obtain ⟨inserted, error, unread, rfl, rfl⟩ := Query.of_course_one_error inserted
      exact .failed none_there unread
    · obtain ⟨cells, others, read, rfl⟩ := Query.of_course_one_ok inserted
      obtain ⟨rfl, rfl⟩ := Attempt.course_pure.mp ending
      exact .opened none_there read
  · obtain ⟨rfl, rfl⟩ := Attempt.course_pure.mp inserting
    exact .found read

/-- The courses in which a merge writes down what it yields. -/
inductive Growing (outcome : MergeOutcome) (now : Instant) :
    List Exchange → Except Failure MergeOutcome → Prop
  | unset (text : String) :
    Growing outcome now [⟨.setMerged outcome.group.id outcome.group.merged.ids, .error text⟩]
      (.error (.ofRefusal text))
  | unpointed {set : Reply} (text : String) (set_done : set.isError = false) :
    Growing outcome now [⟨.setMerged outcome.group.id outcome.group.merged.ids, set⟩,
      ⟨.setDuplicateGroup outcome.group.id now outcome.group.members.ids, .error text⟩]
      (.error (.ofRefusal text))
  | grown {set pointed : Reply} (set_done : set.isError = false)
      (pointed_done : pointed.isError = false) :
    Growing outcome now [⟨.setMerged outcome.group.id outcome.group.merged.ids, set⟩,
      ⟨.setDuplicateGroup outcome.group.id now outcome.group.members.ids, pointed⟩] (.ok outcome)

theorem of_course_growing {outcome : MergeOutcome} {result : Except Failure MergeOutcome}
    (course : (do
      let _ ← (Query.execute (.setMerged outcome.group.id outcome.group.merged.ids)).call
      let _ ← (Query.execute
        (.setDuplicateGroup outcome.group.id now outcome.group.members.ids)).call
      return outcome : Attempt Dialogue MergeOutcome).run.Course exchanges result) :
    Growing outcome now exchanges result := by
  obtain ⟨failure, setting, rfl⟩ | ⟨_, _, _, setting, pointing, rfl⟩ :=
    Attempt.course_bind.mp course
  · obtain ⟨text, rfl, rfl⟩ := Query.of_course_execute_error setting
    exact .unset text
  obtain ⟨set, set_done, rfl⟩ := Query.of_course_execute_ok setting
  obtain ⟨failure, pointed, rfl⟩ | ⟨_, _, _, pointed, ending, rfl⟩ :=
    Attempt.course_bind.mp pointing
  · obtain ⟨text, rfl, rfl⟩ := Query.of_course_execute_error pointed
    exact .unpointed text set_done
  obtain ⟨pointed, pointed_done, rfl⟩ := Query.of_course_execute_ok pointed
  obtain ⟨rfl, rfl⟩ := Attempt.course_pure.mp ending
  exact .grown set_done pointed_done

/-- The courses of a merge up to the end of its transaction. -/
inductive Merging (canonical : Int) (duplicates : IdSet) (createdBy : String) (now : Instant) :
    List Exchange → Except Failure MergeOutcome → Prop
  | unlocked {locked : Reply} {failure : Failure}
      (stopped : checkLocked canonical duplicates locked = .error failure) :
    Merging canonical duplicates createdBy now
      [⟨.lockReports (duplicates.insert canonical).ids, locked⟩] (.error failure)
  | unopened {locked : Reply} {opening : List Exchange} {failure : Failure}
      (checked : checkLocked canonical duplicates locked = .ok ())
      (opened : Opening canonical createdBy now opening (.error failure)) :
    Merging canonical duplicates createdBy now
      (⟨.lockReports (duplicates.insert canonical).ids, locked⟩ :: opening) (.error failure)
  | opened {locked : Reply} {opening growth : List Exchange} {before : DuplicateGroup}
      {created : Bool} {result : Except Failure MergeOutcome}
      (checked : checkLocked canonical duplicates locked = .ok ())
      (opened : Opening canonical createdBy now opening (.ok (before, created)))
      (growing : Growing (.growing before created duplicates) now growth result) :
    Merging canonical duplicates createdBy now
      (⟨.lockReports (duplicates.insert canonical).ids, locked⟩ :: (opening ++ growth)) result

theorem of_course_merge {result : Except Failure MergeOutcome}
    (course : (merge canonical duplicates createdBy now).run.Course exchanges result) :
    Merging canonical duplicates createdBy now exchanges result := by
  obtain ⟨failure, locking, rfl⟩ | ⟨_, _, _, locking, opening, rfl⟩ :=
    Attempt.course_bind.mp course
  · obtain ⟨locked, rfl, stopped⟩ := of_course_lockMembers locking
    exact .unlocked stopped.symm
  obtain ⟨locked, rfl, checked⟩ := of_course_lockMembers locking
  obtain ⟨failure, opened, rfl⟩ | ⟨⟨before, created⟩, _, _, opened, growing, rfl⟩ :=
    Attempt.course_bind.mp opening
  · exact .unopened checked.symm (of_course_openDuplicateGroup opened)
  · have grown : Growing (.growing before created duplicates) now _ result :=
      of_course_growing growing
    rw [List.singleton_append]
    exact .opened checked.symm (of_course_openDuplicateGroup opened) grown

end Database

end AbandonedBikes
