import AbandonedBikes.Proofs.Database.Refinement
import AbandonedBikes.Proofs.Database.Requests
/-!
# The plan of a merge

A merge sends its statements in an order that is fixed but for the duplicate group that it is about: the
plan of the merge. It follows the plan up to the first reply that it cannot use. `Followed` says this for
any plan and any notion of a usable reply, so it is shown part by part: the lock of the reports, the
duplicate group, the two updates, and the bounds of the transaction.

Nothing is assumed of the database, whose replies may make no sense.
-/

namespace AbandonedBikes

/-- The statements of a plan are sent in order, up to its end or up to the first reply that cannot be
used. The last argument tells whether the end was reached. -/
inductive Followed (usable : Exchange → Prop) : List Statement → List Exchange → Bool → Prop
  | finished : Followed usable [] [] true
  | stopped {exchange : Exchange} (rest : List Statement) (useless : ¬ usable exchange) :
    Followed usable (exchange.statement :: rest) [exchange] false
  | next {exchange : Exchange} {rest : List Statement} {said : List Exchange} {finished : Bool}
      (used : usable exchange) (following : Followed usable rest said finished) :
    Followed usable (exchange.statement :: rest) (exchange :: said) finished

namespace Followed

variable {usable : Exchange → Prop} {plan later : List Statement} {said after : List Exchange}
  {finished : Bool}

theorem append (first : Followed usable plan said true)
    (second : Followed usable later after finished) :
    Followed usable (plan ++ later) (said ++ after) finished := by
  generalize reached : true = ended at first
  induction first with
  | finished => exact second
  | stopped => cases reached
  | next used _ ih => exact .next used (ih reached)

/-- What comes after the stop of a plan does not matter. -/
theorem append_stopped (first : Followed usable plan said false) (later : List Statement) :
    Followed usable (plan ++ later) said false := by
  generalize reached : false = ended at first
  induction first with
  | finished => cases reached
  | stopped rest useless => exact .stopped _ useless
  | next used _ ih => exact .next used (ih reached)

/-- One usable exchange. -/
theorem single {exchange : Exchange} (used : usable exchange) :
    Followed usable [exchange.statement] [exchange] true := .next used .finished

end Followed

/-- If the end of a plan is reached, everything in it was sent, and every reply could be used. -/
theorem Followed.complete {usable : Exchange → Prop} {plan : List Statement} {said : List Exchange}
    (followed : Followed usable plan said true) :
    said.map Exchange.statement = plan ∧ ∀ exchange ∈ said, usable exchange := by
  generalize reached : true = ended at followed
  induction followed with
  | finished => exact ⟨rfl, List.forall_mem_nil _⟩
  | stopped => cases reached
  | next used _ ih =>
    obtain ⟨statements, all_used⟩ := ih reached
    exact ⟨congrArg (_ :: ·) statements, List.forall_mem_cons.mpr ⟨used, all_used⟩⟩

/-- The result of a plan that gives a value at its end and otherwise fails. -/
def Reached {α : Type} (value : α) (result : Except Failure α) : Bool → Prop
  | true => result = .ok value
  | false => ∃ failure, result = .error failure

namespace Reached

variable {α : Type} {value other : α} {finished : Bool}

theorem of_ok (reached : Reached value (.ok other) finished) : finished = true ∧ other = value := by
  cases finished with
  | true =>
    injection reached with same
    exact ⟨rfl, same⟩
  | false =>
    obtain ⟨failure, reached⟩ := reached
    cases reached

theorem of_error {failure : Failure} (reached : Reached value (.error failure) finished) :
    finished = false := by
  cases finished with
  | true => cases reached
  | false => rfl

end Reached

/-- The first row of the reply holds the duplicate group. -/
def Reply.Holds (reply : Reply) (group : DuplicateGroup) : Prop :=
  ∃ cells others, reply = .rows (cells :: others) ∧ DuplicateGroup.decode cells = .ok group

namespace Exchange

/-- A merge can use the reply: all reports have been locked, the duplicate group can be read or is not
there yet, and no statement was refused. -/
def Usable (canonical : Int) (duplicates : IdSet) (exchange : Exchange) : Prop :=
  match exchange.statement with
  | .lockReports _ =>
    ∃ rows found, exchange.reply.rows? = .ok rows ∧ rows.mapM Database.onlyId = .ok found ∧
      canonical ∈ found ∧ ∀ id ∈ duplicates, id ∈ found
  | .lockDuplicateGroup _ =>
    exchange.reply.rows? = .ok [] ∨ ∃ group, exchange.reply.Holds group
  | .insertDuplicateGroup .. => ∃ group, exchange.reply.Holds group
  | _ => exchange.reply.isError = false

/-- The duplicate group is the one that was locked. If none was there, it is created, and it is the one
that was inserted. -/
def Gives (group : DuplicateGroup) (created : Bool) (exchange : Exchange) : Prop :=
  match exchange.statement with
  | .lockDuplicateGroup _ =>
    if created then exchange.reply.rows? = .ok [] else exchange.reply.Holds group
  | .insertDuplicateGroup .. => exchange.reply.Holds group
  | _ => True

end Exchange

namespace Query.Unread

variable {reply : Reply} {error : QueryError}

theorem not_holds (unread : Unread DuplicateGroup.decode reply error) (group : DuplicateGroup) :
    ¬ reply.Holds group := by
  rintro ⟨cells, others, rfl, read⟩
  exact not_of_decoded read error unread

theorem not_empty (unread : Unread DuplicateGroup.decode reply error) : reply.rows? ≠ .ok [] := by
  cases unread with
  | refused text => simp [Reply.rows?]
  | undecoded others failed => simp [Reply.rows?]

end Query.Unread

theorem Reply.not_holds_of_empty {reply : Reply} (empty : reply.rows? = .ok [])
    (group : DuplicateGroup) : ¬ reply.Holds group := by
  rintro ⟨cells, others, rfl, -⟩
  injection empty with empty
  injection empty

/-- The merged reports of a row may stand in any order and more than once. -/
theorem DuplicateGroup.of_decode {cells : Row} {group : DuplicateGroup}
    (read : DuplicateGroup.decode cells = .ok group) :
    ∃ held, cells.required "merged_report_ids" (Json.list? Json.id?) = .ok held ∧
      ∀ id, id ∈ group.merged ↔ id ∈ held := by
  obtain ⟨id, -, read⟩ := of_bind_ok read
  obtain ⟨canonical, -, read⟩ := of_bind_ok read
  obtain ⟨merged, merged_read, read⟩ := of_bind_ok read
  obtain ⟨createdAt, -, read⟩ := of_bind_ok read
  obtain ⟨createdBy, -, read⟩ := of_bind_ok read
  injection read with same
  subst same
  have cell : cells.optional? "merged_report_ids" IdSet.ofJson? =
      (cells.optional? "merged_report_ids" (Json.list? Json.id?)).map IdSet.ofList :=
    Option.map_bind.symm
  rw [Row.required, cell] at merged_read
  rw [Row.required]
  cases held_read : cells.optional? "merged_report_ids" (Json.list? Json.id?) with
  | none =>
    rw [held_read] at merged_read
    injection merged_read
  | some held =>
    rw [held_read] at merged_read
    injection merged_read with same
    exact ⟨held, rfl, fun id => same ▸ IdSet.mem_ofList⟩

namespace Database

variable {canonical : Int} {duplicates : IdSet} {createdBy : String} {now : Instant}
  {exchanges : List Exchange}

/-! ## The parts of a merge -/

theorem checkMembers_eq_ok_iff {known : Int → Bool} :
    checkMembers known canonical duplicates = .ok () ↔
      known canonical = true ∧ ∀ id ∈ duplicates, known id = true := by
  rw [checkMembers]
  cases known canonical with
  | false => simp
  | true =>
    cases missing : duplicates.ids.find? fun id => !known id with
    | some id =>
      have unknown : known id = false := by simpa using List.find?_some missing
      have member : id ∈ duplicates := List.mem_of_find?_eq_some missing
      simp only [if_true, reduceCtorEq, true_and, false_iff, not_forall]
      exact ⟨id, member, by simp [unknown]⟩
    | none => simpa [IdSet.mem_iff] using missing

/-- The check of the lock succeeds exactly if the lock can be used. -/
theorem checkLocked_eq_ok_iff {ids : List Int} {locked : Reply} :
    checkLocked canonical duplicates locked = .ok () ↔
      Exchange.Usable canonical duplicates ⟨.lockReports ids, locked⟩ := by
  constructor
  · intro checked
    obtain ⟨found, answered, complete⟩ := of_bind_ok checked
    cases read : locked.rows? >>= fun rows => rows.mapM onlyId with
    | error error =>
      rw [read] at answered
      injection answered
    | ok ids =>
      rw [read] at answered
      injection answered with same
      subst same
      obtain ⟨rows, given, mapped⟩ := of_bind_ok read
      obtain ⟨there, all_there⟩ := checkMembers_eq_ok_iff.mp complete
      exact ⟨rows, ids, given, mapped, by simpa using there, by simpa using all_there⟩
  · rintro ⟨rows, found, given, mapped, there, all_there⟩
    change locked.rows? = _ at given
    rw [checkLocked, given]
    change Query.answer (rows.mapM onlyId) >>= _ = _
    rw [mapped]
    change checkMembers (fun id => decide (id ∈ found)) canonical duplicates = .ok ()
    exact checkMembers_eq_ok_iff.mpr ⟨by simpa using there, by simpa using all_there⟩

/-- The statements in which a merge takes hold of its duplicate group. -/
def openingStatements (canonical : Int) (createdBy : String) (now : Instant) (created : Bool) :
    List Statement :=
  .lockDuplicateGroup canonical ::
    if created then [.insertDuplicateGroup canonical now createdBy] else []

theorem Opening.followed {result : Except Failure (DuplicateGroup × Bool)}
    (opening : Opening canonical createdBy now exchanges result) (duplicates : IdSet) :
    ∃ group created finished,
      Followed (Exchange.Usable canonical duplicates)
        (openingStatements canonical createdBy now created) exchanges finished ∧
      (∀ exchange ∈ exchanges, exchange.Usable canonical duplicates →
        exchange.Gives group created) ∧
      Reached (group, created) result finished := by
  cases opening with
  | @unread locked error unread =>
    have useless : ¬ Exchange.Usable canonical duplicates ⟨.lockDuplicateGroup canonical, locked⟩ := by
      rintro (empty | ⟨group, holds⟩)
      · exact unread.not_empty empty
      · exact unread.not_holds group holds
    refine ⟨default, false, false, .stopped _ useless, ?_, _, rfl⟩
    intro exchange member used
    obtain rfl := List.mem_singleton.mp member
    exact absurd used useless
  | @found cells others group read =>
    have holds : (Reply.rows (cells :: others)).Holds group := ⟨cells, others, rfl, read⟩
    have used : Exchange.Usable canonical duplicates
        ⟨.lockDuplicateGroup canonical, .rows (cells :: others)⟩ := Or.inr ⟨group, holds⟩
    refine ⟨group, false, true, .single used, ?_, rfl⟩
    intro exchange member _
    obtain rfl := List.mem_singleton.mp member
    exact holds
  | @failed locked inserted error none_there unread =>
    have used : Exchange.Usable canonical duplicates ⟨.lockDuplicateGroup canonical, locked⟩ :=
      Or.inl none_there
    have useless : ¬ Exchange.Usable canonical duplicates
        ⟨.insertDuplicateGroup canonical now createdBy, inserted⟩ := by
      rintro ⟨group, holds⟩
      obtain unread | ⟨empty, -⟩ := unread
      · exact unread.not_holds group holds
      · exact Reply.not_holds_of_empty empty group holds
    refine ⟨default, true, false, .next used (.stopped [] useless), ?_, _, rfl⟩
    simp only [List.forall_mem_cons, List.not_mem_nil, false_implies, implies_true, and_true]
    exact ⟨fun _ => none_there, fun used => absurd used useless⟩
  | @opened locked cells others group none_there read =>
    have holds : (Reply.rows (cells :: others)).Holds group := ⟨cells, others, rfl, read⟩
    have used : Exchange.Usable canonical duplicates ⟨.lockDuplicateGroup canonical, locked⟩ :=
      Or.inl none_there
    have used_too : Exchange.Usable canonical duplicates
        ⟨.insertDuplicateGroup canonical now createdBy, .rows (cells :: others)⟩ := ⟨group, holds⟩
    refine ⟨group, true, true, .next used (.single used_too), ?_, rfl⟩
    simp only [List.forall_mem_cons, List.not_mem_nil, false_implies, implies_true, and_true]
    exact ⟨fun _ => none_there, fun _ => holds⟩

theorem Growing.followed {outcome : MergeOutcome} {result : Except Failure MergeOutcome}
    (growing : Growing outcome now exchanges result) (canonical : Int) (duplicates : IdSet)
    (group : DuplicateGroup) (created : Bool) :
    ∃ finished,
      Followed (Exchange.Usable canonical duplicates)
        [.setMerged outcome.group.id outcome.group.merged.ids,
          .setDuplicateGroup outcome.group.id now outcome.group.members.ids] exchanges finished ∧
      (∀ exchange ∈ exchanges, exchange.Gives group created) ∧ Reached outcome result finished := by
  cases growing with
  | unset text =>
    have useless : ¬ Exchange.Usable canonical duplicates
        ⟨.setMerged outcome.group.id outcome.group.merged.ids, .error text⟩ := nofun
    exact ⟨false, .stopped _ useless, by simp [Exchange.Gives], _, rfl⟩
  | @unpointed set text set_done =>
    have used : Exchange.Usable canonical duplicates
        ⟨.setMerged outcome.group.id outcome.group.merged.ids, set⟩ := set_done
    have useless : ¬ Exchange.Usable canonical duplicates
        ⟨.setDuplicateGroup outcome.group.id now outcome.group.members.ids, .error text⟩ := nofun
    exact ⟨false, .next used (.stopped _ useless), by simp [Exchange.Gives], _, rfl⟩
  | @grown set pointed set_done pointed_done =>
    have used : Exchange.Usable canonical duplicates
        ⟨.setMerged outcome.group.id outcome.group.merged.ids, set⟩ := set_done
    have used_too : Exchange.Usable canonical duplicates
        ⟨.setDuplicateGroup outcome.group.id now outcome.group.members.ids, pointed⟩ := pointed_done
    exact ⟨true, .next used (.single used_too), by simp [Exchange.Gives], rfl⟩

theorem mergeStatements_growing (group : DuplicateGroup) (created : Bool) :
    let outcome := MergeOutcome.growing group created duplicates
    mergeStatements canonical duplicates createdBy now outcome =
      .lockReports (duplicates.insert canonical).ids ::
        (openingStatements canonical createdBy now created ++
          [.setMerged outcome.group.id outcome.group.merged.ids,
            .setDuplicateGroup outcome.group.id now outcome.group.members.ids]) := by
  cases created <;> rfl

theorem Merging.followed {result : Except Failure MergeOutcome}
    (merging : Merging canonical duplicates createdBy now exchanges result) :
    ∃ group created finished,
      Followed (Exchange.Usable canonical duplicates)
        (mergeStatements canonical duplicates createdBy now (.growing group created duplicates))
        exchanges finished ∧
      (∀ exchange ∈ exchanges, exchange.Usable canonical duplicates →
        exchange.Gives group created) ∧
      Reached (MergeOutcome.growing group created duplicates) result finished := by
  cases merging with
  | @unlocked locked failure stopped =>
    have useless : ¬ Exchange.Usable canonical duplicates
        ⟨.lockReports (duplicates.insert canonical).ids, locked⟩ := by
      rw [← checkLocked_eq_ok_iff, stopped]
      nofun
    refine ⟨default, false, false, .stopped _ useless, ?_, failure, rfl⟩
    intro exchange member used
    obtain rfl := List.mem_singleton.mp member
    exact absurd used useless
  | @unopened locked opening failure checked opened =>
    obtain ⟨group, created, finished, following, gives, reached⟩ := opened.followed duplicates
    obtain rfl := reached.of_error
    refine ⟨group, created, false, ?_, ?_, failure, rfl⟩
    · rw [mergeStatements_growing]
      exact .next (checkLocked_eq_ok_iff.mp checked) (following.append_stopped _)
    · exact List.forall_mem_cons.mpr ⟨fun _ => trivial, gives⟩
  | @opened locked opening growth group created _ checked opened growing =>
    obtain ⟨group', created', finished, following, gives, reached⟩ := opened.followed duplicates
    obtain ⟨rfl, same⟩ := reached.of_ok
    injection same with same_group same_created
    subst same_group same_created
    obtain ⟨finished, grown, gives_too, reached⟩ :=
      growing.followed canonical duplicates group created
    refine ⟨group, created, finished, ?_, ?_, reached⟩
    · rw [mergeStatements_growing]
      exact .next (checkLocked_eq_ok_iff.mp checked) (following.append grown)
    · refine List.forall_mem_cons.mpr ⟨fun _ => trivial, ?_⟩
      exact List.forall_mem_append.mpr ⟨gives, fun exchange member _ => gives_too exchange member⟩

/-! ## The whole merge -/

/-- Everything that a merge sends if it goes well, for its duplicate group. -/
def mergePlan (canonical : Int) (duplicates : IdSet) (createdBy : String) (now : Instant)
    (group : DuplicateGroup) (created : Bool) : List Statement :=
  .begin :: (mergeStatements canonical duplicates createdBy now
    (.growing group created duplicates) ++ [.commit])

/-- The merge follows its plan. If it does not come to the end, it fails, and its transaction is taken
back if one was begun. -/
def MergeFollowed (canonical : Int) (duplicates : IdSet) (createdBy : String) (now : Instant)
    (exchanges : List Exchange) (result : Except Failure MergeOutcome) : Prop :=
  ∃ group created said closing finished,
    exchanges = said ++ closing ∧ Closing (inTransaction said) closing ∧
    Followed (Exchange.Usable canonical duplicates)
      (mergePlan canonical duplicates createdBy now group created) said finished ∧
    (∀ exchange ∈ said, exchange.Usable canonical duplicates → exchange.Gives group created) ∧
    Reached (MergeOutcome.growing group created duplicates) result finished

theorem plain_of_course_merge {result : Except Failure MergeOutcome}
    (course : (merge canonical duplicates createdBy now).run.Course exchanges result) :
    ∀ exchange ∈ exchanges, exchange.statement.isPlain = true := by
  cases (asks_merge canonical duplicates createdBy now).asked course with
  | answered plain => exact plain
  | refused text plain _ last => exact List.forall_mem_append.mpr ⟨plain, by simpa using last⟩

theorem mergeFollowed_of_transacted {result : Except Failure MergeOutcome}
    (transacted : Transacted (merge canonical duplicates createdBy now) exchanges result) :
    MergeFollowed canonical duplicates createdBy now exchanges result := by
  cases transacted with
  | refused text =>
    have useless : ¬ Exchange.Usable canonical duplicates ⟨.begin, .error text⟩ := nofun
    refine ⟨default, false, [⟨.begin, .error text⟩], [], false, rfl, .nothing, .stopped _ useless,
      ?_, _, rfl⟩
    simp [Exchange.Gives]
  | @abandoned begun undone said failure opened course =>
    obtain ⟨group, created, finished, following, gives, reached⟩ := (of_course_merge course).followed
    obtain rfl := reached.of_error
    have used : Exchange.Usable canonical duplicates ⟨.begin, begun⟩ := opened
    have open_still := inTransaction_begun opened (plain_of_course_merge course)
    refine ⟨group, created, ⟨.begin, begun⟩ :: said, [⟨.rollback, undone⟩], false, rfl,
      open_still ▸ .takenBack undone, .next used (following.append_stopped _), ?_, failure, rfl⟩
    exact List.forall_mem_cons.mpr ⟨fun _ => trivial, gives⟩
  | @uncommitted begun undone said outcome text opened course =>
    obtain ⟨group, created, finished, following, gives, reached⟩ := (of_course_merge course).followed
    obtain ⟨rfl, -⟩ := reached.of_ok
    have used : Exchange.Usable canonical duplicates ⟨.begin, begun⟩ := opened
    have useless : ¬ Exchange.Usable canonical duplicates ⟨.commit, .error text⟩ := nofun
    have open_still : inTransaction (⟨.begin, begun⟩ :: (said ++ [⟨.commit, .error text⟩])) = true := by
      rw [← List.cons_append, inTransaction_committed,
        inTransaction_begun opened (plain_of_course_merge course)]
      rfl
    refine ⟨group, created, ⟨.begin, begun⟩ :: (said ++ [⟨.commit, .error text⟩]),
      [⟨.rollback, undone⟩], false, by simp, open_still ▸ .takenBack undone,
      .next used (following.append (.stopped [] useless)), ?_, _, rfl⟩
    simp only [List.forall_mem_cons, List.forall_mem_append]
    exact ⟨fun _ => trivial, gives, fun _ => trivial, by simp⟩
  | @committed begun ended said outcome opened course acknowledged =>
    obtain ⟨group, created, finished, following, gives, reached⟩ := (of_course_merge course).followed
    obtain ⟨rfl, -⟩ := reached.of_ok
    have used : Exchange.Usable canonical duplicates ⟨.begin, begun⟩ := opened
    have used_too : Exchange.Usable canonical duplicates ⟨.commit, ended⟩ := acknowledged
    have closed : inTransaction (⟨.begin, begun⟩ :: (said ++ [⟨.commit, ended⟩])) = false := by
      rw [← List.cons_append, inTransaction_committed, acknowledged, Bool.and_false]
    refine ⟨group, created, ⟨.begin, begun⟩ :: (said ++ [⟨.commit, ended⟩]), [], true, by simp,
      closed ▸ .nothing, .next used (following.append (.single used_too)), ?_, reached⟩
    simp only [List.forall_mem_cons, List.forall_mem_append]
    exact ⟨fun _ => trivial, gives, fun _ => trivial, by simp⟩

theorem committed_merge_iff {result : Except Failure MergeOutcome}
    (transacted : Transacted (merge canonical duplicates createdBy now) exchanges result) :
    Committed exchanges ↔ ∃ outcome, result = .ok outcome :=
  transacted.committed_iff fun _ _ course _ member => by
    have plain := plain_of_course_merge course _ member
    simp [Statement.isPlain, Statement.isBound] at plain

/-! ## What is written -/

/-- The numbers are in ascending order, none twice, and are those with the property. -/
def Ascending (ids : List Int) (p : Int → Prop) : Prop :=
  ids.Pairwise (· < ·) ∧ ∀ id, id ∈ ids ↔ p id

/-- The row of the duplicate group that a merge has locked or inserted. -/
def Taken (canonical : Int) (createdBy : String) (now : Instant) (exchanges : List Exchange)
    (cells : Row) : Prop :=
  ∃ others, ⟨.lockDuplicateGroup canonical, .rows (cells :: others)⟩ ∈ exchanges ∨
    ⟨.insertDuplicateGroup canonical now createdBy, .rows (cells :: others)⟩ ∈ exchanges

/-- A plan that was followed to its end has taken its group from a row. -/
theorem taken_of_followed {group : DuplicateGroup} {created : Bool} {said : List Exchange}
    (following : Followed (Exchange.Usable canonical duplicates)
      (mergePlan canonical duplicates createdBy now group created) said true)
    (gives : ∀ exchange ∈ said, exchange.Usable canonical duplicates →
      exchange.Gives group created) :
    ∃ cells, Taken canonical createdBy now said cells ∧ DuplicateGroup.decode cells = .ok group := by
  obtain ⟨statements, used⟩ := following.complete
  have sent (statement : Statement)
      (planned : statement ∈ mergePlan canonical duplicates createdBy now group created) :
      ∃ reply, ⟨statement, reply⟩ ∈ said ∧ Exchange.Gives group created ⟨statement, reply⟩ := by
    rw [← statements] at planned
    obtain ⟨exchange, member, rfl⟩ := List.mem_map.mp planned
    exact ⟨exchange.reply, member, gives exchange member (used exchange member)⟩
  cases created with
  | false =>
    obtain ⟨reply, member, cells, others, rfl, read⟩ :=
      sent (.lockDuplicateGroup canonical) (by simp [mergePlan, mergeStatements])
    exact ⟨cells, ⟨others, .inl member⟩, read⟩
  | true =>
    obtain ⟨reply, member, cells, others, rfl, read⟩ :=
      sent (.insertDuplicateGroup canonical now createdBy)
        (by simp [mergePlan, mergeStatements, MergeOutcome.growing])
    exact ⟨cells, ⟨others, .inr member⟩, read⟩

/-- A merge that gives a value has written the merged reports of its row together with the duplicates. -/
theorem MergeFollowed.written {outcome : MergeOutcome}
    (followed : MergeFollowed canonical duplicates createdBy now exchanges (.ok outcome)) :
    ∃ cells held reply,
      Taken canonical createdBy now exchanges cells ∧
      cells.required "merged_report_ids" (Json.list? Json.id?) = .ok held ∧
      ⟨.setMerged outcome.group.id outcome.group.merged.ids, reply⟩ ∈ exchanges ∧
      Ascending outcome.group.merged.ids fun id => id ∈ held ∨ id ∈ duplicates := by
  obtain ⟨group, created, said, closing, finished, rfl, -, following, gives, reached⟩ := followed
  obtain ⟨rfl, rfl⟩ := reached.of_ok
  obtain ⟨cells, ⟨others, taken⟩, read⟩ := taken_of_followed following gives
  obtain ⟨held, held_read, mem_held⟩ := DuplicateGroup.of_decode read
  let outcome := MergeOutcome.growing group created duplicates
  have planned : .setMerged outcome.group.id outcome.group.merged.ids ∈ said.map Exchange.statement := by
    rw [following.complete.1]
    simp [mergePlan, mergeStatements, outcome]
  obtain ⟨⟨_, reply⟩, member, rfl⟩ := List.mem_map.mp planned
  refine ⟨cells, held, reply, ⟨others, ?_⟩, held_read, List.mem_append_left _ member,
    outcome.group.merged.ascending, fun id => ?_⟩
  · exact taken.imp (List.mem_append_left _) (List.mem_append_left _)
  · change id ∈ group.merged.union (duplicates.diff group.merged) ↔ _
    rw [IdSet.mem_union, IdSet.mem_diff, mem_held]
    tauto

/-- What a merge over a database says and gives, whatever the database answers. -/
structure MergeCourse (canonical : Int) (duplicates : IdSet) (createdBy : String) (now : Instant)
    (exchanges : List Exchange) (result : Except Failure MergeOutcome) : Prop where
  /-- The statements are those of the plan, up to the first reply that cannot be used. -/
  followed : MergeFollowed canonical duplicates createdBy now exchanges result
  /-- The reports to lock are named in order and once each. -/
  locked : Ascending (duplicates.insert canonical).ids fun id => id = canonical ∨ id ∈ duplicates
  /-- The merge is reported exactly if the database has acknowledged it. -/
  committed : (∃ outcome, result = .ok outcome) ↔ Committed exchanges
  /-- A merge that is reported has written the union with what its row held. -/
  written : ∀ outcome, result = .ok outcome → ∃ cells held reply,
    Taken canonical createdBy now exchanges cells ∧
    cells.required "merged_report_ids" (Json.list? Json.id?) = .ok held ∧
    ⟨.setMerged outcome.group.id outcome.group.merged.ids, reply⟩ ∈ exchanges ∧
    Ascending outcome.group.merged.ids fun id => id ∈ held ∨ id ∈ duplicates

/-- Whatever the database answers, a merge sends its plan up to the first reply that it cannot use. It
gives a value exactly if `COMMIT` is acknowledged, and has then written the merged reports of the row
that it has locked or inserted, together with its duplicates. -/
theorem mergeReports_course {σ : Type} (server : Server σ) (state : σ) (canonical : Int)
    (duplicates : IdSet) (createdBy : String) (now : Instant) :
    let transcript := (store.mergeReports canonical duplicates createdBy now).run.hold server state
    MergeCourse canonical duplicates createdBy now transcript.exchanges transcript.value := by
  intro transcript
  have course := Dialogue.course_hold server
    (store.mergeReports canonical duplicates createdBy now).run state
  have transacted : Transacted (merge canonical duplicates createdBy now) transcript.exchanges
      transcript.value := of_course_transaction course
  have followed := mergeFollowed_of_transacted transacted
  refine ⟨followed, ⟨IdSet.ascending _, fun id => IdSet.mem_insert⟩,
    (committed_merge_iff transacted).symm, fun outcome given => ?_⟩
  rw [given] at followed
  exact followed.written

end Database

end AbandonedBikes
