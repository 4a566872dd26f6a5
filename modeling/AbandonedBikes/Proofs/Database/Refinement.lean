import AbandonedBikes.Proofs.Database.Merging
/-!
# A database that holds the tables

`Exchange.AnsweredFrom` says what a server that holds some tables answers to the statements of a merge.
Against such a server a merge has the result that it has on the tables, and the numbers that it sends
are those of the group that the tables end with. If a report is missing, nothing is sent but the lock.

A server may keep times in a precision of its own. With the identity a group comes back as it is in the
tables; a server that keeps whole microseconds cuts off its time of opening.
-/

namespace AbandonedBikes

/-- The group as it comes back from a server with some precision. -/
def DuplicateGroup.kept (precision : Instant → Instant) (group : DuplicateGroup) :
    DuplicateGroup :=
  { group with createdAt := precision group.createdAt }

/-- The outcome of a merge whose group comes back from a server with some precision. -/
def MergeOutcome.kept (precision : Instant → Instant) (outcome : MergeOutcome) : MergeOutcome :=
  { outcome with group := outcome.group.kept precision }

@[simp] theorem MergeOutcome.kept_growing (precision : Instant → Instant) (before : DuplicateGroup)
    (created : Bool) (duplicates : IdSet) :
    (growing before created duplicates).kept precision =
      growing (before.kept precision) created duplicates := rfl

/-- What a server answers that holds the tables and keeps times in some precision. The lock of the
reports gives those that are there, in any order. What else is sent is done, except that it does not
matter how a transaction is taken back. -/
def Exchange.AnsweredFrom (tables : Tables) (precision : Instant → Instant) (exchange : Exchange) :
    Prop :=
  match exchange.statement with
  | .lockReports ids =>
    ∃ rows found, exchange.reply = .rows rows ∧ rows.mapM Database.onlyId = .ok found ∧
      ∀ id, id ∈ found ↔ id ∈ ids ∧ tables.knows id = true
  | .lockDuplicateGroup canonical =>
    ∃ rows, exchange.reply = .rows rows ∧ rows.mapM DuplicateGroup.decode =
      .ok ((tables.duplicateGroupFor? canonical).toList.map (DuplicateGroup.kept precision))
  | .insertDuplicateGroup canonical now createdBy =>
    ∃ row, exchange.reply = .rows [row] ∧ DuplicateGroup.decode row =
      .ok ((tables.opened canonical createdBy now).kept precision)
  | .rollback => True
  | _ => exchange.reply.isError = false

namespace Database

variable {tables : Tables} {precision : Instant → Instant} {exchanges : List Exchange}
  {canonical : Int} {duplicates : IdSet} {createdBy : String} {now : Instant}

/-- The lock comes to the check of the tables. -/
theorem checkLocked_answered {locked : Reply}
    (answered : Exchange.AnsweredFrom tables precision
      ⟨.lockReports (duplicates.insert canonical).ids, locked⟩) :
    checkLocked canonical duplicates locked = checkMembers tables.knows canonical duplicates := by
  obtain ⟨rows, found, rfl, read, mem_found⟩ := answered
  have locked_ids : checkLocked canonical duplicates (.rows rows) =
      checkMembers (fun id => decide (id ∈ found)) canonical duplicates := by
    change Query.answer (rows.mapM onlyId) >>= _ = _
    rw [read]
    rfl
  rw [locked_ids]
  refine checkMembers_congr fun id member => ?_
  have known_iff : id ∈ found ↔ tables.knows id = true :=
    (mem_found id).trans (and_iff_right (IdSet.mem_iff.mp member))
  rw [Bool.eq_iff_iff, decide_eq_true_iff, known_iff]

/-- The lock of the duplicate group gives back the one of the tables. -/
theorem rows_of_answered {locked : Reply}
    (answered : Exchange.AnsweredFrom tables precision ⟨.lockDuplicateGroup canonical, locked⟩) :
    (locked = .rows [] ∧ tables.duplicateGroupFor? canonical = none) ∨
      ∃ cells group, locked = .rows [cells] ∧ tables.duplicateGroupFor? canonical = some group ∧
        DuplicateGroup.decode cells = .ok (group.kept precision) := by
  obtain ⟨rows, rfl, read⟩ := answered
  have rows_read := forall₂_of_mapM read
  cases found : tables.duplicateGroupFor? canonical with
  | none =>
    rw [found] at rows_read
    cases rows_read
    exact .inl ⟨rfl, rfl⟩
  | some group =>
    rw [found] at rows_read
    cases rows_read with
    | cons decoded rest =>
      cases rest
      exact .inr ⟨_, group, rfl, rfl, decoded⟩

/-- The group that a merge takes hold of is the one of the tables, or it is opened. -/
theorem opening_answered {result : Except Failure (DuplicateGroup × Bool)}
    (opening : Opening canonical createdBy now exchanges result)
    (answered : ∀ exchange ∈ exchanges, exchange.AnsweredFrom tables precision) :
    let existing := tables.duplicateGroupFor? canonical
    let before := existing.getD (tables.opened canonical createdBy now)
    result = .ok (before.kept precision, existing.isNone) ∧
      exchanges.map Exchange.statement = .lockDuplicateGroup canonical ::
        if existing.isNone then [.insertDuplicateGroup canonical now createdBy] else [] := by
  cases opening with
  | unread unread =>
    obtain ⟨rfl, _⟩ | ⟨cells, group, rfl, _, read⟩ := rows_of_answered (answered _ List.mem_cons_self)
    · cases unread
    · exact absurd unread (Query.Unread.not_of_decoded read _)
  | @found cells others before decoded =>
    obtain ⟨same, _⟩ | ⟨cells, group, same, found, read⟩ :=
      rows_of_answered (answered _ List.mem_cons_self)
    · injection same with same
      injection same
    · cases same
      rw [read] at decoded
      injection decoded with same
      subst same
      simp [found]
  | failed none_there unread =>
    have inserted := answered _ (List.mem_cons_of_mem _ List.mem_cons_self)
    obtain ⟨row, rfl, read⟩ := inserted
    obtain unread | ⟨empty, _⟩ := unread
    · exact absurd unread (Query.Unread.not_of_decoded read _)
    · injection empty with empty
      injection empty
  | opened none_there decoded =>
    have inserted := answered _ (List.mem_cons_of_mem _ List.mem_cons_self)
    obtain ⟨row, same, read⟩ := inserted
    cases same
    rw [read] at decoded
    injection decoded with same
    subst same
    obtain ⟨rfl, found⟩ | ⟨cells, group, rfl, _⟩ := rows_of_answered (answered _ List.mem_cons_self)
    · simp [found]
    · injection none_there with empty
      injection empty

/-- What a merge yields is written down. -/
theorem growing_answered {outcome : MergeOutcome} {result : Except Failure MergeOutcome}
    (growing : Growing outcome now exchanges result)
    (answered : ∀ exchange ∈ exchanges, exchange.AnsweredFrom tables precision) :
    result = .ok outcome ∧ exchanges.map Exchange.statement =
      [.setMerged outcome.group.id outcome.group.merged.ids,
        .setDuplicateGroup outcome.group.id now outcome.group.members.ids] := by
  cases growing with
  | unset text =>
    have done : (Reply.error text).isError = false := answered _ List.mem_cons_self
    cases done
  | unpointed text set_done =>
    have done : (Reply.error text).isError = false :=
      answered _ (List.mem_cons_of_mem _ List.mem_cons_self)
    cases done
  | grown set_done pointed_done => exact ⟨rfl, rfl⟩

/-- The statements of a merge that is made, up to the end of its transaction. -/
def mergeStatements (canonical : Int) (duplicates : IdSet) (createdBy : String) (now : Instant)
    (outcome : MergeOutcome) : List Statement :=
  [.lockReports (duplicates.insert canonical).ids, .lockDuplicateGroup canonical] ++
    (if outcome.created then [.insertDuplicateGroup canonical now createdBy] else []) ++
    [.setMerged outcome.group.id outcome.group.merged.ids,
      .setDuplicateGroup outcome.group.id now outcome.group.members.ids]

/-- A merge does not send anything after the lock if the check fails, and otherwise it is made as in
the tables. -/
theorem merging_answered {result : Except Failure MergeOutcome}
    (merging : Merging canonical duplicates createdBy now exchanges result)
    (answered : ∀ exchange ∈ exchanges, exchange.AnsweredFrom tables precision) :
    let outcome := tables.mergeOutcome canonical duplicates createdBy now
    match checkMembers tables.knows canonical duplicates with
    | .error failure => result = .error failure ∧
        exchanges.map Exchange.statement = [.lockReports (duplicates.insert canonical).ids]
    | .ok _ => result = .ok (outcome.kept precision) ∧
        exchanges.map Exchange.statement =
          mergeStatements canonical duplicates createdBy now outcome := by
  cases merging with
  | unlocked stopped =>
    rw [checkLocked_answered (answered _ List.mem_cons_self)] at stopped
    rw [stopped]
    exact ⟨rfl, rfl⟩
  | unopened checked opened =>
    obtain ⟨same, _⟩ := opening_answered opened fun _ member =>
      answered _ (List.mem_cons_of_mem _ member)
    injection same
  | opened checked opened growing =>
    rw [checkLocked_answered (answered _ List.mem_cons_self)] at checked
    obtain ⟨same, opening_sent⟩ := opening_answered opened fun _ member =>
      answered _ (List.mem_cons_of_mem _ (List.mem_append_left _ member))
    injection same with same
    injection same with before_eq created_eq
    subst before_eq created_eq
    obtain ⟨rfl, growth_sent⟩ := growing_answered growing fun _ member =>
      answered _ (List.mem_cons_of_mem _ (List.mem_append_right _ member))
    rw [checked]
    constructor
    · rw [Tables.mergeOutcome_eq, MergeOutcome.kept_growing]
    · rw [List.map_cons, List.map_append, opening_sent, growth_sent]
      rfl

/-- The transaction of a merge is abandoned if the check fails, and otherwise it is committed. -/
theorem transacted_answered {result : Except Failure MergeOutcome}
    (transacted : Transacted (merge canonical duplicates createdBy now) exchanges result)
    (answered : ∀ exchange ∈ exchanges, exchange.AnsweredFrom tables precision) :
    let outcome := tables.mergeOutcome canonical duplicates createdBy now
    match checkMembers tables.knows canonical duplicates with
    | .error failure => result = .error failure ∧ exchanges.map Exchange.statement =
        [.begin, .lockReports (duplicates.insert canonical).ids, .rollback]
    | .ok _ => result = .ok (outcome.kept precision) ∧ exchanges.map Exchange.statement =
        .begin :: mergeStatements canonical duplicates createdBy now outcome ++ [.commit] := by
  cases transacted with
  | refused text =>
    have done : (Reply.error text).isError = false :=
      answered ⟨.begin, .error text⟩ List.mem_cons_self
    cases done
  | @abandoned _ undone said failure opened course =>
    have merged := merging_answered (of_course_merge course) fun exchange member =>
      answered exchange (by simp [member])
    revert merged
    cases checkMembers tables.knows canonical duplicates with
    | ok _ =>
      rintro ⟨⟨⟩, _⟩
    | error cause =>
      rintro ⟨same, statements⟩
      exact ⟨same, by simp [statements]⟩
  | @uncommitted _ _ said _ text opened course =>
    have done : (Reply.error text).isError = false :=
      answered ⟨.commit, .error text⟩ (by simp)
    cases done
  | @committed _ ended said outcome opened course acknowledged =>
    have merged := merging_answered (of_course_merge course) fun exchange member =>
      answered exchange (by simp [member])
    revert merged
    cases checkMembers tables.knows canonical duplicates with
    | ok _ =>
      rintro ⟨same, statements⟩
      exact ⟨same, by simp [statements]⟩
    | error cause =>
      rintro ⟨⟨⟩, _⟩

/-- Against a server that holds the tables, a merge has the result that it has on them. If it is made,
then the numbers sent are those of the group that the tables end with; if it is refused, then only the
reports were locked. -/
theorem mergeReports_refines {σ : Type} (server : Server σ) (state : σ) {tables : Tables}
    (reached : Tables.Writes {} tables) (precision : Instant → Instant) (canonical : Int)
    (duplicates : IdSet) (createdBy : String) (now : Instant)
    (answered : ∀ exchange ∈ ((store.mergeReports canonical duplicates createdBy now).run.hold
      server state).exchanges, exchange.AnsweredFrom tables precision) :
    let transcript := (store.mergeReports canonical duplicates createdBy now).run.hold server state
    match tables.mergeReports canonical duplicates createdBy now with
    | .error failure => transcript.value = .error failure ∧
        transcript.exchanges.map Exchange.statement =
          [.begin, .lockReports (duplicates.insert canonical).ids, .rollback]
    | .ok (outcome, after) => transcript.value = .ok (outcome.kept precision) ∧
        after.duplicateGroupFor? canonical = some outcome.group ∧
        transcript.exchanges.map Exchange.statement =
          .begin :: mergeStatements canonical duplicates createdBy now outcome ++ [.commit] := by
  intro transcript
  have single := Tables.OneGroupEach.of_writes reached
  have numbered := Tables.Numbered.empty.writes reached
  have course := Dialogue.course_hold server
    (store.mergeReports canonical duplicates createdBy now).run state
  have merged := transacted_answered (of_course_transaction course) answered
  cases made : tables.mergeReports canonical duplicates createdBy now with
  | error failure =>
    rw [Tables.mergeReports_eq] at made
    rw [of_map_error made] at merged
    exact merged
  | ok pair =>
    obtain ⟨outcome, after⟩ := pair
    have ends : Merge.Made ⟨canonical, duplicates, createdBy, now, outcome⟩ tables after :=
      Merge.made_of_mergeReports numbered single made
    obtain ⟨_, _, rfl, -⟩ := Tables.of_mergeReports made
    rw [Tables.mergeReports_eq] at made
    cases checked : checkMembers tables.knows canonical duplicates with
    | error failure =>
      rw [checked] at made
      injection made
    | ok _ =>
      rw [checked] at merged
      exact ⟨merged.1, ends.duplicateGroupFor?_eq, merged.2⟩

/-- Two reports are there and no duplicate group, so the merge opens one. -/
theorem mergeReports_refines_two_reports :
    let tables := ((({} : Tables).insertReport default 1).2.insertReport default 1).2
    let row : Row := [("id", .int 1), ("canonical_report_id", .int 1),
      ("merged_report_ids", .array []), ("created_at", .text "1970-01-01T00:00:00Z"),
      ("created_by", .text "ops")]
    let script : Script := { replies := [.rows [[("id", .int 1)], [("id", .int 2)]], .rows [],
      .rows [row], .affected 1, .affected 2] }
    let transcript :=
      (store.mergeReports 1 (IdSet.ofList [2]) "ops" default).run.hold Script.server script
    Tables.Writes {} tables ∧
      (∀ exchange ∈ transcript.exchanges, exchange.AnsweredFrom tables id) ∧
      transcript.value = .ok ⟨⟨1, 1, IdSet.ofList [2], default, "ops"⟩, true, IdSet.ofList [2]⟩ := by
  intro tables row script transcript
  have reached : Tables.Writes {} tables :=
    .tail (.single (.insertReport _ _ _)) (.insertReport _ _ _)
  have exchanges : transcript.exchanges = [⟨.begin, .nothing⟩,
      ⟨.lockReports [1, 2], .rows [[("id", .int 1)], [("id", .int 2)]]⟩,
      ⟨.lockDuplicateGroup 1, .rows []⟩, ⟨.insertDuplicateGroup 1 default "ops", .rows [row]⟩,
      ⟨.setMerged 1 [2], .affected 1⟩, ⟨.setDuplicateGroup 1 default [1, 2], .affected 2⟩,
      ⟨.commit, .nothing⟩] := by rfl
  have known (id : Int) : id ∈ [1, 2] ↔ id ∈ [1, 2] ∧ tables.knows id = true := by
    refine ⟨fun member => ⟨member, ?_⟩, And.left⟩
    simp only [List.mem_cons, List.not_mem_nil, or_false] at member
    obtain rfl | rfl := member <;> rfl
  have answered : ∀ exchange ∈ transcript.exchanges, exchange.AnsweredFrom tables id := by
    rw [exchanges]
    simp only [List.forall_mem_cons]
    exact ⟨rfl, ⟨_, [1, 2], rfl, rfl, known⟩, ⟨_, rfl, rfl⟩, ⟨row, rfl, rfl⟩, rfl, rfl, rfl, by simp⟩
  have refined := mergeReports_refines Script.server script reached id 1 (IdSet.ofList [2]) "ops"
    default answered
  exact ⟨reached, answered, refined.1⟩

end Database

end AbandonedBikes
