import AbandonedBikes.Proofs.Replay.Causality
import AbandonedBikes.Proofs.Session.Counters
import AbandonedBikes.Proofs.Session.Trail
/-!
# What is recorded about the filing of a report

A filing records that its report was created and how the report was classified at that moment. Later
the report is classified again, with every recount of its group, from a history that may have grown.
As long as reports are filed in the order of their creation, a new one comes last in the history of its
group, the other ones keep their classifications, and so what was recorded stays true.

`Tables.FilingsTold` is this invariant: what the log says about the filing of a report is what follows
from the classification of the report now.
-/

namespace AbandonedBikes

/-! ## Facts about filings -/

/-- Whether the fact is one that a filing records about its own report. -/
def Fact.isFiling : Fact → Bool
  | .created .. | .reconfirmationCounted .. | .reconfirmationIgnored .. => true
  | .statusChanged .. | .merged .. | .strengthChanged .. => false

/-- The facts about the filing of a report. -/
def filingFacts (report : Int) (facts : List Fact) : List Fact :=
  facts.filter fun fact => fact.isFiling && fact.report == report

/-- What has to be recorded about the filing of a report with a classification. -/
def Report.filing (report : Report) (classification : Classification) : List Fact :=
  .created report.id report.bikeGroup report.source ::
    (classification.notes report.id report.bikeGroup).map Note.fact

theorem Report.created_filing (report : Report) (classification : Classification) :
    (report.filing classification).filter (fun fact => fact.eventType == "created") =
      [.created report.id report.bikeGroup report.source] := by
  cases classification <;> rfl

theorem Report.counted_filing (report : Report) (classification : Classification) :
    (report.filing classification).filter
        (fun fact => fact.eventType == "signal_reconfirmation_counted") =
      classification.matchKind?.toList.map (.reconfirmationCounted report.id report.bikeGroup) := by
  cases classification <;> rfl

theorem Report.ignored_filing (report : Report) (classification : Classification) :
    (report.filing classification).filter
        (fun fact => fact.eventType == "signal_reconfirmation_ignored_same_day") =
      if classification = .ignoredSameDay then
        [.reconfirmationIgnored report.id report.bikeGroup]
      else [] := by
  cases classification <;> rfl

theorem filingFacts_append (report : Int) (first second : List Fact) :
    filingFacts report (first ++ second) = filingFacts report first ++ filingFacts report second :=
  List.filter_append ..

theorem filingFacts_eq_nil {report : Int} {facts : List Fact}
    (silent : ∀ fact ∈ facts, fact.isFiling = true → fact.report ≠ report) :
    filingFacts report facts = [] := by
  rw [filingFacts, List.filter_eq_nil_iff]
  intro fact member about
  rw [Bool.and_eq_true, beq_iff_eq] at about
  exact silent fact member about.1 about.2

theorem isFiling_of_recount {recount : Recount} {report : Int} {fact : Fact}
    (member : fact ∈ (recount.notes report).map Note.fact) : fact.isFiling = false := by
  rw [Recount.of_mem_notes member]
  rfl

theorem isFiling_of_recompute {recount : Recount} {fact : Fact}
    (member : fact ∈ (Service.recomputeNotes recount).map Note.fact) : fact.isFiling = false := by
  rw [Service.recomputeNotes] at member
  split at member
  · exact isFiling_of_recount member
  · simp at member

/-- What a classification has recorded is about the report, and about its filing. -/
theorem of_mem_classification {classification : Classification} {report group : Int} {fact : Fact}
    (member : fact ∈ (classification.notes report group).map Note.fact) :
    fact.isFiling = true ∧ fact.report = report := by
  cases classification <;> simp_all [Classification.notes, Fact.isFiling, Fact.report]

namespace Filing

variable [Trigonometry] {settings : Settings} {tables : Tables} {new : NewReport}
variable (filing : Filing settings tables new)

theorem report_id : filing.report.id = tables.lastReport + 1 := by
  change filing.placed.lastReport + 1 = _
  rw [placed_lastReport]

theorem after_lastReport : filing.after.lastReport = tables.lastReport + 1 := filing.report_id

/-- The facts of a filing are those about its report and at most one about its group. -/
theorem map_fact_notes : filing.notes.map Note.fact =
    filing.report.filing filing.classification ++
      (filing.recount.notes filing.report.id).map Note.fact := by
  rw [notes, List.map_cons, List.map_append]
  rfl

theorem mem_filing {fact : Fact} (member : fact ∈ filing.report.filing filing.classification) :
    fact.isFiling = true ∧ fact.report = filing.report.id := by
  rw [Report.filing, List.mem_cons] at member
  rcases member with rfl | member
  · exact ⟨rfl, rfl⟩
  · exact of_mem_classification member

theorem report_of_isFiling {fact : Fact} (member : fact ∈ filing.notes.map Note.fact)
    (about : fact.isFiling = true) : fact.report = filing.report.id := by
  rw [map_fact_notes, List.mem_append] at member
  cases member with
  | inl member => exact (filing.mem_filing member).2
  | inr member => exact absurd about (by simp [isFiling_of_recount member])

theorem filingFacts_notes : filingFacts filing.report.id (filing.notes.map Note.fact) =
    filing.report.filing filing.classification := by
  have silent : filingFacts filing.report.id
      ((filing.recount.notes filing.report.id).map Note.fact) = [] :=
    filingFacts_eq_nil fun fact member about =>
      absurd about (by simp [isFiling_of_recount member])
  rw [map_fact_notes, filingFacts_append, silent, List.append_nil, filingFacts,
    List.filter_eq_self]
  intro fact member
  obtain ⟨about, same⟩ := filing.mem_filing member
  simp [about, same]

/-! ## The history of the group of a filing -/

theorem members_after (group : Int) : filing.after.members group = filing.inserted.members group :=
  rfl

theorem members_of_eq : filing.inserted.members filing.group.id =
    tables.members filing.group.id ++ [filing.report] := by
  rw [Tables.members, inserted_reports, placed_reports, List.filter_append]
  simp [Tables.members]

/-- A report that is filed no earlier than all others leaves them their classifications. -/
theorem classificationOf?_after (numbered : tables.Numbered)
    (latest : ∀ report ∈ tables.reports, report.createdAt ≤ new.createdAt) {report : Report}
    (member : report ∈ tables.reports) :
    (settings.replayRules.replay (filing.after.members report.bikeGroup)).classificationOf?
        report.id =
      (settings.replayRules.replay (tables.members report.bikeGroup)).classificationOf?
        report.id := by
  rw [members_after]
  -- Only the history of the group that the new report is in has grown.
  by_cases joined : report.bikeGroup = filing.group.id
  · have numbers : ((tables.members filing.group.id ++ [filing.report]).map Report.id).Nodup := by
      have all := numbered.reports.concat.nodup
      rw [← filing.report_id, ← List.map_singleton, ← List.map_append] at all
      rw [← members_of_eq, Tables.members, inserted_reports, placed_reports]
      exact all.sublist (List.filter_sublist.map Report.id)
    have last : ∀ other ∈ tables.members filing.group.id, other.before filing.report = true := by
      intro other other_member
      have present := (Tables.mem_members.mp other_member).1
      have bound := numbered.report_le present
      have number := filing.report_id
      exact Report.before_of_le (latest other present) (by omega)
    rw [joined, members_of_eq]
    exact settings.replayRules.classificationOf?_concat numbers last
      (Tables.mem_members.mpr ⟨member, joined⟩)
  · rw [filing.members_of_ne joined]

theorem classificationOf?_report :
    (settings.replayRules.replay (filing.after.members filing.report.bikeGroup)).classificationOf?
      filing.report.id = some filing.classification := by
  have classified := filing.classified
  rw [Tables.replay_reportsInGroup, before_id] at classified
  exact classified

end Filing

/-! ## The invariant -/

namespace Tables

/-- The facts about the filing of a report are those that belong to the classification of the report
by a replay of its group. -/
structure FilingsTold (rules : ReplayRules) (tables : Tables) (facts : List Fact) : Prop where
  told : ∀ report ∈ tables.reports, ∃ classification,
    (rules.replay (tables.members report.bikeGroup)).classificationOf? report.id =
        some classification ∧
      filingFacts report.id facts = report.filing classification
  known : ∀ fact ∈ facts, fact.isFiling = true → fact.report ≤ tables.lastReport

namespace FilingsTold

variable {rules : ReplayRules} {tables after : Tables} {facts more : List Fact}

theorem empty : FilingsTold rules {} [] := ⟨by simp, by simp⟩

/-- Nothing changes for the reports, and nothing is recorded about a filing. -/
theorem frame (told : tables.FilingsTold rules facts) (same : SameReports tables after)
    (last : after.lastReport = tables.lastReport)
    (silent : ∀ fact ∈ more, fact.isFiling = false) :
    after.FilingsTold rules (facts ++ more) where
  told := by
    intro report member
    obtain ⟨old, old_member, filed⟩ := same.exists_report member
    obtain ⟨classification, classified, recorded⟩ := told.told old old_member
    obtain ⟨number, _, source, house⟩ := Report.kept_of_asFiled_eq filed
    have nothing : filingFacts report.id more = [] :=
      filingFacts_eq_nil fun fact member about => absurd about (by simp [silent fact member])
    rw [Report.filing, number, house, source] at recorded
    rw [number, house] at classified
    refine ⟨classification, ?_, ?_⟩
    · rw [same.replay_members]
      exact classified
    · rw [filingFacts_append, nothing, List.append_nil]
      exact recorded
  known := by
    intro fact member about
    rw [last]
    cases List.mem_append.mp member with
    | inl member => exact told.known fact member about
    | inr member => exact absurd about (by simp [silent fact member])

/-- A filing records how its own report was classified, and leaves the others as they were. -/
theorem filed [Trigonometry] {settings : Settings} {new : NewReport}
    (told : tables.FilingsTold settings.replayRules facts) (filing : Filing settings tables new)
    (numbered : tables.Numbered)
    (latest : ∀ report ∈ tables.reports, report.createdAt ≤ new.createdAt) :
    filing.after.FilingsTold settings.replayRules (facts ++ filing.notes.map Note.fact) where
  told := by
    intro report member
    rw [filing.after_reports, List.mem_append, List.mem_singleton] at member
    have next := filing.report_id
    rcases member with member | rfl
    · obtain ⟨classification, classified, recorded⟩ := told.told report member
      have bound := numbered.report_le member
      have nothing : filingFacts report.id (filing.notes.map Note.fact) = [] := by
        apply filingFacts_eq_nil
        intro fact fact_member about
        have number := filing.report_of_isFiling fact_member about
        omega
      refine ⟨classification, ?_, ?_⟩
      · rw [filing.classificationOf?_after numbered latest member]
        exact classified
      · rw [filingFacts_append, nothing, List.append_nil]
        exact recorded
    · -- The number of the report is new, so no fact was about it before.
      have nothing : filingFacts filing.report.id facts = [] := by
        apply filingFacts_eq_nil
        intro fact fact_member about
        have bound := told.known fact fact_member about
        omega
      refine ⟨filing.classification, filing.classificationOf?_report, ?_⟩
      rw [filingFacts_append, nothing, List.nil_append, filing.filingFacts_notes]
  known := by
    intro fact member about
    have next := filing.report_id
    rw [filing.after_lastReport]
    cases List.mem_append.mp member with
    | inl member =>
      have bound := told.known fact member about
      omega
    | inr member =>
      have number := filing.report_of_isFiling member about
      omega

end FilingsTold

end Tables

/-! ## Records about filings -/

namespace MemoryLog

/-- The records of one type about a report. -/
def recordsAbout (log : MemoryLog) (report : Int) (eventType : String) : List AuditRecord :=
  (log.recordsFor report).filter fun record => record.eventType == eventType

/-- What the log says about the filing of a report agrees with a classification of the report. -/
structure Audits (log : MemoryLog) (report : Report) (classification : Classification) : Prop where
  /-- One record says that the report was created. -/
  created : List.Forall₂ AuditRecord.Tells (log.recordsAbout report.id "created")
    [.created report.id report.bikeGroup report.source]
  /-- One record says that the report was counted, exactly if it is. -/
  counted : ∀ kind,
    List.Forall₂ AuditRecord.Tells (log.recordsAbout report.id "signal_reconfirmation_counted")
      [.reconfirmationCounted report.id report.bikeGroup kind] ↔
      classification.matchKind? = some kind
  uncounted : log.recordsAbout report.id "signal_reconfirmation_counted" = [] ↔
    classification.matchKind? = none
  /-- One record says that the report was ignored, exactly if it is. -/
  ignored : List.Forall₂ AuditRecord.Tells
      (log.recordsAbout report.id "signal_reconfirmation_ignored_same_day")
      [.reconfirmationIgnored report.id report.bikeGroup] ↔ classification = .ignoredSameDay
  heeded : log.recordsAbout report.id "signal_reconfirmation_ignored_same_day" = [] ↔
    classification ≠ .ignoredSameDay
  exclusive : log.recordsAbout report.id "signal_reconfirmation_counted" = [] ∨
    log.recordsAbout report.id "signal_reconfirmation_ignored_same_day" = []

variable {log : MemoryLog} {facts : List Fact}

/-- The records of a type about a report are about the facts of its filing, if all facts of the type
are about filings. -/
theorem Holds.about (holds : log.Holds facts) (report : Int) (eventType : String)
    (only : ∀ fact : Fact, fact.eventType = eventType → fact.isFiling = true) :
    List.Forall₂ AuditRecord.Tells (log.recordsAbout report eventType)
      ((filingFacts report facts).filter fun fact => fact.eventType == eventType) := by
  rw [recordsAbout, recordsFor, filingFacts, List.filter_filter, List.filter_filter]
  refine List.rel_filter ?_ holds
  intro record fact tells
  have about : (fact.eventType == eventType) = true → fact.isFiling = true :=
    fun same => only fact (beq_iff_eq.mp same)
  simp only [Bool.and_eq_true, tells.eventType, tells.report]
  constructor
  · rintro ⟨same, subject⟩
    exact ⟨same, about same, subject⟩
  · rintro ⟨same, _, subject⟩
    exact ⟨same, subject⟩

/-- Records are about one list of facts only. -/
theorem told_iff {records : List AuditRecord} (told : List.Forall₂ AuditRecord.Tells records facts)
    {other : List Fact} : List.Forall₂ AuditRecord.Tells records other ↔ facts = other := by
  constructor
  · intro told_too
    exact List.right_unique_forall₂' (fun _ _ _ first second => first.unique second) told told_too
  · rintro rfl
    exact told

theorem told_nil_iff {records : List AuditRecord}
    (told : List.Forall₂ AuditRecord.Tells records facts) : records = [] ↔ facts = [] := by
  rw [← told_iff told, List.forall₂_nil_right_iff]

/-- A log with exactly the facts that belong to a classification agrees with it. -/
theorem Holds.audits (holds : log.Holds facts) {report : Report} {classification : Classification}
    (recorded : filingFacts report.id facts = report.filing classification) :
    log.Audits report classification := by
  have created := holds.about report.id "created" fun fact same => by
    cases fact <;> simp_all [Fact.eventType, Fact.isFiling]
  have counted := holds.about report.id "signal_reconfirmation_counted" fun fact same => by
    cases fact <;> simp_all [Fact.eventType, Fact.isFiling]
  have ignored := holds.about report.id "signal_reconfirmation_ignored_same_day" fun fact same => by
    cases fact <;> simp_all [Fact.eventType, Fact.isFiling]
  rw [recorded, Report.created_filing] at created
  rw [recorded, Report.counted_filing] at counted
  rw [recorded, Report.ignored_filing] at ignored
  constructor
  · exact created
  · intro kind
    rw [told_iff counted]
    cases classification.matchKind? <;> simp
  · rw [told_nil_iff counted]
    cases classification.matchKind? <;> simp
  · rw [told_iff ignored]
    split <;> simp_all
  · rw [told_nil_iff ignored]
    split <;> simp_all
  · rw [told_nil_iff counted, told_nil_iff ignored]
    cases classification <;> simp [Classification.matchKind?]

end MemoryLog

/-! ## Sessions in which reports come in order -/

/-- The time of the report that a request is to file. -/
def Request.filingTime? : Request → Option Instant
  | .file new => some new.createdAt
  | _ => none

/-- The times of the reports that are to be filed, in the order of the requests. -/
def filingTimes (requests : List Request) : List Instant := requests.filterMap Request.filingTime?

theorem filingTimes_concat (requests : List Request) (request : Request) :
    filingTimes (requests ++ [request]) = filingTimes requests ++ request.filingTime?.toList := by
  rw [filingTimes, List.filterMap_append]
  cases filing : request.filingTime? <;> simp [filingTimes, filing]

namespace Session

/-- A session remembers its requests. -/
theorem map_request_served [Trigonometry] {σ : Type} (behaviour : AuditBehaviour σ)
    (settings : Settings) (log : σ) (requests : List Request) :
    (of behaviour settings log requests).served.map Served.request = requests := by
  induction requests using List.reverseRecOn with
  | nil => rfl
  | append_singleton earlier request ih =>
    rw [of_concat]
    change (_ ++ [_]).map Served.request = _
    rw [List.map_append, ih]
    rfl

end Session

/-- A turn files a report, or it leaves the filed reports alone and records nothing about filings. -/
theorem Turn.filing_cases [Trigonometry] {settings : Settings} {tables after : Tables}
    {request : Request}
    {result : Except Failure Answer} {notes : List Note} (numbered : tables.Numbered)
    (turn : Turn settings tables request result notes after) :
    (Tables.SameReports tables after ∧ after.lastReport = tables.lastReport ∧
        ∀ fact ∈ notes.map Note.fact, fact.isFiling = false) ∨
      ∃ new, ∃ filing : Filing settings tables new,
        request = .file new ∧ after = filing.after ∧ notes = filing.notes := by
  cases turn with
  | refused | detailed | listed => exact .inl ⟨rfl, rfl, by simp⟩
  | @filed new filing => exact .inr ⟨new, filing, rfl, rfl, rfl⟩
  | statusChanged actor h =>
    have same := (Tables.sameFilings_changeStatus numbered h).reports
    obtain ⟨_, _, _, _, rfl⟩ := Tables.of_changeStatus h
    exact .inl ⟨same, rfl, by simp [Fact.isFiling]⟩
  | @merged canonical duplicates operator now outcome _ nonempty proper h =>
    have same := (Tables.sameFilings_mergeReports h).reports
    obtain ⟨_, _, _, rfl⟩ := Tables.of_mergeReports h
    refine .inl ⟨same, Tables.afterMerge_lastReport _ _ _, ?_⟩
    intro fact member
    obtain ⟨id, rfl⟩ := MergeOutcome.of_mem_notes member
    rfl
  | recounted now found => exact .inl ⟨rfl, rfl, fun _ => isFiling_of_recompute⟩

namespace Tables

/-- Every report was filed at one of the times. -/
def FiledAt (tables : Tables) (times : List Instant) : Prop :=
  ∀ report ∈ tables.reports, report.createdAt ∈ times

/-- What is kept by every turn: if the reports came in order so far, then all that is recorded about
their filings is still right. -/
structure Audited (rules : ReplayRules) (tables : Tables) (times : List Instant) (facts : List Fact) :
    Prop where
  numbered : tables.Numbered
  filedAt : tables.FiledAt times
  told : times.Pairwise (· ≤ ·) → tables.FilingsTold rules facts

end Tables

theorem Turn.audited [Trigonometry] {settings : Settings} {tables after : Tables} {request : Request}
    {result : Except Failure Answer} {notes : List Note} {requests : List Request}
    {facts : List Fact} (turn : Turn settings tables request result notes after)
    (audited : tables.Audited settings.replayRules (filingTimes requests) facts) :
    after.Audited settings.replayRules (filingTimes (requests ++ [request]))
      (facts ++ notes.map Note.fact) := by
  have numbered := audited.numbered
  refine ⟨numbered.writes turn.effect.writes, ?_, ?_⟩
  · intro report member
    rw [filingTimes_concat, List.mem_append]
    rcases turn.filing_cases numbered with ⟨same, _, _⟩ | ⟨new, filing, rfl, rfl, _⟩
    · obtain ⟨old, old_member, filed⟩ := same.exists_report member
      obtain ⟨_, creation, _, _⟩ := Report.kept_of_asFiled_eq filed
      exact .inl (creation ▸ audited.filedAt old old_member)
    · rw [filing.after_reports, List.mem_append, List.mem_singleton] at member
      rcases member with member | rfl
      · exact .inl (audited.filedAt report member)
      · exact .inr (List.mem_singleton_self _)
  · intro ordered
    rw [filingTimes_concat, List.pairwise_append] at ordered
    obtain ⟨earlier, _, last⟩ := ordered
    have told := audited.told earlier
    rcases turn.filing_cases numbered with ⟨same, number, silent⟩ | ⟨new, filing, rfl, rfl, rfl⟩
    · exact told.frame same number silent
    · refine told.filed filing numbered fun report member => ?_
      exact last _ (audited.filedAt report member) _ (List.mem_singleton_self _)

/-- If reports are filed in the order of their creation, then after the session the log says of every
report, once, that it was created, and of its classification what a replay of its group yields now. -/
theorem Session.audits_of [Trigonometry] (settings : Settings) (clock : Instant)
    (requests : List Request) (ordered : (filingTimes requests).Pairwise (· ≤ ·)) :
    let session := of MemoryLog.behaviour settings { clock } requests
    ∀ report ∈ session.tables.reports, ∃ classification,
      (settings.replayRules.replay
        (session.tables.reportsInGroup report.bikeGroup)).classificationOf? report.id =
          some classification ∧
        session.world.log.Audits report classification := by
  intro session report member
  obtain ⟨facts, holds, audited⟩ := of_trail settings { clock } rfl
    (P := fun tables served facts =>
      tables.Audited settings.replayRules (filingTimes (served.map Served.request)) facts)
    ⟨.empty, by simp [Tables.FiledAt], fun _ => .empty⟩
    (fun _ _ _ _ _ _ _ audited turn => by
      rw [List.map_append]
      exact turn.audited audited) requests
  rw [map_request_served] at audited
  obtain ⟨classification, classified, recorded⟩ := (audited.told ordered).told report member
  refine ⟨classification, ?_, holds.audits recorded⟩
  rw [Tables.replay_reportsInGroup]
  exact classified

/-- Four reports about one bike. The second one comes forty days after the first one and from someone
else, so it is counted; the third one repeats it an hour later, and the last one comes too soon. -/
theorem Session.audits_of_joined_reports :
    let _ : Trigonometry := .series
    let settings : Settings := {}
    let bike (user : Int) (lng : Float) (hour : Int) : Request :=
      .file
        { location := ⟨0.0, lng, 5.0⟩, tags := ["rusty"], note := none, source := .web,
          reporter := .user user, createdAt := .atSecond (hour * 3600) }
    let requests : List Request :=
      [bike 7 0.0 480009, bike 8 0.00001 480969, .details 2, bike 8 0.00002 480970, bike 7 0.0 481209]
    let session := of MemoryLog.behaviour settings { clock := .atSecond 0 } requests
    (filingTimes requests).Pairwise (· ≤ ·) ∧
      session.tables.reports.map (fun report => (report.bikeGroup,
        (settings.replayRules.replay
          (session.tables.reportsInGroup report.bikeGroup)).classificationOf? report.id)) =
        [(1, some .initial), (1, some .countedDistinctReporter), (1, some .ignoredSameDay),
          (1, some .nonQualifying)] ∧
      ∀ report ∈ session.tables.reports, ∃ classification,
        (settings.replayRules.replay
          (session.tables.reportsInGroup report.bikeGroup)).classificationOf? report.id =
            some classification ∧
          session.world.log.Audits report classification := by
  intro platform settings bike requests session
  have ordered : (filingTimes requests).Pairwise (· ≤ ·) := by decide +kernel
  exact ⟨ordered, by decide +kernel, audits_of settings (.atSecond 0) requests ordered⟩

end AbandonedBikes
