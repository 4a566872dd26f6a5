import AbandonedBikes.Database.Row
import AbandonedBikes.Database.Statement
import AbandonedBikes.Proofs.Report.Keys
import AbandonedBikes.Proofs.Results
/-!
# Reports and groups in their columns

Statements write a report or a group column by column, and a row is read back column by column. The two
directions were written apart: words and keys go through three vocabularies, a counter that is too large
for its column is cut off on the way in, and a negative one counts as zero on the way out. Here the two
are compared.
-/

namespace AbandonedBikes

/-! ## Words -/

section

variable {α : Type} {vocabulary : Vocabulary} {name : α → String} {members : List α} {word : String}

theorem readWord_name {a : α} (found : findNamed? name members (name a) = some a) :
    readWord vocabulary name members (name a) = .ok a := by
  rw [readWord, found]

theorem readWord_of_mem (h : word ∈ members.map name) :
    ∃ a, readWord vocabulary name members word = .ok a := by
  obtain ⟨member, among, rfl⟩ := List.mem_map.mp h
  have some_found : (findNamed? name members (name member)).isSome = true :=
    List.find?_isSome.mpr ⟨member, among, BEq.rfl⟩
  obtain ⟨a, found⟩ := Option.isSome_iff_exists.mp some_found
  exact ⟨a, by rw [readWord, found]⟩

theorem readWord_of_not_mem (h : word ∉ members.map name) :
    readWord vocabulary name members word = .error ⟨vocabulary, word⟩ := by
  have none_found : findNamed? name members word = none :=
    List.find?_eq_none.mpr fun member among same =>
      h (List.mem_map.mpr ⟨member, among, eq_of_beq same⟩)
  rw [readWord, none_found]

theorem Status.read_of_known (known : word ∈ Status.all.map Status.name) :
    ∃ status, Status.read word = .ok status := readWord_of_mem known

theorem Source.read_of_known (known : word ∈ Source.all.map Source.name) :
    ∃ source, Source.read word = .ok source := readWord_of_mem known

theorem Strength.read_of_known (known : word ∈ Strength.all.map Strength.name) :
    ∃ strength, Strength.read word = .ok strength := readWord_of_mem known

end

/-! ## Reports -/

/-- The columns of a report: words and keys stand for what they name. -/
def Report.columns (report : Report) : ReportRow where
  id := report.id
  publicId := report.publicId
  createdAt := report.createdAt
  updatedAt := report.updatedAt
  status := report.status.name
  lat := report.location.lat
  lng := report.location.lng
  accuracy := report.location.accuracy
  tags := report.tags
  note := report.note
  source := report.source.name
  reporterKey := report.reporter.key
  bikeGroup := report.bikeGroup
  duplicateGroup := report.duplicateGroup

/-- What of a report is there before it is filed. -/
def Report.draft (report : Report) : NewReport where
  location := report.location
  tags := report.tags
  note := report.note
  source := report.source
  reporter := report.reporter
  createdAt := report.createdAt

/-- The report with its times in the precision of the database. -/
def Report.inMicros (report : Report) : Report :=
  { report with createdAt := report.createdAt.inMicros, updatedAt := report.updatedAt.inMicros }

namespace ReportRow

/-- The columns that the insertion of a report binds. The status is part of its text, and the time of the
last change is that of the creation. -/
def filed (row : ReportRow) : List Parameter :=
  [.freshPublicId, .time row.createdAt, .float row.lat, .float row.lng, .float row.accuracy,
    .texts row.tags, .ofOption .text row.note, .text row.source, .text row.reporterKey,
    .int row.bikeGroup]

/-- The number of the report and the columns that a change of status binds. -/
def restated (row : ReportRow) : List Parameter :=
  [.int row.id, .text row.status, .time row.updatedAt]

/-- The words of the row are in their vocabularies, and its key is one. -/
def Readable (row : ReportRow) : Prop :=
  row.status ∈ ["new", "triaged", "forwarded", "resolved", "invalid"] ∧
    row.source ∈ ["web", "partner_import"] ∧ Reporter.IsKey row.reporterKey

theorem toReport_of_read {row : ReportRow} {status : Status} {source : Source} {reporter : Reporter}
    (status_read : Status.read row.status = .ok status)
    (source_read : Source.read row.source = .ok source)
    (reporter_read : Reporter.ofKey row.reporterKey = .ok reporter) :
    row.toReport = .ok
      { row with status, source, reporter, location := ⟨row.lat, row.lng, row.accuracy⟩ } := by
  rw [toReport, status_read, source_read, reporter_read]
  rfl

theorem toReport_columns {report : Report} (built : report.reporter.Built) :
    report.columns.toReport = .ok report := by
  have status : Status.read report.columns.status = .ok report.status :=
    readWord_name (Status.ofName?_name _)
  have source : Source.read report.columns.source = .ok report.source :=
    readWord_name (Source.ofName?_name _)
  exact toReport_of_read status source built.ofKey_key

/-- A row that has a word outside its vocabulary is rejected, and no other. -/
theorem toReport_eq_unreadable_iff (row : ReportRow) :
    row.toReport = .error unreadableRow ↔ ¬ row.Readable := by
  constructor
  · rintro rejected ⟨known_status, known_source, key⟩
    obtain ⟨_, status⟩ := Status.read_of_known known_status
    obtain ⟨_, source⟩ := Source.read_of_known known_source
    rw [toReport_of_read status source (Reporter.ofKey_of_isKey key)] at rejected
    cases rejected
  · intro unreadable
    by_cases known_status : row.status ∈ Status.all.map Status.name
    case neg =>
      rw [toReport, Status.read, readWord_of_not_mem known_status]
      rfl
    obtain ⟨_, status⟩ := Status.read_of_known known_status
    by_cases known_source : row.source ∈ Source.all.map Source.name
    case neg =>
      rw [toReport, status, Source.read, readWord_of_not_mem known_source]
      rfl
    obtain ⟨_, source⟩ := Source.read_of_known known_source
    have no_key : ¬ Reporter.IsKey row.reporterKey := fun key =>
      unreadable ⟨known_status, known_source, key⟩
    rw [toReport, status, source, Reporter.ofKey_of_not_isKey no_key]
    rfl

end ReportRow

/-! ## Bike groups -/

/-- The counter as a column holds it. -/
def cutCounter (count : UInt32) : Int := min count.toNat 2147483647

/-- The columns of a bike group. A counter that is too large is cut off. -/
def BikeGroup.columns (group : BikeGroup) : GroupRow where
  id := group.id
  createdAt := group.createdAt
  updatedAt := group.updatedAt
  anchorLat := group.anchor.lat
  anchorLng := group.anchor.lng
  lastReportAt := group.lastReportAt
  totalReports := cutCounter group.totalReports
  uniqueReporters := cutCounter group.uniqueReporters
  sameReporter := cutCounter group.sameReporter
  distinctReporter := cutCounter group.distinctReporter
  firstQualifyingAt := group.firstQualifyingAt
  lastQualifyingAt := group.lastQualifyingAt
  strength := group.strength.name

/-- The group with its counters cut off at the largest one that a column holds. -/
def BikeGroup.cut (group : BikeGroup) : BikeGroup :=
  { group with
    totalReports := min group.totalReports 2147483647
    uniqueReporters := min group.uniqueReporters 2147483647
    sameReporter := min group.sameReporter 2147483647
    distinctReporter := min group.distinctReporter 2147483647 }

/-- The group with its times in the precision of the database. -/
def BikeGroup.inMicros (group : BikeGroup) : BikeGroup :=
  { group with
    createdAt := group.createdAt.inMicros
    updatedAt := group.updatedAt.inMicros
    lastReportAt := group.lastReportAt.inMicros
    firstQualifyingAt := group.firstQualifyingAt.map Instant.inMicros
    lastQualifyingAt := group.lastQualifyingAt.map Instant.inMicros }

namespace GroupRow

/-- The number of the group and the columns that its update binds. -/
def updated (row : GroupRow) : List Parameter :=
  [.int row.id, .time row.updatedAt, .time row.lastReportAt, .int row.totalReports,
    .int row.uniqueReporters, .int row.sameReporter, .int row.distinctReporter,
    .ofOption .time row.firstQualifyingAt, .ofOption .time row.lastQualifyingAt,
    .text row.strength]

/-- The counters of the row are signed words of 32 bits. -/
def Signed32 (row : GroupRow) : Prop :=
  ∀ count ∈ [row.totalReports, row.uniqueReporters, row.sameReporter, row.distinctReporter],
    -2147483648 ≤ count ∧ count ≤ 2147483647

theorem ofOption_ofInstant (time : Option Instant) :
    Parameter.ofOption .ofInstant time = .ofOption .time (time.map Instant.inMicros) := by
  cases time <;> rfl

theorem parameters_updateGroup (group : BikeGroup) :
    (Statement.updateGroup group).parameters = group.inMicros.columns.updated := by
  rw [Statement.parameters, ofOption_ofInstant, ofOption_ofInstant]
  rfl

theorem toGroup_of_read {row : GroupRow} {strength : Strength}
    (read : Strength.read row.strength = .ok strength) :
    row.toGroup = .ok
      { row with
        strength
        anchor := ⟨row.anchorLat, row.anchorLng⟩
        totalReports := counter row.totalReports
        uniqueReporters := counter row.uniqueReporters
        sameReporter := counter row.sameReporter
        distinctReporter := counter row.distinctReporter } := by
  rw [toGroup, read]
  rfl

theorem toNat_counter {count : Int} (fits : count ≤ 2147483647) :
    (counter count).toNat = count.toNat := by
  rw [counter, UInt32.toNat_ofNat']
  omega

@[simp] theorem counter_cutCounter (count : UInt32) :
    counter (cutCounter count) = min count 2147483647 := by
  have fits : cutCounter count ≤ 2147483647 := Int.min_le_right _ _
  rw [← UInt32.toNat_inj, toNat_counter fits, UInt32.toNat_min]
  simp only [cutCounter, UInt32.reduceToNat]
  omega

theorem toGroup_columns (group : BikeGroup) : group.columns.toGroup = .ok group.cut := by
  have strength : Strength.read group.columns.strength = .ok group.strength :=
    readWord_name (Strength.ofName?_name _)
  rw [toGroup_of_read strength]
  simp [BikeGroup.columns, BikeGroup.cut]

/-- A row whose strength is outside the vocabulary is rejected, and no other. -/
theorem toGroup_eq_unreadable_iff (row : GroupRow) :
    row.toGroup = .error unreadableRow ↔
      row.strength ∉ ["none", "weak_same_reporter", "strong_distinct_reporters"] := by
  constructor
  · intro rejected known
    obtain ⟨_, strength⟩ := Strength.read_of_known known
    rw [toGroup_of_read strength] at rejected
    cases rejected
  · intro unknown
    have unknown : row.strength ∉ Strength.all.map Strength.name := unknown
    rw [toGroup, Strength.read, readWord_of_not_mem unknown]
    rfl

/-- The sum of the two counters of confirmations does not leave the words of 32 bits, and it is positive
if one of the columns is. -/
theorem confirmations_of_toGroup {row : GroupRow} {group : BikeGroup} (signed : row.Signed32)
    (read : row.toGroup = .ok group) :
    group.sameReporter.toNat + group.distinctReporter.toNat < 4294967296 ∧
      (group.summary.hasQualifying = true ↔ 0 < row.sameReporter ∨ 0 < row.distinctReporter) := by
  obtain ⟨strength, known, made⟩ := of_bind_ok read
  obtain rfl := Except.ok.inj made
  have same_fits := (signed row.sameReporter (by simp)).2
  have distinct_fits := (signed row.distinctReporter (by simp)).2
  have same := toNat_counter same_fits
  have distinct := toNat_counter distinct_fits
  have sum : (counter row.sameReporter + counter row.distinctReporter).toNat =
      row.sameReporter.toNat + row.distinctReporter.toNat := by
    rw [UInt32.toNat_add, same, distinct]
    omega
  simp only [BikeGroup.summary, decide_eq_true_eq, UInt32.lt_iff_toNat_lt, sum, same, distinct,
    UInt32.toNat_zero]
  omega

end GroupRow

/-- The columns that the statements write for a report or a group are read back as the same report, and
as the same group with its counters cut off. Rows with a word outside its vocabulary are rejected. What
a row of any signed counters gives has a qualifying confirmation if and only if one of the two counters
is positive. -/
theorem columns_read_back :
    (∀ report : Report,
      (Statement.insertReport report.draft report.bikeGroup).parameters =
        report.inMicros.columns.filed ∧
      (Statement.setStatus report.id report.status report.updatedAt).parameters =
        report.inMicros.columns.restated ∧
      (report.reporter.Built → report.columns.toReport = .ok report)) ∧
    (∀ group : BikeGroup,
      (Statement.updateGroup group).parameters = group.inMicros.columns.updated ∧
      group.columns.toGroup = .ok group.cut) ∧
    (∀ row : ReportRow, row.toReport = .error unreadableRow ↔ ¬ row.Readable) ∧
    (∀ row : GroupRow, row.toGroup = .error unreadableRow ↔
      row.strength ∉ ["none", "weak_same_reporter", "strong_distinct_reporters"]) ∧
    (∀ (row : GroupRow) (group : BikeGroup), row.Signed32 → row.toGroup = .ok group →
      group.sameReporter.toNat + group.distinctReporter.toNat < 4294967296 ∧
      (group.summary.hasQualifying = true ↔ 0 < row.sameReporter ∨ 0 < row.distinctReporter)) := by
  exact ⟨fun report => ⟨rfl, rfl, ReportRow.toReport_columns⟩,
    fun group => ⟨GroupRow.parameters_updateGroup group, GroupRow.toGroup_columns group⟩,
    ReportRow.toReport_eq_unreadable_iff, GroupRow.toGroup_eq_unreadable_iff,
    fun _ _ => GroupRow.confirmations_of_toGroup⟩

end AbandonedBikes
