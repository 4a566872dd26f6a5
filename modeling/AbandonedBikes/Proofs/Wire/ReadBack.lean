import AbandonedBikes.Proofs.Audit.ReadBack
import AbandonedBikes.Proofs.Json.ReadBack
import AbandonedBikes.Proofs.Store.Merging
import AbandonedBikes.Proofs.Time.Rfc3339
import AbandonedBikes.Wire.View
/-!
# Records are read back from JSON

A record is written as an object with a member for each field and read by the names of these members.
So it is read back if each value is: numbers if they fit the field, times if they are in the calendar,
words and texts always, an optional value because `null` stands for no other value, and a set because
its members are written in order.

A filter may be asked for in fewer words. Its fields have defaults, and those that hold them may be
left out (`SignalFilter.ofJson?_without`).

All this is about JSON values and not about their texts. `records_read_back_from_text` adds the printer
and the parser of texts.
-/

namespace AbandonedBikes

/-- The year of the instant is one of the calendar, as all years of four digits are. -/
def Instant.Dated (t : Instant) : Prop :=
  firstYear ≤ (Date.ofDays t.day).year ∧ (Date.ofDays t.day).year ≤ lastYear

instance (t : Instant) : Decidable t.Dated :=
  inferInstanceAs (Decidable (Instant.firstYear ≤ _ ∧ _ ≤ Instant.lastYear))

namespace Json

/-! ## Values -/

theorem word32?_toNat (count : UInt32) : word32? (.int count.toNat) = some count := by
  have bound : count.toNat < 4294967296 := count.toNat_lt
  have fits : (0 : Int) ≤ count.toNat ∧ (count.toNat : Int) ≤ 4294967295 := by omega
  rw [word32?, int?_int (decide_eq_true fits), Option.map_some, Int.toNat_natCast, UInt32.ofNat_toNat]

theorem instant?_ofInstant {t : Instant} (dated : t.Dated) : instant? (ofInstant t) = some t := by
  have known := Instant.inCalendar_iff.mpr dated
  rw [instant?, ofInstant, text?, Option.bind_some, Instant.ofText?_toText known]

/-- A value or `null` is read back, if `null` is no value. -/
theorem nullable?_ofOption {α : Type} {write : α → Json} {read : Json → Option α} {value : Option α}
    (no_value : read .null = none) (reads : ∀ a ∈ value, read (write a) = some a) :
    nullable? read (ofOption write value) = some value := by
  cases value with
  | none => rfl
  | some a =>
    have back := reads a rfl
    rw [ofOption, nullable?, back]
    · rfl
    · intro null
      rw [null, no_value] at back
      cases back

theorem list?_map {α : Type} {write : α → Json} {read : Json → Option α} {items : List α}
    (reads : ∀ item ∈ items, read (write item) = some item) :
    list? read (.array (items.map write)) = some items := by
  rw [list?]
  induction items with
  | nil => rfl
  | cons item items ih =>
    rw [List.forall_mem_cons] at reads
    simp [reads.1, ih reads.2]

end Json

theorem IdSet.ofList_ids (set : IdSet) : ofList set.ids = set := ext fun _ => mem_ofList

theorem IdSet.ofJson?_toJson {set : IdSet}
    (fits : ∀ n ∈ set, Literal.signed64.contains n = true) : ofJson? set.toJson = some set := by
  have numbers : Json.list? Json.id? set.toJson = some set.ids :=
    Json.list?_map fun n member => Json.int?_int (fits n member)
  rw [ofJson?, numbers, Option.map_some, ofList_ids]

/-! ## Records -/

theorem Fields.optional?_of_lookup {α : Type} {fields : Fields} {name : String} {value : Json}
    (found : fields.lookup name = some value) (read : Json → Option α) :
    fields.optional? name read = Json.nullable? read value := by
  rw [optional?, found]

section Records

variable {own members : List (String × Json)}

namespace DuplicateGroup

/-- The numbers of the group are signed words of 64 bits, and its time is in the calendar. -/
structure Fits (group : DuplicateGroup) : Prop where
  id : Literal.signed64.contains group.id = true
  canonical : Literal.signed64.contains group.canonical = true
  merged : ∀ n ∈ group.merged, Literal.signed64.contains n = true
  createdAt : group.createdAt.Dated

/-- A group is read from any object that has the members of its written form. -/
theorem ofJson?_of_found {group : DuplicateGroup} (form : group.toJson = .object own)
    (found : ∀ member ∈ own, members.lookup member.1 = some member.2) (fits : group.Fits) :
    ofJson? (.object members) = some group := by
  obtain rfl := Json.object.inj form
  simp only [List.forall_mem_cons] at found
  obtain ⟨id, canonical, merged, createdAt, createdBy, -⟩ := found
  simp only [ofJson?, Fields.of?, Fields.required?_of_lookup id, Fields.required?_of_lookup canonical,
    Fields.required?_of_lookup merged, Fields.required?_of_lookup createdAt,
    Fields.required?_of_lookup createdBy, Json.id?, Json.int?_int fits.id,
    Json.int?_int fits.canonical, IdSet.ofJson?_toJson fits.merged,
    Json.instant?_ofInstant fits.createdAt, Json.text?, Option.bind_eq_bind, Option.bind_some]

theorem ofJson?_toJson {group : DuplicateGroup} (fits : group.Fits) :
    ofJson? group.toJson = some group := by
  have names : fieldNames.Nodup := by decide
  exact ofJson?_of_found rfl (fun _ => lookup_of_mem names) fits

end DuplicateGroup

namespace SignalSummary

/-- The times of the summary are in the calendar. -/
structure Fits (summary : SignalSummary) : Prop where
  firstQualifyingAt : ∀ t ∈ summary.firstQualifyingAt, t.Dated
  lastQualifyingAt : ∀ t ∈ summary.lastQualifyingAt, t.Dated
  lastReportAt : summary.lastReportAt.Dated

/-- A summary is read from any object that has the members of its written form. -/
theorem ofJson?_of_found {summary : SignalSummary} (form : summary.toJson = .object own)
    (found : ∀ member ∈ own, members.lookup member.1 = some member.2) (fits : summary.Fits) :
    ofJson? (.object members) = some summary := by
  obtain rfl := Json.object.inj form
  simp only [List.forall_mem_cons] at found
  obtain ⟨total, unique, same, distinct, first, last, lastReport, qualifying, -⟩ := found
  have time {value : Option Instant} (dated : ∀ t ∈ value, t.Dated) :
      Json.nullable? Json.instant? (Json.ofOption Json.ofInstant value) = some value :=
    Json.nullable?_ofOption rfl fun t member => Json.instant?_ofInstant (dated t member)
  simp only [ofJson?, Fields.of?, Fields.required?_of_lookup total, Fields.required?_of_lookup unique,
    Fields.required?_of_lookup same, Fields.required?_of_lookup distinct,
    Fields.optional?_of_lookup first, Fields.optional?_of_lookup last,
    Fields.required?_of_lookup lastReport, Fields.required?_of_lookup qualifying, Json.word32?_toNat,
    time fits.firstQualifyingAt, time fits.lastQualifyingAt,
    Json.instant?_ofInstant fits.lastReportAt, Json.bool?, Option.bind_eq_bind, Option.bind_some]

theorem ofJson?_toJson {summary : SignalSummary} (fits : summary.Fits) :
    ofJson? summary.toJson = some summary := by
  have names : fieldNames.Nodup := by decide
  exact ofJson?_of_found rfl (fun _ => lookup_of_mem names) fits

end SignalSummary

namespace TimelineEntry

/-- The number of the entry is a signed word of 64 bits, and its time is in the calendar. -/
structure Fits (entry : TimelineEntry) : Prop where
  report : Literal.signed64.contains entry.report = true
  createdAt : entry.createdAt.Dated

/-- An entry is read from any object that has the members of its written form. -/
theorem ofJson?_of_found {entry : TimelineEntry} (form : entry.toJson = .object own)
    (found : ∀ member ∈ own, members.lookup member.1 = some member.2) (fits : entry.Fits) :
    ofJson? (.object members) = some entry := by
  obtain rfl := Json.object.inj form
  simp only [List.forall_mem_cons] at found
  obtain ⟨report, publicId, createdAt, label, matchKind, qualified, ignored, -⟩ := found
  have kind : Json.nullable? (Json.named? MatchKind.ofName?)
      (Json.ofOption (fun kind => .text kind.name) entry.matchKind) = some entry.matchKind :=
    Json.nullable?_ofOption rfl fun kind _ => MatchKind.ofName?_name kind
  simp only [ofJson?, Fields.of?, Fields.required?_of_lookup report,
    Fields.required?_of_lookup publicId, Fields.required?_of_lookup createdAt,
    Fields.required?_of_lookup label, Fields.optional?_of_lookup matchKind,
    Fields.required?_of_lookup qualified, Fields.required?_of_lookup ignored, Json.id?,
    Json.int?_int fits.report, Json.text?, Json.instant?_ofInstant fits.createdAt, kind, Json.bool?,
    Option.bind_eq_bind, Option.bind_some]

theorem ofJson?_toJson {entry : TimelineEntry} (fits : entry.Fits) :
    ofJson? entry.toJson = some entry := by
  have names : fieldNames.Nodup := by decide
  exact ofJson?_of_found rfl (fun _ => lookup_of_mem names) fits

end TimelineEntry

namespace AuditRecord

/-- The numbers of the record fit their fields, and its time is in the calendar. -/
structure Fits (record : AuditRecord) : Prop where
  seq : Literal.signed64.contains record.seq = true
  time : record.time.Dated
  report : Literal.signed64.contains record.report = true
  schemaVersion : Literal.signed16.contains record.schemaVersion = true

/-- A record is read from any object that has the members of its written form. -/
theorem ofJson?_of_found {record : AuditRecord} (form : record.toJson = .object own)
    (found : ∀ member ∈ own, members.lookup member.1 = some member.2) (fits : record.Fits) :
    ofJson? (.object members) = some record := by
  obtain rfl := Json.object.inj form
  simp only [List.forall_mem_cons] at found
  obtain ⟨seq, time, eventType, report, actor, payload, schemaVersion, -⟩ := found
  have named_actor :
      Json.nullable? Json.text? (Json.ofOption Json.text record.actor) = some record.actor :=
    Json.nullable?_ofOption rfl fun _ _ => rfl
  simp only [ofJson?, Fields.of?, Fields.required?_of_lookup seq, Fields.required?_of_lookup time,
    Fields.required?_of_lookup eventType, Fields.required?_of_lookup report,
    Fields.optional?_of_lookup actor, Fields.required?_of_lookup payload,
    Fields.required?_of_lookup schemaVersion, Json.id?, Json.int?_int fits.seq,
    Json.instant?_ofInstant fits.time, Json.text?, Json.int?_int fits.report, named_actor,
    Json.int?_int fits.schemaVersion, Option.bind_eq_bind, Option.bind_some]

theorem ofJson?_toJson {record : AuditRecord} (fits : record.Fits) :
    ofJson? record.toJson = some record := by
  have names : fieldNames.Nodup := by decide
  exact ofJson?_of_found rfl (fun _ => lookup_of_mem names) fits

end AuditRecord

end Records

/-! ## Fields that are left out -/

namespace Fields

/-- The fields but those of the given names. -/
def without (fields : Fields) (names : List String) : Fields :=
  fields.filter fun member => !names.contains member.1

variable {α : Type} {fields : Fields} {names : List String} {name : String} {read : Json → Option α}

theorem lookup_without (fields : Fields) (names : List String) (name : String) :
    (fields.without names).lookup name = if name ∈ names then none else fields.lookup name := by
  rw [without, lookup_filter_key fun other => !names.contains other]
  by_cases left_out : name ∈ names <;> simp [left_out]

theorem optional?_without {value : Option α} (found : fields.optional? name read = some value)
    (default : name ∈ names → value = none) :
    (fields.without names).optional? name read = some value := by
  rw [optional?] at found
  rw [optional?, lookup_without]
  by_cases left_out : name ∈ names
  · rw [if_pos left_out, default left_out]
  · rw [if_neg left_out, found]

theorem withDefault?_without {value default : α}
    (found : fields.withDefault? name default read = some value)
    (is_default : name ∈ names → value = default) :
    (fields.without names).withDefault? name default read = some value := by
  rw [withDefault?] at found
  rw [withDefault?, lookup_without]
  by_cases left_out : name ∈ names
  · rw [if_pos left_out, is_default left_out]
  · rw [if_neg left_out, found]

end Fields

/-- The object but its members of the given names. -/
def Json.without (value : Json) (names : List String) : Json :=
  match value with
  | .object members => .object (Fields.without members names)
  | value => value

namespace SignalFilter

/-- The field of the given name, if it is one, holds its default. -/
def HasDefault (filter : SignalFilter) : String → Prop
  | "status" => filter.status = none
  | "signal_strength" => filter.strength = none
  | "strong_only" => filter.strongOnly = false
  | "has_qualifying_reconfirmation" => filter.hasQualifying = none
  | "sort" => filter.sort = .newest
  | _ => True

/-- What the fields of the written form are read as. -/
theorem read_of_toJson {filter : SignalFilter} {own : Fields} (form : filter.toJson = .object own) :
    own.optional? "status" (Json.named? Status.ofName?) = some filter.status ∧
    own.optional? "signal_strength" (Json.named? Strength.ofName?) = some filter.strength ∧
    own.withDefault? "strong_only" false Json.bool? = some filter.strongOnly ∧
    own.optional? "has_qualifying_reconfirmation" Json.bool? = some filter.hasQualifying ∧
    own.withDefault? "sort" .newest (Json.named? ReportSort.ofName?) = some filter.sort := by
  obtain rfl := Json.object.inj form
  exact ⟨Json.nullable?_ofOption rfl fun status _ => Status.ofName?_name status,
    Json.nullable?_ofOption rfl fun strength _ => Strength.ofName?_name strength, rfl,
    Json.nullable?_ofOption rfl fun _ _ => rfl, ReportSort.ofName?_name filter.sort⟩

theorem ofJson?_toJson (filter : SignalFilter) : ofJson? filter.toJson = some filter := by
  obtain ⟨own, form⟩ : ∃ own, filter.toJson = .object own := ⟨_, rfl⟩
  obtain ⟨status, strength, strongOnly, hasQualifying, sort⟩ := read_of_toJson form
  rw [form, ofJson?, Fields.of?]
  simp [status, strength, strongOnly, hasQualifying, sort]

theorem ofJson?_without {filter : SignalFilter} {names : List String}
    (defaults : ∀ name ∈ names, filter.HasDefault name) :
    ofJson? (filter.toJson.without names) = some filter := by
  obtain ⟨own, form⟩ : ∃ own, filter.toJson = .object own := ⟨_, rfl⟩
  obtain ⟨status, strength, strongOnly, hasQualifying, sort⟩ := read_of_toJson form
  rw [form, Json.without, ofJson?, Fields.of?]
  simp [Fields.optional?_without status (defaults "status"),
    Fields.optional?_without strength (defaults "signal_strength"),
    Fields.withDefault?_without strongOnly (defaults "strong_only"),
    Fields.optional?_without hasQualifying (defaults "has_qualifying_reconfirmation"),
    Fields.withDefault?_without sort (defaults "sort")]

end SignalFilter

/-- Records whose numbers fit their fields and whose times are in the calendar are read back from the
objects that they are written as, which are JSON values and not yet texts. A filter is read back as
well if fields that hold their defaults are left out. -/
theorem records_read_back :
    (∀ group : DuplicateGroup, group.Fits → DuplicateGroup.ofJson? group.toJson = some group) ∧
    (∀ summary : SignalSummary, summary.Fits → SignalSummary.ofJson? summary.toJson = some summary) ∧
    (∀ entry : TimelineEntry, entry.Fits → TimelineEntry.ofJson? entry.toJson = some entry) ∧
    (∀ filter : SignalFilter, SignalFilter.ofJson? filter.toJson = some filter ∧
      ∀ names : List String, (∀ name ∈ names, filter.HasDefault name) →
        SignalFilter.ofJson? (filter.toJson.without names) = some filter) ∧
    (∀ record : AuditRecord, record.Fits → AuditRecord.ofJson? record.toJson = some record) :=
  ⟨fun _ => DuplicateGroup.ofJson?_toJson, fun _ => SignalSummary.ofJson?_toJson,
    fun _ => TimelineEntry.ofJson?_toJson,
    fun filter => ⟨filter.ofJson?_toJson, fun _ => SignalFilter.ofJson?_without⟩,
    fun _ => AuditRecord.ofJson?_toJson⟩

/-- A record without a payload, with the largest and smallest numbers and the last moment of the year
9999, which is in a leap second. -/
theorem records_read_back_leap_second :
    let time : Instant := ⟨253402300799, 1999999999, by decide⟩
    let record : AuditRecord :=
      ⟨-9223372036854775808, time, "", 9223372036854775807, none, .null, -32768⟩
    time.toText = "9999-12-31T23:59:60.999999999Z" ∧ record.Fits ∧
    AuditRecord.ofJson? record.toJson = some record := by
  intro time record
  have fits : record.Fits := ⟨by decide, by decide, by decide, by decide⟩
  exact ⟨by decide, fits, records_read_back.2.2.2.2 record fits⟩

/-! ## From texts -/

section Texts

variable {levels : Nat}

namespace Json

/-- The numbers of a field are plain if those that the field can hold are. -/
theorem plain_int {range : Literal.IntegerRange} {n : Int} (fits : range.contains n = true)
    (least : -9223372036854775808 ≤ range.least)
    (greatest : range.greatest ≤ 18446744073709551615) : Plain levels (.int n) := by
  have bounds : range.least ≤ n ∧ n ≤ range.greatest := of_decide_eq_true fits
  exact .int (Int.le_trans least bounds.1) (Int.le_trans bounds.2 greatest)

theorem plain_signed64 {n : Int} (fits : Literal.signed64.contains n = true) :
    Plain levels (.int n) :=
  plain_int fits (by decide) (by decide)

theorem plain_word32 (count : UInt32) : Plain levels (.int count.toNat) := by
  have bound := count.toNat_lt
  exact .int (by omega) (by omega)

theorem plain_ofOption {α : Type} {write : α → Json} (each : ∀ a, Plain levels (write a))
    (value : Option α) : Plain levels (ofOption write value) := by
  cases value with
  | none => exact .null
  | some a => exact each a

theorem Plain.without {value : Json} (plain : Plain levels value) (names : List String) :
    Plain levels (value.without names) := by
  cases plain with
  | object different each =>
    refine .object (different.sublist (List.filter_sublist.map _)) fun member kept => ?_
    exact each member (List.mem_filter.mp kept).1
  | null => exact .null
  | bool b => exact .bool b
  | int least greatest => exact .int least greatest
  | text s => exact .text s
  | array each => exact .array each

end Json

theorem IdSet.plain_toJson {set : IdSet}
    (fits : ∀ n ∈ set, Literal.signed64.contains n = true) : Json.Plain (levels + 1) set.toJson := by
  refine .array fun item member => ?_
  obtain ⟨n, n_mem, rfl⟩ := List.mem_map.mp member
  exact Json.plain_signed64 (fits n n_mem)

theorem DuplicateGroup.plain_toJson {group : DuplicateGroup} (fits : group.Fits) :
    Json.Plain (levels + 2) group.toJson := by
  have names : DuplicateGroup.fieldNames.Nodup := by decide
  refine .object names ?_
  simp only [List.forall_mem_cons]
  exact ⟨Json.plain_signed64 fits.id, Json.plain_signed64 fits.canonical,
    IdSet.plain_toJson fits.merged, .text _, .text _, by simp⟩

theorem SignalSummary.plain_toJson (summary : SignalSummary) :
    Json.Plain (levels + 1) summary.toJson := by
  have names : SignalSummary.fieldNames.Nodup := by decide
  refine .object names ?_
  simp only [List.forall_mem_cons]
  exact ⟨Json.plain_word32 _, Json.plain_word32 _, Json.plain_word32 _, Json.plain_word32 _,
    Json.plain_ofOption (fun _ => .text _) _, Json.plain_ofOption (fun _ => .text _) _, .text _,
    .bool _, by simp⟩

theorem TimelineEntry.plain_toJson {entry : TimelineEntry} (fits : entry.Fits) :
    Json.Plain (levels + 1) entry.toJson := by
  have names : TimelineEntry.fieldNames.Nodup := by decide
  refine .object names ?_
  simp only [List.forall_mem_cons]
  exact ⟨Json.plain_signed64 fits.report, .text _, .text _, .text _,
    Json.plain_ofOption (fun _ => .text _) _, .bool _, .bool _, by simp⟩

theorem SignalFilter.plain_toJson (filter : SignalFilter) :
    Json.Plain (levels + 1) filter.toJson := by
  have names : SignalFilter.fieldNames.Nodup := by decide
  refine .object names ?_
  simp only [List.forall_mem_cons]
  exact ⟨Json.plain_ofOption (fun _ => .text _) _, Json.plain_ofOption (fun _ => .text _) _, .bool _,
    Json.plain_ofOption (fun _ => .bool _) _, .text _, by simp⟩

theorem AuditRecord.plain_toJson {record : AuditRecord} (fits : record.Fits)
    (payload : record.payload.Plain levels) : Json.Plain (levels + 1) record.toJson := by
  have names : AuditRecord.fieldNames.Nodup := by decide
  refine .object names ?_
  simp only [List.forall_mem_cons]
  exact ⟨Json.plain_signed64 fits.seq, .text _, .text _, Json.plain_signed64 fits.report,
    Json.plain_ofOption .text _, payload,
    Json.plain_int fits.schemaVersion (by decide) (by decide), by simp⟩

/-- What a record is written as is read back from its text, the payload of an audit record as far as it
has no doubles and does not nest too deep. -/
theorem records_read_back_from_text :
    (∀ group : DuplicateGroup, group.Fits →
      (Json.ofText? group.toJson.write).bind DuplicateGroup.ofJson? = some group) ∧
    (∀ summary : SignalSummary, summary.Fits →
      (Json.ofText? summary.toJson.write).bind SignalSummary.ofJson? = some summary) ∧
    (∀ entry : TimelineEntry, entry.Fits →
      (Json.ofText? entry.toJson.write).bind TimelineEntry.ofJson? = some entry) ∧
    (∀ filter : SignalFilter, ∀ names : List String, (∀ name ∈ names, filter.HasDefault name) →
      (Json.ofText? (filter.toJson.without names).write).bind SignalFilter.ofJson? = some filter) ∧
    (∀ record : AuditRecord, record.Fits → record.payload.Plain 126 →
      (Json.ofText? record.toJson.write).bind AuditRecord.ofJson? = some record) := by
  refine ⟨fun group fits => ?_, fun summary fits => ?_, fun entry fits => ?_,
    fun filter names defaults => ?_, fun record fits payload => ?_⟩
  · rw [Json.ofText?_write (DuplicateGroup.plain_toJson fits)]
    exact DuplicateGroup.ofJson?_toJson fits
  · rw [Json.ofText?_write summary.plain_toJson]
    exact SignalSummary.ofJson?_toJson fits
  · rw [Json.ofText?_write (TimelineEntry.plain_toJson fits)]
    exact TimelineEntry.ofJson?_toJson fits
  · rw [Json.ofText?_write (filter.plain_toJson.without names)]
    exact SignalFilter.ofJson?_without defaults
  · rw [Json.ofText?_write (AuditRecord.plain_toJson fits payload)]
    exact AuditRecord.ofJson?_toJson fits

end Texts

end AbandonedBikes
