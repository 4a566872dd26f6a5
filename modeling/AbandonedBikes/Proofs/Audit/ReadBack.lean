import AbandonedBikes.Audit.Log
import AbandonedBikes.Proofs.Audit.Payload
import AbandonedBikes.Proofs.Lookups
/-!
# Facts are read back

The payload of a fact is an object, and of an object only the members that a fact of its type has are
read. So whatever else an object holds beside the members of a payload, it is read as the same fact
(`Fact.ofPayload?_of_found`). Nothing is lost on the way through the audit log either, which keeps
payloads as they are.

Numbers are read if they are signed words of 64 bits, as the numbers of reports and groups are.
-/

namespace AbandonedBikes

theorem Json.int?_int {range : Literal.IntegerRange} {number : Int}
    (fits : range.contains number = true) : int? range (.int number) = some number :=
  if_pos fits

theorem Json.id?_int {number : Int}
    (fits : -9223372036854775808 ≤ number ∧ number ≤ 9223372036854775807) :
    id? (.int number) = some number :=
  int?_int (decide_eq_true fits)

theorem Fields.required?_of_lookup {α : Type} {fields : Fields} {name : String} {value : Json}
    (found : fields.lookup name = some value) (read : Json → Option α) :
    fields.required? name read = read value := by
  rw [required?, found, Option.bind_some]

namespace Fact

/-- The numbers of reports and groups in a fact. -/
def numbers : Fact → List Int
  | .created report group _ => [report, group]
  | .statusChanged report _ _ => [report]
  | .merged report canonical group => [report, canonical, group]
  | .reconfirmationCounted report group _ => [report, group]
  | .reconfirmationIgnored report group => [report, group]
  | .strengthChanged report group _ _ => [report, group]

/-- The numbers of the fact are signed words of 64 bits. -/
def Fits (fact : Fact) : Prop :=
  ∀ number ∈ fact.numbers, -9223372036854775808 ≤ number ∧ number ≤ 9223372036854775807

instance (fact : Fact) : Decidable fact.Fits :=
  inferInstanceAs (Decidable (∀ number ∈ fact.numbers, _ ∧ _))

@[simp] theorem word?_text {α : Type} (ofName? : String → Option α) (word : String) :
    word? ofName? (.text word) = ofName? word := rfl

section Reading

variable {fact : Fact} {own members : List (String × Json)}
  (payload : fact.toPayload = .object own)
  (found : ∀ member ∈ own, members.lookup member.1 = some member.2)
include payload found

theorem lookup_type_of_found : members.lookup "type" = some (.text fact.eventType) := by
  obtain rfl := Json.object.inj payload
  exact found _ List.mem_cons_self

theorem ofFields?_of_found (fits : fact.Fits) : ofFields? fact.eventType members = some fact := by
  obtain rfl := Json.object.inj payload
  -- In each case the fields are there under the names that they are read by.
  cases fact <;>
    simp only [Fits, numbers, List.forall_mem_cons] at fits found <;>
    simp [ofFields?, eventType, Fields.required?_of_lookup, found, Json.id?_int, fits]

/-- An object is read as a fact if it has all the members of the payload. -/
theorem ofPayload?_of_found (fits : fact.Fits) : ofPayload? (.object members) = some fact := by
  have tag := lookup_type_of_found payload found
  calc
    ofPayload? (.object members)
      = ((members.lookup "type").bind Json.text?).bind fun type => ofFields? type members := rfl
    _ = ofFields? fact.eventType members := by rw [tag]; rfl
    _ = some fact := ofFields?_of_found payload found fits

end Reading

/-- A payload has the type and the fields of the type. -/
theorem names_of_payload {fact : Fact} {own : List (String × Json)}
    (payload : fact.toPayload = .object own) :
    own.map Prod.fst = "type" :: fieldNames fact.eventType := by
  obtain rfl := Json.object.inj payload
  cases fact <;> rfl

theorem nodup_names (fact : Fact) : ("type" :: fieldNames fact.eventType).Nodup := by
  cases fact <;> simp [eventType, fieldNames]

end Fact

/-- What is recorded comes after the records that its report has. -/
theorem MemoryLog.recordsFor_append (log : MemoryLog) (entry : AuditEntry) :
    (log.append entry).2.recordsFor entry.report =
      log.recordsFor entry.report ++ [(log.append entry).1] := by
  simp [recordsFor, append, AuditEntry.record]

/-- A fact is read back from its payload, and from every object that has the members of the payload
among others. Its type stands in the payload, and no other fact has the same payload. The memory log
takes it as the last record of its report and keeps it readable. -/
theorem Fact.told_by_payload (fact : Fact) (fits : fact.Fits) :
    ofPayload? fact.toPayload = some fact ∧
    (∃ own, fact.toPayload = .object own ∧ ∀ members, own ⊆ members →
      (members.map Prod.fst).Nodup → ofPayload? (.object members) = some fact) ∧
    fact.toPayload.member? "type" = some (.text fact.eventType) ∧
    (∀ other : Fact, other ≠ fact → other.toPayload ≠ fact.toPayload) ∧
    (∀ log : MemoryLog, ∃ record after,
      MemoryLog.behaviour.append log fact.entry = (.ok record, after) ∧
      (after.recordsFor fact.report).getLast? = some record ∧
      record.eventType = fact.eventType ∧ record.report = fact.report ∧
      record.fact? = some fact) := by
  have among {own members : List (String × Json)} (payload : fact.toPayload = .object own)
      (part : own ⊆ members) (names : (members.map Prod.fst).Nodup) :
      ofPayload? (.object members) = some fact :=
    ofPayload?_of_found payload (fun _ member => lookup_of_mem names (part member)) fits
  have alone : ofPayload? fact.toPayload = some fact :=
    among rfl (List.Subset.refl _) (names_of_payload rfl ▸ nodup_names fact)
  refine ⟨alone, ⟨_, rfl, fun _ => among rfl⟩, rfl,
    fun other different same => different (toPayload_injective same), fun log => ?_⟩
  have last := congrArg List.getLast? (log.recordsFor_append fact.entry)
  rw [List.getLast?_concat] at last
  exact ⟨_, _, rfl, last, rfl, rfl, alone⟩

/-- A merge with the largest and the smallest number that there are, told in another order and with a
member that no fact has. -/
theorem Fact.told_by_payload_with_note :
    let fact := Fact.merged 9223372036854775807 (-9223372036854775808) 5
    fact.Fits ∧ ofPayload? (.object [("dedupe_group_id", .int 5), ("note", .null),
      ("type", .text "merged"), ("canonical_report_id", .int (-9223372036854775808)),
      ("report_id", .int 9223372036854775807)]) = some fact := by
  intro fact
  have fits : fact.Fits := by decide
  obtain ⟨own, payload, among⟩ := (told_by_payload fact fits).2.1
  obtain rfl := Json.object.inj payload
  exact ⟨fits, among _ (by simp [fact, eventType]) (by decide)⟩

end AbandonedBikes
