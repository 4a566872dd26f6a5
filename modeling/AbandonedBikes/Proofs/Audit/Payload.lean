import Mathlib.Logic.Function.Basic
import AbandonedBikes.Audit.Entry
/-!
# Payloads

A fact is written as an object that starts with its type. Facts of different types therefore have
different payloads, and those of one type are told apart by their numbers and words. A record is about
one fact at most.
-/

namespace AbandonedBikes

/-- What can be read back is told apart. -/
theorem injective_of_reads {α β : Type} {write : α → β} {read : β → Option α}
    (reads : ∀ a, read (write a) = some a) : Function.Injective write := by
  intro a b same
  have read_back := reads a
  rw [same, reads] at read_back
  exact (Option.some.inj read_back).symm

@[simp] theorem Source.name_inj {a b : Source} : a.name = b.name ↔ a = b :=
  (injective_of_reads Source.ofName?_name).eq_iff

@[simp] theorem Status.name_inj {a b : Status} : a.name = b.name ↔ a = b :=
  (injective_of_reads Status.ofName?_name).eq_iff

@[simp] theorem Strength.name_inj {a b : Strength} : a.name = b.name ↔ a = b :=
  (injective_of_reads Strength.ofName?_name).eq_iff

@[simp] theorem MatchKind.name_inj {a b : MatchKind} : a.name = b.name ↔ a = b :=
  (injective_of_reads MatchKind.ofName?_name).eq_iff

/-- Different facts have different payloads. -/
theorem Fact.toPayload_injective : Function.Injective Fact.toPayload := by
  intro a b same
  cases a <;> cases b <;> simp_all [toPayload, eventType]

/-- The record is about the fact. -/
structure AuditRecord.Tells (record : AuditRecord) (fact : Fact) : Prop where
  eventType : record.eventType = fact.eventType
  report : record.report = fact.report
  payload : record.payload = fact.toPayload
  schemaVersion : record.schemaVersion = 1

namespace AuditRecord

theorem tells_record (fact : Fact) (actor : String) (seq : Int) (time : Instant) :
    ((fact.entryBy actor).record seq time).Tells fact :=
  ⟨rfl, rfl, rfl, rfl⟩

theorem Tells.unique {record : AuditRecord} {a b : Fact} (tells : record.Tells a)
    (tells_too : record.Tells b) : a = b :=
  Fact.toPayload_injective (tells.payload.symm.trans tells_too.payload)

end AuditRecord

end AbandonedBikes
