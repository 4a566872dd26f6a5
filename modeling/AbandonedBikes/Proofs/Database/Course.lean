import AbandonedBikes.Database.Query
import AbandonedBikes.Proofs.Results
/-!
# The courses of a dialogue

A course of a dialogue is what may be said in it: the statements with some replies to them, and the
value it ends with then. What is held with a database is always a course, so what holds of every course
holds for every database and for every script of replies.

Courses are read backwards, one part of the dialogue at a time. A call that is followed by another has
failed or has given a value to it; a query has one exchange; a transaction has one of four courses.
-/

namespace AbandonedBikes

/-- A course of a dialogue: its exchanges in order and the value that it ends with. -/
inductive Dialogue.Course {α : Type} : Dialogue α → List Exchange → α → Prop
  | done (value : α) : Course (.done value) [] value
  | ask {statement : Statement} {next : Reply → Dialogue α} {reply : Reply}
      {exchanges : List Exchange} {value : α} (rest : Course (next reply) exchanges value) :
    Course (.ask statement next) (⟨statement, reply⟩ :: exchanges) value

namespace Dialogue

variable {α β σ : Type} {exchanges : List Exchange}

theorem course_hold (server : Server σ) (dialogue : Dialogue α) (state : σ) :
    dialogue.Course (dialogue.hold server state).exchanges (dialogue.hold server state).value := by
  induction dialogue generalizing state with
  | done value => exact .done value
  | ask statement next ih => exact .ask (ih _ _)

@[simp] theorem course_done {value result : α} :
    (Dialogue.done value).Course exchanges result ↔ exchanges = [] ∧ result = value := by
  constructor
  · rintro ⟨⟩
    exact ⟨rfl, rfl⟩
  · rintro ⟨rfl, rfl⟩
    exact .done _

theorem course_ask {statement : Statement} {next : Reply → Dialogue α} {result : α} :
    (Dialogue.ask statement next).Course exchanges result ↔
      ∃ reply rest, exchanges = ⟨statement, reply⟩ :: rest ∧ (next reply).Course rest result := by
  constructor
  · rintro ⟨⟩
    exact ⟨_, _, rfl, ‹_›⟩
  · rintro ⟨reply, rest, rfl, course⟩
    exact .ask course

/-- Of one dialogue after another, first the one takes its course and then the other. -/
theorem course_bind {first : Dialogue α} {next : α → Dialogue β} {result : β} :
    (first >>= next).Course exchanges result ↔
      ∃ value before after, first.Course before value ∧ (next value).Course after result ∧
        exchanges = before ++ after := by
  induction first generalizing exchanges with
  | done value =>
    constructor
    · intro course
      exact ⟨value, [], exchanges, .done value, course, rfl⟩
    · rintro ⟨_, _, after, ⟨⟩, course, rfl⟩
      exact course
  | ask statement rest ih =>
    simp only [ask_bind, course_ask, ih]
    constructor
    · rintro ⟨reply, _, rfl, value, before, after, first_course, next_course, rfl⟩
      exact ⟨value, _, after, ⟨reply, before, rfl, first_course⟩, next_course, rfl⟩
    · rintro ⟨value, _, after, ⟨reply, before, rfl, first_course⟩, next_course, rfl⟩
      exact ⟨reply, _, rfl, value, before, after, first_course, next_course, rfl⟩

end Dialogue

namespace Attempt

variable {α β : Type} {exchanges : List Exchange}

/-- A call that is followed by another one has failed, or it has given a value to the other. -/
theorem course_bind {call : Attempt Dialogue α} {next : α → Attempt Dialogue β}
    {result : Except Failure β} :
    (call >>= next).run.Course exchanges result ↔
      (∃ failure, call.run.Course exchanges (.error failure) ∧ result = .error failure) ∨
        ∃ value before after, call.run.Course before (.ok value) ∧
          (next value).run.Course after result ∧ exchanges = before ++ after := by
  rw [ExceptT.run_bind, Dialogue.course_bind]
  constructor
  · rintro ⟨failure | value, before, after, course, rest, rfl⟩
    · obtain ⟨rfl, rfl⟩ := Dialogue.course_done.mp rest
      rw [List.append_nil]
      exact .inl ⟨failure, course, rfl⟩
    · exact .inr ⟨value, before, after, course, rest, rfl⟩
  · rintro (⟨failure, course, rfl⟩ | ⟨value, before, after, course, rest, rfl⟩)
    · exact ⟨.error failure, exchanges, [], course, .done _, (List.append_nil _).symm⟩
    · exact ⟨.ok value, before, after, course, rest, rfl⟩

@[simp] theorem course_pure {value : α} {result : Except Failure α} :
    (pure value : Attempt Dialogue α).run.Course exchanges result ↔
      exchanges = [] ∧ result = .ok value :=
  Dialogue.course_done

/-- What is made of the value of a call adds nothing to what is said. -/
theorem of_course_bind_pure {call : Attempt Dialogue α} {make : α → β} {result : Except Failure β}
    (course : (call >>= fun value => pure (make value)).run.Course exchanges result) :
    ∃ ended, call.run.Course exchanges ended := by
  obtain ⟨failure, failed, -⟩ | ⟨value, _, _, made, ending, rfl⟩ := course_bind.mp course
  · exact ⟨_, failed⟩
  · obtain ⟨rfl, -⟩ := course_pure.mp ending
    rw [List.append_nil]
    exact ⟨_, made⟩

@[simp] theorem course_throw {failure : Failure} {result : Except Failure α} :
    (throw failure : Attempt Dialogue α).run.Course exchanges result ↔
      exchanges = [] ∧ result = .error failure :=
  Dialogue.course_done

@[simp] theorem course_ofExcept {value result : Except Failure α} :
    (ofExcept value : Attempt Dialogue α).run.Course exchanges result ↔
      exchanges = [] ∧ result = value :=
  Dialogue.course_done

theorem course_orElse {failure : Failure} {value : Option α} {result : Except Failure α} :
    (orElse failure value : Attempt Dialogue α).run.Course exchanges result ↔
      exchanges = [] ∧ result = value.elim (.error failure) .ok := by
  cases value <;> exact Dialogue.course_done

end Attempt

/-- A reply is an error, or it counts rows. -/
theorem Reply.refused_or_counted (reply : Reply) :
    (∃ text, reply = .error text) ∨
      (reply.isError = false ∧ ∃ count, reply.affected? = .ok count) := by
  cases reply with
  | rows rows => exact .inr ⟨rfl, _, rfl⟩
  | affected count => exact .inr ⟨rfl, _, rfl⟩
  | error text => exact .inl ⟨text, rfl⟩

/-- The failure of a statement that the database has refused. -/
def Failure.ofRefusal (text : String) : Failure := .database (QueryError.refused text).message

namespace Query

variable {α : Type} {exchanges : List Exchange}

/-- The result of a query as a call. -/
def answer (result : Except QueryError α) : Except Failure α :=
  result.mapError fun error => .database error.message

theorem of_answer_ok {result : Except QueryError α} {value : α} (h : answer result = .ok value) :
    result = .ok value := by
  cases result with
  | error error => injection h
  | ok found =>
    injection h with same
    exact congrArg Except.ok same

/-- A query has one exchange, and its result is read from the reply. -/
theorem course_sending {statement : Statement} {read : Reply → Except QueryError α}
    {result : Except Failure α} :
    (sending statement read).call.run.Course exchanges result ↔
      ∃ reply, exchanges = [⟨statement, reply⟩] ∧ result = answer (read reply) := by
  change (Dialogue.ask statement fun reply => .done (answer (read reply))).Course exchanges result ↔ _
  rw [Dialogue.course_ask]
  constructor
  · rintro ⟨reply, _, rfl, course⟩
    obtain ⟨rfl, rfl⟩ := Dialogue.course_done.mp course
    exact ⟨reply, rfl, rfl⟩
  · rintro ⟨reply, rfl, rfl⟩
    exact ⟨reply, [], rfl, .done _⟩

theorem of_course_sending_error {statement : Statement} {read : Reply → Except QueryError α}
    {failure : Failure}
    (course : (sending statement read).call.run.Course exchanges (.error failure)) :
    ∃ reply error, read reply = .error error ∧ exchanges = [⟨statement, reply⟩] ∧
      failure = .database error.message := by
  obtain ⟨reply, rfl, answered⟩ := course_sending.mp course
  cases failed : read reply with
  | ok value =>
    rw [failed] at answered
    injection answered
  | error error =>
    rw [failed] at answered
    injection answered with same
    exact ⟨reply, error, failed, rfl, same⟩

theorem of_course_sending_ok {statement : Statement} {read : Reply → Except QueryError α} {value : α}
    (course : (sending statement read).call.run.Course exchanges (.ok value)) :
    ∃ reply, read reply = .ok value ∧ exchanges = [⟨statement, reply⟩] := by
  obtain ⟨reply, rfl, answered⟩ := course_sending.mp course
  cases read_reply : read reply with
  | error error =>
    rw [read_reply] at answered
    injection answered
  | ok found =>
    rw [read_reply] at answered
    injection answered with same
    exact ⟨reply, same ▸ read_reply, rfl⟩

/-- A query whose value is checked has one exchange, too. -/
theorem of_course_checked {β : Type} {statement : Statement} {read : Reply → Except QueryError α}
    {check : α → Except Failure β} {result : Except Failure β}
    (course : ((sending statement read).call >>= fun value =>
      Attempt.ofExcept (check value)).run.Course exchanges result) :
    ∃ reply, exchanges = [⟨statement, reply⟩] ∧ result = answer (read reply) >>= check := by
  obtain ⟨failure, asked, rfl⟩ | ⟨value, _, _, asked, checked, rfl⟩ :=
    Attempt.course_bind.mp course
  · obtain ⟨reply, rfl, answered⟩ := course_sending.mp asked
    refine ⟨reply, rfl, ?_⟩
    rw [← answered]
    rfl
  · obtain ⟨reply, rfl, answered⟩ := course_sending.mp asked
    obtain ⟨rfl, rfl⟩ := Attempt.course_ofExcept.mp checked
    refine ⟨reply, rfl, ?_⟩
    rw [← answered]
    rfl

/-- The reply is an error, or its first row cannot be read. -/
inductive Unread (decode : Row → Except QueryError α) : Reply → QueryError → Prop
  | refused (text : String) : Unread decode (.error text) (.refused text)
  | undecoded {row : Row} {error : QueryError} (others : List Row)
      (failed : decode row = .error error) : Unread decode (.rows (row :: others)) error

theorem Unread.not_of_decoded {decode : Row → Except QueryError α} {row : Row} {others : List Row}
    {value : α} (read : decode row = .ok value) (error : QueryError) :
    ¬ Unread decode (.rows (row :: others)) error := by
  rintro ⟨⟩
  next failed =>
    rw [read] at failed
    injection failed

theorem of_course_first?_error {statement : Statement} {decode : Row → Except QueryError α}
    {failure : Failure}
    (course : (first? statement decode).call.run.Course exchanges (.error failure)) :
    ∃ reply error, Unread decode reply error ∧ exchanges = [⟨statement, reply⟩] ∧
      failure = .database error.message := by
  obtain ⟨reply, error, failed, said, same⟩ := of_course_sending_error course
  refine ⟨reply, error, ?_, said, same⟩
  match reply, failed with
  | .error text, failed =>
    injection failed with same
    exact same ▸ .refused text
  | .rows (row :: others), failed =>
    change (decode row >>= fun value => pure (some value)) = _ at failed
    obtain failed | ⟨_, _, ended⟩ := of_bind_error failed
    · exact .undecoded others failed
    · injection ended

/-- A query for a row that may be missing finds none, or it reads the first. -/
theorem of_course_first?_ok {statement : Statement} {decode : Row → Except QueryError α}
    {found : Option α} (course : (first? statement decode).call.run.Course exchanges (.ok found)) :
    (∃ reply, reply.rows? = .ok [] ∧ exchanges = [⟨statement, reply⟩] ∧ found = none) ∨
      ∃ row others value, decode row = .ok value ∧
        exchanges = [⟨statement, .rows (row :: others)⟩] ∧ found = some value := by
  obtain ⟨reply, read, rfl⟩ := of_course_sending_ok course
  match reply, read with
  | .affected count, read =>
    injection read with same
    exact .inl ⟨_, rfl, rfl, same.symm⟩
  | .rows [], read =>
    injection read with same
    exact .inl ⟨_, rfl, rfl, same.symm⟩
  | .rows (row :: others), read =>
    change (decode row >>= fun value => pure (some value)) = _ at read
    obtain ⟨value, decoded, ended⟩ := of_bind_ok read
    injection ended with same
    exact .inr ⟨row, others, value, decoded, rfl, same.symm⟩

/-- A query for one row fails if there is none, too. -/
theorem of_course_one_error {statement : Statement} {decode : Row → Except QueryError α}
    {failure : Failure} (course : (one statement decode).call.run.Course exchanges (.error failure)) :
    ∃ reply error, (Unread decode reply error ∨ (reply.rows? = .ok [] ∧ error = .noRow)) ∧
      exchanges = [⟨statement, reply⟩] ∧ failure = .database error.message := by
  obtain ⟨reply, error, failed, said, same⟩ := of_course_sending_error course
  refine ⟨reply, error, ?_, said, same⟩
  match reply, failed with
  | .error text, failed =>
    injection failed with same
    exact same ▸ .inl (.refused text)
  | .affected count, failed =>
    injection failed with same
    exact .inr ⟨rfl, same.symm⟩
  | .rows [], failed =>
    injection failed with same
    exact .inr ⟨rfl, same.symm⟩
  | .rows (row :: others), failed => exact .inl (.undecoded others failed)

theorem of_course_one_ok {statement : Statement} {decode : Row → Except QueryError α} {value : α}
    (course : (one statement decode).call.run.Course exchanges (.ok value)) :
    ∃ row others, decode row = .ok value ∧ exchanges = [⟨statement, .rows (row :: others)⟩] := by
  obtain ⟨reply, read, rfl⟩ := of_course_sending_ok course
  match reply, read with
  | .rows (row :: others), read => exact ⟨row, others, read, rfl⟩

theorem of_course_execute_error {statement : Statement} {failure : Failure}
    (course : (execute statement).call.run.Course exchanges (.error failure)) :
    ∃ text, exchanges = [⟨statement, .error text⟩] ∧ failure = .ofRefusal text := by
  obtain ⟨reply, error, failed, rfl, rfl⟩ := of_course_sending_error course
  match reply, failed with
  | .error text, failed =>
    injection failed with same
    exact ⟨text, rfl, same ▸ rfl⟩

theorem of_course_execute_ok {statement : Statement} {count : Nat}
    (course : (execute statement).call.run.Course exchanges (.ok count)) :
    ∃ reply, reply.isError = false ∧ exchanges = [⟨statement, reply⟩] := by
  obtain ⟨reply, counted, rfl⟩ := of_course_sending_ok course
  match reply, counted with
  | .affected _, _ => exact ⟨_, rfl, rfl⟩
  | .rows _, _ => exact ⟨_, rfl, rfl⟩

end Query

/-- The courses of a transaction. `COMMIT` is sent only if the body has given a value, and the
transaction gives that value only if `COMMIT` is acknowledged. -/
inductive Transacted {α : Type} (body : Attempt Dialogue α) :
    List Exchange → Except Failure α → Prop
  | refused (text : String) :
    Transacted body [⟨.begin, .error text⟩] (.error (.ofRefusal text))
  | abandoned {begun undone : Reply} {said : List Exchange} {failure : Failure}
      (opened : begun.isError = false) (course : body.run.Course said (.error failure)) :
    Transacted body (⟨.begin, begun⟩ :: (said ++ [⟨.rollback, undone⟩])) (.error failure)
  | uncommitted {begun undone : Reply} {said : List Exchange} {value : α} (text : String)
      (opened : begun.isError = false) (course : body.run.Course said (.ok value)) :
    Transacted body (⟨.begin, begun⟩ :: (said ++ [⟨.commit, .error text⟩, ⟨.rollback, undone⟩]))
      (.error (.ofRefusal text))
  | committed {begun ended : Reply} {said : List Exchange} {value : α}
      (opened : begun.isError = false) (course : body.run.Course said (.ok value))
      (acknowledged : ended.isError = false) :
    Transacted body (⟨.begin, begun⟩ :: (said ++ [⟨.commit, ended⟩])) (.ok value)

/-- Taking a transaction back is one exchange, whose reply does not matter. -/
theorem of_course_abandon {α : Type} {failure : Failure} {exchanges : List Exchange}
    {result : Except Failure α} (course : (abandon failure).run.Course exchanges result) :
    ∃ undone, exchanges = [⟨.rollback, undone⟩] ∧ result = .error failure := by
  obtain ⟨undone, _, rfl, rest⟩ := Dialogue.course_ask.mp course
  obtain ⟨rfl, rfl⟩ := Dialogue.course_done.mp rest
  exact ⟨undone, rfl, rfl⟩

theorem of_course_transaction {α : Type} {body : Attempt Dialogue α} {exchanges : List Exchange}
    {result : Except Failure α} (course : (transaction body).run.Course exchanges result) :
    Transacted body exchanges result := by
  rw [run_transaction, Dialogue.course_ask] at course
  obtain ⟨begun, exchanges, rfl, course⟩ := course
  obtain ⟨text, rfl⟩ | ⟨opened, count, counted⟩ := begun.refused_or_counted
  · obtain ⟨rfl, rfl⟩ := Dialogue.course_done.mp course
    exact .refused text
  simp only [counted, Dialogue.course_bind] at course
  obtain ⟨answer, said, after, body_course, rest, rfl⟩ := course
  cases answer with
  | error failure =>
    obtain ⟨undone, rfl, rfl⟩ := of_course_abandon rest
    exact .abandoned opened body_course
  | ok value =>
    obtain ⟨ended, closing, rfl, ending⟩ := Dialogue.course_ask.mp rest
    obtain ⟨text, rfl⟩ | ⟨acknowledged, count, counted⟩ := ended.refused_or_counted
    · obtain ⟨undone, rfl, rfl⟩ := of_course_abandon ending
      exact .uncommitted text opened body_course
    · simp only [counted] at ending
      obtain ⟨rfl, rfl⟩ := Dialogue.course_done.mp ending
      exact .committed opened body_course acknowledged

/-- The database has acknowledged `COMMIT`. -/
def Committed (exchanges : List Exchange) : Prop :=
  ∃ reply : Reply, ⟨.commit, reply⟩ ∈ exchanges ∧ reply.isError = false

/-- A transaction whose body leaves `COMMIT` to it is committed if and only if it gives a value. -/
theorem Transacted.committed_iff {α : Type} {body : Attempt Dialogue α} {exchanges : List Exchange}
    {result : Except Failure α} (transacted : Transacted body exchanges result)
    (leaves : ∀ said answer, body.run.Course said answer → ∀ reply, ⟨.commit, reply⟩ ∉ said) :
    Committed exchanges ↔ ∃ value, result = .ok value := by
  cases transacted with
  | refused text => simp [Committed]
  | abandoned opened course => simp [Committed, leaves _ _ course]
  | uncommitted text opened course => simp [Committed, leaves _ _ course, Reply.isError]
  | committed opened course acknowledged => simp [Committed, leaves _ _ course, acknowledged]

end AbandonedBikes
