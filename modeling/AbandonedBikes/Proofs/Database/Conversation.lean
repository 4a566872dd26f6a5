import Mathlib.Data.List.Induction
import AbandonedBikes.Proofs.Database.Course
/-!
# What calls over a database are made of

A call of the service sends queries, sends some of them in a transaction, and offers entries to the
audit log. It goes on with the value of each of these or stops. `Attempt.Asks` and `Attempt.Converses`
say that a call is made of nothing else, so what holds of all such calls is shown by one induction with
a case for each part.

A refused statement ends the call: `Ended` lists the ways in which a course of a call ends, and in none
of them anything but a `ROLLBACK` follows a refusal, entries of the audit log apart.
-/

namespace AbandonedBikes

namespace Statement

/-- Whether the statement begins or ends a transaction. -/
def isBound : Statement → Bool
  | .begin | .commit | .rollback => true
  | _ => false

/-- Whether the statement adds an entry to the audit log. -/
def isAppend : Statement → Bool
  | .appendEvent _ => true
  | _ => false

/-- Whether the statement reads the audit log. -/
def readsLog : Statement → Bool
  | .eventsForReport _ | .eventsByType .. => true
  | _ => false

/-- Whether the statement is part of a query and nothing else. -/
def isPlain (statement : Statement) : Bool := !statement.isBound && !statement.isAppend

/-- The failure of a call that the refusal of a statement has ended. Of a failure of the audit log only
the message is kept. -/
def refusal (statement : Statement) (text : String) : Failure :=
  if statement.readsLog then .other (QueryError.refused text).message else .ofRefusal text

theorem isRetryable_refusal (statement : Statement) (text : String) :
    (statement.refusal text).isRetryable = true ↔ statement.readsLog = false := by
  rw [refusal]
  cases statement.readsLog <;> simp [Failure.ofRefusal, Failure.isRetryable]

theorem isBound_of_isPlain {statement : Statement} (plain : statement.isPlain = true) :
    statement.isBound = false := by
  simp only [isPlain, Bool.and_eq_true, Bool.not_eq_true'] at plain
  exact plain.1

theorem isAppend_of_isPlain {statement : Statement} (plain : statement.isPlain = true) :
    statement.isAppend = false := by
  simp only [isPlain, Bool.and_eq_true, Bool.not_eq_true'] at plain
  exact plain.2

end Statement

/-! ## The parts of a call -/

namespace Attempt

variable {α β : Type}

/-- A call that sends queries one after another. -/
inductive Asks : {α : Type} → Attempt Dialogue α → Prop
  | answer {α : Type} (result : Except Failure α) : Asks (ofExcept result)
  | query {α : Type} {statement : Statement} {read : Reply → Except QueryError α}
      {name : QueryError → Failure} (plain : statement.isPlain = true)
      (refuses : ∀ text, read (.error text) = .error (.refused text))
      (named : ∀ text, name (.refused text) = statement.refusal text) :
    Asks ((Query.sending statement read).failing name)
  | bind {α β : Type} {call : Attempt Dialogue α} {next : α → Attempt Dialogue β}
      (first : Asks call) (rest : ∀ value, Asks (next value)) : Asks (call >>= next)

namespace Asks

theorem orElse (failure : Failure) (value : Option α) :
    (orElse failure value : Attempt Dialogue α).Asks := .answer _

theorem pure (value : α) : (Pure.pure value : Attempt Dialogue α).Asks := .answer (.ok value)

theorem throw (failure : Failure) : (MonadExcept.throw failure : Attempt Dialogue α).Asks :=
  .answer (.error failure)

section

variable {statement : Statement} {decode : Row → Except QueryError α}

theorem call {read : Reply → Except QueryError α} (plain : statement.isPlain = true)
    (stored : statement.readsLog = false)
    (refuses : ∀ text, read (.error text) = .error (.refused text)) :
    (Query.sending statement read).call.Asks :=
  .query plain refuses fun _ => by rw [Statement.refusal, stored]; rfl

theorem all (plain : statement.isPlain = true) (stored : statement.readsLog = false) :
    (Query.all statement decode).call.Asks := .call plain stored fun _ => rfl

theorem first? (plain : statement.isPlain = true) (stored : statement.readsLog = false) :
    (Query.first? statement decode).call.Asks := .call plain stored fun _ => rfl

theorem one (plain : statement.isPlain = true) (stored : statement.readsLog = false) :
    (Query.one statement decode).call.Asks := .call plain stored fun _ => rfl

theorem execute (plain : statement.isPlain = true) (stored : statement.readsLog = false) :
    (Query.execute statement).call.Asks := .call plain stored fun _ => rfl

end

end Asks

/-- Offers an entry to the audit log and goes on, whatever becomes of it. -/
def offering (entry : AuditEntry) : Attempt Dialogue Unit :=
  ExceptT.mk (.ask (.appendEvent entry) fun _ => .done (.ok ()))

/-- A call that sends queries, some of them in transactions, and offers entries to the audit log. -/
inductive Converses : {α : Type} → Attempt Dialogue α → Prop
  | asks {α : Type} {call : Attempt Dialogue α} (asks : call.Asks) : Converses call
  | offering (entry : AuditEntry) : Converses (offering entry)
  | transaction {α : Type} {body : Attempt Dialogue α} (asks : body.Asks) :
    Converses (transaction body)
  | bind {α β : Type} {call : Attempt Dialogue α} {next : α → Attempt Dialogue β}
      (first : Converses call) (rest : ∀ value, Converses (next value)) : Converses (call >>= next)

theorem Converses.pure (value : α) : (Pure.pure value : Attempt Dialogue α).Converses :=
  .asks (.pure value)

end Attempt

/-! ## How a call ends -/

/-- An item that is not in the first part of a list lies after it. -/
theorem exists_between {α : Type} {first rest before after : List α} {item : α}
    (split : first ++ rest = before ++ item :: after) (fresh : item ∉ first) :
    ∃ between, before = first ++ between ∧ rest = between ++ item :: after := by
  rcases List.append_eq_append_iff.mp split with ⟨between, ends, begins⟩ | ⟨between, ends, begins⟩
  · exact ⟨between, ends, begins⟩
  · cases between with
    | nil => exact ⟨[], by simpa using ends.symm, begins.symm⟩
    | cons head tail =>
      injection begins with same _
      exact absurd (ends ▸ by simp [same]) fresh

theorem of_singleton_eq {α : Type} {only item : α} {before after : List α}
    (split : [only] = before ++ item :: after) : before = [] ∧ item = only ∧ after = [] := by
  cases before <;> simp_all

/-- Whether a transaction is open after some exchanges. One whose `COMMIT` is refused still is. -/
def inTransaction (exchanges : List Exchange) : Bool :=
  exchanges.foldl (fun opened exchange =>
    match exchange.statement with
    | .begin => !exchange.reply.isError
    | .commit => opened && exchange.reply.isError
    | .rollback => false
    | _ => opened) false

theorem inTransaction_append {first : List Exchange} (closed : inTransaction first = false)
    (second : List Exchange) : inTransaction (first ++ second) = inTransaction second := by
  rw [inTransaction, List.foldl_append, ← inTransaction, closed, ← inTransaction]

/-- A statement that is no bound neither opens a transaction nor ends one. -/
theorem inTransaction_concat (exchanges : List Exchange) {exchange : Exchange}
    (unbound : exchange.statement.isBound = false) :
    inTransaction (exchanges ++ [exchange]) = inTransaction exchanges := by
  rw [inTransaction, List.foldl_append, ← inTransaction, List.foldl_cons, List.foldl_nil]
  split <;> simp_all [Statement.isBound]

theorem inTransaction_append_of_unbound (first : List Exchange) {second : List Exchange}
    (unbound : ∀ exchange ∈ second, exchange.statement.isBound = false) :
    inTransaction (first ++ second) = inTransaction first := by
  induction second using List.reverseRecOn with
  | nil => rw [List.append_nil]
  | append_singleton second last ih =>
    rw [← List.append_assoc, inTransaction_concat _ (unbound last (by simp))]
    exact ih fun exchange member => unbound exchange (List.mem_append_left _ member)

theorem inTransaction_takenBack (said : List Exchange) (undone : Reply) :
    inTransaction (said ++ [⟨.rollback, undone⟩]) = false := by
  simp [inTransaction]

/-- What is sent after the last refusal of a call: `ROLLBACK` if a transaction is open, and otherwise
nothing. -/
inductive Closing : Bool → List Exchange → Prop
  | nothing : Closing false []
  | takenBack (undone : Reply) : Closing true [⟨.rollback, undone⟩]

/-- Nothing was refused but entries of the audit log. -/
def Accepted (exchanges : List Exchange) : Prop :=
  ∀ exchange ∈ exchanges, exchange.reply.isError = true → exchange.statement.isAppend = true

theorem Accepted.append {first second : List Exchange} (accepted : Accepted first)
    (others : Accepted second) : Accepted (first ++ second) :=
  fun exchange member => (List.mem_append.mp member).elim (accepted exchange) (others exchange)

theorem Accepted.not_mem {exchanges : List Exchange} (accepted : Accepted exchanges)
    {exchange : Exchange} (error : exchange.reply.isError = true)
    (needed : exchange.statement.isAppend = false) : exchange ∉ exchanges := by
  intro member
  simp [accepted exchange member error] at needed

/-- The ways in which the course of a call ends. -/
inductive Ended {α : Type} : List Exchange → Except Failure α → Prop
  /-- Nothing was refused, and no transaction is left open. -/
  | answered {said : List Exchange} (accepted : Accepted said) (closed : inTransaction said = false)
      (result : Except Failure α) : Ended said result
  /-- A statement was refused. -/
  | refused {said last : List Exchange} {statement : Statement} (text : String)
      (accepted : Accepted said)
      (closing : Closing (inTransaction (said ++ [⟨statement, .error text⟩])) last) :
    Ended (said ++ ⟨statement, .error text⟩ :: last) (.error (statement.refusal text))
  /-- Nothing was refused, but the call has taken its transaction back. -/
  | abandoned {said : List Exchange} (accepted : Accepted said) (undone : Reply)
      (failure : Failure) : Ended (said ++ [⟨.rollback, undone⟩]) (.error failure)

namespace Ended

variable {α β : Type} {said exchanges : List Exchange} {result : Except Failure α}

/-- A failure ends every call that it is passed on to. -/
theorem of_error {failure : Failure} (ended : Ended said (.error failure : Except Failure α)) :
    Ended said (.error failure : Except Failure β) := by
  cases ended with
  | answered accepted closed => exact .answered accepted closed _
  | refused text accepted closing => exact .refused text accepted closing
  | abandoned accepted undone => exact .abandoned accepted undone _

theorem after {earlier : List Exchange} (accepted : Accepted earlier)
    (closed : inTransaction earlier = false) (ended : Ended said result) :
    Ended (earlier ++ said) result := by
  cases ended with
  | answered others closed' =>
    exact .answered (accepted.append others) ((inTransaction_append closed _).trans closed') _
  | refused text others closing =>
    rw [← List.append_assoc]
    refine .refused text (accepted.append others) ?_
    rwa [List.append_assoc, inTransaction_append closed]
  | abandoned others undone failure =>
    rw [← List.append_assoc]
    exact .abandoned (accepted.append others) undone failure

/-- A refused statement on which the call depends is the last one, but for the closing of its
transaction. -/
theorem of_split (ended : Ended exchanges result) {before after : List Exchange} {exchange : Exchange}
    (split : exchanges = before ++ exchange :: after) (error : exchange.reply.isError = true)
    (needed : exchange.statement.isAppend = false) :
    (∃ failure, result = .error failure) ∧ Closing (inTransaction (before ++ [exchange])) after := by
  cases ended with
  | answered accepted => exact absurd (split ▸ by simp) (accepted.not_mem error needed)
  | @refused said last statement text accepted closing =>
    obtain ⟨between, rfl, rest⟩ := exists_between split (accepted.not_mem error needed)
    refine ⟨⟨_, rfl⟩, ?_⟩
    cases between with
    | nil =>
      injection rest with same_exchange same_last
      subst same_exchange same_last
      rwa [List.append_nil]
    | cons head tail =>
      injection rest with _ same_last
      generalize inTransaction _ = opened at closing
      cases closing with
      | nothing => simp at same_last
      | takenBack undone =>
        obtain ⟨rfl, rfl, rfl⟩ := of_singleton_eq same_last
        rw [inTransaction_takenBack]
        exact .nothing
  | abandoned accepted undone failure =>
    obtain ⟨between, rfl, rest⟩ := exists_between split (accepted.not_mem error needed)
    obtain ⟨rfl, rfl, rfl⟩ := of_singleton_eq rest
    rw [inTransaction_takenBack]
    exact ⟨⟨_, rfl⟩, .nothing⟩

/-- The call fails for the statement that was refused. -/
theorem of_refused (ended : Ended exchanges result) {exchange : Exchange}
    (member : exchange ∈ exchanges) {text : String} (error : exchange.reply = .error text)
    (needed : exchange.statement.isAppend = false) (listened : exchange.statement ≠ .rollback) :
    result = .error (exchange.statement.refusal text) := by
  have isError : exchange.reply.isError = true := by rw [error, Reply.isError]
  have not_takenBack (undone : Reply) : exchange ∉ [(⟨.rollback, undone⟩ : Exchange)] := by
    intro member
    obtain rfl := List.mem_singleton.mp member
    exact listened rfl
  cases ended with
  | answered accepted => exact absurd member (accepted.not_mem isError needed)
  | refused text accepted closing =>
    rcases List.mem_append.mp member with member | member
    · exact absurd member (accepted.not_mem isError needed)
    rcases List.mem_cons.mp member with rfl | member
    · injection error with same
      rw [same]
    · generalize inTransaction _ = opened at closing
      cases closing with
      | nothing => simp at member
      | takenBack undone => exact absurd member (not_takenBack undone)
  | abandoned accepted undone failure =>
    rcases List.mem_append.mp member with member | member
    · exact absurd member (accepted.not_mem isError needed)
    · exact absurd member (not_takenBack undone)

end Ended

/-- The courses of queries: each statement was accepted, or the last one was refused and has ended the
call. -/
inductive Asked {α : Type} : List Exchange → Except Failure α → Prop
  | answered {said : List Exchange}
      (plain : ∀ exchange ∈ said, exchange.statement.isPlain = true)
      (accepted : ∀ exchange ∈ said, exchange.reply.isError = false) (result : Except Failure α) :
    Asked said result
  | refused {said : List Exchange} {statement : Statement} (text : String)
      (plain : ∀ exchange ∈ said, exchange.statement.isPlain = true)
      (accepted : ∀ exchange ∈ said, exchange.reply.isError = false)
      (last : statement.isPlain = true) :
    Asked (said ++ [⟨statement, .error text⟩]) (.error (statement.refusal text))

namespace Asked

variable {α β : Type} {said : List Exchange} {result : Except Failure α}

theorem of_error {failure : Failure} (asked : Asked said (.error failure : Except Failure α)) :
    Asked said (.error failure : Except Failure β) := by
  cases asked with
  | answered plain accepted => exact .answered plain accepted _
  | refused text plain accepted last => exact .refused text plain accepted last

theorem after {earlier : List Exchange}
    (plain : ∀ exchange ∈ earlier, exchange.statement.isPlain = true)
    (accepted : ∀ exchange ∈ earlier, exchange.reply.isError = false) (asked : Asked said result) :
    Asked (earlier ++ said) result := by
  cases asked with
  | answered plain' accepted' =>
    exact .answered (List.forall_mem_append.mpr ⟨plain, plain'⟩)
      (List.forall_mem_append.mpr ⟨accepted, accepted'⟩) _
  | refused text plain' accepted' last =>
    rw [← List.append_assoc]
    exact .refused text (List.forall_mem_append.mpr ⟨plain, plain'⟩)
      (List.forall_mem_append.mpr ⟨accepted, accepted'⟩) last

end Asked

theorem Attempt.Asks.asked {α : Type} {call : Attempt Dialogue α} (asks : call.Asks)
    {exchanges : List Exchange} {result : Except Failure α}
    (course : call.run.Course exchanges result) : Asked exchanges result := by
  induction asks generalizing exchanges with
  | answer value =>
    obtain ⟨rfl, rfl⟩ := course_ofExcept.mp course
    exact .answered (by simp) (by simp) _
  | @query _ statement read name plain refuses named =>
    obtain ⟨reply, _, rfl, ending⟩ := Dialogue.course_ask.mp course
    obtain ⟨rfl, rfl⟩ := Dialogue.course_done.mp ending
    obtain ⟨text, rfl⟩ | ⟨accepted, _⟩ := reply.refused_or_counted
    · rw [refuses]
      change Asked _ (.error (name (.refused text)))
      rw [named]
      exact .refused text (List.forall_mem_nil _) (List.forall_mem_nil _) plain
    · exact .answered (by simpa using plain) (by simpa using accepted) _
  | bind _ _ first_asked rest_asked =>
    obtain ⟨failure, failed, rfl⟩ | ⟨value, _, _, begun, ended, rfl⟩ := course_bind.mp course
    · exact (first_asked failed).of_error
    · cases first_asked begun with
      | answered plain accepted => exact (rest_asked value ended).after plain accepted

/-! ## Transactions -/

theorem inTransaction_begun {begun : Reply} (opened : begun.isError = false) {said : List Exchange}
    (plain : ∀ exchange ∈ said, exchange.statement.isPlain = true) :
    inTransaction (⟨.begin, begun⟩ :: said) = true := by
  have stays := inTransaction_append_of_unbound [⟨.begin, begun⟩] fun exchange member =>
    Statement.isBound_of_isPlain (plain exchange member)
  rw [List.singleton_append] at stays
  rw [stays]
  simp [inTransaction, opened]

theorem inTransaction_committed (said : List Exchange) (ended : Reply) :
    inTransaction (said ++ [⟨.commit, ended⟩]) = (inTransaction said && ended.isError) := by
  simp [inTransaction]

theorem accepted_begun {begun : Reply} (opened : begun.isError = false) {said : List Exchange}
    (accepted : ∀ exchange ∈ said, exchange.reply.isError = false) :
    Accepted (⟨.begin, begun⟩ :: said) := by
  intro exchange member error
  rcases List.mem_cons.mp member with rfl | member
  · simp [opened] at error
  · simp [accepted exchange member] at error

/-- A transaction of queries ends in `COMMIT` or takes back what it has begun. -/
theorem Transacted.ended {α : Type} {body : Attempt Dialogue α} (asks : body.Asks)
    {exchanges : List Exchange} {result : Except Failure α}
    (transacted : Transacted body exchanges result) : Ended exchanges result := by
  cases transacted with
  | refused text =>
    have nothing_before : Accepted [] := List.forall_mem_nil _
    exact .refused text nothing_before .nothing
  | @abandoned begun undone said failure opened course =>
    cases asks.asked course with
    | answered plain accepted =>
      rw [← List.cons_append]
      exact .abandoned (accepted_begun opened accepted) undone failure
    | @refused said statement text plain accepted last =>
      have open_still : inTransaction (⟨.begin, begun⟩ :: said ++ [⟨statement, .error text⟩]) = true := by
        rw [inTransaction_concat _ (Statement.isBound_of_isPlain last)]
        exact inTransaction_begun opened plain
      have closing : Closing (inTransaction (⟨.begin, begun⟩ :: said ++ [⟨statement, .error text⟩]))
          [⟨.rollback, undone⟩] := open_still ▸ .takenBack undone
      rw [List.append_assoc]
      exact .refused text (accepted_begun opened accepted) closing
  | @uncommitted begun undone said value text opened course =>
    cases asks.asked course with
    | answered plain accepted =>
      have closing : Closing (inTransaction (⟨.begin, begun⟩ :: said ++ [⟨.commit, .error text⟩]))
          [⟨.rollback, undone⟩] := by
        rw [inTransaction_committed, inTransaction_begun opened plain]
        exact .takenBack undone
      exact .refused text (accepted_begun opened accepted) closing
  | @committed begun ended said value opened course acknowledged =>
    cases asks.asked course with
    | answered plain accepted =>
      have all_accepted : ∀ exchange ∈ said ++ [⟨.commit, ended⟩], exchange.reply.isError = false :=
        List.forall_mem_append.mpr ⟨accepted, by simpa using acknowledged⟩
      refine .answered (accepted_begun opened all_accepted) ?_ _
      rw [← List.cons_append, inTransaction_committed, acknowledged, Bool.and_false]

/-- A refused query ends the call at once. -/
theorem Asked.ended {α : Type} {said : List Exchange} {result : Except Failure α}
    (asked : Asked said result) : Ended said result := by
  have closed {exchanges : List Exchange}
      (plain : ∀ exchange ∈ exchanges, exchange.statement.isPlain = true) :
      inTransaction exchanges = false :=
    inTransaction_append_of_unbound [] fun exchange member =>
      Statement.isBound_of_isPlain (plain exchange member)
  have accepts {exchanges : List Exchange}
      (accepted : ∀ exchange ∈ exchanges, exchange.reply.isError = false) : Accepted exchanges :=
    fun exchange member error => by simp [accepted exchange member] at error
  cases asked with
  | answered plain accepted => exact .answered (accepts accepted) (closed plain) _
  | @refused said statement text plain accepted last =>
    have none_open : inTransaction (said ++ [⟨statement, .error text⟩]) = false :=
      closed (List.forall_mem_append.mpr ⟨plain, by simpa using last⟩)
    exact .refused text (accepts accepted) (none_open ▸ .nothing)

namespace Attempt.Converses

variable {α : Type} {call : Attempt Dialogue α} {exchanges : List Exchange}
  {result : Except Failure α}

theorem ended (converses : call.Converses) (course : call.run.Course exchanges result) :
    Ended exchanges result := by
  induction converses generalizing exchanges with
  | asks asks => exact (asks.asked course).ended
  | offering entry =>
    obtain ⟨reply, _, rfl, ending⟩ := Dialogue.course_ask.mp course
    obtain ⟨rfl, rfl⟩ := Dialogue.course_done.mp ending
    exact .answered (by simp [Accepted, Statement.isAppend]) rfl _
  | transaction asks => exact (of_course_transaction course).ended asks
  | bind _ _ first_ended rest_ended =>
    obtain ⟨failure, failed, rfl⟩ | ⟨value, _, _, begun, ended, rfl⟩ := course_bind.mp course
    · exact (first_ended failed).of_error
    · cases first_ended begun with
      | answered accepted closed => exact (rest_ended value ended).after accepted closed

end Attempt.Converses

end AbandonedBikes
