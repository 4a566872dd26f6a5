import AbandonedBikes.Proofs.Database.Conversation
/-!
# Replies that nobody listens to

A dialogue is heedless if it goes on in the same way whatever becomes of the entries that it offers to
the audit log. It then cannot tell two databases apart that differ in these replies only:
`Dialogue.Heedless.hold_answering` compares what is held with the one and with the other.

Every call that is made of queries, transactions and offered entries is heedless.
-/

namespace AbandonedBikes

/-- The dialogue goes on in the same way after every reply to an entry of the audit log. -/
def Dialogue.Heedless {α : Type} : Dialogue α → Prop
  | .done _ => True
  | .ask statement next =>
    (statement.isAppend = true → ∀ reply other, next reply = next other) ∧
      ∀ reply, (next reply).Heedless

/-- The same exchange, except that the database may have said something else to an entry of the audit
log. -/
structure Exchange.SameButAppend (exchange other : Exchange) : Prop where
  statement : other.statement = exchange.statement
  reply : exchange.statement.isAppend = false → other.reply = exchange.reply

/-- The same database, except for what it says to entries of the audit log. -/
def Server.answering {σ : Type} (server : Server σ) (answer : σ → AuditEntry → Reply) : Server σ :=
  fun state statement =>
    match statement with
    | .appendEvent entry => (answer state entry, (server state statement).2)
    | _ => server state statement

namespace Server

variable {σ : Type} (server : Server σ) (answer : σ → AuditEntry → Reply)

theorem answering_state (state : σ) (statement : Statement) :
    (server.answering answer state statement).2 = (server state statement).2 := by
  cases statement <;> rfl

theorem answering_reply (state : σ) {statement : Statement} (other : statement.isAppend = false) :
    (server.answering answer state statement).1 = (server state statement).1 := by
  cases statement with
  | appendEvent entry => simp [Statement.isAppend] at other
  | _ => rfl

end Server

namespace Dialogue.Heedless

variable {α β σ : Type}

theorem bind {first : Dialogue α} {next : α → Dialogue β} (heedless : first.Heedless)
    (rest : ∀ value, (next value).Heedless) : (first >>= next).Heedless := by
  induction first with
  | done value => exact rest value
  | ask statement then_ ih =>
    refine ⟨fun append reply other => ?_, fun reply => ih reply (heedless.2 reply)⟩
    change then_ reply >>= next = then_ other >>= next
    rw [heedless.1 append reply other]

/-- What is held with a database stays the same if the database says something else to entries of the
audit log. -/
theorem hold_answering {dialogue : Dialogue α} (heedless : dialogue.Heedless) (server : Server σ)
    (answer : σ → AuditEntry → Reply) (state : σ) :
    (dialogue.hold (server.answering answer) state).value = (dialogue.hold server state).value ∧
      List.Forall₂ Exchange.SameButAppend (dialogue.hold server state).exchanges
        (dialogue.hold (server.answering answer) state).exchanges := by
  induction dialogue generalizing state with
  | done value => exact ⟨rfl, .nil⟩
  | ask statement next ih =>
    have next_eq : next (server.answering answer state statement).1 =
        next (server state statement).1 := by
      cases append : statement.isAppend with
      | true => exact heedless.1 append _ _
      | false => rw [server.answering_reply answer state append]
    obtain ⟨value, exchanges⟩ := ih _ (heedless.2 (server state statement).1) (server state statement).2
    simp only [hold, server.answering_state, next_eq]
    refine ⟨value, .cons ⟨rfl, fun other => ?_⟩ exchanges⟩
    exact server.answering_reply answer state other

end Dialogue.Heedless

namespace Attempt

variable {α β : Type}

theorem heedless_bind {call : Attempt Dialogue α} {next : α → Attempt Dialogue β}
    (heedless : call.run.Heedless) (rest : ∀ value, (next value).run.Heedless) :
    (call >>= next).run.Heedless := by
  rw [ExceptT.run_bind]
  refine heedless.bind fun result => ?_
  cases result with
  | error failure => trivial
  | ok value => exact rest value

theorem Asks.heedless {call : Attempt Dialogue α} (asks : call.Asks) : call.run.Heedless := by
  induction asks with
  | answer result => trivial
  | query plain refuses named =>
    refine ⟨fun append => ?_, fun reply => trivial⟩
    simp [Statement.isAppend_of_isPlain plain] at append
  | bind _ _ first rest => exact heedless_bind first rest

theorem heedless_transaction {body : Attempt Dialogue α} (heedless : body.run.Heedless) :
    (transaction body).run.Heedless := by
  have abandoned (failure : Failure) : (abandon failure : Attempt Dialogue α).run.Heedless :=
    ⟨fun append => by simp [Statement.isAppend] at append, fun reply => trivial⟩
  rw [run_transaction]
  refine ⟨fun append => by simp [Statement.isAppend] at append, fun begun => ?_⟩
  dsimp only
  split
  next => trivial
  next =>
    refine heedless.bind fun result => ?_
    cases result with
    | error failure => exact abandoned failure
    | ok value =>
      refine ⟨fun append => by simp [Statement.isAppend] at append, fun ended => ?_⟩
      dsimp only
      split
      next => exact abandoned _
      next => trivial

theorem Converses.heedless {call : Attempt Dialogue α} (converses : call.Converses) :
    call.run.Heedless := by
  induction converses with
  | asks asks => exact asks.heedless
  | offering entry => exact ⟨fun _ _ _ => rfl, fun reply => trivial⟩
  | transaction asks => exact heedless_transaction asks.heedless
  | bind _ _ first rest => exact heedless_bind first rest

end Attempt

end AbandonedBikes
