import AbandonedBikes.Attempt
import AbandonedBikes.Database.Dialogue
/-!
# Queries

A query sends one statement and reads the reply. A transaction sends `BEGIN`, the statements of its
body and `COMMIT`; if anything fails after `BEGIN`, it sends `ROLLBACK` and fails.
-/

namespace AbandonedBikes

/-- A part of a dialogue that may fail because of a reply. -/
abbrev Query := ExceptT QueryError Dialogue

namespace Query

variable {α : Type}

/-- Sends a statement and reads the reply. -/
def sending (statement : Statement) (read : Reply → Except QueryError α) : Query α :=
  ExceptT.mk (.ask statement fun reply => .done (read reply))

/-- Reads every row of the reply, and stops at the first one that cannot be read. -/
def all (statement : Statement) (decode : Row → Except QueryError α) : Query (List α) :=
  sending statement fun reply => do (← reply.rows?).mapM decode

/-- Reads the first row of the reply, if there is one. -/
def first? (statement : Statement) (decode : Row → Except QueryError α) : Query (Option α) :=
  sending statement fun reply => do
    match ← reply.rows? with
    | [] => return none
    | row :: _ => return some (← decode row)

/-- Reads the first row of the reply, which has to be there. -/
def one (statement : Statement) (decode : Row → Except QueryError α) : Query α :=
  sending statement fun reply => do
    match ← reply.rows? with
    | [] => throw .noRow
    | row :: _ => decode row

/-- Sends a statement that gives no rows, and tells how many rows it has changed. -/
def execute (statement : Statement) : Query Nat := sending statement Reply.affected?

/-- The query as a call whose failures are named by `name`. -/
def failing (name : QueryError → Failure) (query : Query α) : Attempt Dialogue α :=
  ExceptT.mk do return (← query.run).mapError name

/-- The query as a call that fails with a failure of the database. -/
def call (query : Query α) : Attempt Dialogue α :=
  query.failing fun error => .database error.message

@[simp] theorem run_sending (statement : Statement) (read : Reply → Except QueryError α) :
    (sending statement read).run = .ask statement fun reply => .done (read reply) := rfl

@[simp] theorem run_failing (name : QueryError → Failure) (query : Query α) :
    (query.failing name).run = do return (← query.run).mapError name := rfl

end Query

/-- Takes back what a transaction has done, and fails. -/
def abandon {α : Type} (failure : Failure) : Attempt Dialogue α :=
  ExceptT.mk (.ask .rollback fun _ => .done (.error failure))

/-- Runs the body of a transaction between `BEGIN` and `COMMIT`. -/
def transaction {α : Type} (body : Attempt Dialogue α) : Attempt Dialogue α := do
  let _ ← (Query.execute .begin).call
  tryCatch
    (do
      let value ← body
      let _ ← (Query.execute .commit).call
      pure value)
    abandon

/-- What a transaction sends: nothing after a refused `BEGIN`, and `ROLLBACK` after any other
failure, that of `COMMIT` included. -/
theorem run_transaction {α : Type} (body : Attempt Dialogue α) :
    (transaction body).run =
      .ask .begin fun begun =>
        match begun.affected? with
        | .error error => .done (.error (.database error.message))
        | .ok _ =>
          body.run >>= fun
            | .error failure => (abandon failure).run
            | .ok value =>
              .ask .commit fun ended =>
                match ended.affected? with
                | .error error => (abandon (.database error.message)).run
                | .ok _ => .done (.ok value) := by
  refine congrArg (Dialogue.ask Statement.begin) (funext fun begun => ?_)
  change (Dialogue.done (begun.affected?.mapError _) : Dialogue _) >>= _ = _
  cases begun.affected? with
  | error error => rfl
  | ok n =>
    change (body.run >>= _) >>= _ = body.run >>= _
    rw [bind_assoc]
    congr 1
    funext result
    cases result with
    | error failure => rfl
    | ok value =>
      refine congrArg (Dialogue.ask Statement.commit) (funext fun ended => ?_)
      change ((Dialogue.done (ended.affected?.mapError _)).bind _).bind _ = _
      cases ended.affected? <;> rfl

end AbandonedBikes
