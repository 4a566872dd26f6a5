import AbandonedBikes.Database.Reply
import AbandonedBikes.Database.Statement
/-!
# Dialogues with a database

A dialogue is a tree: it sends a statement, and how it goes on depends on the reply. It says nothing
about the database, so what holds of a dialogue holds for every sequence of replies. Two dialogues
follow each other by `>>=`, which satisfies the laws of a monad.
-/

namespace AbandonedBikes

/-- A conversation with the database that ends with a value. -/
inductive Dialogue (α : Type) : Type where
  | done (value : α)
  | ask (statement : Statement) (next : Reply → Dialogue α)

namespace Dialogue

variable {α β γ : Type}

/-- One dialogue after another. -/
def bind : Dialogue α → (α → Dialogue β) → Dialogue β
  | .done value, rest => rest value
  | .ask statement next, rest => .ask statement fun reply => (next reply).bind rest

instance : Monad Dialogue where
  pure := done
  bind := bind

theorem bind_done (dialogue : Dialogue α) : dialogue.bind done = dialogue := by
  induction dialogue with
  | done value => rfl
  | ask statement next ih => simp only [bind, ih]

theorem bind_assoc (dialogue : Dialogue α) (f : α → Dialogue β) (g : β → Dialogue γ) :
    (dialogue.bind f).bind g = dialogue.bind fun value => (f value).bind g := by
  induction dialogue with
  | done value => rfl
  | ask statement next ih => simp only [bind, ih]

instance : LawfulMonad Dialogue :=
  LawfulMonad.mk' Dialogue bind_done (fun _ _ => rfl) bind_assoc

@[simp] theorem done_bind (value : α) (rest : α → Dialogue β) :
    Dialogue.done value >>= rest = rest value := rfl

@[simp] theorem ask_bind (statement : Statement) (next : Reply → Dialogue α)
    (rest : α → Dialogue β) :
    Dialogue.ask statement next >>= rest = .ask statement fun reply => next reply >>= rest := rfl

/-- Sends a statement. -/
def send (statement : Statement) : Dialogue Reply := .ask statement .done

end Dialogue

/-- A statement and its reply. -/
structure Exchange where
  statement : Statement
  reply : Reply

/-- How a database with states of type `σ` answers. -/
abbrev Server (σ : Type) := σ → Statement → Reply × σ

/-- What has become of a dialogue. -/
structure Transcript (σ α : Type) where
  value : α
  exchanges : List Exchange
  server : σ

/-- Holds a dialogue with a database. -/
def Dialogue.hold {σ α : Type} (server : Server σ) : Dialogue α → σ → Transcript σ α
  | .done value, state => ⟨value, [], state⟩
  | .ask statement next, state =>
    let (reply, state) := server state statement
    let rest := (next reply).hold server state
    { rest with exchanges := ⟨statement, reply⟩ :: rest.exchanges }

namespace Dialogue

variable {σ α β : Type}

@[simp] theorem hold_done (server : Server σ) (value : α) (state : σ) :
    (Dialogue.done value).hold server state = ⟨value, [], state⟩ := rfl

/-- A dialogue made of two parts holds the first one, and then the second one where the first has
left the database. -/
theorem hold_bind (server : Server σ) (first : Dialogue α) (rest : α → Dialogue β) (state : σ) :
    (first >>= rest).hold server state =
      let begun := first.hold server state
      let ended := (rest begun.value).hold server begun.server
      { ended with exchanges := begun.exchanges ++ ended.exchanges } := by
  induction first generalizing state with
  | done value => rfl
  | ask statement next ih =>
    simp only [ask_bind, hold]
    rw [ih]
    rfl

end Dialogue

/-! ## Scripts -/

/-- Replies prepared in advance. The bounds of a transaction are answered apart from the others, and
succeed unless an error is given for them. -/
structure Script where
  replies : List Reply := []
  beginError : Option String := none
  commitError : Option String := none
deriving Inhabited

namespace Script

/-- The reply to a bound of a transaction. -/
def bound : Option String → Reply
  | some text => .error text
  | none => .nothing

/-- Answers from a script. When the replies have run out, nothing is found. -/
def server : Server Script := fun script statement =>
  match statement with
  | .begin => (bound script.beginError, script)
  | .commit => (bound script.commitError, script)
  | .rollback => (.nothing, script)
  | _ =>
    match script.replies with
    | [] => (.nothing, script)
    | reply :: rest => (reply, { script with replies := rest })

end Script

end AbandonedBikes
