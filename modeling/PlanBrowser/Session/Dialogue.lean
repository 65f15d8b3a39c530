import PlanBrowser.Api.Client

/-!
# Questions to the planner

A session does not talk to a server.  Where it needs one, it asks a **question** and says what it makes of
each **reply**; so an operation is a dialogue of at most one question.  Whoever runs the operation answers: a
client, or a script.

* `Question`, `Reply` — what can be asked, and what can come back;
* `Dialogue` — an operation;
* `Dialogue.run` — its result for given replies, and the question that was asked;
* `Dialogue.through` — its result when a client asks over a link.
-/

namespace PlanBrowser

/-- What a session asks. -/
inductive Question where
  /-- The plans of a search, or another number of them. -/
  | plans (search : Search) (count : Option Nat)
  | save (user : String) (request : SaveRequest)
  | feedback (user : String) (feedback : Feedback)
  | summary (request : SummaryRequest)

/-- What can come back; plans that could not be fetched are just not there. -/
def Reply : Question → Type
  | .plans _ _ => Option Batch
  | .save _ _ => Except Failure Unit
  | .feedback _ _ => Except Failure Unit
  | .summary _ => Except Failure Summary

/-- An operation that may ask one question. -/
inductive Dialogue (α : Type) where
  | done (a : α)
  | ask (q : Question) (resume : Reply q → α)

namespace Dialogue

variable {α β : Type}

/-- The result of an operation is used further. -/
def map (f : α → β) : Dialogue α → Dialogue β
  | done a => done (f a)
  | ask q resume => ask q fun r => f (resume r)

/-- The question of an operation. -/
def question? : Dialogue α → Option Question
  | done _ => none
  | ask q _ => some q

/-- **The result** of an operation for given replies. -/
def run (reply : (q : Question) → Reply q) : Dialogue α → α
  | done a => a
  | ask q resume => resume (reply q)

/-- What is made of the result is made of it whatever is replied. -/
theorem run_map (f : α → β) (d : Dialogue α) (reply : (q : Question) → Reply q) :
    (d.map f).run reply = f (d.run reply) := by
  cases d <;> rfl

end Dialogue

/-- **A client answers** a question over a link. -/
def Client.answer (c : Client) (l : Link) : (q : Question) → Reply q × Link
  | .plans search count =>
    let (result, l) := c.plans l search count
    (result.toOption, l)
  | .save user request => c.savePlan l user request
  | .feedback user feedback => c.sendFeedback l user feedback
  | .summary request => c.summary l request

/-- The result of an operation whose question a client answers. -/
def Dialogue.through {α : Type} (c : Client) (l : Link) : Dialogue α → α × Link
  | .done a => (a, l)
  | .ask q resume =>
    let (reply, l) := c.answer l q
    (resume reply, l)

end PlanBrowser
