import ChannelMux.Refusal

/-!
Contract: what a stage or handler does, as a value.

Owns scripts: finite trees of what is recorded, what is looked up in one's own record,
what is asked of the surroundings, and how it goes on with each answer. A script says
everything a stage or handler can do, and nothing of how it is carried out.

Owns the carrying out of a script by given means, and doing one script after another.
-/

namespace ChannelMux

/-- What a stage or handler does with one thing that it is given. -/
inductive Script (Entry Request Answer : Type) where
  | finish (outcome : Outcome)
  /-- It adds an entry to its record. -/
  | record (entry : Entry) (next : Script Entry Request Answer)
  /-- It looks at its record, the latest entry first. -/
  | review (next : List Entry → Script Entry Request Answer)
  /-- It asks something of its surroundings. -/
  | ask (request : Request) (next : Answer → Script Entry Request Answer)

namespace Script

variable {Entry Request Answer : Type}

def accept : Script Entry Request Answer := .finish (.ok ())

def refuse (refusal : Refusal) : Script Entry Request Answer := .finish (.error refusal)

/-- Asks for something whose answer is the outcome. -/
def defer (request : Request) : Script Entry Request Outcome := .ask request .finish

/-- One script and, if it succeeds, another. -/
def andThen : Script Entry Request Answer → Script Entry Request Answer →
    Script Entry Request Answer
  | .finish (.ok ()), second => second
  | .finish (.error refusal), _ => .finish (.error refusal)
  | .record entry next, second => .record entry (next.andThen second)
  | .review next, second => .review fun entries => (next entries).andThen second
  | .ask request next, second => .ask request fun answer => (next answer).andThen second

/-- A script for every item, in turn, until one fails. -/
def forEach {Item : Type} (script : Item → Script Entry Request Answer) :
    List Item → Script Entry Request Answer
  | [] => accept
  | item :: rest => (script item).andThen (forEach script rest)

/-- Carries a script out, by given means of recording, looking up and asking. -/
def perform {m : Type → Type} [Monad m]
    (add : Entry → m Unit)
    (entries : m (List Entry))
    (answer : Request → m Answer) :
    Script Entry Request Answer → m Outcome
  | .finish outcome => pure outcome
  | .record entry next => do
      add entry
      next.perform add entries answer
  | .review next => do
      (next (← entries)).perform add entries answer
  | .ask request next => do
      (next (← answer request)).perform add entries answer

end Script

end ChannelMux
