import ChannelMux.Store.Records

/-!
Contract: agents that are ready to use.

Owns manners that record what they are told, refuse some of it, and react to it by a
command a limited number of times.
-/

namespace ChannelMux

namespace AgentEntry

/-- What an entry is about, as the word by which reactions are set off: the kind of an
event, or the status that a node entered. -/
def trigger? : AgentEntry → Option String
  | .event occurrence => some occurrence.kind
  | .status entered _ => some entered.name
  | _ => none

end AgentEntry

/-- A command that an agent gives when it has recorded something with a trigger, as long as
it has not recorded it more than a number of times. -/
structure Reaction where
  trigger : String
  limit : Nat := 1
  command : Command
deriving DecidableEq, Repr

namespace Command

/-- Whether what comes of the command is recorded; so it is of sending. -/
def isSending : Command → Bool
  | .sendFork .. | .sendNode .. => true
  | _ => false

end Command

namespace Reaction

/-- Gives the command, and records what comes of it if it is to send. -/
def give (command : Command) : Script AgentEntry Command (Option Reply) :=
  .ask command fun
    | some reply => if command.isSending then .record (.sent reply) .accept else .accept
    | none => .accept

/-- Reacts to an entry that has just been recorded. -/
def after (reaction? : Option Reaction) (entry : AgentEntry) :
    Script AgentEntry Command (Option Reply) :=
  match reaction? with
  | none => .accept
  | some reaction =>
      if entry.trigger? = some reaction.trigger then
        .review fun entries =>
          let times := entries.countP (fun old => old.trigger? == some reaction.trigger)
          if times ≤ reaction.limit then give reaction.command else .accept
      else .accept

end Reaction

namespace Manner

def note (reaction? : Option Reaction) (entry : AgentEntry) :
    Script AgentEntry Command (Option Reply) :=
  .record entry (Reaction.after reaction? entry)

def recording : Manner
  | .up (.single event) => note none (.event event)
  | .up (.batch batch) => note none (.batch batch)
  | .down event => note none (.event event)
  | .status entered now => note none (.status entered now)

/-- Takes events one by one and batches message by message, until one is refused; what is
refused is not recorded. -/
def oneByOne (refuses : Event → Option Refusal) (reaction? : Option Reaction) : Manner
  | .up (.single event) => take event
  | .up (.batch batch) => .forEach (fun message => take (.message message)) batch.messages
  | .down event => take event
  | .status entered now => note reaction? (.status entered now)
where
  /-- Takes an event. -/
  take (event : Event) : Script AgentEntry Command (Option Reply) :=
    match refuses event with
    | some refusal => .refuse refusal
    | none => note reaction? (.event event)

/-- Takes events one by one and batches whole, but refuses a batch that is too large. -/
def whole (name : String) (limit? : Option Nat) : Manner
  | .up (.batch batch) =>
      if limit?.any (fun limit => limit < batch.size) then
        .refuse (.rejected name "batch too large")
      else note none (.batch batch)
  | notice => recording notice

/-- The manner of a queue: it takes every event. -/
def queue : Manner := oneByOne (fun _ => none) none

/-- The manner of a queue whose other end is gone: it refuses every event. -/
def closedQueue : Manner :=
  oneByOne (fun _ => some (.rejected "event-sink" "receiver dropped")) none

/-- Records the statuses that a node enters and reacts to them. -/
def listening (reaction? : Option Reaction) : Manner := oneByOne (fun _ => none) reaction?

end Manner

end ChannelMux
