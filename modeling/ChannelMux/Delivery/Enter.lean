import ChannelMux.Delivery.Ascent
import ChannelMux.Delivery.Descent
import ChannelMux.Delivery.Lifecycle

/-!
Contract: journeys and operations, tied together.

Owns what a fork does to a message that it sends, the journeys and operations over given
entrances, and the entrances over which everything runs: those that may be entered within
each other up to a given depth. Nothing that finishes within one depth differs at a
greater one; what would go deeper does not finish.
-/

namespace ChannelMux

namespace Delivery

/-- The message as a fork sends it. A routing header that it has already only gets the
fork's member. Without one it gets a new header, which names the group as well if no stage
of the group's own would see that. -/
def address (fork : Fork) (isPassthrough : Bool) (message : Message) : Message :=
  match message.routing? with
  | some header => message.putRouting (header.withMember fork.member)
  | none =>
      message.putRouting
        (if isPassthrough then .between fork.group fork.member else .forMember fork.member)

def reply : Outcome → Reply
  | .ok () => .ok ()
  | .error refusal => .error (.delivery refusal)

def sendFork (inner : Entrances) (fork : Ref .fork) (message : Message) : Run Reply := do
  let record ← Run.look fun store => store.forks.get fork
  if record.status = .connected then
    let stack ← Run.look fun store => store.groups.get record.stack
    let addressed := address record stack.isPassthrough message
    return reply (← inner.travel (.down stack.pipeline (.message addressed)))
  else return .error (.notConnected record.status)

def sendNode (inner : Entrances) (node : Ref .node) (message : Message) : Run Reply := do
  let pipeline ← Run.look fun store => (store.nodes.get node).pipeline
  return reply (← inner.travel (.down pipeline (.message message)))

/-- Makes a journey, other pipelines being entered through the given entrances. -/
def travel (inner : Entrances) : Journey → Run Outcome
  | .up pipeline traffic => do
      ascend inner pipeline (← Run.look fun store => store.stagesOf pipeline) traffic
  | .down pipeline event => do
      descend inner pipeline (← Run.look fun store => store.stagesOf pipeline).reverse event
  | .downFrom pipeline stage event => descendFrom inner pipeline stage event

/-- Calls an operation, pipelines being entered through the given entrances. -/
def call (inner : Entrances) : Operation → Run Reply
  | .sendFork fork message => sendFork inner fork message
  | .sendNode node message => sendNode inner node message
  | .connect node cluster => return reply (← connect inner node cluster)
  | .disconnect node => do
      disconnect inner node
      return .ok ()
  | .close node => do
      close inner node
      return .ok ()

end Delivery

namespace Entrances

/-- The entrances that may be entered within each other up to a depth. -/
def within : (depth : Nat) → Entrances
  | 0 => { travel := fun _ _ => none, call := fun _ _ => none }
  | depth + 1 =>
      { travel := fun journey => Delivery.travel (within depth) journey
        call := fun operation => Delivery.call (within depth) operation }

end Entrances

/-- How deep pipelines are entered within each other at most. -/
def depthLimit : Nat := 1000000

namespace Store

def travel (store : Store) (journey : Journey) : Option (Outcome × Store) :=
  (Entrances.within depthLimit).travel journey store

def call (store : Store) (operation : Operation) : Option (Reply × Store) :=
  (Entrances.within depthLimit).call operation store

/-- Takes traffic that arrives at a node from outside. -/
def receive (store : Store) (node : Ref .node) (traffic : Traffic) :
    Option (Outcome × Store) :=
  Delivery.receive (Entrances.within depthLimit) node traffic store

end Store

end ChannelMux
