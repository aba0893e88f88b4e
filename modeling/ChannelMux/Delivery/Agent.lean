import ChannelMux.Delivery.Entrance

/-!
Contract: telling agents.

Owns the carrying out of an agent's script. Its commands name the fork or node that they
are about: whatever got the name last, as long as it lasts, even if nobody holds it by that
name any more. A command about anything else does nothing.
-/

namespace ChannelMux.Delivery

def calledFork? (store : Store) (name : String) : Option (Ref .fork) :=
  (store.forks.called? name).filter store.isForkAlive

/-- The lasting node that is called by a name. -/
def calledNode? (store : Store) (name : String) : Option (Ref .node) :=
  (store.nodes.called? name).filter store.isNodeAlive

/-- The operation that a command asks for, if what it names lasts. -/
def operation? (store : Store) : Command → Option Operation
  | .sendFork name message => (calledFork? store name).map (.sendFork · message)
  | .sendNode name message => (calledNode? store name).map (.sendNode · message)
  | .connect name cluster => (calledNode? store name).map (.connect · cluster)
  | .disconnect name => (calledNode? store name).map .disconnect
  | .close name => (calledNode? store name).map .close

def obey (inner : Entrances) (command : Command) : Run (Option Reply) := do
  match operation? (← get) command with
  | some operation => return some (← inner.call operation)
  | none => return none

def tell (inner : Entrances) (agent : Ref .agent) (notice : Notice) : Run Outcome := do
  let manner ← Run.look fun store => (store.agents.get agent).manner
  (manner notice).perform (Run.recordAgent agent)
    (Run.look fun store => (store.agents.get agent).entries) (obey inner)

/-- Hands traffic to whoever takes it; without anyone it is dropped. -/
def hand (inner : Entrances) (receiver? : Option (Ref .agent)) (traffic : Traffic) :
    Run Outcome :=
  match receiver? with
  | some agent => tell inner agent (.up traffic)
  | none => pure (.ok ())

def handFork (inner : Entrances) (fork : Ref .fork) (traffic : Traffic) : Run Outcome := do
  hand inner (← Run.look fun store => (store.forks.get fork).receiver?) traffic

end ChannelMux.Delivery
