import ChannelMux.Delivery.Demultiplexer
import ChannelMux.Fork.Build

/-!
Contract: building a fork in the one store there is.

Owns the building of a fork change by change: a demultiplexer is inserted, a stack is made
and registered, the fork is bound and subscribed, each at once and before it is known
whether what comes next is refused. Nothing is taken back: what was changed before a
refusal stays changed.
-/

namespace ChannelMux

/-- Work on the one store there is, until something is refused. -/
abbrev Work := ExceptT ForkRefusal (StateM Store)

namespace Work

/-- Makes something. -/
def make {α : Type} (change : Store → α × Store) : Work α := modifyGet change

/-- The demultiplexer of a pipeline. If there is none it is inserted where the placement
says, or missed if it is not to be created. -/
def spliceDemultiplexer (pipeline : Ref .pipeline) (create : Bool) (placement : Placement) :
    Work (Ref .stage) := do
  match (← get).findDemultiplexer? pipeline with
  | some hub => return hub
  | none =>
      if create then
        match (← get).insertionIndex pipeline placement with
        | .error refusal => throw (.delivery refusal)
        | .ok index =>
            let hub ← make (·.addStage .freshDemultiplexer)
            modify (·.insertAt pipeline index hub)
            return hub
      else throw .demultiplexerMissing

/-- The stack that a demultiplexer has for a group. If there is none it is made and
registered; says whether it was. -/
def registerIfAbsent (hub : Ref .stage) (shared : Ref .pipeline) (group : String)
    (stages : List (Ref .stage)) : Work (Ref .stack × Bool) := do
  match Delivery.stackOf? (← get) hub group with
  | some stack => return (stack, false)
  | none =>
      let stack ← make (·.makeStack shared hub group stages)
      modify (·.registerStack hub group stack)
      return (stack, true)

/-- The stack of a group, which must not have been there before if a fresh one is asked for.
That is looked at only when the stack is registered. -/
def spliceStack (hub : Ref .stage) (shared : Ref .pipeline) (group : String)
    (stages : List (Ref .stage)) (requireFresh : Bool) : Work (Ref .stack) := do
  match (← get).demultiplexer? hub with
  | none => throw .demultiplexerMissing
  | some _ =>
      let (stack, made) ← registerIfAbsent hub shared group stages
      if !made && requireFresh then throw (.groupTaken group) else return stack

/-- Binds a fork under its member in a stack; a living fork is not replaced. -/
def bind (stack : Ref .stack) (member : String) (fork : Ref .fork) : Work Unit := do
  match (← get).liveMember? stack member with
  | some _ => throw (.memberTaken ((← get).groups.get stack).group member)
  | none => modify (·.modifyStack stack fun record =>
      { record with members := record.members.put member fork })

/-- Builds a fork, known to nobody by name yet. -/
def buildFork (plan : ForkPlan) : Work (Ref .fork) := do
  let node ← match plan.node? with
    | some node => pure node
    | none => throw .nodeMissing
  let group ← ForkPlan.identifier "group_id" plan.group?
  let member ← ForkPlan.identifier "member_id" plan.member?
  let record := (← get).nodes.get node
  let hub ← spliceDemultiplexer record.pipeline plan.settings.createIfAbsent
    plan.settings.placement
  let stack ← spliceStack hub record.pipeline group plan.stages
    plan.settings.requireFreshGroup
  let fork := (← get).forks.next
  bind stack member fork
  let token ← make (·.subscribe node (.fork fork))
  modify fun store => { store with
    forks := store.forks.add {
      group := group
      member := member
      node := node
      stack := stack
      status := record.status
      receiver? := plan.receiver?
      token := token } }
  return fork

end Work

namespace Store

/-- Builds a fork in place: what comes of it, and the store afterwards, also if it is
refused. -/
def buildForkInPlace (store : Store) (plan : ForkPlan) :
    Except ForkRefusal (Ref .fork) × Store :=
  Work.buildFork plan store

end Store

end ChannelMux
