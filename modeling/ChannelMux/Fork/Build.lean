import ChannelMux.Settings.Basic
import ChannelMux.Fork.Splice
import ChannelMux.Node.Basic

/-!
Contract: building forks and letting go of them.

Owns the building of a fork: its identifiers are checked, the demultiplexer and the stack
of its group are found or made, and it is bound under its member and subscribed to its
node. A building that fails changes nothing.

A binding to a fork that has ended is taken over; one to a living fork is not.
-/

namespace ChannelMux

/-- What a fork is to be. -/
structure ForkPlan where
  node? : Option (Ref .node) := none
  group? : Option String := none
  member? : Option String := none
  settings : ForkSettings := {}
  /-- The stages of the group, bottom first, should it not exist yet. -/
  stages : List (Ref .stage) := []
  receiver? : Option (Ref .agent) := none

namespace ForkPlan

/-- An identifier that is there and not empty. -/
def identifier (field : String) (value? : Option String) : Except ForkRefusal String :=
  match value? with
  | some value => if value.isEmpty then .error (.emptyIdentifier field) else .ok value
  | none => .error (.emptyIdentifier field)

end ForkPlan

namespace Store

/-- Binds a fork under its member in the stack of its group. -/
def bind (store : Store) (stack : Ref .stack) (member : String) (fork : Ref .fork) :
    Except ForkRefusal Store :=
  match store.liveMember? stack member with
  | some _ => .error (.memberTaken (store.groups.get stack).group member)
  | none => .ok (store.modifyStack stack fun record =>
      { record with members := record.members.put member fork })

/-- Builds a fork, known to nobody by name yet. -/
def buildFork (store : Store) (plan : ForkPlan) : Except ForkRefusal (Ref .fork × Store) := do
  let node ← match plan.node? with
    | some node => pure node
    | none => throw .nodeMissing
  let group ← ForkPlan.identifier "group_id" plan.group?
  let member ← ForkPlan.identifier "member_id" plan.member?
  let record := store.nodes.get node
  let (demultiplexer, spliced) ← store.ensureDemultiplexer record.pipeline
    plan.settings.createIfAbsent plan.settings.placement
  let (stack, stacked) ← spliced.ensureStack demultiplexer record.pipeline group plan.stages
    plan.settings.requireFreshGroup
  let fork := stacked.forks.next
  let bound ← stacked.bind stack member fork
  let (token, subscribed) := bound.subscribe node (.fork fork)
  return (fork, { subscribed with
    forks := subscribed.forks.add {
      group := group
      member := member
      node := node
      stack := stack
      status := record.status
      receiver? := plan.receiver?
      token := token } })

def retireFork (store : Store) (fork : Ref .fork) : Store :=
  if store.isForkAlive fork then store
  else
    let record := store.forks.get fork
    store.unsubscribe record.node record.token

/-- Knows a fork by a name. A fork that was known by the name alone ends. -/
def nameFork (store : Store) (fork : Ref .fork) (name : String) : Store :=
  let renamed := { store with forks := store.forks.name fork name }
  match store.forks.named? name with
  | some former => renamed.retireFork former
  | none => renamed

/-- Forgets the name of a fork, which ends if it is known by no other. -/
def dropFork (store : Store) (name : String) : Store :=
  match store.forks.named? name with
  | some fork => { store with forks := store.forks.forget name }.retireFork fork
  | none => store

end Store

end ChannelMux
