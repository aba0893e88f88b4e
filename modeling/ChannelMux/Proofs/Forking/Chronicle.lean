import ChannelMux.Proofs.Forking.Building
import ChannelMux.Proofs.Network.Recipient

/-!
Contract: what happens to one node by building, naming and letting go of its forks and by
inserting stages into its pipeline.

Owns the dealings with a node, what each of them makes of a store, and the chronicle that
remembers which plans have come to be built. Owns what is to be read off the node's
demultiplexer and off the stacks of its groups then: `KeepsRegistry` says it of one store, and
`Persists` of two stores of which one is later.

A dealing is possible or not: a plan is one for the node or for none, a fork is held only
while it lasts, and a stage that is inserted exists and is not a demultiplexer. Stages may
bear any name. A building that is refused is a dealing, too.
-/

namespace ChannelMux

/-- Something that is done to a node or over it. -/
inductive Dealing where
  /-- Makes a stage, which is in no pipeline yet. -/
  | make (stage : Stage)
  /-- Inserts a stage into the pipeline of the node. -/
  | insert (stage : Ref .stage) (placement : Placement)
  /-- Builds a fork and knows it by a label. -/
  | build (plan : ForkPlan) (label : String)
  /-- Knows a fork by another label. -/
  | hold (fork : Ref .fork) (label : String)
  /-- Forgets the label of a fork. -/
  | drop (label : String)

/-- A store, and the plans of the forks that were built, in the order in which they were. -/
structure Chronicle where
  store : Store
  built : List ForkPlan := []

namespace Store

/-- The demultiplexers in a pipeline, lowest first. -/
def hubsOf (store : Store) (pipeline : Ref .pipeline) : List (Ref .stage) :=
  (store.stagesOf pipeline).filter fun stage => (store.demultiplexer? stage).isSome

/-- The stack that the demultiplexer of a node has for a group. -/
def groupStack? (store : Store) (node : Ref .node) (group : String) : Option (Ref .stack) :=
  (store.hub? node).bind fun hub => Delivery.stackOf? store hub group

/-- The groups that the demultiplexer of a node lists. -/
def groupNames (store : Store) (node : Ref .node) : List String :=
  match (store.hub? node).bind store.demultiplexer? with
  | some state => state.groups.names
  | none => []

/-- The stages of the private pipeline of a stack. -/
def privateStages (store : Store) (stack : Ref .stack) : List (Ref .stage) :=
  store.stagesOf (store.groups.get stack).pipeline

end Store

namespace Chronicle

/-- What a dealing makes of a chronicle, if it is possible. -/
def deal? (node : Ref .node) (chronicle : Chronicle) : Dealing → Option Chronicle
  | .make stage => some { chronicle with store := (chronicle.store.addStage stage).2 }
  | .insert stage placement =>
      if chronicle.store.stages.Issued stage ∧
          (chronicle.store.demultiplexer? stage).isSome = false then
        match chronicle.store.insertStage (chronicle.store.nodes.get node).pipeline stage
            placement with
        | .ok after => some { chronicle with store := after }
        | .error _ => some chronicle
      else none
  | .build plan label =>
      if plan.node? = none ∨ plan.node? = some node then
        match chronicle.store.buildForkInPlace plan with
        | (.ok fork, after) => some ⟨after.nameFork fork label, chronicle.built ++ [plan]⟩
        | (.error _, after) => some { chronicle with store := after }
      else none
  | .hold fork label =>
      if chronicle.store.isForkAlive fork then
        some { chronicle with store := chronicle.store.nameFork fork label }
      else none
  | .drop label => some { chronicle with store := chronicle.store.dropFork label }

/-- What several dealings make of a chronicle, if they are possible one after the other. -/
def follow? (node : Ref .node) (chronicle : Chronicle) : List Dealing → Option Chronicle
  | [] => some chronicle
  | dealing :: rest => (chronicle.deal? node dealing).bind fun after => after.follow? node rest

end Chronicle

/-- The plan by which the stack of a group was made: the first one for the group that was
built. -/
def foundingPlan? (built : List ForkPlan) (group : String) : Option ForkPlan :=
  built.find? fun plan => plan.group? = some group

namespace Store

/-- A node exists over a pipeline that has no demultiplexer, and no fork is over it. -/
structure Vacant (store : Store) (node : Ref .node) : Prop where
  issued : store.nodes.Issued node
  pipeline : store.pipelines.Issued (store.nodes.get node).pipeline
  layers : ∀ stage ∈ store.stagesOf (store.nodes.get node).pipeline, store.stages.Issued stage
  noHub : store.hubsOf (store.nodes.get node).pipeline = []
  noForks : ∀ fork, store.forks.Issued fork → (store.forks.get fork).node ≠ node

/-- The demultiplexer of a node, the stacks of its groups and their members are in keeping
with the plans that were built and with the forks that last. -/
structure KeepsRegistry (store : Store) (node : Ref .node) (built : List ForkPlan) :
    Prop where
  /-- There is at most one demultiplexer. -/
  oneHub : (store.hubsOf (store.nodes.get node).pipeline).length ≤ 1
  /-- The stack of a group has the stages of the plan by which it was made. -/
  founded : ∀ group stack, store.groupStack? node group = some stack →
    ∃ plan bottom top, foundingPlan? built group = some plan ∧
      store.privateStages stack = bottom :: plan.stages ++ [top] ∧
      (store.stages.get bottom).role = .groupBottom group ∧
      (store.stages.get top).role = .groupTop stack
  /-- The groups are those of the plans that were built. -/
  groups : ∀ group, group ∈ store.groupNames node ↔ ∃ plan ∈ built, plan.group? = some group
  groupsOrdered : (store.groupNames node).Pairwise (· < ·)
  /-- A group has a stack if it is listed. -/
  listed : ∀ group, group ∈ store.groupNames node ↔ (store.groupStack? node group).isSome
  /-- At most one fork lasts for a member of a group. -/
  unique : ∀ left right group member, store.IsBoundTo left node group member →
    store.IsBoundTo right node group member → left = right
  /-- The stack of a group finds under a member the fork that lasts for it. -/
  resolves : ∀ group stack, store.groupStack? node group = some stack → ∀ member fork,
    store.liveMember? stack member = some fork ↔ store.IsBoundTo fork node group member
  /-- No fork lasts for a group without a stack. -/
  unregistered : ∀ group, store.groupStack? node group = none → ∀ member fork,
    ¬ store.IsBoundTo fork node group member
  /-- The members of a stack are those for which a fork lasts. -/
  members : ∀ group stack, store.groupStack? node group = some stack → ∀ member,
    member ∈ store.liveMembers stack ↔ ∃ fork, store.IsBoundTo fork node group member
  membersOrdered : ∀ stack, (store.liveMembers stack).Pairwise (· < ·)

/-- The demultiplexer of a node and the stacks of its groups are still the same. -/
structure Persists (before after : Store) (node : Ref .node) : Prop where
  hub : ∀ hub, before.hub? node = some hub → after.hub? node = some hub
  groupStack : ∀ group stack, before.groupStack? node group = some stack →
    after.groupStack? node group = some stack
  stages : ∀ group stack, before.groupStack? node group = some stack →
    after.privateStages stack = before.privateStages stack

end Store

end ChannelMux
