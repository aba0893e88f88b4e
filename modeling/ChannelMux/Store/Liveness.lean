import ChannelMux.Store.Basic

/-!
Contract: what still exists.

Owns the rule by which things last. What somebody knows by name lasts, and what lasts
keeps what it holds: a fork its node and its stack, a node its pipeline, a pipeline its
stages, a demultiplexer the stacks of its groups, a stack its private pipeline. Nothing
else is kept by being referred to, so the references from a cluster to its members, from
a stack to the forks bound to it, from a stack to the shared pipeline it hangs on, from a
listener to its fork and from a pipeline to the node it belonged to may outlast what they
refer to.

Things that hold each other in a ring keep each other.
-/

namespace ChannelMux.Store

/-- Whether a fork lasts: it is held by name alone. -/
def isForkAlive (store : Store) (fork : Ref .fork) : Bool :=
  store.forks.isNamed fork

/-- Whether a node lasts: it is known by name, or a lasting fork is over it. -/
def isNodeAlive (store : Store) (node : Ref .node) : Bool :=
  store.nodes.isNamed node ||
    store.forks.refs.any fun fork =>
      store.isForkAlive fork && (store.forks.get fork).node == node

/-- Whether a pipeline lasts that is not private to a group: it is known by name, or it is
the pipeline of a lasting node. -/
def isPipelineAlive (store : Store) (pipeline : Ref .pipeline) : Bool :=
  store.pipelines.isNamed pipeline ||
    store.nodes.refs.any fun node =>
      (store.nodes.get node).pipeline == pipeline && store.isNodeAlive node

/-- Stages and stacks that may keep each other. -/
structure Survivors where
  stages : List (Ref .stage)
  groups : List (Ref .stack)

/-- Whether a stage is kept: by a name, by a pipeline that is not private, or by a stack
among the survivors. -/
def keepsStage (store : Store) (survivors : Survivors) (stage : Ref .stage) : Bool :=
  store.stages.isNamed stage ||
    store.pipelines.refs.any (fun pipeline =>
      (store.stagesOf pipeline).contains stage && store.isPipelineAlive pipeline) ||
    survivors.groups.any fun stack =>
      (store.stagesOf (store.groups.get stack).pipeline).contains stage

/-- Whether a stack is kept: by a name, by a lasting fork, or by a demultiplexer among the
survivors. -/
def keepsStack (store : Store) (survivors : Survivors) (stack : Ref .stack) : Bool :=
  store.groups.isNamed stack ||
    store.forks.refs.any (fun fork =>
      (store.forks.get fork).stack == stack && store.isForkAlive fork) ||
    survivors.stages.any fun stage =>
      match store.demultiplexer? stage with
      | some state => state.groups.values.contains stack
      | none => false

/-- The survivors that are still kept. -/
def sift (store : Store) (survivors : Survivors) : Survivors where
  stages := survivors.stages.filter (store.keepsStage survivors)
  groups := survivors.groups.filter (store.keepsStack survivors)

/-- How many stages and stacks survive. -/
def Survivors.size (survivors : Survivors) : Nat :=
  survivors.stages.length + survivors.groups.length

/-- The survivors after sifting a number of times, or as often as that removes any. -/
def siftTimes (store : Store) : (times : Nat) → Survivors → Survivors
  | 0, survivors => survivors
  | times + 1, survivors =>
      let remaining := store.sift survivors
      if remaining.size = survivors.size then survivors else store.siftTimes times remaining

/-- The stages and stacks that last: those that remain however often they are sifted.
Every sifting that changes anything removes one, so as many siftings as there are stages
and stacks are enough. -/
def survivors (store : Store) : Survivors :=
  let all : Survivors := ⟨store.stages.refs, store.groups.refs⟩
  store.siftTimes all.size all

/-- Whether a stage lasts. -/
def isStageAlive (store : Store) (stage : Ref .stage) : Bool :=
  store.stages.isNamed stage || store.survivors.stages.contains stage

/-- Whether the place on a shared pipeline lasts that a group hangs on: the pipeline and
the stage must both last, and the pipeline keeps its own stages. -/
def isAnchorAlive (store : Store) (pipeline : Ref .pipeline) (stage : Ref .stage) : Bool :=
  store.isPipelineAlive pipeline &&
    ((store.stagesOf pipeline).contains stage || store.isStageAlive stage)

/-- The member of a stack that lasts. -/
def liveMember? (store : Store) (stack : Ref .stack) (member : String) : Option (Ref .fork) :=
  ((store.groups.get stack).members.get? member).filter store.isForkAlive

/-- The lasting forks bound to a stack, in the order of their members. -/
def liveForks (store : Store) (stack : Ref .stack) : List (Ref .fork) :=
  (store.groups.get stack).members.values.filter store.isForkAlive

/-- The members of a stack that last, in increasing order. -/
def liveMembers (store : Store) (stack : Ref .stack) : List String :=
  ((store.groups.get stack).members.entries.filter
    (fun entry => store.isForkAlive entry.2)).map Prod.fst

end ChannelMux.Store
