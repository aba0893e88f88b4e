import ChannelMux.Store.Liveness

/-!
Contract: the entrances through which traffic and calls come in.

Owns the kinds of journey through a pipeline, the operations on forks and nodes, and the
type of what runs against the store.

One journey may lead into another pipeline, and an agent may call an operation while it is
told something. Every definition of delivery is therefore given the entrances to use for
what leaves the pipeline it is in; only at the end are they tied together.
-/

namespace ChannelMux

/-- Something that runs against the store, unless it enters pipelines within pipelines
deeper than it is allowed to. -/
abbrev Run := StateT Store Option

/-- A journey through a pipeline. -/
inductive Journey where
  | up (pipeline : Ref .pipeline) (traffic : Traffic)
  | down (pipeline : Ref .pipeline) (event : Event)
  /-- From a stage of the pipeline down, beginning with the stage. -/
  | downFrom (pipeline : Ref .pipeline) (stage : Ref .stage) (event : Event)

/-- An operation on a fork or node. -/
inductive Operation where
  | sendFork (fork : Ref .fork) (message : Message)
  | sendNode (node : Ref .node) (message : Message)
  | connect (node : Ref .node) (cluster : String)
  | disconnect (node : Ref .node)
  | close (node : Ref .node)

/-- The entrances: how a journey is made, and how an operation is called. -/
structure Entrances where
  travel : Journey → Run Outcome
  call : Operation → Run Reply

namespace Run

def ignore {α : Type} (run : Run α) : Run Unit := do
  let _ ← run

/-- What something of the store is. -/
def look {α : Type} (view : Store → α) : Run α := do
  return view (← get)

def recordStage (stage : Ref .stage) (entry : StageEntry) : Run Unit :=
  modify fun store => store.modifyStage stage fun record =>
    { record with entries := entry :: record.entries }

def recordAgent (agent : Ref .agent) (entry : AgentEntry) : Run Unit :=
  modify fun store => store.modifyAgent agent fun record =>
    { record with entries := entry :: record.entries }

def count (stage : Ref .stage) (change : DemultiplexerCounters → DemultiplexerCounters) :
    Run Unit :=
  modify fun store => store.modifyStage stage fun record =>
    match record.role with
    | .demultiplexer state =>
        { record with role := .demultiplexer { state with counters := change state.counters } }
    | _ => record

end Run

end ChannelMux
