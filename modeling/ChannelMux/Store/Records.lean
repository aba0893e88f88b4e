import ChannelMux.Batch
import ChannelMux.Registry
import ChannelMux.Script
import ChannelMux.Store.Table

/-!
Contract: the things of which a network is made.

Owns the records of pipelines, stages, group stacks, forks, nodes, agents and clusters.
They refer to each other by reference, and say nothing of how traffic moves.
-/

namespace ChannelMux

/-- Where what leaves the bottom of a pipeline goes. -/
inductive Outlet where
  | agent (agent : Ref .agent)
  /-- Up another pipeline. -/
  | loop (pipeline : Ref .pipeline)
  /-- To the cluster that a node is in. -/
  | transport (node : Ref .node)
  /-- Down a shared pipeline, from a stage of it on. -/
  | anchor (pipeline : Ref .pipeline) (stage : Ref .stage)
deriving DecidableEq, Repr

/-- A chain of stages. -/
structure Pipeline where
  name : String := ""
  /-- The stages, bottom first. -/
  stages : List (Ref .stage) := []
  /-- Who takes what leaves the top. -/
  receiver? : Option (Ref .agent) := none
  /-- Where what leaves the bottom goes. -/
  outlet? : Option Outlet := none
deriving DecidableEq, Repr, Inhabited

/-- An entry in the record of a stage. -/
inductive StageEntry where
  | up (event : Event)
  | down (event : Event)
  | batch
deriving DecidableEq, Repr

namespace StageEntry

def up? : StageEntry → Option Event
  | .up event => some event
  | _ => none

def down? : StageEntry → Option Event
  | .down event => some event
  | _ => none

end StageEntry

/-- What a stage does. Going up it asks for traffic to be passed on up, going down for
events to be passed on down, and is answered with what came of it. -/
structure Conduct where
  up : Traffic → Script StageEntry Traffic Outcome
  down : Event → Script StageEntry Event Outcome

/-- What a demultiplexer has counted. -/
structure DemultiplexerCounters where
  routed : UInt64 := 0
  /-- Messages without a routing header. -/
  passedThrough : UInt64 := 0
  /-- Messages for a group that there is not. -/
  misses : UInt64 := 0
  /-- Events told to every group. -/
  broadcasts : UInt64 := 0
  /-- Parts of batches handed to a group. -/
  batchesSplit : UInt64 := 0
  /-- Parts of batches that a group refused. -/
  batchFailures : UInt64 := 0
deriving DecidableEq, Repr, Inhabited

/-- What a demultiplexer holds: the stack of each group, and its counters. -/
structure Demultiplexer where
  groups : Registry (Ref .stack) := .empty
  counters : DemultiplexerCounters := {}

/-- What part a stage plays. -/
inductive Role where
  /-- It does as its conduct says. -/
  | custom (conduct : Conduct)
  /-- It hands messages to the groups they are for. -/
  | demultiplexer (state : Demultiplexer)
  /-- The bottom of a group's stack: it names the group on what goes down. -/
  | groupBottom (group : String)
  /-- The top of a group's stack: it hands messages to the members they are for. -/
  | groupTop (stack : Ref .stack)

structure Stage where
  name : String
  role : Role
  /-- Its record, the latest entry first. -/
  entries : List StageEntry := []

instance : Inhabited Stage := ⟨{ name := "", role := .groupBottom "" }⟩

def Stage.demultiplexer? (stage : Stage) : Option Demultiplexer :=
  match stage.role with
  | .demultiplexer state => some state
  | _ => none

/-- The stack of a group: its private pipeline and the forks bound to its members. -/
structure GroupStack where
  group : String := ""
  pipeline : Ref .pipeline := ⟨0⟩
  /-- Whether the pipeline has no stages but its own bottom and top. -/
  isPassthrough : Bool := true
  /-- The fork bound under each member; it may have ended since. -/
  members : Registry (Ref .fork) := .empty

instance : Inhabited GroupStack := ⟨{}⟩

/-- A logical channel over a node, for one member of one group. -/
structure Fork where
  group : String := ""
  member : String := ""
  node : Ref .node := ⟨0⟩
  stack : Ref .stack := ⟨0⟩
  status : Status := .opened
  /-- Who takes what is for the fork. -/
  receiver? : Option (Ref .agent) := none
  /-- Its token among the listeners of the node. -/
  token : UInt64 := 0
deriving DecidableEq, Repr, Inhabited

/-- Who is told of the status of a node. -/
inductive Listener where
  | fork (fork : Ref .fork)
  | agent (agent : Ref .agent)
deriving DecidableEq, Repr

/-- What a node has carried. -/
structure TrafficCounters where
  messagesSent : UInt64 := 0
  messagesReceived : UInt64 := 0
  octetsSent : UInt64 := 0
  octetsReceived : UInt64 := 0
deriving DecidableEq, Repr, Inhabited

/-- A physical channel, which can be in a cluster of its network. -/
structure Node where
  name : String := ""
  address : Address := default
  network : String := ""
  pipeline : Ref .pipeline := ⟨0⟩
  status : Status := .opened
  cluster? : Option String := none
  view? : Option View := none
  /-- Who is told of its status, under tokens, in the order of subscription. -/
  listeners : List (UInt64 × Listener) := []
  nextToken : UInt64 := 1
  counters : TrafficCounters := {}
deriving DecidableEq, Repr, Inhabited

/-- A member of a cluster, as it was when it joined. -/
structure Member where
  address : Address
  name : String
  node : Ref .node
deriving DecidableEq, Repr

/-- A cluster of nodes: its members in the order in which they joined, and the number of
its latest view. -/
structure Cluster where
  members : List Member := []
  lastView : UInt64 := 0
deriving DecidableEq, Repr, Inhabited

/-- What an agent is told. -/
inductive Notice where
  /-- Something came up to it. -/
  | up (traffic : Traffic)
  /-- Something came down to it. -/
  | down (event : Event)
  /-- A node entered a status; it may have entered another one since. -/
  | status (entered now : Status)
deriving DecidableEq, Repr

/-- What an agent may ask for, of a fork or node that it calls by name. -/
inductive Command where
  | sendFork (fork : String) (message : Message)
  | sendNode (node : String) (message : Message)
  | connect (node cluster : String)
  | disconnect (node : String)
  | close (node : String)
deriving DecidableEq, Repr

/-- An entry in the record of an agent. -/
inductive AgentEntry where
  | event (event : Event)
  | batch (batch : Batch)
  | status (entered now : Status)
  /-- What came of a message that it sent. -/
  | sent (reply : Reply)

namespace AgentEntry

def event? : AgentEntry → Option Event
  | .event occurrence => some occurrence
  | _ => none

def batch? : AgentEntry → Option Batch
  | .batch whole => some whole
  | _ => none

end AgentEntry

/-- What an agent does when it is told something. A command about a fork or node that does
not last any more is not answered. -/
abbrev Manner := Notice → Script AgentEntry Command (Option Reply)

/-- Someone outside the pipelines: a receiver or a listener. -/
structure Agent where
  manner : Manner
  /-- Its record, the latest entry first. -/
  entries : List AgentEntry := []

instance : Inhabited Agent := ⟨{ manner := fun _ => .accept }⟩

end ChannelMux
