import ChannelMux.Agent.Stock
import ChannelMux.Delivery.Enter
import ChannelMux.Demo.Plan
import ChannelMux.Demo.Report
import ChannelMux.Fork.Build

/-!
Contract: demonstrations.

Owns the making of the nodes and forks of a demonstration, its course, and its report.
Every node gets a shared pipeline of the same layers, and a fork for every member of every
group. Then the nodes join the cluster in order, every fork sends its messages, and every
node sends a message of its own.
-/

namespace ChannelMux.Demo

/-- Why a demonstration does not end well. -/
inductive Failure where
  /-- A fork cannot be built, or something cannot be sent. -/
  | refused (refusal : ForkRefusal)
  | tooDeep
deriving DecidableEq, Repr

abbrev Play := StateT Store (Except Failure)

/-- A fork of the demonstration, and the queue that takes what is for it. -/
structure Channel where
  group : Nat
  member : Nat
  label : String
  fork : Ref .fork
  queue : Ref .agent

/-- A node of the demonstration, the queue that takes what is for no group, and its forks. -/
structure Host where
  number : Nat
  node : Ref .node
  queue : Ref .agent
  channels : List Channel

def attempt {α : Type} (result : Except ForkRefusal α) : Play α :=
  match result with
  | .ok value => pure value
  | .error refusal => throw (.refused refusal)

def make {α : Type} (change : Store → α × Store) : Play α := modifyGet change

def call (operation : Operation) : Play Unit := do
  match (← get).call operation with
  | some (reply, store) =>
      set store
      attempt reply
  | none => throw .tooDeep

/-- What an action gives for each of `count` numbers from `first` on, behind what it gave
before, which is kept last first. -/
def gatherFrom {α : Type} (action : Nat → Play α) :
    (count first : Nat) → (gathered : List α) → Play (List α)
  | 0, _, gathered => pure gathered.reverse
  | count + 1, first, gathered => do
      let item ← action first
      gatherFrom action count (first + 1) (item :: gathered)

/-- What an action gives for each number below a count. No number is looked at before the
action has been done for the lower ones, so that it may fail soon however many there are. -/
def gather {α : Type} (count : Nat) (action : Nat → Play α) : Play (List α) :=
  gatherFrom action count 0 []

def makeQueue : Play (Ref .agent) := make (·.addAgent { manner := .queue })

def makeLayer (name : String) : Play (Ref .stage) :=
  make (·.addStage { name := name, role := .custom .transparent })

def makeChannel (settings : ForkSettings) (number : Nat) (node : Ref .node)
    (group member : Nat) : Play Channel := do
  let label := channelName number group member
  let queue ← makeQueue
  let (fork, built) ← attempt ((← get).buildFork {
    node? := some node
    group? := some (groupName group)
    member? := some (memberName member)
    settings := settings
    receiver? := some queue })
  set (built.nameFork fork label)
  return { group, member, label, fork, queue }

/-- Makes the forks of a node, group by group. -/
def makeChannels (plan : Plan) (settings : ForkSettings) (number : Nat) (node : Ref .node) :
    Play (List Channel) := do
  let groups ← gather plan.groups fun group =>
    gather plan.members (makeChannel settings number node group)
  return groups.flatten

def makeHost (plan : Plan) (settings : ForkSettings) (number : Nat) : Play Host := do
  let stages ← layers.mapM makeLayer
  let queue ← makeQueue
  let node ← make fun store =>
    let (node, store) := store.addNode (nodeName number) (.ofNat number) "" stages
    (node, (store.nameNode node (nodeName number)).setReceiver (store.nodes.get node).pipeline
      queue)
  let channels ← makeChannels plan settings number node
  return { number, node, queue, channels }

def speak (messages : Nat) (channel : Channel) : Play Unit :=
  (List.range messages).forM fun number =>
    call (.sendFork channel.fork
      { payload := forkPayload channel.group channel.member number })

/-- The course of a demonstration after its forks have been built. -/
def course (plan : Plan) (hosts : List Host) : Play Unit := do
  hosts.forM fun host => call (.connect host.node plan.cluster)
  (hosts.flatMap Host.channels).forM (speak plan.messages)
  hosts.forM fun host => call (.sendNode host.node { payload := nodePayload host.number })

def received (store : Store) (queue : Ref .agent) : Nat :=
  (store.agents.get queue).entries.countP fun entry =>
    (entry.event?.bind Event.message?).isSome

def reportHost (store : Store) (host : Host) : NodeReport :=
  let node := store.nodes.get host.node
  { name := node.name
    demultiplexer? := (store.findDemultiplexer? node.pipeline).bind store.demultiplexer?
    counters := node.counters }

/-- What is reported once the demonstration is over. -/
def report (plan : Plan) (hosts : List Host) (store : Store) : Report where
  expected := plan.messages * plan.nodes
  nodes := hosts.map (reportHost store)
  deliveries := (hosts.flatMap Host.channels).map fun channel =>
    (channel.label, received store channel.queue)
  unforked := hosts.map fun host => (nodeName host.number, received store host.queue)

/-- A whole demonstration. -/
def play (plan : Plan) (settings : ForkSettings) : Play Report := do
  let hosts ← gather plan.nodes (makeHost plan settings)
  course plan hosts
  return report plan hosts (← get)

/-- The report of a demonstration under given settings, with what the plan says of them
put on top. -/
def run (plan : Plan) (settings : ForkSettings) : Except Failure Report :=
  (play plan (plan.override settings)).run' {}

end ChannelMux.Demo
