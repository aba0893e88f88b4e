import ChannelMux.Demo.Run
import ChannelMux.Proofs.Demo.Naming
import ChannelMux.Proofs.Forking.Founding
import ChannelMux.Proofs.Network.Calmness
import ChannelMux.Proofs.Store.Names

/-!
Contract: what there is in a store when hosts of a demonstration have been made.

Owns what is made for one host, what leaves it alone, and the store in which some hosts have been
made and nothing else has happened: stages and queues can be added to it, a new host, and a fork
to its last host, and it is such a store still.

Does not own when a fork can be built.
-/

namespace ChannelMux

namespace Table

variable {kind : Kind} {α : Type} [Inhabited α] {table : Table kind α}

/-- What is so of everything in a table is so when a thing of the kind is added. -/
theorem all_add
    (property : α → Prop)
    (all : ∀ ref, property (table.get ref))
    {content : α}
    (new : property content)
    (ref : Ref kind) :
    property ((table.add content).get ref) := by
  rcases get_add_cases table content ref with old | isNew
  · rw [old]
    exact all ref
  · rw [isNew]
    exact new

theorem all_modify
    (property : α → Prop)
    (all : ∀ ref, property (table.get ref))
    {change : α → α}
    (kept : ∀ content, property content → property (change content))
    (changed ref : Ref kind) :
    property ((table.modify changed change).get ref) := by
  rcases get_modify_cases table changed change ref with old | ⟨_, isChanged⟩
  · rw [old]
    exact all ref
  · rw [isChanged]
    exact kept _ (all ref)

end Table

/-- A stage has counted nothing, if it is a demultiplexer. -/
def Stage.Uncounted (stage : Stage) : Prop :=
  ∀ state, stage.role = .demultiplexer state → state.counters = {}

/-- Nobody has connected a node and it has carried nothing. -/
def Node.Unused (node : Node) : Prop := node.status = .opened ∧ node.counters = {}

namespace Demo

/-! ### Nothing has happened yet -/

/-- Nobody has been connected, nothing has been counted, and nobody has been told of anything. -/
structure Pristine (store : Store) : Prop where
  nodes : ∀ node, (store.nodes.get node).Unused
  stages : ∀ stage, (store.stages.get stage).Uncounted
  agents : ∀ agent, (store.agents.get agent).entries = []
  networks : store.networks = .empty

namespace Pristine

variable {store : Store}

theorem empty : Pristine {} where
  nodes _ := by
    rw [Table.get_of_not_issued (Nat.not_lt_zero _)]
    exact ⟨rfl, rfl⟩
  stages _ := by
    rw [Table.get_of_not_issued (Nat.not_lt_zero _)]
    intro state isHub
    cases isHub
  agents _ := by
    rw [Table.get_of_not_issued (Nat.not_lt_zero _)]
    rfl
  networks := rfl

section Changes

variable (pristine : Pristine store)

include pristine

theorem addStage {stage : Stage} (uncounted : stage.Uncounted) :
    Pristine (store.addStage stage).2 :=
  { pristine with stages := Table.all_add _ pristine.stages uncounted }

theorem addAgent (manner : Manner) : Pristine (store.addAgent { manner := manner }).2 :=
  { pristine with
    agents := Table.all_add (fun agent : Agent => agent.entries = []) pristine.agents rfl }

theorem addNode (name : String) (address : Address) (network : String)
    (stages : List (Ref .stage)) (label : String) (pipeline : Ref .pipeline)
    (queue : Ref .agent) :
    Pristine (((store.addNode name address network stages).2.nameNode
      (store.addNode name address network stages).1 label).setReceiver pipeline queue) where
  nodes node := by
    change Node.Unused ((Table.name _ _ label).get node)
    rw [Table.get_name]
    exact Table.all_add _ pristine.nodes ⟨rfl, rfl⟩ node
  stages := pristine.stages
  agents := pristine.agents
  networks := pristine.networks

theorem ensureDemultiplexer
    {spliced : Store}
    {pipeline : Ref .pipeline}
    {create : Bool}
    {placement : Placement}
    {hub : Ref .stage}
    (ensured : store.ensureDemultiplexer pipeline create placement = .ok (hub, spliced)) :
    Pristine spliced := by
  rcases Store.ensureDemultiplexer_cases ensured with ⟨_, same⟩ | ⟨_, _, _, _, same⟩
  · rw [same]
    exact pristine
  · have fresh : Stage.freshDemultiplexer.Uncounted := by
      intro state isHub
      cases isHub
      rfl
    rw [same]
    exact { pristine.addStage fresh with }

theorem ensureStack
    {stacked : Store}
    {hub : Ref .stage}
    {shared : Ref .pipeline}
    {group : String}
    {stages : List (Ref .stage)}
    {requireFresh : Bool}
    {stack : Ref .stack}
    (ensured : store.ensureStack hub shared group stages requireFresh = .ok (stack, stacked)) :
    Pristine stacked := by
  rcases Store.ensureStack_cases ensured with ⟨_, same, _⟩ | ⟨_, _, same⟩
  · rw [same]
    exact pristine
  · have bottom : Stage.Uncounted { name := "fork-bottom", role := .groupBottom group } := by
      intro state isHub
      cases isHub
    have top : Stage.Uncounted { name := "fork-top", role := .groupTop store.groups.next } := by
      intro state isHub
      cases isHub
    have made := (pristine.addStage bottom).addStage top
    rw [same]
    refine { made with stages := ?_ }
    refine Table.all_modify _ made.stages (fun record uncounted => ?_) hub
    split
    · rename_i state isHub
      intro registered isRegistered
      cases isRegistered
      exact uncounted state isHub
    · exact uncounted

theorem buildFork
    {plan : ForkPlan}
    {fork : Ref .fork}
    {built : Store}
    (isBuilt : store.buildFork plan = .ok (fork, built)) :
    Pristine built := by
  obtain ⟨node, group, member, hub, spliced, stack, stacked, _, _, _, _, _, ensuredHub,
    ensuredStack, _, _, same⟩ := Store.buildFork_cases isBuilt
  have made := (pristine.ensureDemultiplexer ensuredHub).ensureStack ensuredStack
  rw [same]
  refine { made with nodes := ?_ }
  apply Table.all_modify Node.Unused made.nodes
  exact fun _ unused => unused

end Changes

end Pristine

/-! ### What is made for a host -/

/-- The queues of a host: that of its node, and those of its forks. -/
def Host.queues (host : Host) : List (Ref .agent) := host.queue :: host.channels.map Channel.queue

/-- A fork lasts for a channel of a host, and hands what it gets to the queue of the channel. -/
structure Carries (store : Store) (host : Host) (channel : Channel) : Prop where
  bound : store.IsBoundTo channel.fork host.node (groupName channel.group)
    (memberName channel.member)
  receiver : (store.forks.get channel.fork).receiver? = some channel.queue

/-- A store has what has been made for a host: its node, with one demultiplexer at most beside the
layers that every shared pipeline has from the start, and its forks. -/
structure Furnishes (store : Store) (host : Host) : Prop where
  named : store.nodes.isNamed host.node = true
  name : (store.nodes.get host.node).name = nodeName host.number
  network : (store.nodes.get host.node).network = ""
  receiver : (store.pipelines.get (store.nodes.get host.node).pipeline).receiver? =
    some host.queue
  oneHub : (store.hubsOf (store.nodes.get host.node).pipeline).length ≤ 1
  /-- Before the first fork is built there is no demultiplexer. -/
  bare : host.channels = [] → store.hub? host.node = none ∧
    store.stageNames (store.nodes.get host.node).pipeline = layers
  /-- The groups are those of the forks. -/
  registered : ∀ name, (store.groupStack? host.node name).isSome ↔
    ∃ channel ∈ host.channels, name = groupName channel.group
  channels : ∀ channel ∈ host.channels, Carries store host channel
  /-- No other fork lasts at the node. -/
  noOthers : ∀ fork, store.isForkAlive fork = true → (store.forks.get fork).node = host.node →
    ∃ channel ∈ host.channels, channel.fork = fork
  queues : ∀ queue ∈ host.queues, store.agents.Issued queue ∧
    (store.agents.get queue).manner = .queue
  /-- Nobody has subscribed to the node but the forks. -/
  nextToken : (store.nodes.get host.node).nextToken = .ofNat host.channels.length + 1

/-- A fork that lasts, and is what it was, carries what it did. -/
theorem Carries.of_fork_eq
    {before after : Store}
    {host other : Host}
    {channel : Channel}
    (carries : Carries before host channel)
    (sameNode : other.node = host.node)
    (alive : after.isForkAlive channel.fork = true)
    (same : after.forks.get channel.fork = before.forks.get channel.fork) :
    Carries after other channel := by
  obtain ⟨⟨_, bound⟩, receiver⟩ := carries
  refine ⟨⟨alive, ?_⟩, ?_⟩
  · rw [same, sameNode]
    exact bound
  · rw [same]
    exact receiver

/-- A host with a channel has a demultiplexer. -/
theorem Furnishes.isSome_hub?
    {store : Store}
    {host : Host}
    {channel : Channel}
    (furnishes : Furnishes store host)
    (isChannel : channel ∈ host.channels) :
    (store.hub? host.node).isSome := by
  have registered := (furnishes.registered (groupName channel.group)).mpr
    ⟨channel, isChannel, rfl⟩
  unfold Store.groupStack? at registered
  exact Option.isSome_of_isSome_bind registered

theorem Furnishes.alive {store : Store} {host : Host} (furnishes : Furnishes store host) :
    store.isNodeAlive host.node = true := by
  unfold Store.isNodeAlive
  rw [furnishes.named]
  rfl

/-- Nothing has become of what was made for a host. -/
structure Untouched (host : Host) (before after : Store) : Prop where
  named : before.nodes.isNamed host.node = true → after.nodes.isNamed host.node = true
  record : after.nodes.get host.node = before.nodes.get host.node
  pipeline : after.pipelines.get (before.nodes.get host.node).pipeline =
    before.pipelines.get (before.nodes.get host.node).pipeline
  layers : ∀ stage ∈ before.stagesOf (before.nodes.get host.node).pipeline,
    after.stages.get stage = before.stages.get stage
  forks : ∀ fork, before.isForkAlive fork = true → after.isForkAlive fork = true ∧
    after.forks.get fork = before.forks.get fork
  noNewForks : ∀ fork, after.isForkAlive fork = true →
    (after.forks.get fork).node = host.node → before.isForkAlive fork = true
  agents : Table.Keeps id before.agents after.agents

namespace Untouched

variable {host : Host} {before after : Store} (untouched : Untouched host before after)

include untouched

theorem stagesOf_eq :
    after.stagesOf (after.nodes.get host.node).pipeline =
      before.stagesOf (before.nodes.get host.node).pipeline := by
  unfold Store.stagesOf
  rw [untouched.record, untouched.pipeline]

theorem hubsOf_eq :
    after.hubsOf (after.nodes.get host.node).pipeline =
      before.hubsOf (before.nodes.get host.node).pipeline := by
  unfold Store.hubsOf
  rw [untouched.stagesOf_eq]
  refine List.filter_congr fun stage layer => ?_
  unfold Store.demultiplexer?
  rw [untouched.layers stage layer]

theorem hub?_eq : after.hub? host.node = before.hub? host.node := by
  rw [Store.hub?_eq_head?, Store.hub?_eq_head?, untouched.hubsOf_eq]

theorem groupStack?_eq (name : String) :
    after.groupStack? host.node name = before.groupStack? host.node name := by
  unfold Store.groupStack?
  rw [untouched.hub?_eq]
  cases found : before.hub? host.node with
  | none => rfl
  | some hub =>
      rw [Option.bind_some, Option.bind_some, Store.stackOf?_eq_bind, Store.stackOf?_eq_bind,
        untouched.layers hub (Store.mem_of_hub? found).1]

theorem stageNames_eq :
    after.stageNames (after.nodes.get host.node).pipeline =
      before.stageNames (before.nodes.get host.node).pipeline := by
  unfold Store.stageNames
  rw [untouched.stagesOf_eq]
  refine List.map_congr_left fun stage layer => ?_
  rw [untouched.layers stage layer]

/-- A store still has for a host what nothing has become of. -/
theorem furnishes (furnishes : Furnishes before host) : Furnishes after host where
  named := untouched.named furnishes.named
  name := by
    rw [untouched.record]
    exact furnishes.name
  network := by
    rw [untouched.record]
    exact furnishes.network
  receiver := by
    rw [untouched.record, untouched.pipeline]
    exact furnishes.receiver
  oneHub := by
    rw [untouched.hubsOf_eq]
    exact furnishes.oneHub
  bare none := by
    rw [untouched.hub?_eq, untouched.stageNames_eq]
    exact furnishes.bare none
  registered name := by
    rw [untouched.groupStack?_eq]
    exact furnishes.registered name
  channels channel member := by
    have carries := furnishes.channels channel member
    obtain ⟨alive, same⟩ := untouched.forks channel.fork carries.bound.1
    exact carries.of_fork_eq rfl alive same
  noOthers fork alive atNode := by
    have before := untouched.noNewForks fork alive atNode
    refine furnishes.noOthers fork before ?_
    rwa [(untouched.forks fork before).2] at atNode
  queues queue member := by
    obtain ⟨issued, manner⟩ := furnishes.queues queue member
    obtain ⟨stillIssued, same⟩ := untouched.agents queue issued
    refine ⟨stillIssued, ?_⟩
    rw [show after.agents.get queue = before.agents.get queue from same]
    exact manner
  nextToken := by
    rw [untouched.record]
    exact furnishes.nextToken

end Untouched

/-! ### What leaves hosts alone -/

section Hosts

variable {store : Store} {host : Host} (wired : store.Wired) (furnishes : Furnishes store host)

include wired furnishes

theorem Furnishes.issued : store.nodes.Issued host.node :=
  wired.issued_of_isNodeAlive furnishes.alive

omit wired in
/-- One more fork can subscribe to the node. -/
theorem Furnishes.canSubscribe (room : host.channels.length + 1 < UInt64.size) :
    store.canSubscribe host.node = true := by
  unfold Store.canSubscribe Node.subscriptions
  rw [furnishes.nextToken, UInt64.add_sub_cancel,
    UInt64.toNat_ofNat_of_lt' (Nat.lt_of_succ_lt room)]
  exact decide_eq_true room

theorem Furnishes.layer_issued
    {stage : Ref .stage}
    (layer : stage ∈ store.stagesOf (store.nodes.get host.node).pipeline) :
    store.stages.Issued stage :=
  (wired.nodes host.node (furnishes.issued wired)).layer_issued layer

theorem untouched_addStage (stage : Stage) :
    Untouched host store (store.addStage stage).2 where
  named named := named
  record := rfl
  pipeline := rfl
  layers _ member := Table.get_add_of_issued (furnishes.layer_issued wired member) stage
  forks _ alive := ⟨alive, rfl⟩
  noNewForks _ alive _ := alive
  agents := Table.Keeps.refl _ _

omit wired furnishes in
theorem untouched_addAgent (agent : Agent) :
    Untouched host store (store.addAgent agent).2 where
  named named := named
  record := rfl
  pipeline := rfl
  layers _ _ := rfl
  forks _ alive := ⟨alive, rfl⟩
  noNewForks _ alive _ := alive
  agents := Table.keeps_add _ _ _

end Hosts

/-- A store with one more node, over given stages, whose name is made of a number and whose
receiver is a queue. -/
def withNode (store : Store) (number : Nat) (stages : List (Ref .stage)) (queue : Ref .agent) :
    Store :=
  let made := (store.addNode (nodeName number) (.ofNat number) "" stages).2
  (made.nameNode store.nodes.next (nodeName number)).setReceiver
    (made.nodes.get store.nodes.next).pipeline queue

section WithNode

variable {store : Store} {number : Nat} {stages : List (Ref .stage)} {queue : Ref .agent}

theorem nodes_withNode :
    (withNode store number stages queue).nodes = (store.nodes.add
      { name := nodeName number, address := .ofNat number, network := ""
        pipeline := store.pipelines.next }).name store.nodes.next (nodeName number) := rfl

theorem node_withNode_next :
    (withNode store number stages queue).nodes.get store.nodes.next =
      { name := nodeName number, address := .ofNat number, network := ""
        pipeline := store.pipelines.next } := by
  rw [nodes_withNode, Table.get_name]
  exact Table.get_add_next _ _

theorem pipelines_withNode :
    (withNode store number stages queue).pipelines = (store.pipelines.add
      { name := "shared:" ++ nodeName number, stages := stages
        outlet? := some (.transport store.nodes.next) }).modify store.pipelines.next
          fun record => { record with receiver? := some queue } := by
  have atNext : ((store.addNode (nodeName number) (.ofNat number) "" stages).2.nodes.get
      store.nodes.next).pipeline = store.pipelines.next :=
    congrArg Node.pipeline Store.node_addNode_next
  unfold withNode
  dsimp only
  rw [atNext]
  rfl

theorem pipeline_withNode_next :
    (withNode store number stages queue).pipelines.get store.pipelines.next =
      { name := "shared:" ++ nodeName number, stages := stages, receiver? := some queue
        outlet? := some (.transport store.nodes.next) } := by
  rw [pipelines_withNode, Table.get_modify_self (Table.issued_add_next _ _),
    Table.get_add_next]

theorem untouched_withNode
    {host : Host}
    (wired : store.Wired)
    (furnishes : Furnishes store host)
    (otherName : nodeName number ∉ store.nodes.namesOf host.node) :
    Untouched host store (withNode store number stages queue) := by
  have issued := furnishes.issued wired
  have different : host.node ≠ store.nodes.next := Table.ne_next issued
  have pipelineIssued := (wired.nodes host.node issued).pipeline
  refine ⟨fun named => ?_, ?_, ?_, fun _ _ => rfl, fun _ alive => ⟨alive, rfl⟩,
    fun _ alive _ => alive, Table.Keeps.refl _ _⟩
  · rw [nodes_withNode, Table.isNamed_name_of_not_mem different, Table.isNamed_add]
    · exact named
    · rw [Table.namesOf_add]
      exact otherName
  · rw [nodes_withNode, Table.get_name, Table.get_add_of_issued issued]
  · rw [pipelines_withNode, Table.get_modify_of_ne (Table.ne_next pipelineIssued),
      Table.get_add_of_issued pipelineIssued]

/-- A host has been made, but for its forks. -/
theorem furnishes_withNode
    (customs : ∀ stage ∈ stages, store.IsCustom stage)
    (names : stages.map (fun stage => (store.stages.get stage).name) = layers)
    (nodesIssued : ∀ fork, store.isForkAlive fork = true →
      store.nodes.Issued (store.forks.get fork).node)
    (queueIssued : store.agents.Issued queue)
    (isQueue : (store.agents.get queue).manner = .queue) :
    Furnishes (withNode store number stages queue)
      { number := number, node := store.nodes.next, queue := queue, channels := [] } := by
  have pipeline : ((withNode store number stages queue).nodes.get store.nodes.next).pipeline =
      store.pipelines.next := congrArg Node.pipeline node_withNode_next
  have stagesOf : (withNode store number stages queue).stagesOf store.pipelines.next = stages :=
    congrArg Pipeline.stages pipeline_withNode_next
  have noHub : (withNode store number stages queue).hubsOf store.pipelines.next = [] := by
    unfold Store.hubsOf
    rw [stagesOf, List.filter_eq_nil_iff]
    intro stage member isHub
    obtain ⟨conduct, role⟩ := customs stage member
    rw [Store.isSome_demultiplexer?] at isHub
    change (store.stages.get stage).role.groups?.isSome = true at isHub
    rw [role] at isHub
    cases isHub
  have unfound : (withNode store number stages queue).hub? store.nodes.next = none := by
    rw [Store.hub?_eq_head?, pipeline, noHub]
    rfl
  have noFork : ∀ fork, store.isForkAlive fork = true →
      (store.forks.get fork).node ≠ store.nodes.next :=
    fun fork alive => Table.ne_next (nodesIssued fork alive)
  exact {
    named := by
      rw [nodes_withNode]
      exact Table.isNamed_name_self (Table.issued_add_next _ _) _
    name := congrArg Node.name node_withNode_next
    network := congrArg Node.network node_withNode_next
    receiver := by
      rw [pipeline]
      exact congrArg Pipeline.receiver? pipeline_withNode_next
    oneHub := by
      rw [pipeline, noHub]
      exact Nat.zero_le _
    bare := by
      intro _
      refine ⟨unfound, ?_⟩
      unfold Store.stageNames
      rw [pipeline, stagesOf]
      exact names
    registered := by
      intro name
      unfold Store.groupStack?
      rw [unfound]
      simp
    channels := by simp
    noOthers := fun fork alive atNode => absurd atNode (noFork fork alive)
    queues := by
      intro other member
      obtain rfl := List.mem_singleton.mp member
      exact ⟨queueIssued, isQueue⟩
    nextToken := congrArg Node.nextToken node_withNode_next }

end WithNode

/-! ### Building a fork -/

/-- Nobody ends when a fork gets a name that no fork has had. -/
theorem nameFork_of_fresh
    {store : Store}
    {label : String}
    (fresh : ∀ fork, label ∉ store.forks.namesOf fork)
    (fork : Ref .fork) :
    store.nameFork fork label = { store with forks := store.forks.name fork label } := by
  have nobody : store.forks.named? label = none := by
    cases named : store.forks.named? label with
    | none => rfl
    | some former => exact absurd (Table.mem_namesOf_of_named? named) (fresh former)
  unfold Store.nameFork
  rw [nobody]

/-- The demultiplexers in the pipeline of a node are the one that it has. -/
theorem hub?_of_layer
    {store : Store}
    {node : Ref .node}
    {stage : Ref .stage}
    (sole : store.SoleHubs)
    (issued : store.nodes.Issued node)
    (layer : stage ∈ store.stagesOf (store.nodes.get node).pipeline)
    (isHub : (store.demultiplexer? stage).isSome) :
    store.hub? node = some stage := by
  cases found : store.hub? node with
  | none => exact absurd isHub (List.find?_eq_none.mp found stage layer)
  | some hub =>
      obtain ⟨hubLayer, isHubToo⟩ := Store.mem_of_hub? found
      rw [sole node issued hub hubLayer stage layer isHubToo isHub]

section Building

variable {store built : Store} {plan : ForkPlan} {host : Host} {group member label : String}
  {hub : Ref .stage} {stack : Ref .stack} {fork : Ref .fork}
  (wired : store.Wired) (furnishes : Furnishes store host)
  (builds : Store.Builds store built plan host.node group member hub stack fork)
  (fresh : ∀ other, label ∉ store.forks.namesOf other)

include builds fresh in
theorem nameFork_built :
    built.nameFork fork label = { built with forks := built.forks.name fork label } := by
  refine nameFork_of_fresh (fun other => ?_) fork
  rw [builds.forks, Table.namesOf_add]
  exact fresh other

include builds fresh in
/-- Whoever lasts when a fork has been built and named is the fork, or has lasted before. -/
theorem isForkAlive_built (other : Ref .fork) :
    (built.nameFork fork label).isForkAlive other = true ↔
      other = fork ∨ store.isForkAlive other = true := by
  have issued : built.forks.Issued fork := builds.issued_fork.mpr (Or.inr rfl)
  rw [nameFork_built builds fresh]
  change (built.forks.name fork label).isNamed other = true ↔ _
  by_cases same : other = fork
  · rw [same]
    simp only [Table.isNamed_name_self issued, true_or]
  · have unnamed : label ∉ built.forks.namesOf other := by
      rw [builds.forks, Table.namesOf_add]
      exact fresh other
    rw [Table.isNamed_name_of_not_mem same unnamed]
    have sameAlive := builds.isForkAlive_eq other
    unfold Store.isForkAlive at sameAlive ⊢
    rw [sameAlive]
    simp only [same, false_or]

include builds fresh in
theorem fork_built_of_alive
    {other : Ref .fork}
    (alive : store.isForkAlive other = true) :
    (built.nameFork fork label).forks.get other = store.forks.get other := by
  rw [nameFork_built builds fresh]
  change (built.forks.name fork label).get other = _
  rw [Table.get_name]
  exact builds.fork_eq (Table.issued_of_isNamed alive)

include wired builds fresh in
/-- Building a fork over one host leaves the others alone. -/
theorem untouched_build
    {other : Host}
    (sole : store.SoleHubs)
    (issuedHost : store.nodes.Issued host.node)
    (furnishesOther : Furnishes store other)
    (different : other.node ≠ host.node) :
    Untouched other store (built.nameFork fork label) := by
  have issued := furnishesOther.issued wired
  have tables := nameFork_built builds fresh
  have otherPipeline : (store.nodes.get other.node).pipeline ≠
      (store.nodes.get host.node).pipeline :=
    fun same => different (wired.eq_of_pipeline_eq issued issuedHost same)
  refine ⟨fun named => ?_, ?_, ?_, fun stage layer => ?_, fun living alive => ⟨?_, ?_⟩,
    fun living alive atNode => ?_, ?_⟩
  · rw [tables]
    change built.nodes.isNamed other.node = true
    rw [builds.nodes, Table.isNamed_modify]
    exact named
  · rw [tables]
    change built.nodes.get other.node = _
    rw [builds.nodes, Table.get_modify_of_ne different]
  · rw [tables]
    exact (builds.pipelines _ (wired.nodes other.node issued).pipeline).2 otherPipeline
  · rw [tables]
    refine (builds.stages stage (furnishesOther.layer_issued wired layer)).2 ?_
    -- The demultiplexer of the host is in no other pipeline, and a new one is in none yet.
    rintro rfl
    cases builds.splicesHub with
    | found atHub _ =>
        have isHub := List.find?_some atHub
        have ofOther := hub?_of_layer sole issued layer isHub
        exact different (wired.hubs _ _ _ issued issuedHost ofOther atHub)
    | inserted _ new _ _ _ => exact new (furnishesOther.layer_issued wired layer)
  · exact (isForkAlive_built builds fresh living).mpr (Or.inr alive)
  · exact fork_built_of_alive builds fresh alive
  · refine ((isForkAlive_built builds fresh living).mp alive).resolve_left ?_
    rintro rfl
    rw [tables] at atNode
    change ((built.forks.name living label).get living).node = other.node at atNode
    rw [Table.get_name, builds.fork_new.1] at atNode
    exact different atNode.symm
  · rw [tables]
    change Table.Keeps id store.agents built.agents
    rw [builds.agents]
    exact Table.Keeps.refl _ _

end Building

/-- A host with one more channel. -/
def Host.with (host : Host) (channel : Channel) : Host :=
  { host with channels := host.channels ++ [channel] }

theorem Host.mem_with {host : Host} {channel other : Channel} :
    other ∈ (host.with channel).channels ↔ other ∈ host.channels ∨ other = channel := by
  simp [Host.with]

/-- The plan of a fork that is to carry a channel. -/
def channelPlan (settings : ForkSettings) (node : Ref .node) (group member : Nat)
    (queue : Ref .agent) : ForkPlan :=
  { node? := some node, group? := some (groupName group), member? := some (memberName member)
    settings := settings, receiver? := some queue }

/-- A host has one more fork. -/
theorem furnishes_build
    {store built : Store}
    {settings : ForkSettings}
    {host : Host}
    {channel : Channel}
    {hub : Ref .stage}
    {stack : Ref .stack}
    (wired : store.Wired)
    (furnishes : Furnishes store host)
    (builds : Store.Builds store built
      (channelPlan settings host.node channel.group channel.member channel.queue) host.node
      (groupName channel.group) (memberName channel.member) hub stack channel.fork)
    (fresh : ∀ other, channel.label ∉ store.forks.namesOf other)
    (queueIssued : store.agents.Issued channel.queue)
    (isQueue : (store.agents.get channel.queue).manner = .queue) :
    Furnishes (built.nameFork channel.fork channel.label) (host.with channel) := by
  have issued := furnishes.issued wired
  have tables := nameFork_built builds fresh
  have alive := isForkAlive_built builds fresh
  have pipeline : (built.nodes.get host.node).pipeline = (store.nodes.get host.node).pipeline :=
    builds.nodePipeline issued
  have record {Aspect : Type} (read : Node → Aspect)
      (unseen : ∀ node : Node, ∀ listeners nextToken,
        read { node with listeners := listeners, nextToken := nextToken } = read node) :
      read (built.nodes.get host.node) = read (store.nodes.get host.node) := by
    rw [builds.nodes]
    exact Table.read_modify read (fun node => unseen node _ _) _ _ _
  have newFork : (built.nameFork channel.fork channel.label).forks.get channel.fork =
      built.forks.get channel.fork := by
    rw [tables]
    exact Table.get_name _ _ _ _
  obtain ⟨atNode, ofGroup, asMember, _⟩ := builds.fork_new
  have receives : (built.forks.get channel.fork).receiver? = some channel.queue := by
    rw [builds.forks, builds.isNext, Table.get_add_next]
    rfl
  exact {
    named := by
      rw [tables]
      change built.nodes.isNamed host.node = true
      rw [builds.nodes, Table.isNamed_modify]
      exact furnishes.named
    name := by
      rw [tables]
      exact (record Node.name fun _ _ _ => rfl).trans furnishes.name
    network := by
      rw [tables]
      exact (record Node.network fun _ _ _ => rfl).trans furnishes.network
    receiver := by
      rw [tables]
      change (built.pipelines.get (built.nodes.get host.node).pipeline).receiver? = _
      rw [pipeline, builds.pipeline]
      exact furnishes.receiver
    oneHub := by
      rw [tables]
      change (built.hubsOf (built.nodes.get host.node).pipeline).length ≤ 1
      rw [pipeline]
      exact builds.length_hubsOf_le (wired.grounded issued) furnishes.oneHub
    bare := by
      intro none
      simp [Host.with] at none
    registered := by
      intro name
      have lookUp : (built.nameFork channel.fork channel.label).groupStack? host.node name =
          built.groupStack? host.node name := by
        rw [tables]
        rfl
      change ((built.nameFork channel.fork channel.label).groupStack? host.node name).isSome ↔ _
      rw [lookUp, builds.groupStack?_eq]
      simp only [Host.mem_with, or_and_right, exists_or, exists_eq_left]
      rw [← furnishes.registered name]
      split
      · simp [*]
      · simp [*]
    channels := by
      intro other member
      rcases Host.mem_with.mp member with old | rfl
      · have carries := furnishes.channels other old
        have wasAlive := carries.bound.1
        exact carries.of_fork_eq rfl ((alive other.fork).mpr (Or.inr wasAlive))
          (fork_built_of_alive builds fresh wasAlive)
      · refine ⟨⟨(alive _).mpr (Or.inl rfl), ?_⟩, ?_⟩
        · rw [newFork]
          exact ⟨atNode, ofGroup, asMember⟩
        · rw [newFork]
          exact receives
    noOthers := by
      intro other isAlive atHost
      rcases (alive other).mp isAlive with rfl | wasAlive
      · exact ⟨channel, Host.mem_with.mpr (Or.inr rfl), rfl⟩
      · rw [fork_built_of_alive builds fresh wasAlive] at atHost
        obtain ⟨old, member, same⟩ := furnishes.noOthers other wasAlive atHost
        exact ⟨old, Host.mem_with.mpr (Or.inl member), same⟩
    queues := by
      intro queue member
      have agents : (built.nameFork channel.fork channel.label).agents = store.agents := by
        rw [tables]
        exact builds.agents
      rw [agents]
      unfold Host.queues Host.with at member
      rw [List.map_append, ← List.cons_append, List.mem_append] at member
      rcases member with old | new
      · exact furnishes.queues queue old
      · obtain rfl := List.mem_singleton.mp new
        exact ⟨queueIssued, isQueue⟩
    nextToken := by
      rw [tables]
      change (built.nodes.get host.node).nextToken = _
      rw [builds.nodes, Table.get_modify_self issued]
      change (store.nodes.get host.node).nextToken + 1 =
        .ofNat (host.channels ++ [channel]).length + 1
      rw [furnishes.nextToken, List.length_append, UInt64.ofNat_add]
      rfl }

/-! ### What runs leaves hosts alone -/

section Skeleton

variable {before after : Store} (same : after.skeleton = before.skeleton)

include same

theorem hubsOf_of_skeleton_eq (pipeline : Ref .pipeline) :
    after.hubsOf pipeline = before.hubsOf pipeline := by
  unfold Store.hubsOf
  rw [Store.stagesOf_eq same]
  refine List.filter_congr fun stage _ => ?_
  rw [Store.isSome_demultiplexer?_of_bare_eq (Store.bare_role_eq same stage)]

theorem hub?_of_skeleton_eq (node : Ref .node) : after.hub? node = before.hub? node := by
  rw [Store.hub?_eq_head?, Store.hub?_eq_head?, Store.nodePipeline_eq same,
    hubsOf_of_skeleton_eq same]

theorem groupStack?_of_skeleton_eq (node : Ref .node) (name : String) :
    after.groupStack? node name = before.groupStack? node name := by
  unfold Store.groupStack?
  rw [hub?_of_skeleton_eq same]
  cases before.hub? node with
  | none => rfl
  | some hub => exact Store.stackOf?_of_bare_eq (Store.bare_role_eq same hub) name

/-- However much is sent, and whoever joins, a store still has what was made for a host. -/
theorem Furnishes.of_skeleton_eq {host : Host} (furnishes : Furnishes before host) :
    Furnishes after host := by
  have pipeline := Store.nodePipeline_eq same host.node
  have still := Store.still_node_eq same host.node
  have bound (fork : Ref .fork) (node : Ref .node) (group member : String) :
      after.IsBoundTo fork node group member ↔ before.IsBoundTo fork node group member := by
    have record := Store.still_fork_eq same fork
    have atNode := congrArg Fork.node record
    have ofGroup := congrArg Fork.group record
    have asMember := congrArg Fork.member record
    change (after.forks.get fork).node = (before.forks.get fork).node at atNode
    change (after.forks.get fork).group = (before.forks.get fork).group at ofGroup
    change (after.forks.get fork).member = (before.forks.get fork).member at asMember
    unfold Store.IsBoundTo
    rw [Store.isForkAlive_eq same, atNode, ofGroup, asMember]
  refine ⟨?_, ?_, ?_, ?_, ?_, fun none => ?_, fun name => ?_, fun channel member => ?_,
    fun fork alive atHost => ?_, fun queue member => ?_, ?_⟩
  · have tables : after.nodes.map Node.still = before.nodes.map Node.still :=
      congrArg Store.nodes same
    rw [← Table.isNamed_map _ Node.still, tables, Table.isNamed_map]
    exact furnishes.named
  · have names := congrArg Node.name still
    exact names.trans furnishes.name
  · have networks := congrArg Node.network still
    exact networks.trans furnishes.network
  · rw [pipeline, Store.pipelines_eq same]
    exact furnishes.receiver
  · rw [pipeline, hubsOf_of_skeleton_eq same]
    exact furnishes.oneHub
  · obtain ⟨noHub, names⟩ := furnishes.bare none
    rw [hub?_of_skeleton_eq same, pipeline]
    refine ⟨noHub, names ▸ ?_⟩
    unfold Store.stageNames
    rw [Store.stagesOf_eq same]
    refine List.map_congr_left fun stage _ => ?_
    have stageNames := congrArg Stage.name (Store.bare_stage_eq same stage)
    exact stageNames
  · rw [groupStack?_of_skeleton_eq same]
    exact furnishes.registered name
  · obtain ⟨isBound, receiver⟩ := furnishes.channels channel member
    refine ⟨(bound _ _ _ _).mpr isBound, ?_⟩
    have receivers := congrArg Fork.receiver? (Store.still_fork_eq same channel.fork)
    exact receivers.trans receiver
  · rw [Store.isForkAlive_eq same] at alive
    have nodes := congrArg Fork.node (Store.still_fork_eq same fork)
    exact furnishes.noOthers fork alive (nodes.symm.trans atHost)
  · obtain ⟨issued, manner⟩ := furnishes.queues queue member
    rw [Store.manner_eq same]
    refine ⟨?_, manner⟩
    have tables : after.agents.map Agent.bare = before.agents.map Agent.bare :=
      congrArg Store.agents same
    rwa [← Table.issued_map Agent.bare, tables, Table.issued_map]
  · have tokens := congrArg Node.nextToken still
    exact tokens.trans furnishes.nextToken

end Skeleton

end Demo

end ChannelMux
