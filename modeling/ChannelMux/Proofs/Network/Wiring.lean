import ChannelMux.Fork.Build
import ChannelMux.Proofs.Store.Shape

/-!
Contract: how nodes, stacks and forks hang together.

Owns the wiring of a store: a node's pipeline leads to the node and holds nothing but custom
stages and demultiplexers, the stack registered for a group is a private pipeline that hangs
on the demultiplexer it is registered with, a fork is in the stack of its group at its node,
and a fork that lasts is bound there and subscribed to its node.

Owns how often a node has been subscribed to, which its tokens tell as long as it has been
fewer than 2 to the 64th times.

Owns what wired things keep while a store is added to, and the changes that add to nothing
that is wired already.
-/

namespace ChannelMux

/-- What is wired of a pipeline: everything but its name and receiver. -/
def Pipeline.ties (pipeline : Pipeline) : Pipeline :=
  { pipeline with name := "", receiver? := none }

/-- What is wired of a fork: everything but its status and receiver. -/
def Fork.ties (fork : Fork) : Fork := { fork with status := .opened, receiver? := none }

/-- How often a node has been subscribed to, its tokens being given out in order from one on. -/
def Node.subscriptions (node : Node) : Nat := (node.nextToken - 1).toNat

/-- As long as tokens do not come round, the next one counts the subscription it is for. -/
theorem Node.toNat_nextToken
    {node : Node}
    (left : node.subscriptions + 1 < UInt64.size) :
    node.nextToken.toNat = node.subscriptions + 1 := by
  have below := node.nextToken.toNat_lt
  unfold Node.subscriptions at left ⊢
  rw [UInt64.toNat_sub] at left ⊢
  change (2 ^ 64 - 1 + node.nextToken.toNat) % 2 ^ 64 + 1 < 2 ^ 64 at left
  change node.nextToken.toNat = (2 ^ 64 - 1 + node.nextToken.toNat) % 2 ^ 64 + 1
  omega

/-- Subscribing counts. -/
theorem Node.subscriptions_succ
    {node after : Node}
    (left : node.subscriptions + 1 < UInt64.size)
    (next : after.nextToken = node.nextToken + 1) :
    after.subscriptions = node.subscriptions + 1 := by
  rw [← toNat_nextToken left]
  unfold Node.subscriptions
  rw [next, UInt64.add_sub_cancel]

theorem Node.subscriptions_le
    {node after : Node}
    (left : node.subscriptions + 1 < UInt64.size)
    (next : after.nextToken = node.nextToken + 1) :
    node.subscriptions ≤ after.subscriptions := by
  rw [subscriptions_succ left next]
  exact Nat.le_succ _

namespace Store

theorem subscriptions_eq
    {before after : Store}
    (same : after.skeleton = before.skeleton)
    (node : Ref .node) :
    (after.nodes.get node).subscriptions = (before.nodes.get node).subscriptions := by
  have fields := congrArg Node.subscriptions (still_node_eq same node)
  exact fields

/-- A stage does as a conduct says. -/
def IsCustom (store : Store) (stage : Ref .stage) : Prop :=
  ∃ conduct, (store.stages.get stage).role = .custom conduct

/-- The demultiplexer of a node: the first one in its pipeline. -/
def hub? (store : Store) (node : Ref .node) : Option (Ref .stage) :=
  store.findDemultiplexer? (store.nodes.get node).pipeline

/-- A stack is the private pipeline of a group, and hangs on a stage of a shared one. -/
structure StackWired (store : Store) (shared : Ref .pipeline) (hub : Ref .stage)
    (group : String) (stack : Ref .stack) : Prop where
  issued : store.groups.Issued stack
  named : (store.groups.get stack).group = group
  pipeline : store.pipelines.Issued (store.groups.get stack).pipeline
  outlet : (store.pipelines.get (store.groups.get stack).pipeline).outlet? =
    some (.anchor shared hub)
  layers : ∃ bottom customs top,
    store.stagesOf (store.groups.get stack).pipeline = bottom :: customs ++ [top] ∧
      store.stages.Issued bottom ∧ (store.stages.get bottom).role = .groupBottom group ∧
      (∀ stage ∈ customs, store.IsCustom stage) ∧
      store.stages.Issued top ∧ (store.stages.get top).role = .groupTop stack

/-- A node's pipeline leads to the node, and what is registered there is wired to it. -/
structure NodeWired (store : Store) (node : Ref .node) : Prop where
  pipeline : store.pipelines.Issued (store.nodes.get node).pipeline
  outlet : (store.pipelines.get (store.nodes.get node).pipeline).outlet? =
    some (.transport node)
  layers : ∀ stage ∈ store.stagesOf (store.nodes.get node).pipeline,
    store.IsCustom stage ∨ (store.demultiplexer? stage).isSome
  stackWired : ∀ hub group stack, store.hub? node = some hub →
    Delivery.stackOf? store hub group = some stack →
      StackWired store (store.nodes.get node).pipeline hub group stack
  listeners : ∀ token fork, (token, .fork fork) ∈ (store.nodes.get node).listeners →
    store.forks.Issued fork ∧ (store.forks.get fork).node = node ∧
      (store.forks.get fork).token = token

/-- A fork is in the stack of its group at its node. -/
structure ForkWired (store : Store) (fork : Ref .fork) : Prop where
  node : store.nodes.Issued (store.forks.get fork).node
  stack : ∃ hub, store.hub? (store.forks.get fork).node = some hub ∧
    Delivery.stackOf? store hub (store.forks.get fork).group =
      some (store.forks.get fork).stack
  token : (store.forks.get fork).token.toNat ≤
    (store.nodes.get (store.forks.get fork).node).subscriptions

/-- A fork is bound under its member and subscribed to its node. -/
structure Bound (store : Store) (fork : Ref .fork) : Prop where
  member : (store.groups.get (store.forks.get fork).stack).members.get?
    (store.forks.get fork).member = some fork
  listens : ((store.forks.get fork).token, .fork fork) ∈
    (store.nodes.get (store.forks.get fork).node).listeners

/-- Everything is wired. -/
structure Wired (store : Store) : Prop where
  nodes : ∀ node, store.nodes.Issued node → store.NodeWired node
  hubs : ∀ left right hub, store.nodes.Issued left → store.nodes.Issued right →
    store.hub? left = some hub → store.hub? right = some hub → left = right
  forks : ∀ fork, store.forks.Issued fork → store.ForkWired fork
  members : ∀ stack member fork, store.groups.Issued stack →
    (store.groups.get stack).members.get? member = some fork →
      store.forks.Issued fork ∧ (store.forks.get fork).stack = stack ∧
        (store.forks.get fork).member = member
  tokens : ∀ left right, store.forks.Issued left → store.forks.Issued right →
    (store.forks.get left).node = (store.forks.get right).node →
      (store.forks.get left).token = (store.forks.get right).token → left = right
  bound : ∀ fork, store.isForkAlive fork = true → store.Bound fork

/-- The pipeline of a node has one demultiplexer at most. -/
def SoleHubs (store : Store) : Prop :=
  ∀ node, store.nodes.Issued node →
    ∀ left ∈ store.stagesOf (store.nodes.get node).pipeline,
      ∀ right ∈ store.stagesOf (store.nodes.get node).pipeline,
        (store.demultiplexer? left).isSome → (store.demultiplexer? right).isSome → left = right

theorem IsCustom.issued {store : Store} {stage : Ref .stage} (custom : store.IsCustom stage) :
    store.stages.Issued stage := by
  obtain ⟨conduct, role⟩ := custom
  by_contra notIssued
  rw [Table.get_of_not_issued notIssued] at role
  cases role

theorem issued_of_isSome_demultiplexer?
    {store : Store}
    {stage : Ref .stage}
    (some : (store.demultiplexer? stage).isSome) :
    store.stages.Issued stage := by
  by_contra notIssued
  unfold demultiplexer? at some
  rw [Table.get_of_not_issued notIssued] at some
  cases some

theorem NodeWired.layer_issued
    {store : Store}
    {node : Ref .node}
    (wired : store.NodeWired node)
    {stage : Ref .stage}
    (layer : stage ∈ store.stagesOf (store.nodes.get node).pipeline) :
    store.stages.Issued stage := by
  rcases wired.layers stage layer with custom | demultiplexer
  · exact custom.issued
  · exact issued_of_isSome_demultiplexer? demultiplexer

theorem mem_of_hub? {store : Store} {node : Ref .node} {hub : Ref .stage}
    (found : store.hub? node = some hub) :
    hub ∈ store.stagesOf (store.nodes.get node).pipeline ∧
      (store.demultiplexer? hub).isSome := by
  refine ⟨List.mem_of_find?_eq_some found, ?_⟩
  have property := List.find?_some found
  exact property

/-- What is registered with any stage of a node's pipeline is wired to the node, if the node
has no other demultiplexer than its first one. -/
theorem NodeWired.layer_stackWired
    {store : Store}
    {node : Ref .node}
    (wired : store.NodeWired node)
    (sole : store.SoleHubs)
    (issued : store.nodes.Issued node)
    {stage : Ref .stage}
    (layer : stage ∈ store.stagesOf (store.nodes.get node).pipeline)
    {group : String}
    {stack : Ref .stack}
    (registered : Delivery.stackOf? store stage group = some stack) :
    StackWired store (store.nodes.get node).pipeline stage group stack := by
  obtain ⟨state, found, _⟩ := Option.bind_eq_some_iff.mp registered
  have isHub : (store.demultiplexer? stage).isSome := Option.isSome_iff_exists.mpr ⟨state, found⟩
  have search : (store.hub? node).isSome := List.find?_isSome.mpr ⟨stage, layer, isHub⟩
  obtain ⟨first, isFirst⟩ := Option.isSome_iff_exists.mp search
  obtain ⟨firstLayer, firstIsHub⟩ := mem_of_hub? isFirst
  have same := sole node issued first firstLayer stage layer firstIsHub isHub
  rw [same] at isFirst
  exact wired.stackWired stage group stack isFirst registered

/-- The pipeline of a node belongs to no other node. -/
theorem Wired.eq_of_pipeline_eq
    {store : Store}
    (wired : store.Wired)
    {left right : Ref .node}
    (leftIssued : store.nodes.Issued left)
    (rightIssued : store.nodes.Issued right)
    (same : (store.nodes.get left).pipeline = (store.nodes.get right).pipeline) :
    left = right := by
  have leftOutlet := (wired.nodes left leftIssued).outlet
  have rightOutlet := (wired.nodes right rightIssued).outlet
  rw [same, rightOutlet] at leftOutlet
  cases leftOutlet
  rfl

theorem Wired.issued_of_isNodeAlive
    {store : Store}
    (wired : store.Wired)
    {node : Ref .node}
    (alive : store.isNodeAlive node = true) :
    store.nodes.Issued node := by
  unfold isNodeAlive at alive
  rcases Bool.or_eq_true_iff.mp alive with named | held
  · exact Table.issued_of_isNamed named
  · obtain ⟨fork, _, holds⟩ := List.any_eq_true.mp held
    obtain ⟨forkAlive, sameNode⟩ := Bool.and_eq_true_iff.mp holds
    rw [← eq_of_beq sameNode]
    exact (wired.forks fork (Table.issued_of_isNamed forkAlive)).node

theorem isNodeAlive_of_isForkAlive
    {store : Store}
    {fork : Ref .fork}
    (alive : store.isForkAlive fork = true) :
    store.isNodeAlive (store.forks.get fork).node = true := by
  unfold isNodeAlive
  have listed := Table.mem_refs.mpr (Table.issued_of_isNamed alive)
  rw [Bool.or_eq_true_iff, List.any_eq_true]
  refine Or.inr ⟨fork, listed, ?_⟩
  rw [alive, Bool.true_and]
  exact beq_self_eq_true _

theorem isPipelineAlive_of_isNodeAlive
    {store : Store}
    {node : Ref .node}
    (issued : store.nodes.Issued node)
    (alive : store.isNodeAlive node = true) :
    store.isPipelineAlive (store.nodes.get node).pipeline = true := by
  unfold isPipelineAlive
  rw [Bool.or_eq_true_iff, List.any_eq_true]
  refine Or.inr ⟨node, Table.mem_refs.mpr issued, ?_⟩
  rw [alive, Bool.and_true]
  exact beq_self_eq_true _

/-! ### What wired things keep -/

/-- A role stays what it is, except that a demultiplexer may get more groups. -/
structure RoleKept (before after : Role) : Prop where
  custom : ∀ conduct, before = .custom conduct → after = .custom conduct
  groupBottom : ∀ group, before = .groupBottom group → after = .groupBottom group
  groupTop : ∀ stack, before = .groupTop stack → after = .groupTop stack
  demultiplexer : ∀ state, before = .demultiplexer state →
    ∃ extended, after = .demultiplexer extended ∧
      ∀ group stack, state.groups.get? group = some stack →
        extended.groups.get? group = some stack

theorem RoleKept.refl (role : Role) : RoleKept role role where
  custom _ same := same
  groupBottom _ same := same
  groupTop _ same := same
  demultiplexer state same := ⟨state, same, fun _ _ held => held⟩

theorem RoleKept.trans
    {before between after : Role}
    (first : RoleKept before between)
    (second : RoleKept between after) :
    RoleKept before after where
  custom conduct same := second.custom conduct (first.custom conduct same)
  groupBottom group same := second.groupBottom group (first.groupBottom group same)
  groupTop stack same := second.groupTop stack (first.groupTop stack same)
  demultiplexer state same := by
    obtain ⟨middle, sameMiddle, keepsFirst⟩ := first.demultiplexer state same
    obtain ⟨last, sameLast, keepsSecond⟩ := second.demultiplexer middle sameMiddle
    exact ⟨last, sameLast, fun group stack held =>
      keepsSecond group stack (keepsFirst group stack held)⟩

/-- A store is added to: what is there stays, and stays where it is. -/
structure Extends (before after : Store) : Prop where
  pipelines : Table.Keeps Pipeline.outlet? before.pipelines after.pipelines
  stages : ∀ stage, before.stages.Issued stage → after.stages.Issued stage ∧
    RoleKept (before.stages.get stage).role (after.stages.get stage).role
  groups : Table.Keeps (fun stack => (stack.group, stack.pipeline)) before.groups after.groups
  privateStages : ∀ shared hub group stack, before.StackWired shared hub group stack →
    after.stagesOf (before.groups.get stack).pipeline =
      before.stagesOf (before.groups.get stack).pipeline
  nodes : Table.Keeps Node.pipeline before.nodes after.nodes
  tokens : ∀ node, before.nodes.Issued node →
    (before.nodes.get node).subscriptions ≤ (after.nodes.get node).subscriptions
  hubs : ∀ node hub, before.nodes.Issued node → before.hub? node = some hub →
    after.hub? node = some hub
  forks : Table.Keeps Fork.ties before.forks after.forks

namespace Extends

variable {before after : Store}

theorem isCustom (extends_ : Extends before after) {stage : Ref .stage}
    (custom : before.IsCustom stage) :
    after.IsCustom stage := by
  obtain ⟨_, kept⟩ := extends_.stages stage custom.issued
  obtain ⟨conduct, role⟩ := custom
  exact ⟨conduct, kept.custom conduct role⟩

theorem isSome_demultiplexer? (extends_ : Extends before after) {stage : Ref .stage}
    (demultiplexer : (before.demultiplexer? stage).isSome) :
    (after.demultiplexer? stage).isSome := by
  obtain ⟨state, found⟩ := Option.isSome_iff_exists.mp demultiplexer
  have issued := issued_of_isSome_demultiplexer? demultiplexer
  obtain ⟨extended, role, _⟩ :=
    (extends_.stages stage issued).2.demultiplexer state (demultiplexer?_eq_some.mp found)
  rw [demultiplexer?_eq_some.mpr role]
  rfl

theorem stackOf? (extends_ : Extends before after) {hub : Ref .stage} {group : String}
    {stack : Ref .stack} (registered : Delivery.stackOf? before hub group = some stack) :
    Delivery.stackOf? after hub group = some stack := by
  obtain ⟨state, found, held⟩ := Option.bind_eq_some_iff.mp registered
  have issued : before.stages.Issued hub :=
    issued_of_isSome_demultiplexer? (Option.isSome_iff_exists.mpr ⟨state, found⟩)
  obtain ⟨extended, role, keeps⟩ :=
    (extends_.stages hub issued).2.demultiplexer state (demultiplexer?_eq_some.mp found)
  exact Option.bind_eq_some_iff.mpr
    ⟨extended, demultiplexer?_eq_some.mpr role, keeps group stack held⟩

theorem stackWired (extends_ : Extends before after) {shared : Ref .pipeline}
    {hub : Ref .stage} {group : String} {stack : Ref .stack}
    (wired : before.StackWired shared hub group stack) :
    after.StackWired shared hub group stack := by
  obtain ⟨issued, sameStack⟩ := extends_.groups stack wired.issued
  have sameGroup : (after.groups.get stack).group = (before.groups.get stack).group :=
    congrArg Prod.fst sameStack
  have samePipeline :
      (after.groups.get stack).pipeline = (before.groups.get stack).pipeline :=
    congrArg Prod.snd sameStack
  obtain ⟨pipelineIssued, sameOutlet⟩ := extends_.pipelines _ wired.pipeline
  obtain ⟨bottom, customs, top, stages, bottomIssued, bottomRole, allCustom, topIssued,
    topRole⟩ := wired.layers
  have bottomKept := extends_.stages bottom bottomIssued
  have topKept := extends_.stages top topIssued
  refine ⟨issued, sameGroup.trans wired.named, ?_, ?_, bottom, customs, top, ?_,
    bottomKept.1, bottomKept.2.groupBottom group bottomRole, ?_,
    topKept.1, topKept.2.groupTop stack topRole⟩
  · rw [samePipeline]
    exact pipelineIssued
  · rw [samePipeline, sameOutlet]
    exact wired.outlet
  · rw [samePipeline, extends_.privateStages shared hub group stack wired]
    exact stages
  · intro stage member
    exact extends_.isCustom (allCustom stage member)

theorem forkWired (extends_ : Extends before after) {fork : Ref .fork}
    (issued : before.forks.Issued fork) (wired : before.ForkWired fork) :
    after.ForkWired fork := by
  obtain ⟨_, same⟩ := extends_.forks fork issued
  have sameNode := congrArg Fork.node same
  have sameGroup := congrArg Fork.group same
  have sameStack := congrArg Fork.stack same
  have sameToken := congrArg Fork.token same
  change (after.forks.get fork).node = (before.forks.get fork).node at sameNode
  change (after.forks.get fork).group = (before.forks.get fork).group at sameGroup
  change (after.forks.get fork).stack = (before.forks.get fork).stack at sameStack
  change (after.forks.get fork).token = (before.forks.get fork).token at sameToken
  obtain ⟨hub, found, registered⟩ := wired.stack
  refine ⟨?_, ⟨hub, ?_, ?_⟩, ?_⟩
  · rw [sameNode]
    exact (extends_.nodes _ wired.node).1
  · rw [sameNode]
    exact extends_.hubs _ hub wired.node found
  · rw [sameGroup, sameStack]
    exact extends_.stackOf? registered
  · rw [sameNode, sameToken]
    exact Nat.le_trans wired.token (extends_.tokens _ wired.node)

theorem refl (store : Store) : Extends store store where
  pipelines := Table.Keeps.refl _ _
  stages _ issued := ⟨issued, RoleKept.refl _⟩
  groups := Table.Keeps.refl _ _
  privateStages _ _ _ _ _ := rfl
  nodes := Table.Keeps.refl _ _
  tokens _ _ := Nat.le_refl _
  hubs _ _ _ found := found
  forks := Table.Keeps.refl _ _

theorem trans {between : Store} (first : Extends before between)
    (second : Extends between after) :
    Extends before after where
  pipelines := first.pipelines.trans second.pipelines
  stages stage issued := by
    obtain ⟨issuedBetween, keptFirst⟩ := first.stages stage issued
    obtain ⟨issuedAfter, keptSecond⟩ := second.stages stage issuedBetween
    exact ⟨issuedAfter, keptFirst.trans keptSecond⟩
  groups := first.groups.trans second.groups
  privateStages shared hub group stack wired := by
    have samePipeline : (between.groups.get stack).pipeline =
        (before.groups.get stack).pipeline :=
      congrArg Prod.snd (first.groups stack wired.issued).2
    have secondStages := second.privateStages shared hub group stack (first.stackWired wired)
    rw [samePipeline] at secondStages
    exact secondStages.trans (first.privateStages shared hub group stack wired)
  nodes := first.nodes.trans second.nodes
  tokens node issued := Nat.le_trans (first.tokens node issued)
    (second.tokens node (first.nodes node issued).1)
  hubs node hub issued found :=
    second.hubs node hub (first.nodes node issued).1 (first.hubs node hub issued found)
  forks := first.forks.trans second.forks

end Extends

end Store

end ChannelMux
