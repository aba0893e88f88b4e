import ChannelMux.Delivery.Demultiplexer
import ChannelMux.Pipeline.Edit
import ChannelMux.Proofs.Store.Table

/-!
Contract: what of a store traffic leaves as it is, and what operations leave as it is.

Owns the shape of a store, which is everything but what is recorded and counted and which
view a node has, and its skeleton, which is the shape without the statuses and clusters of
nodes and forks. Owns what can be looked up in a store of a known shape or skeleton.
-/

namespace ChannelMux

/-- A role without what has been counted. -/
def Role.bare : Role → Role
  | .demultiplexer state => .demultiplexer { state with counters := {} }
  | role => role

/-- A stage without what it has recorded and counted. -/
def Stage.bare (stage : Stage) : Stage :=
  { stage with role := stage.role.bare, entries := [] }

/-- An agent without what it has recorded. -/
def Agent.bare (agent : Agent) : Agent := { agent with entries := [] }

/-- A node without its view and what it has counted. -/
def Node.bare (node : Node) : Node := { node with view? := none, counters := {} }

/-- A node without what becomes different as it joins and leaves clusters. -/
def Node.still (node : Node) : Node :=
  { node with status := .opened, cluster? := none, view? := none, counters := {} }

/-- A fork without its status. -/
def Fork.still (fork : Fork) : Fork := { fork with status := .opened }

namespace Store

/-- The store without what is recorded and counted and without views. -/
def shape (store : Store) : Store :=
  { store with
    stages := store.stages.map Stage.bare
    agents := store.agents.map Agent.bare
    nodes := store.nodes.map Node.bare }

/-- The store without anything that becomes different by traffic, joining and leaving. -/
def skeleton (store : Store) : Store :=
  { store with
    stages := store.stages.map Stage.bare
    agents := store.agents.map Agent.bare
    nodes := store.nodes.map Node.still
    forks := store.forks.map Fork.still
    networks := .empty }

end Store

/-! ### A thing and what is left of it -/

theorem Stage.bare_default : Stage.bare default = default := rfl

theorem Stage.bare_bare (stage : Stage) : stage.bare.bare = stage.bare := by
  obtain ⟨name, role, entries⟩ := stage
  cases role <;> rfl

/-- A stage when something has been counted there, if it is a demultiplexer. -/
def Stage.counted (change : DemultiplexerCounters → DemultiplexerCounters) (stage : Stage) :
    Stage :=
  match stage.role with
  | .demultiplexer state =>
      { stage with role := .demultiplexer { state with counters := change state.counters } }
  | _ => stage

theorem Stage.bare_counted
    (change : DemultiplexerCounters → DemultiplexerCounters)
    (stage : Stage) :
    (stage.counted change).bare = stage.bare := by
  obtain ⟨name, role, entries⟩ := stage
  cases role <;> rfl

theorem Agent.bare_default : Agent.bare default = default := rfl

theorem Node.bare_default : Node.bare default = default := rfl

theorem Node.still_default : Node.still default = default := rfl

theorem Fork.still_default : Fork.still default = default := rfl

theorem Role.bare_eq_custom_iff {role : Role} {conduct : Conduct} :
    role.bare = .custom conduct ↔ role = .custom conduct := by
  cases role <;> simp [Role.bare]

theorem Role.bare_eq_groupBottom_iff {role : Role} {group : String} :
    role.bare = .groupBottom group ↔ role = .groupBottom group := by
  cases role <;> simp [Role.bare]

theorem Role.bare_eq_groupTop_iff {role : Role} {stack : Ref .stack} :
    role.bare = .groupTop stack ↔ role = .groupTop stack := by
  cases role <;> simp [Role.bare]

/-- The groups of a demultiplexer. -/
def Role.groups? : Role → Option (Registry (Ref .stack))
  | .demultiplexer state => some state.groups
  | _ => none

theorem Role.groups?_bare (role : Role) : role.bare.groups? = role.groups? := by
  cases role <;> rfl

namespace Store

/-- What is left in the skeleton is left in the shape. -/
theorem skeleton_shape (store : Store) : store.shape.skeleton = store.skeleton := by
  unfold skeleton shape
  congr 1
  · rw [Table.map_map]
    congr 1
    funext stage
    exact stage.bare_bare
  · rw [Table.map_map]
    rfl
  · rw [Table.map_map]
    rfl

theorem shape_shape (store : Store) : store.shape.shape = store.shape := by
  unfold shape
  congr 1
  · rw [Table.map_map]
    congr 1
    funext stage
    exact stage.bare_bare
  · rw [Table.map_map]
    rfl
  · rw [Table.map_map]
    rfl

theorem skeleton_eq_of_shape_eq
    {before after : Store}
    (same : after.shape = before.shape) :
    after.skeleton = before.skeleton := by
  rw [← skeleton_shape after, same, skeleton_shape]

theorem demultiplexer?_eq_some {store : Store} {stage : Ref .stage} {state : Demultiplexer} :
    store.demultiplexer? stage = some state ↔
      (store.stages.get stage).role = .demultiplexer state := by
  unfold demultiplexer? Stage.demultiplexer?
  cases (store.stages.get stage).role <;> simp

theorem isSome_demultiplexer? (store : Store) (stage : Ref .stage) :
    (store.demultiplexer? stage).isSome = (store.stages.get stage).role.groups?.isSome := by
  unfold demultiplexer? Stage.demultiplexer?
  cases (store.stages.get stage).role <;> rfl

theorem stackOf?_eq_bind (store : Store) (stage : Ref .stage) (group : String) :
    Delivery.stackOf? store stage group =
      (store.stages.get stage).role.groups?.bind (·.get? group) := by
  unfold Delivery.stackOf? demultiplexer? Stage.demultiplexer?
  cases (store.stages.get stage).role <;> rfl

/-! ### What is not left -/

theorem shape_modifyStage
    {change : Stage → Stage}
    (unseen : ∀ record, (change record).bare = record.bare)
    (store : Store)
    (stage : Ref .stage) :
    (store.modifyStage stage change).shape = store.shape := by
  unfold shape modifyStage
  rw [Table.map_modify unseen]

theorem shape_recordStage (store : Store) (stage : Ref .stage) (entry : StageEntry) :
    (store.modifyStage stage fun record =>
      { record with entries := entry :: record.entries }).shape = store.shape := by
  apply shape_modifyStage
  intro record
  rfl

theorem shape_count (store : Store) (stage : Ref .stage)
    (change : DemultiplexerCounters → DemultiplexerCounters) :
    (store.modifyStage stage (Stage.counted change)).shape = store.shape :=
  shape_modifyStage (Stage.bare_counted change) store stage

theorem shape_modifyNode
    {change : Node → Node}
    (unseen : ∀ record, (change record).bare = record.bare)
    (store : Store)
    (node : Ref .node) :
    (store.modifyNode node change).shape = store.shape := by
  unfold shape modifyNode
  rw [Table.map_modify unseen]

theorem skeleton_modifyNode
    {change : Node → Node}
    (unseen : ∀ record, (change record).still = record.still)
    (store : Store)
    (node : Ref .node) :
    (store.modifyNode node change).skeleton = store.skeleton := by
  unfold skeleton modifyNode
  rw [Table.map_modify unseen]

theorem skeleton_modifyFork
    {change : Fork → Fork}
    (unseen : ∀ record, (change record).still = record.still)
    (store : Store)
    (fork : Ref .fork) :
    (store.modifyFork fork change).skeleton = store.skeleton := by
  unfold skeleton modifyFork
  rw [Table.map_modify unseen]

/-! ### What is found in stores of one skeleton -/

section Skeleton

variable {before after : Store}

theorem pipelines_eq (same : after.skeleton = before.skeleton) :
    after.pipelines = before.pipelines := by
  have tables := congrArg Store.pipelines same
  exact tables

theorem groups_eq (same : after.skeleton = before.skeleton) :
    after.groups = before.groups := by
  have tables := congrArg Store.groups same
  exact tables

theorem stagesOf_eq (same : after.skeleton = before.skeleton) (pipeline : Ref .pipeline) :
    after.stagesOf pipeline = before.stagesOf pipeline := by
  unfold stagesOf
  rw [pipelines_eq same]

theorem bare_stage_eq (same : after.skeleton = before.skeleton) (stage : Ref .stage) :
    (after.stages.get stage).bare = (before.stages.get stage).bare := by
  have tables : after.stages.map Stage.bare = before.stages.map Stage.bare :=
    congrArg Store.stages same
  rw [← Table.get_map Stage.bare_default, tables, Table.get_map Stage.bare_default]

theorem issued_stage_iff (same : after.skeleton = before.skeleton) (stage : Ref .stage) :
    after.stages.Issued stage ↔ before.stages.Issued stage := by
  have tables : after.stages.map Stage.bare = before.stages.map Stage.bare :=
    congrArg Store.stages same
  rw [← Table.issued_map Stage.bare, tables, Table.issued_map]

theorem bare_role_eq (same : after.skeleton = before.skeleton) (stage : Ref .stage) :
    (after.stages.get stage).role.bare = (before.stages.get stage).role.bare := by
  have roles := congrArg Stage.role (bare_stage_eq same stage)
  exact roles

theorem role_custom_iff (same : after.skeleton = before.skeleton) (stage : Ref .stage)
    (conduct : Conduct) :
    (after.stages.get stage).role = .custom conduct ↔
      (before.stages.get stage).role = .custom conduct := by
  rw [← Role.bare_eq_custom_iff, bare_role_eq same, Role.bare_eq_custom_iff]

theorem role_groupBottom_iff (same : after.skeleton = before.skeleton) (stage : Ref .stage)
    (group : String) :
    (after.stages.get stage).role = .groupBottom group ↔
      (before.stages.get stage).role = .groupBottom group := by
  rw [← Role.bare_eq_groupBottom_iff, bare_role_eq same, Role.bare_eq_groupBottom_iff]

theorem role_groupTop_iff (same : after.skeleton = before.skeleton) (stage : Ref .stage)
    (stack : Ref .stack) :
    (after.stages.get stage).role = .groupTop stack ↔
      (before.stages.get stage).role = .groupTop stack := by
  rw [← Role.bare_eq_groupTop_iff, bare_role_eq same, Role.bare_eq_groupTop_iff]

theorem isSome_demultiplexer?_of_bare_eq
    {stage : Ref .stage}
    (same : (after.stages.get stage).role.bare = (before.stages.get stage).role.bare) :
    (after.demultiplexer? stage).isSome = (before.demultiplexer? stage).isSome := by
  rw [isSome_demultiplexer?, isSome_demultiplexer?, ← Role.groups?_bare, same,
    Role.groups?_bare]

theorem stackOf?_of_bare_eq
    {stage : Ref .stage}
    (same : (after.stages.get stage).role.bare = (before.stages.get stage).role.bare)
    (group : String) :
    Delivery.stackOf? after stage group = Delivery.stackOf? before stage group := by
  rw [stackOf?_eq_bind, stackOf?_eq_bind, ← Role.groups?_bare, same, Role.groups?_bare]

theorem still_node_eq (same : after.skeleton = before.skeleton) (node : Ref .node) :
    (after.nodes.get node).still = (before.nodes.get node).still := by
  have tables : after.nodes.map Node.still = before.nodes.map Node.still :=
    congrArg Store.nodes same
  rw [← Table.get_map Node.still_default, tables, Table.get_map Node.still_default]

theorem issued_node_iff (same : after.skeleton = before.skeleton) (node : Ref .node) :
    after.nodes.Issued node ↔ before.nodes.Issued node := by
  have tables : after.nodes.map Node.still = before.nodes.map Node.still :=
    congrArg Store.nodes same
  rw [← Table.issued_map Node.still, tables, Table.issued_map]

theorem nodePipeline_eq (same : after.skeleton = before.skeleton) (node : Ref .node) :
    (after.nodes.get node).pipeline = (before.nodes.get node).pipeline := by
  have fields := congrArg Node.pipeline (still_node_eq same node)
  exact fields

theorem listeners_eq (same : after.skeleton = before.skeleton) (node : Ref .node) :
    (after.nodes.get node).listeners = (before.nodes.get node).listeners := by
  have fields := congrArg Node.listeners (still_node_eq same node)
  exact fields

theorem still_fork_eq (same : after.skeleton = before.skeleton) (fork : Ref .fork) :
    (after.forks.get fork).still = (before.forks.get fork).still := by
  have tables : after.forks.map Fork.still = before.forks.map Fork.still :=
    congrArg Store.forks same
  rw [← Table.get_map Fork.still_default, tables, Table.get_map Fork.still_default]

theorem issued_fork_iff (same : after.skeleton = before.skeleton) (fork : Ref .fork) :
    after.forks.Issued fork ↔ before.forks.Issued fork := by
  have tables : after.forks.map Fork.still = before.forks.map Fork.still :=
    congrArg Store.forks same
  rw [← Table.issued_map Fork.still, tables, Table.issued_map]

theorem isForkAlive_eq (same : after.skeleton = before.skeleton) (fork : Ref .fork) :
    after.isForkAlive fork = before.isForkAlive fork := by
  have tables : after.forks.map Fork.still = before.forks.map Fork.still :=
    congrArg Store.forks same
  unfold isForkAlive
  rw [← Table.isNamed_map _ Fork.still, tables, Table.isNamed_map]

theorem isNodeAlive_eq (same : after.skeleton = before.skeleton) (node : Ref .node) :
    after.isNodeAlive node = before.isNodeAlive node := by
  have nodes : after.nodes.map Node.still = before.nodes.map Node.still :=
    congrArg Store.nodes same
  have forks : after.forks.map Fork.still = before.forks.map Fork.still :=
    congrArg Store.forks same
  have under (fork : Ref .fork) :
      (after.forks.get fork).node = (before.forks.get fork).node := by
    have fields := congrArg Fork.node (still_fork_eq same fork)
    exact fields
  unfold isNodeAlive
  rw [← Table.isNamed_map _ Node.still, nodes, Table.isNamed_map,
    ← Table.refs_map after.forks Fork.still, forks, Table.refs_map]
  simp only [isForkAlive_eq same, under]

theorem manner_eq (same : after.skeleton = before.skeleton) (agent : Ref .agent) :
    (after.agents.get agent).manner = (before.agents.get agent).manner := by
  have tables : after.agents.map Agent.bare = before.agents.map Agent.bare :=
    congrArg Store.agents same
  have bare : (after.agents.get agent).bare = (before.agents.get agent).bare := by
    rw [← Table.get_map Agent.bare_default, tables, Table.get_map Agent.bare_default]
  have fields := congrArg Agent.manner bare
  exact fields

theorem liveMember?_eq (same : after.skeleton = before.skeleton) (stack : Ref .stack)
    (member : String) :
    after.liveMember? stack member = before.liveMember? stack member := by
  unfold liveMember?
  rw [groups_eq same]
  congr 1
  funext fork
  exact isForkAlive_eq same fork

theorem liveForks_eq (same : after.skeleton = before.skeleton) (stack : Ref .stack) :
    after.liveForks stack = before.liveForks stack := by
  unfold liveForks
  rw [groups_eq same, funext (isForkAlive_eq same)]

end Skeleton

/-! ### What is found in stores of one shape -/

section Shape

variable {before after : Store}

theorem bare_node_eq (same : after.shape = before.shape) (node : Ref .node) :
    (after.nodes.get node).bare = (before.nodes.get node).bare := by
  have tables : after.nodes.map Node.bare = before.nodes.map Node.bare :=
    congrArg Store.nodes same
  rw [← Table.get_map Node.bare_default, tables, Table.get_map Node.bare_default]

theorem nodeName_eq (same : after.shape = before.shape) (node : Ref .node) :
    (after.nodes.get node).name = (before.nodes.get node).name := by
  have fields := congrArg Node.name (bare_node_eq same node)
  exact fields

theorem nodeAddress_eq (same : after.shape = before.shape) (node : Ref .node) :
    (after.nodes.get node).address = (before.nodes.get node).address := by
  have fields := congrArg Node.address (bare_node_eq same node)
  exact fields

theorem nodeStatus_eq (same : after.shape = before.shape) (node : Ref .node) :
    (after.nodes.get node).status = (before.nodes.get node).status := by
  have fields := congrArg Node.status (bare_node_eq same node)
  exact fields

theorem networks_eq (same : after.shape = before.shape) : after.networks = before.networks := by
  have tables := congrArg Store.networks same
  exact tables

theorem forks_eq (same : after.shape = before.shape) : after.forks = before.forks := by
  have tables := congrArg Store.forks same
  exact tables

end Shape

end Store

end ChannelMux
