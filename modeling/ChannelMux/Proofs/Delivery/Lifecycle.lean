import ChannelMux.Delivery.Enter
import ChannelMux.Proofs.Delivery.Traffic

/-!
Contract: what connecting, disconnecting and closing a node do.

Owns what becomes of the store when a node joins a cluster, leaves it or is closed, as
functions on stores, and the fact that the operations do just that wherever traffic without
messages leaves the shape of the store as it is. What the members and listeners are told on
the way is for the rule that governs them.
-/

namespace ChannelMux

namespace Store

/-- A cluster as it is kept when its members have changed. -/
def renewed (cluster : Cluster) : Cluster :=
  if cluster.members.isEmpty then cluster else (Delivery.nextView cluster).2

/-- A listener has been told of a status. -/
def adoptBy (store : Store) (entered : Status) : Listener → Store
  | .agent _ => store
  | .fork fork =>
      if store.isForkAlive fork then
        store.modifyFork fork fun record => { record with status := entered }
      else store

/-- The listeners of a node have been told of a status. -/
def adopt (store : Store) (node : Ref .node) (entered : Status) : Store :=
  (store.nodes.get node).listeners.foldl (fun adopted entry => adopted.adoptBy entered entry.2)
    store

/-- A node has joined a cluster. -/
def enter (store : Store) (node : Ref .node) (name : String) : Store :=
  let record := store.nodes.get node
  let cluster := store.cluster record.network name
  let member : Member := { address := record.address, name := record.name, node := node }
  (store.modifyNode node fun record =>
    { record with status := .connected, cluster? := some name }).putCluster record.network name
      (renewed { cluster with members := cluster.members ++ [member] })

/-- Nobody with the address of a node is in a cluster any more. -/
def withdraw (store : Store) (record : Node) (name : String) : Store :=
  let cluster := store.cluster record.network name
  if cluster.members.isEmpty then store
  else
    store.putCluster record.network name
      (renewed { cluster with
        members := cluster.members.filter (·.address != record.address) })

/-- A node has left the cluster that it was in. -/
def exit (store : Store) (node : Ref .node) : Store :=
  let record := store.nodes.get node
  let opened := store.modifyNode node fun record =>
    { record with status := .opened, cluster? := none, view? := none }
  match record.cluster? with
  | some name => opened.withdraw record name
  | none => opened

/-- A node has been connected to a cluster, if it was in none. -/
def connected (store : Store) (node : Ref .node) (name : String) : Store :=
  match (store.nodes.get node).status with
  | .opened => (store.enter node name).adopt node .connected
  | _ => store

/-- A node has been disconnected, if it was connected. -/
def disconnected (store : Store) (node : Ref .node) : Store :=
  if (store.nodes.get node).status = .connected then (store.exit node).adopt node .opened
  else store

/-- A node that is in no cluster is closed for good. -/
def shut (store : Store) (node : Ref .node) : Store :=
  store.modifyNode node fun record => { record with status := .closed }

/-- A node has been closed. -/
def closed (store : Store) (node : Ref .node) : Store :=
  let left := store.disconnected node
  if (left.nodes.get node).status ≠ .closed then (left.shut node).adopt node .closed else left

/-- An operation that sends nothing has been called. -/
def called (store : Store) : Operation → Store
  | .connect node name => store.connected node name
  | .disconnect node => store.disconnected node
  | .close node => store.closed node
  | .sendFork _ _ => store
  | .sendNode _ _ => store

end Store

/-- Whether an operation sends a message. -/
def Operation.sends : Operation → Bool
  | .sendFork _ _ => true
  | .sendNode _ _ => true
  | _ => false

/-- A rule for traffic that leaves the shape of a store as it is, and what it comes to when
nodes join and leave clusters as well. -/
structure LifecycleRule extends TrafficRule where
  shape : ∀ {before after}, relates before after → after.shape = before.shape
  /-- What becomes of a store besides. -/
  concludes : Store → Store → Prop
  concludes_of_relates : ∀ {before after}, relates before after → concludes before after
  concludes_trans : ∀ {first second third}, concludes first second → concludes second third →
    concludes first third
  /-- Nodes, forks and clusters may become different in between. -/
  concludes_of_change : ∀ {before after}, after.stages = before.stages →
    after.agents = before.agents → concludes before after
  keeps_concludes : ∀ {before after}, holds before → concludes before after → holds after

namespace LifecycleRule

variable {α β : Type} {rule : LifecycleRule} {before : Store}

/-- If the run finishes, the store has this shape. -/
def Leaves (rule : LifecycleRule) (before : Store) (run : Run α) (shape : Store) : Prop :=
  ∀ value after, run before = some (value, after) →
    after.shape = shape ∧ rule.concludes before after

theorem leaves_pure (value : α) : rule.Leaves before (pure value) before.shape := by
  intro given after finished
  cases finished
  exact ⟨rfl, rule.concludes_of_change rfl rfl⟩

theorem leaves_bind
    {run : Run α}
    {next : α → Run β}
    {middle shape : Store}
    (holds : rule.holds before)
    (first : rule.Leaves before run middle)
    (second : ∀ value between, rule.holds between → between.shape = middle →
      rule.Leaves between (next value) shape) :
    rule.Leaves before (run >>= next) shape := by
  intro value after finished
  obtain ⟨passed, between, firstFinished, secondFinished⟩ := Rule.bind_eq_some finished
  obtain ⟨middleShape, firstConcludes⟩ := first passed between firstFinished
  have stillHolds := rule.keeps_concludes holds firstConcludes
  obtain ⟨lastShape, secondConcludes⟩ :=
    second passed between stillHolds middleShape value after secondFinished
  exact ⟨lastShape, rule.concludes_trans firstConcludes secondConcludes⟩

theorem leaves_look
    {view : Store → α}
    {next : α → Run β}
    {shape : Store}
    (leaves : rule.Leaves before (next (view before)) shape) :
    rule.Leaves before (Run.look view >>= next) shape := by
  intro value after finished
  exact leaves value after finished

theorem leaves_get
    {next : Store → Run β}
    {shape : Store}
    (leaves : rule.Leaves before (next before) shape) :
    rule.Leaves before (MonadState.get >>= next) shape := by
  intro value after finished
  exact leaves value after finished

theorem leaves_modify
    {change : Store → Store}
    (stages : (change before).stages = before.stages)
    (agents : (change before).agents = before.agents) :
    rule.Leaves before (modify change) (change before).shape := by
  intro value after finished
  cases finished
  exact ⟨rfl, rule.concludes_of_change stages agents⟩

theorem leaves_of_governs
    {run : Run α}
    (holds : rule.holds before)
    (governed : rule.Governs run) :
    rule.Leaves before run before.shape := by
  intro value after finished
  have related := governed before value after holds finished
  exact ⟨rule.shape related, rule.concludes_of_relates related⟩

theorem leaves_forM
    {items : List α}
    {action : α → Run Unit}
    {step : Store → α → Store}
    (holds : rule.holds before)
    (each : ∀ item ∈ items, ∀ store, rule.holds store →
      rule.Leaves store (action item) (step store.shape item)) :
    rule.Leaves before (items.forM action) (items.foldl step before.shape) := by
  induction items generalizing before with
  | nil => exact leaves_pure _
  | cons head tail inductionHypothesis =>
      change rule.Leaves before (action head >>= fun _ => tail.forM action) _
      refine leaves_bind holds (each head List.mem_cons_self before holds) ?_
      intro _ between stillHolds sameShape
      rw [List.foldl_cons, ← sameShape]
      apply inductionHypothesis stillHolds
      intro item member
      exact each item (List.mem_cons_of_mem _ member)

/-! ### Changes of the shape -/

theorem shape_modifyNode_of_comm
    {change : Node → Node}
    (commutes : ∀ record, (change record).bare = change record.bare)
    (store : Store)
    (node : Ref .node) :
    (store.modifyNode node change).shape = store.shape.modifyNode node change := by
  unfold Store.shape Store.modifyNode
  dsimp only
  rw [Table.map_modify_of_comm commutes]

theorem get_shape_nodes (store : Store) (node : Ref .node) :
    store.shape.nodes.get node = (store.nodes.get node).bare :=
  Table.get_map Node.bare_default _ _

/-! ### Telling members and listeners -/

variable {inner : Entrances}

theorem governs_giveView (surrounds : rule.Surrounds inner) (view : View) (node : Ref .node) :
    rule.Governs (Delivery.giveView inner view node) := by
  refine Rule.bind ?_ fun _ => Rule.look fun store _ => Rule.ignore (surrounds.leads _ ?_)
  · apply TrafficRule.governs_modifyNode
    intro record
    rfl
  · exact Or.inr rfl

theorem leaves_installView
    (surrounds : rule.Surrounds inner)
    (holds : rule.holds before)
    (network name : String)
    (cluster : Cluster) :
    rule.Leaves before (Delivery.installView inner network name cluster)
      (before.shape.putCluster network name (Store.renewed cluster)) := by
  unfold Delivery.installView Store.renewed
  split
  · exact leaves_modify rfl rfl
  · refine leaves_bind holds (leaves_modify rfl rfl) fun _ between stillHolds sameShape => ?_
    have kept : between.shape = before.shape.putCluster network name
        (Delivery.nextView cluster).2 := sameShape
    rw [← kept]
    refine leaves_of_governs stillHolds (Rule.look fun store _ => Rule.forM fun node _ => ?_)
    exact governs_giveView surrounds _ node

theorem leaves_tellListener
    (surrounds : rule.Surrounds inner)
    (holds : rule.holds before)
    (node : Ref .node)
    (entered : Status)
    (listener : Listener) :
    rule.Leaves before (Delivery.tellListener inner node entered listener)
      (before.shape.adoptBy entered listener) := by
  cases listener with
  | agent agent =>
      refine leaves_of_governs holds (Rule.look fun store _ => Rule.ignore ?_)
      exact surrounds.tells agent _ (Or.inr rfl)
  | fork fork =>
      refine leaves_look (leaves_get ?_)
      change rule.Leaves before _ (if before.isForkAlive fork then _ else _)
      split
      · refine leaves_bind holds (leaves_modify rfl rfl) fun _ between stillHolds sameShape => ?_
        have kept : between.shape = before.shape.modifyFork fork fun record =>
            { record with status := entered } := sameShape
        rw [← kept]
        split
        · refine leaves_of_governs stillHolds (Rule.ignore ?_)
          exact TrafficRule.governs_handFork surrounds (Or.inr rfl) fork
        · exact leaves_pure _
      · exact leaves_pure _

theorem leaves_tellListeners
    (surrounds : rule.Surrounds inner)
    (holds : rule.holds before)
    (node : Ref .node)
    (entered : Status) :
    rule.Leaves before (Delivery.tellListeners inner node entered)
      (before.shape.adopt node entered) := by
  have sameListeners : (before.shape.nodes.get node).listeners =
      (before.nodes.get node).listeners := by
    rw [get_shape_nodes]
    rfl
  unfold Store.adopt
  rw [sameListeners]
  refine leaves_forM holds fun entry _ store stillHolds => ?_
  exact leaves_tellListener surrounds stillHolds node entered entry.2

/-! ### Joining and leaving -/

theorem leaves_join
    (surrounds : rule.Surrounds inner)
    (holds : rule.holds before)
    (node : Ref .node)
    (name : String) :
    rule.Leaves before (Delivery.join inner node name) (before.shape.enter node name) := by
  refine leaves_look (leaves_look ?_)
  refine leaves_bind holds (leaves_modify rfl rfl) fun _ between stillHolds sameShape => ?_
  have entered : between.shape = before.shape.modifyNode node fun record =>
      { record with status := .connected, cluster? := some name } := by
    rw [sameShape]
    apply shape_modifyNode_of_comm
    intro _
    rfl
  unfold Store.enter
  rw [get_shape_nodes, ← entered]
  exact leaves_installView surrounds stillHolds _ _ _

theorem leaves_connect
    (surrounds : rule.Surrounds inner)
    (holds : rule.holds before)
    (node : Ref .node)
    (name : String) :
    rule.Leaves before (Delivery.connect inner node name)
      (before.shape.connected node name) := by
  have sameStatus : (before.shape.nodes.get node).status = (before.nodes.get node).status := by
    rw [get_shape_nodes]
    rfl
  unfold Store.connected
  rw [sameStatus]
  refine leaves_look ?_
  cases status : (before.nodes.get node).status with
  | closed =>
      dsimp only
      exact leaves_pure _
  | connected =>
      dsimp only
      split
      · exact leaves_pure _
      · exact leaves_pure _
  | connecting =>
      dsimp only
      split
      · exact leaves_pure _
      · exact leaves_pure _
  | opened =>
      dsimp only
      refine leaves_bind holds (leaves_join surrounds holds node name)
        fun _ joined stillHolds sameShape => ?_
      rw [← sameShape]
      refine leaves_bind stillHolds (leaves_tellListeners surrounds stillHolds node .connected)
        fun _ told _ sameTold => ?_
      rw [← sameTold]
      exact leaves_pure _

theorem leaves_leave
    (surrounds : rule.Surrounds inner)
    (holds : rule.holds before)
    (record : Node)
    (name : String) :
    rule.Leaves before (Delivery.leave inner record name)
      (before.shape.withdraw record name) := by
  refine leaves_look ?_
  unfold Store.withdraw
  change rule.Leaves before _ (if (before.cluster record.network name).members.isEmpty then _
    else _)
  split
  · exact leaves_pure _
  · exact leaves_installView surrounds holds _ _ _

theorem leaves_disconnect
    (surrounds : rule.Surrounds inner)
    (holds : rule.holds before)
    (node : Ref .node) :
    rule.Leaves before (Delivery.disconnect inner node) (before.shape.disconnected node) := by
  have sameStatus : (before.shape.nodes.get node).status = (before.nodes.get node).status := by
    rw [get_shape_nodes]
    rfl
  unfold Store.disconnected
  rw [sameStatus]
  refine leaves_look ?_
  split
  · refine leaves_bind holds (leaves_modify rfl rfl) fun _ opened stillHolds sameShape => ?_
    have openedShape : opened.shape = before.shape.modifyNode node fun record =>
        { record with status := .opened, cluster? := none, view? := none } := by
      rw [sameShape]
      apply shape_modifyNode_of_comm
      intro _
      rfl
    unfold Store.exit
    rw [get_shape_nodes, ← openedShape]
    change rule.Leaves opened _ (Store.adopt (match (before.nodes.get node).cluster? with
      | some name => opened.shape.withdraw (before.nodes.get node) name
      | none => opened.shape) node .opened)
    cases (before.nodes.get node).cluster? with
    | none => exact leaves_tellListeners surrounds stillHolds node .opened
    | some name =>
        refine leaves_bind stillHolds (leaves_leave surrounds stillHolds _ name)
          fun _ left leftHolds sameLeft => ?_
        dsimp only
        rw [← sameLeft]
        exact leaves_tellListeners surrounds leftHolds node .opened
  · exact leaves_pure _

theorem leaves_close
    (surrounds : rule.Surrounds inner)
    (holds : rule.holds before)
    (node : Ref .node) :
    rule.Leaves before (Delivery.close inner node) (before.shape.closed node) := by
  unfold Store.closed
  refine leaves_bind holds (leaves_disconnect surrounds holds node)
    fun _ left leftHolds sameLeft => leaves_look ?_
  have sameStatus : (left.shape.nodes.get node).status = (left.nodes.get node).status := by
    rw [get_shape_nodes]
    rfl
  rw [← sameLeft]
  dsimp only
  rw [sameStatus]
  split
  · refine leaves_bind leftHolds (leaves_modify rfl rfl) fun _ shut shutHolds sameShut => ?_
    have shutShape : shut.shape = left.shape.shut node := by
      rw [sameShut]
      apply shape_modifyNode_of_comm
      intro _
      rfl
    rw [← shutShape]
    exact leaves_tellListeners surrounds shutHolds node .closed
  · exact leaves_pure _

theorem leaves_call
    (surrounds : rule.Surrounds inner)
    (holds : rule.holds before)
    {operation : Operation}
    (sendsNothing : operation.sends = false) :
    rule.Leaves before (Delivery.call inner operation) (before.shape.called operation) := by
  cases operation with
  | sendFork fork message => cases sendsNothing
  | sendNode node message => cases sendsNothing
  | connect node name =>
      refine leaves_bind holds (leaves_connect surrounds holds node name)
        fun outcome joined _ sameShape => ?_
      change rule.Leaves joined _ (before.shape.connected node name)
      rw [← sameShape]
      exact leaves_pure _
  | disconnect node =>
      refine leaves_bind holds (leaves_disconnect surrounds holds node)
        fun _ left _ sameShape => ?_
      change rule.Leaves left _ (before.shape.disconnected node)
      rw [← sameShape]
      exact leaves_pure _
  | close node =>
      refine leaves_bind holds (leaves_close surrounds holds node)
        fun _ shut _ sameShape => ?_
      change rule.Leaves shut _ (before.shape.closed node)
      rw [← sameShape]
      exact leaves_pure _

end LifecycleRule

end ChannelMux
