import ChannelMux.Proofs.Delivery.Bystanding
import ChannelMux.Proofs.Delivery.Departing
import ChannelMux.Proofs.Delivery.Simulation
import ChannelMux.Proofs.Network.Action

/-!
Contract: what becomes of a node in two runs that differ in what the others make of things.

Owns the stores that vary around a node, which are alike but for the way up through the stages of
other nodes and for the agents there, and what it is to track one run by another one in such
stores. Owns that everything the node itself does, and everything that is sent and that joining and
leaving consist of, can be tracked. The agents of the node may do anything.

The other run may go deeper by two levels, since other stages there may let something pass into a
stack that they did not let pass before.
-/

namespace ChannelMux

namespace Store

/-- The second store is like the first one, but that other stages outside of what belongs to a
node may do other things on the way up, and other agents outside may take other things in. The
node shares no stages and agents with other nodes. -/
structure VariesAround (left : Store) (member : Ref .node) (heeds : Ref .stage → StageEntry → Bool)
    (right : Store) : Prop where
  akin : Akin (left.holdings member) heeds left right
  leftStands : left.StandsBy (left.holdings member) heeds
  rightStands : right.StandsBy (left.holdings member) heeds
  stagesApart : ∀ node, left.nodes.Issued node → node ≠ member →
    ∀ stage ∈ (left.holdings node).stages, stage ∉ (left.holdings member).stages
  agentsApart : ∀ node, left.nodes.Issued node → node ≠ member →
    ∀ agent ∈ (left.holdings node).agents, agent ∉ (left.holdings member).agents

theorem VariesAround.symm
    {left right : Store}
    {member : Ref .node}
    {heeds : Ref .stage → StageEntry → Bool}
    (varies : left.VariesAround member heeds right) :
    right.VariesAround member heeds left := by
  have same := varies.akin.holdings_eq
  refine ⟨?_, ?_, ?_, ?_, ?_⟩
  · rw [same]
    exact varies.akin.symm
  · rw [same]
    exact varies.rightStands
  · rw [same]
    exact varies.leftStands
  · rw [same, varies.akin.nodes]
    exact varies.stagesApart
  · rw [same, varies.akin.nodes]
    exact varies.agentsApart

theorem SameTables.canCall_eq {left right : Store} (same : SameTables left right) :
    right.canCall = left.canCall := by
  funext operation
  cases operation <;> simp only [canCall, same.isForkAlive_eq, same.isNodeAlive_eq]

/-- What commands come to is called on what lasts. -/
theorem canCall_of_operation?
    {store : Store}
    {command : Command}
    {operation : Operation}
    (asked : Delivery.operation? store command = some operation) :
    store.canCall operation = true := by
  cases command <;>
    (obtain ⟨thing, called, rfl⟩ := Option.map_eq_some_iff.mp asked
     exact (Option.filter_eq_some_iff.mp called).2)

end Store

/-- Runs are judged by whether another one does the same in a store that is akin about what
belongs to a node. The stores have the skeletons of two that are given. -/
def tracking (left right : Store) (member : Ref .node) (heeds : Ref .stage → StageEntry → Bool) :
    Discipline :=
  simulation (fun store => store.skeleton = left.skeleton) fun first second =>
    second.skeleton = right.skeleton ∧ Store.Akin (left.holdings member) heeds first second

namespace Tracking

variable {left right : Store} {member : Ref .node} {heeds : Ref .stage → StageEntry → Bool}

/-! ### What is done in both runs -/

theorem modify
    {change : Store → Store}
    (unseen : ∀ store, (change store).skeleton = store.skeleton)
    (same : ∀ {first second}, Store.Akin (left.holdings member) heeds first second →
      Store.Akin (left.holdings member) heeds (change first) (change second)) :
    (tracking left right member heeds).judges
      (MonadState.modifyGet fun store : Store => ((), change store))
      (MonadState.modifyGet fun store : Store => ((), change store)) :=
  Simulates.modify (fun store known => (unseen store).trans known)
    fun _ _ _ agrees => ⟨(unseen _).trans agrees.1, same agrees.2⟩

theorem changesNode
    {change : Node → Node}
    (unseen : ∀ record, (change record).still = record.still)
    (node : Ref .node) :
    (tracking left right member heeds).judges
      (MonadState.modifyGet fun store : Store => ((), store.modifyNode node change))
      (MonadState.modifyGet fun store : Store => ((), store.modifyNode node change)) :=
  modify (fun store => Store.skeleton_modifyNode unseen store node)
    fun akin => akin.modifyNode node change

theorem changesFork
    {change : Fork → Fork}
    (unseen : ∀ record, (change record).still = record.still)
    (fork : Ref .fork) :
    (tracking left right member heeds).judges
      (MonadState.modifyGet fun store : Store => ((), store.modifyFork fork change))
      (MonadState.modifyGet fun store : Store => ((), store.modifyFork fork change)) :=
  modify (fun store => Store.skeleton_modifyFork unseen store fork)
    fun akin => akin.modifyFork fork change

theorem puts (network name : String) (cluster : Cluster) :
    (tracking left right member heeds).judges
      (MonadState.modifyGet fun store : Store => ((), store.putCluster network name cluster))
      (MonadState.modifyGet fun store : Store => ((), store.putCluster network name cluster)) :=
  modify (fun _ => rfl) fun akin => akin.putCluster network name cluster

theorem recordStage (stage : Ref .stage) (entry : StageEntry) :
    (tracking left right member heeds).judges (Run.recordStage stage entry)
      (Run.recordStage stage entry) :=
  modify (fun store => Store.skeleton_eq_of_shape_eq (Store.shape_recordStage store stage entry))
    fun akin => akin.recordStage stage entry

theorem count (stage : Ref .stage) (change : DemultiplexerCounters → DemultiplexerCounters) :
    (tracking left right member heeds).judges (Run.count stage change)
      (Run.count stage change) := by
  refine modify (fun store => Store.skeleton_eq_of_shape_eq (Store.shape_count store stage change))
    fun akin => akin.modifyStage fun first second same => ?_
  have unseen := Stage.outline_counted (heeds stage) change
  exact (unseen second).trans (same.trans (unseen first).symm)

theorem recordAgent (agent : Ref .agent) (entry : AgentEntry) :
    (tracking left right member heeds).judges (Run.recordAgent agent entry)
      (Run.recordAgent agent entry) := by
  refine modify (fun store => ?_) fun akin => akin.modifyAgent agent _
  exact Skeleton.governs_recordAgent agent entry store () _ trivial rfl

/-! ### What is done to others -/

/-- What leaves the node alone in either run, and comes to an end in the other one, may come to
something else there. -/
theorem of_frames
    {α β : Type}
    {run : Run α}
    {other : Run β}
    (governs : (bystanding left (left.holdings member) heeds).Governs run)
    (completes : (bystanding right (left.holdings member) heeds).Completes other) :
    (tracking left right member heeds).judges run.ignore other.ignore := by
  intro first second value firstAfter known agrees finished
  obtain ⟨passed, between, ran, rest⟩ := Rule.bind_eq_some finished
  cases rest
  obtain ⟨kept, spared⟩ := governs first passed firstAfter known ran
  obtain ⟨given, secondAfter, ranRight, keptRight, sparedRight⟩ :=
    completes second agrees.1
  refine ⟨kept.trans known, secondAfter, ?_, keptRight.trans agrees.1,
    (spared.symm.trans agrees.2).trans sparedRight⟩
  unfold Run.ignore
  rw [Run.bind_apply, ranRight]
  rfl

section Varying

variable (varies : left.VariesAround member heeds right)

include varies

/-- Whatever any agent is told, without asking what it says to that. -/
theorem tells
    {depth beside : Nat}
    (tellsOwn : ∀ agent ∈ (left.holdings member).agents, ∀ notice,
      (tracking left right member heeds).judges
        (Delivery.tell (Entrances.within depth) agent notice)
        (Delivery.tell (Entrances.within beside) agent notice))
    (agent : Ref .agent)
    (notice : Notice) :
    (tracking left right member heeds).judges
      (Delivery.tell (Entrances.within depth) agent notice).ignore
      (Delivery.tell (Entrances.within beside) agent notice).ignore := by
  by_cases inside : agent ∈ (left.holdings member).agents
  · exact (tracking left right member heeds).ignore (tellsOwn agent inside notice)
  · exact of_frames (varies.leftStands.completes_tell inside _ notice).governs
      (varies.rightStands.completes_tell inside _ notice)

/-- What stages do on the way down can be tracked. -/
theorem lowers :
    (tracking left right member heeds).Lowers True (fun _ => True) fun stage first second =>
      (stage ∈ (left.holdings member).stages → second = first) ∧
        second.filter (heeds stage) = first.filter (heeds stage) where
  ways _ _ agrees := agrees.2.downward_eq _
  entries _ _ agrees :=
    ⟨fun inside => by rw [agrees.2.stages _ inside], agrees.2.heeded_eq _⟩
  conducts := by
    intro store stage conduct event _ known custom _
    by_cases inside : stage ∈ (left.holdings member).stages
    · have records (entry : StageEntry) :
          (tracking left right member heeds).judges (Run.recordStage stage entry)
            (Run.recordStage stage entry) :=
        recordStage stage entry
      exact ((Script.asks_of_all (fun _ => trivial) _).admits records).mono
        (fun _ judged => judged) (fun _ _ alike => (alike.1 inside).symm)
        fun _ _ => Or.inl trivial
    · rw [Store.role_custom_iff known] at custom
      exact ((varies.leftStands.divided stage conduct inside custom).down event).mono
        (fun entry _ => recordStage stage entry) (fun _ _ alike => alike.2)
        fun _ _ => Or.inl trivial

section Wired

variable (wired : left.Wired) (sole : left.SoleHubs)

include wired sole

/-- Whatever comes up the pipeline of another node. -/
theorem climbs_other
    {node : Ref .node}
    (issued : left.nodes.Issued node)
    (different : node ≠ member)
    (depth : Nat)
    (traffic : Traffic) :
    (tracking left right member heeds).judges
      ((Entrances.within depth).travel (.up (left.nodes.get node).pipeline traffic)).ignore
      ((Entrances.within (depth + 2)).travel
        (.up (left.nodes.get node).pipeline traffic)).ignore := by
  have closed := Store.closed_holdings wired sole issued
  have stages := varies.stagesApart node issued different
  have agents := varies.agentsApart node issued different
  exact of_frames
    (varies.leftStands.governs_travel closed stages agents Store.pipeline_mem_holdings depth
      traffic)
    (varies.rightStands.completes_travel (varies.akin.closed closed) stages agents
      Store.pipeline_mem_holdings (varies.akin.flat (Store.flat_holdings wired sole issued)) depth
      traffic)

end Wired

end Varying

/-! ### To a depth -/

/-- Everything that there is to be tracked, if it goes no deeper than this. -/
structure UpTo (left right : Store) (member : Ref .node) (heeds : Ref .stage → StageEntry → Bool)
    (depth : Nat) : Prop where
  /-- What enters the stacks of the node. -/
  enters : ∀ stack ∈ (left.holdings member).groups, ∀ traffic,
    (tracking left right member heeds).judges
      (Delivery.enterStack (Entrances.within depth) stack traffic)
      (Delivery.enterStack (Entrances.within (depth + 2)) stack traffic)
  /-- What comes up its pipeline. -/
  climbs : ∀ traffic, (tracking left right member heeds).judges
    ((Entrances.within depth).travel (.up (left.nodes.get member).pipeline traffic))
    ((Entrances.within (depth + 2)).travel (.up (left.nodes.get member).pipeline traffic))
  /-- What goes down the pipeline of any node. -/
  descends : ∀ node, left.nodes.Issued node → ∀ event,
    (tracking left right member heeds).judges
      ((Entrances.within depth).travel (.down (left.nodes.get node).pipeline event))
      ((Entrances.within (depth + 2)).travel (.down (left.nodes.get node).pipeline event))
  continues : ∀ node, left.nodes.Issued node →
    ∀ stage ∈ left.stagesOf (left.nodes.get node).pipeline, ∀ event,
      (tracking left right member heeds).judges
        ((Entrances.within depth).travel
          (.downFrom (left.nodes.get node).pipeline stage event))
        ((Entrances.within (depth + 2)).travel
          (.downFrom (left.nodes.get node).pipeline stage event))
  /-- What goes down the stack of any group. -/
  leaves : ∀ node hub group stack, left.nodes.Issued node → left.hub? node = some hub →
    left.StackWired (left.nodes.get node).pipeline hub group stack → ∀ event,
      (tracking left right member heeds).judges
        ((Entrances.within depth).travel (.down (left.groups.get stack).pipeline event))
        ((Entrances.within (depth + 2)).travel (.down (left.groups.get stack).pipeline event))
  /-- What can be called. -/
  calls : ∀ operation, left.canCall operation = true →
    (tracking left right member heeds).judges ((Entrances.within depth).call operation)
      ((Entrances.within (depth + 2)).call operation)

namespace UpTo

theorem zero : UpTo left right member heeds 0 where
  enters stack _ traffic :=
    (tracking left right member heeds).look
      (fun _ agrees => by rw [agrees.2.groups]) fun _ => Simulates.none _
  climbs _ := Simulates.none _
  descends _ _ _ := Simulates.none _
  continues _ _ _ _ _ := Simulates.none _
  leaves _ _ _ _ _ _ _ _ := Simulates.none _
  calls _ _ := Simulates.none _

variable {depth : Nat} (tracks : UpTo left right member heeds depth)

include tracks

/-- The agents of the node may give any commands. -/
theorem tellsOwn
    (agent : Ref .agent)
    (inside : agent ∈ (left.holdings member).agents)
    (notice : Notice) :
    (tracking left right member heeds).judges
      (Delivery.tell (Entrances.within depth) agent notice)
      (Delivery.tell (Entrances.within (depth + 2)) agent notice) := by
  refine (tracking left right member heeds).tell (fun _ agrees => agrees.2.toSameTables)
    (fun command operation known asked => tracks.calls operation ?_)
    (fun _ agrees => (agrees.2.agents agent inside).content) (recordAgent agent) notice
  rw [← Store.canCall_eq known]
  exact Store.canCall_of_operation? asked

/-- A copy that arrives at the node itself. -/
theorem receivesOwn (message : Message) :
    (tracking left right member heeds).judges
      (Delivery.receive (Entrances.within depth) member (.single (.message message)))
      (Delivery.receive (Entrances.within (depth + 2)) member (.single (.message message))) := by
  have unseen (record : Node) :
      (Node.receive message.payload.length record).still = record.still := rfl
  refine (tracking left right member heeds).bind (changesNode unseen member) fun _ => ?_
  refine (tracking left right member heeds).look (fun _ agrees => by rw [agrees.2.nodes])
    fun known => ?_
  rw [Store.nodePipeline_eq known]
  exact tracks.climbs _

/-- What comes up among what belongs to the node can be tracked. -/
theorem oversees
    (wired : left.Wired)
    (sole : left.SoleHubs)
    (issued : left.nodes.Issued member) :
    (tracking left right member heeds).Oversees (left.holdings member)
      (Entrances.within depth) (Entrances.within (depth + 2)) where
  closed known := (Store.closed_holdings wired sole issued).of_skeleton_eq known
  same _ agrees := agrees.2.sameIn
  conducts _ _ _ _ :=
    (Script.asks_of_all (fun _ => trivial) _).admits fun entry => recordStage _ entry
  counts change _ _ _ := count _ change
  tells agent inside traffic := tracks.tellsOwn agent inside (.up traffic)

section Varying

variable (varies : left.VariesAround member heeds right) (wired : left.Wired)
  (sole : left.SoleHubs)

include varies wired sole

/-- What comes up the pipeline of any node, without asking what becomes of it. -/
theorem climbsAny
    {start store : Store}
    (node : Ref .node)
    (traffic : Traffic)
    (knownStart : start.skeleton = left.skeleton)
    (alive : start.isNodeAlive node = true)
    (known : store.skeleton = left.skeleton) :
    (tracking left right member heeds).judges
      ((Entrances.within depth).travel (.up (store.nodes.get node).pipeline traffic)).ignore
      ((Entrances.within (depth + 2)).travel
        (.up (store.nodes.get node).pipeline traffic)).ignore := by
  rw [Store.isNodeAlive_eq knownStart] at alive
  rw [Store.nodePipeline_eq known]
  by_cases same : node = member
  · subst same
    exact (tracking left right node heeds).ignore (tracks.climbs traffic)
  · exact climbs_other varies wired sole (wired.issued_of_isNodeAlive alive) same depth traffic

/-- A copy that arrives at any node, without asking what becomes of it. -/
theorem receives
    {store : Store}
    (node : Ref .node)
    (message : Message)
    (known : store.skeleton = left.skeleton)
    (alive : store.isNodeAlive node = true) :
    (tracking left right member heeds).judges
      (Delivery.receive (Entrances.within depth) node (.single (.message message))).ignore
      (Delivery.receive (Entrances.within (depth + 2)) node
        (.single (.message message))).ignore := by
  rw [Delivery.ignore_receive, Delivery.ignore_receive]
  have unseen (record : Node) :
      (Node.receive message.payload.length record).still = record.still := rfl
  refine (tracking left right member heeds).bind (changesNode unseen node) fun _ => ?_
  refine (tracking left right member heeds).look (fun _ agrees => by rw [agrees.2.nodes])
    fun knownThen => ?_
  exact tracks.climbsAny varies wired sole node _ known alive knownThen

theorem departs :
    (tracking left right member heeds).Departs left
      (fun stage first second => (stage ∈ (left.holdings member).stages → second = first) ∧
        second.filter (heeds stage) = first.filter (heeds stage))
      (Entrances.within depth) (Entrances.within (depth + 2)) where
  tables _ agrees := agrees.2.toSameTables
  counts node change unseen := by
    refine changesNode (fun record => ?_) node
    have same := congrArg Node.still (unseen record)
    exact same
  receives node message known alive := tracks.receives varies wired sole node message known alive
  known known := known
  lowers := lowers varies

theorem moves :
    (tracking left right member heeds).Moves (Entrances.within depth)
      (Entrances.within (depth + 2)) where
  tables _ agrees := agrees.2.toSameTables
  changesNode node _ unseen := changesNode unseen node
  changesFork fork _ unseen := changesFork unseen fork
  puts := puts
  tells := tells varies tracks.tellsOwn
  climbs node traffic known alive knownThen :=
    tracks.climbsAny varies wired sole node traffic known alive knownThen

theorem call (operation : Operation) (can : left.canCall operation = true) :
    (tracking left right member heeds).judges
      (Delivery.call (Entrances.within depth) operation)
      (Delivery.call (Entrances.within (depth + 2)) operation) := by
  have departs := tracks.departs varies wired sole
  have moves := tracks.moves varies wired sole
  cases operation with
  | sendFork fork message => exact departs.call wired can rfl tracks.descends tracks.leaves
  | sendNode node message => exact departs.call wired can rfl tracks.descends tracks.leaves
  | connect node name =>
      exact (tracking left right member heeds).bind (moves.connect node name) fun _ =>
        (tracking left right member heeds).pure _
  | disconnect node =>
      exact (tracking left right member heeds).bind (moves.disconnect node) fun _ =>
        (tracking left right member heeds).pure _
  | close node =>
      exact (tracking left right member heeds).bind (moves.close node) fun _ =>
        (tracking left right member heeds).pure _

/-- What can be tracked to a depth can be tracked one level deeper. -/
theorem succ (issued : left.nodes.Issued member) : UpTo left right member heeds (depth + 1) := by
  have oversees := tracks.oversees wired sole issued
  have departs := tracks.departs varies wired sole
  have travels (pipeline : Ref .pipeline) (inside : pipeline ∈ (left.holdings member).pipelines)
      (traffic : Traffic) := oversees.travel_of_groups tracks.enters inside traffic
  constructor
  · intro stack inside traffic
    exact oversees.enterStack inside fun pipeline isPipeline _ =>
      travels pipeline isPipeline traffic
  · exact travels _ Store.pipeline_mem_holdings
  · intro node isNode event
    exact departs.travel_down (wired.nodes node isNode) event
  · intro node isNode stage layer event
    exact departs.travel_downFrom (wired.nodes node isNode) layer event
  · intro node hub group stack isNode found stackWired event
    have layer := (Store.mem_of_hub? found).1
    exact departs.travel_down_stack stackWired layer
      (fun passed => tracks.continues node isNode hub layer passed) event
  · exact tracks.call varies wired sole

end Varying

end UpTo

/-- Everything can be tracked, however deep it goes. -/
theorem upTo
    (varies : left.VariesAround member heeds right)
    (wired : left.Wired)
    (sole : left.SoleHubs)
    (issued : left.nodes.Issued member)
    (depth : Nat) :
    UpTo left right member heeds depth := by
  induction depth with
  | zero => exact .zero
  | succ depth inductionHypothesis => exact inductionHypothesis.succ varies wired sole issued

end Tracking

end ChannelMux
