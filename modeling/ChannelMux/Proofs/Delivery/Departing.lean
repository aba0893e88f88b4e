import ChannelMux.Proofs.Delivery.Descending
import ChannelMux.Proofs.Delivery.Dispatching
import ChannelMux.Proofs.Delivery.Lifecycle
import ChannelMux.Proofs.Network.Action

/-!
Contract: judging the way down from forks and nodes in a wired store.

Owns that in a wired store all that a fork or node sends goes down pipelines that lead to a node,
so that it can be judged if what stages do on the way down can be, and what becomes of copies.
-/

namespace ChannelMux

/-- A place on a pipeline lasts as long as the pipeline does, if it is a stage of it. -/
theorem Store.isAnchorAlive_of_mem
    {store : Store}
    {pipeline : Ref .pipeline}
    {stage : Ref .stage}
    (layer : stage ∈ store.stagesOf pipeline) :
    store.isAnchorAlive pipeline stage = store.isPipelineAlive pipeline := by
  unfold isAnchorAlive
  rw [List.contains_iff_mem.mpr layer, Bool.true_or, Bool.and_true]

namespace Discipline

/-- What stages do on the way down can be judged, and what becomes of copies, in stores with a
skeleton that is known. -/
structure Departs (discipline : Discipline) (base : Store)
    (alike : Ref .stage → List StageEntry → List StageEntry → Prop) (inner other : Entrances) :
    Prop extends Delivers discipline inner other where
  known : ∀ {store}, discipline.holds store → store.skeleton = base.skeleton
  lowers : discipline.Lowers True (fun _ => True) alike

namespace Departs

variable {discipline : Discipline} {base : Store}
  {alike : Ref .stage → List StageEntry → List StageEntry → Prop} {inner other : Entrances}
  (departs : discipline.Departs base alike inner other)

include departs

/-! ### Down the pipeline of a node -/

section Node

variable {node : Ref .node} (wired : base.NodeWired node)

include wired

theorem descend_node (layers : List (Ref .stage)) (event : Event) :
    discipline.judges (Delivery.descend inner (base.nodes.get node).pipeline layers event)
      (Delivery.descend other (base.nodes.get node).pipeline layers event) := by
  refine departs.lowers.descend (fun passed _ => ?_) (fun _ _ => trivial) (Or.inl trivial)
  refine discipline.look
    (fun holds agrees => by rw [(departs.tables holds agrees).pipelines]) fun holds => ?_
  rw [Store.pipelines_eq (departs.known holds), wired.outlet]
  exact departs.leaveNode node passed

theorem travel_down (event : Event) :
    discipline.judges
      (Delivery.travel inner (.down (base.nodes.get node).pipeline event))
      (Delivery.travel other (.down (base.nodes.get node).pipeline event)) :=
  discipline.look (fun holds agrees => by rw [(departs.tables holds agrees).stagesOf_eq])
    fun _ => departs.descend_node wired _ event

theorem travel_downFrom
    {stage : Ref .stage}
    (layer : stage ∈ base.stagesOf (base.nodes.get node).pipeline)
    (event : Event) :
    discipline.judges
      (Delivery.travel inner (.downFrom (base.nodes.get node).pipeline stage event))
      (Delivery.travel other (.downFrom (base.nodes.get node).pipeline stage event)) := by
  obtain ⟨kept, upTo, _⟩ := Delivery.upTo?_of_mem layer
  refine discipline.get (fun {left right} holds agrees => ?_) fun holds => ?_
  · rw [(departs.tables holds agrees).stagesOf_eq, Store.stagesOf_eq (departs.known holds), upTo]
  · rw [Store.stagesOf_eq (departs.known holds), upTo]
    exact departs.descend_node wired kept.reverse event

end Node

/-! ### Down the stack of a group -/

/-- What leaves the stack of a group goes on down the shared pipeline. -/
theorem travel_down_stack
    {shared : Ref .pipeline}
    {hub : Ref .stage}
    {group : String}
    {stack : Ref .stack}
    (wired : base.StackWired shared hub group stack)
    (layer : hub ∈ base.stagesOf shared)
    (leads : ∀ passed, discipline.judges (inner.travel (.downFrom shared hub passed))
      (other.travel (.downFrom shared hub passed)))
    (event : Event) :
    discipline.judges
      (Delivery.travel inner (.down (base.groups.get stack).pipeline event))
      (Delivery.travel other (.down (base.groups.get stack).pipeline event)) := by
  refine discipline.look
    (fun holds agrees => by rw [(departs.tables holds agrees).stagesOf_eq]) fun _ => ?_
  refine departs.lowers.descend (fun passed _ => ?_) (fun _ _ => trivial) (Or.inl trivial)
  refine discipline.look
    (fun holds agrees => by rw [(departs.tables holds agrees).pipelines]) fun holds => ?_
  rw [Store.pipelines_eq (departs.known holds), wired.outlet]
  have anchored {store : Store} (same : store.stagesOf = base.stagesOf) :
      store.isAnchorAlive shared hub = store.isPipelineAlive shared := by
    rw [← same] at layer
    exact Store.isAnchorAlive_of_mem layer
  refine discipline.get (fun holds agrees => ?_) fun _ => ?_
  · have same := funext (Store.stagesOf_eq (departs.known holds))
    have tables := departs.tables holds agrees
    rw [anchored same, anchored (tables.stagesOf_eq.trans same), tables.isPipelineAlive_eq]
  · split
    · exact leads passed
    · exact discipline.pure _

/-! ### From nodes and forks -/

theorem sendNode
    {node : Ref .node}
    {message : Message}
    (leads : discipline.judges
      (inner.travel (.down (base.nodes.get node).pipeline (.message message)))
      (other.travel (.down (base.nodes.get node).pipeline (.message message)))) :
    discipline.judges (Delivery.sendNode inner node message)
      (Delivery.sendNode other node message) := by
  refine discipline.look (fun holds agrees => by rw [(departs.tables holds agrees).nodes])
    fun holds => ?_
  rw [Store.nodePipeline_eq (departs.known holds)]
  exact discipline.bind leads fun _ => discipline.pure _

theorem sendFork
    {fork : Ref .fork}
    {message : Message}
    (leads : ∀ addressed, discipline.judges
      (inner.travel (.down (base.groups.get (base.forks.get fork).stack).pipeline
        (.message addressed)))
      (other.travel (.down (base.groups.get (base.forks.get fork).stack).pipeline
        (.message addressed)))) :
    discipline.judges (Delivery.sendFork inner fork message)
      (Delivery.sendFork other fork message) := by
  refine discipline.look (fun holds agrees => by rw [(departs.tables holds agrees).forks])
    fun {store} holds => ?_
  have sameStack := congrArg Fork.stack (Store.still_fork_eq (departs.known holds) fork)
  change (store.forks.get fork).stack = (base.forks.get fork).stack at sameStack
  split
  · refine discipline.look (fun holds agrees => by rw [(departs.tables holds agrees).groups])
      fun holdsThen => ?_
    rw [sameStack, Store.groups_eq (departs.known holdsThen)]
    exact discipline.bind (leads _) fun _ => discipline.pure _
  · exact discipline.pure _

/-- Whoever lasts sends down the pipeline of a node or the stack of a group. -/
theorem call
    (wired : base.Wired)
    {operation : Operation}
    (can : base.canCall operation = true)
    (sends : operation.sends = true)
    (descends : ∀ node, base.nodes.Issued node → ∀ event,
      discipline.judges (inner.travel (.down (base.nodes.get node).pipeline event))
        (other.travel (.down (base.nodes.get node).pipeline event)))
    (leaves : ∀ node hub group stack, base.nodes.Issued node → base.hub? node = some hub →
      base.StackWired (base.nodes.get node).pipeline hub group stack → ∀ event,
        discipline.judges (inner.travel (.down (base.groups.get stack).pipeline event))
          (other.travel (.down (base.groups.get stack).pipeline event))) :
    discipline.judges (Delivery.call inner operation) (Delivery.call other operation) := by
  cases operation with
  | sendFork fork message =>
      obtain ⟨hub, found, registered⟩ :=
        (wired.forks fork (Table.issued_of_isNamed can)).stack
      have issued := wired.issued_of_isNodeAlive (Store.isNodeAlive_of_isForkAlive can)
      have stackWired := (wired.nodes _ issued).stackWired hub _ _ found registered
      exact departs.sendFork fun addressed => leaves _ hub _ _ issued found stackWired _
  | sendNode node message =>
      exact departs.sendNode (descends node (wired.issued_of_isNodeAlive can) _)
  | connect node name => cases sends
  | disconnect node => cases sends
  | close node => cases sends

end Departs

end Discipline

end ChannelMux
