import ChannelMux.Proofs.Delivery.Running
import ChannelMux.Proofs.Delivery.Traffic

/-!
Contract: nothing that runs changes the skeleton of a store.

Owns `skeleton_eq_of_travel`, `skeleton_eq_of_receive` and `skeleton_eq_of_call`: whatever
the stages and agents do, and however deep they call operations from within others, the
pipelines, groups, bindings and subscriptions are the same afterwards.
-/

namespace ChannelMux

/-- The skeleton stays the same, whatever travels. -/
def skeletonRule : TrafficRule where
  holds _ := True
  relates before after := after.skeleton = before.skeleton
  refl _ := rfl
  trans first second := second.trans first
  keeps _ _ := trivial
  forMessages := True
  conducts _ _ := Or.inl trivial
  bookkeeping _ same _ := Store.skeleton_eq_of_shape_eq same

namespace Skeleton

/-! ### Single changes -/

theorem governs_modifyNode
    {change : Node → Node}
    (unseen : ∀ record, (change record).still = record.still)
    (node : Ref .node) :
    skeletonRule.Governs (modify fun store : Store => store.modifyNode node change) :=
  Rule.modify fun store _ => Store.skeleton_modifyNode unseen store node

theorem governs_modifyFork
    {change : Fork → Fork}
    (unseen : ∀ record, (change record).still = record.still)
    (fork : Ref .fork) :
    skeletonRule.Governs (modify fun store : Store => store.modifyFork fork change) :=
  Rule.modify fun store _ => Store.skeleton_modifyFork unseen store fork

theorem governs_putCluster (network name : String) (cluster : Cluster) :
    skeletonRule.Governs
      (modify fun store : Store => store.putCluster network name cluster) :=
  Rule.modify fun _ _ => rfl

theorem governs_recordAgent (agent : Ref .agent) (entry : AgentEntry) :
    skeletonRule.Governs (Run.recordAgent agent entry) := by
  refine Rule.modify fun store _ => ?_
  have unseen : ∀ record : Agent,
      Agent.bare { record with entries := entry :: record.entries } = record.bare :=
    fun _ => rfl
  change (store.modifyAgent agent _).skeleton = store.skeleton
  unfold Store.skeleton Store.modifyAgent
  rw [Table.map_modify unseen]

/-! ### Everything that runs -/

theorem allows : skeletonRule.discipline.Allows where
  same agrees := agrees
  records := TrafficRule.governs_recordStage
  counts := TrafficRule.governs_count
  hears := governs_recordAgent
  changesNode node _ unseen := governs_modifyNode unseen node
  changesFork fork _ unseen := governs_modifyFork unseen fork
  puts := governs_putCluster

theorem covers_within (depth : Nat) :
    skeletonRule.discipline.Covers (Entrances.within depth) (Entrances.within depth) :=
  allows.covers_within Rule.none 0 depth

theorem governs_tell (depth : Nat) (agent : Ref .agent) (notice : Notice) :
    skeletonRule.Governs (Delivery.tell (Entrances.within depth) agent notice) :=
  allows.tell (covers_within depth) agent notice

theorem surrounds_within (depth : Nat) : skeletonRule.Surrounds (Entrances.within depth) where
  tells agent notice _ := governs_tell depth agent notice
  leads journey _ := (covers_within depth).travel journey

theorem governs_disconnect (depth : Nat) (node : Ref .node) :
    skeletonRule.Governs (Delivery.disconnect (Entrances.within depth) node) :=
  (allows.moves (covers_within depth)).disconnect node

end Skeleton

namespace Store

variable {before after : Store}

theorem skeleton_eq_of_travel
    {journey : Journey}
    {outcome : Outcome}
    (finished : before.travel journey = some (outcome, after)) :
    after.skeleton = before.skeleton :=
  (Skeleton.covers_within depthLimit).travel journey before outcome after trivial finished

theorem skeleton_eq_of_receive
    {node : Ref .node}
    {traffic : Traffic}
    {outcome : Outcome}
    (finished : before.receive node traffic = some (outcome, after)) :
    after.skeleton = before.skeleton :=
  TrafficRule.governs_receive (Skeleton.surrounds_within depthLimit)
    (Or.inl trivial) node before outcome after trivial finished

theorem skeleton_eq_of_call
    {operation : Operation}
    {reply : Reply}
    (finished : before.call operation = some (reply, after)) :
    after.skeleton = before.skeleton :=
  (Skeleton.covers_within depthLimit).call operation before reply after trivial finished

end Store

end ChannelMux
