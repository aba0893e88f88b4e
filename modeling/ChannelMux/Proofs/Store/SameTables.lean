import ChannelMux.Delivery.Lifecycle
import ChannelMux.Delivery.Transport

/-!
Contract: stores that have the same nodes, forks, pipelines, stacks and clusters.

Owns what it is for two stores to have the same tables but for those of stages and agents, and
what is looked up in such stores.
-/

namespace ChannelMux.Store

/-- Two stores have the same in all tables but those of stages and agents. -/
structure SameTables (left right : Store) : Prop where
  pipelines : right.pipelines = left.pipelines
  nodes : right.nodes = left.nodes
  groups : right.groups = left.groups
  forks : right.forks = left.forks
  networks : right.networks = left.networks

namespace SameTables

theorem refl (store : Store) : SameTables store store := ⟨rfl, rfl, rfl, rfl, rfl⟩

theorem of_eq {left right : Store} (same : left = right) : SameTables left right := by
  rw [same]
  exact refl right

variable {left middle right : Store}

theorem symm (same : SameTables left right) : SameTables right left :=
  ⟨same.pipelines.symm, same.nodes.symm, same.groups.symm, same.forks.symm, same.networks.symm⟩

theorem trans (first : SameTables left middle) (second : SameTables middle right) :
    SameTables left right :=
  ⟨second.pipelines.trans first.pipelines, second.nodes.trans first.nodes,
    second.groups.trans first.groups, second.forks.trans first.forks,
    second.networks.trans first.networks⟩

variable (same : SameTables left right)

include same

theorem stagesOf_eq : right.stagesOf = left.stagesOf := by
  unfold stagesOf
  rw [same.pipelines]

theorem isForkAlive_eq : right.isForkAlive = left.isForkAlive := by
  unfold isForkAlive
  rw [same.forks]

theorem isNodeAlive_eq : right.isNodeAlive = left.isNodeAlive := by
  unfold isNodeAlive
  rw [same.nodes, same.forks, same.isForkAlive_eq]

theorem isPipelineAlive_eq : right.isPipelineAlive = left.isPipelineAlive := by
  unfold isPipelineAlive
  rw [same.pipelines, same.nodes, same.isNodeAlive_eq]

theorem cluster_eq : right.cluster = left.cluster := by
  unfold cluster
  rw [same.networks]

theorem targets_eq : Delivery.targets right = Delivery.targets left := by
  unfold Delivery.targets
  rw [same.cluster_eq, same.isNodeAlive_eq]

theorem liveMembers_eq : Delivery.liveMembers right = Delivery.liveMembers left := by
  unfold Delivery.liveMembers
  rw [same.isNodeAlive_eq]

theorem operation?_eq : Delivery.operation? right = Delivery.operation? left := by
  unfold Delivery.operation? Delivery.calledFork? Delivery.calledNode?
  rw [same.forks, same.nodes, same.isForkAlive_eq, same.isNodeAlive_eq]

end SameTables

end ChannelMux.Store
