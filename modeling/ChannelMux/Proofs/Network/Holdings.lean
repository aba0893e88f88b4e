import ChannelMux.Proofs.Delivery.Oversight
import ChannelMux.Proofs.Network.Wiring

/-!
Contract: what belongs to a node.

Owns the regions that are made up of some pipelines and stacks with all that hangs on them, that
of a stack by itself, and that of a node: its pipeline, the stacks of its groups with their
private pipelines, the stages of all these, the forks bound there, and the agents that receive
what comes up. In a wired store these regions are closed, and no stack in them leads to others.
-/

namespace ChannelMux.Store

/-- Pipelines and stacks with their stages, the forks bound there, and those who receive. -/
def regionOf (store : Store) (pipelines : List (Ref .pipeline)) (groups : List (Ref .stack)) :
    Region :=
  let forks := groups.flatMap fun stack => (store.groups.get stack).members.values
  { groups := groups
    pipelines := pipelines
    stages := pipelines.flatMap store.stagesOf
    forks := forks
    agents := pipelines.filterMap (fun pipeline => (store.pipelines.get pipeline).receiver?) ++
      forks.filterMap fun fork => (store.forks.get fork).receiver? }

/-- What belongs to a stack. -/
def stackHoldings (store : Store) (stack : Ref .stack) : Region :=
  store.regionOf [(store.groups.get stack).pipeline] [stack]

/-- What belongs to a node. -/
def holdings (store : Store) (node : Ref .node) : Region :=
  let groups := (store.stagesOf (store.nodes.get node).pipeline).flatMap (Delivery.stacksOf store)
  store.regionOf
    ((store.nodes.get node).pipeline ::
      groups.map fun stack => (store.groups.get stack).pipeline) groups

variable {store : Store}

theorem closed_regionOf
    {pipelines : List (Ref .pipeline)}
    {groups : List (Ref .stack)}
    (privately : ∀ stack ∈ groups, (store.groups.get stack).pipeline ∈ pipelines)
    (leads : ∀ pipeline ∈ pipelines, ∀ stage ∈ store.stagesOf pipeline,
      ∀ stack ∈ (store.stages.get stage).role.leadsTo, stack ∈ groups) :
    (store.regionOf pipelines groups).Closed store where
  pipelines := privately
  forks stack inside fork bound := List.mem_flatMap.mpr ⟨stack, inside, bound⟩
  stages pipeline inside stage layer := List.mem_flatMap.mpr ⟨pipeline, inside, layer⟩
  receivers pipeline inside agent receives :=
    List.mem_append_left _ (List.mem_filterMap.mpr ⟨pipeline, inside, receives⟩)
  groups stage inside := by
    obtain ⟨pipeline, isPipeline, layer⟩ := List.mem_flatMap.mp inside
    exact leads pipeline isPipeline stage layer
  takers fork inside agent receives :=
    List.mem_append_right _ (List.mem_filterMap.mpr ⟨fork, inside, receives⟩)

theorem leadsTo_of_isSome_demultiplexer?
    {stage : Ref .stage}
    (isHub : (store.demultiplexer? stage).isSome) :
    (store.stages.get stage).role.leadsTo = Delivery.stacksOf store stage := by
  obtain ⟨state, found⟩ := Option.isSome_iff_exists.mp isHub
  unfold Delivery.stacksOf
  rw [found, demultiplexer?_eq_some.mp found]
  rfl

theorem stacksOf_of_role
    {stage : Ref .stage}
    (noHub : (store.stages.get stage).role.groups? = none) :
    Delivery.stacksOf store stage = [] := by
  rw [stacksOf_eq_getD, noHub]
  rfl

section Stack

variable {shared : Ref .pipeline} {hub : Ref .stage} {group : String} {stack : Ref .stack}
  (wired : store.StackWired shared hub group stack)

include wired

/-- The stages of a stack lead to nothing but, at its top, to the stack itself. -/
theorem StackWired.roles
    {stage : Ref .stage}
    (layer : stage ∈ store.stagesOf (store.groups.get stack).pipeline) :
    (store.stages.get stage).role.groups? = none ∧
      ∀ other ∈ (store.stages.get stage).role.leadsTo, other = stack := by
  obtain ⟨bottom, customs, top, stages, _, bottomRole, allCustom, _, topRole⟩ := wired.layers
  rw [stages] at layer
  rcases List.mem_append.mp layer with isLower | isTop
  · rcases List.mem_cons.mp isLower with rfl | isCustom
    · rw [bottomRole]
      exact ⟨rfl, fun _ member => nomatch member⟩
    · obtain ⟨conduct, role⟩ := allCustom stage isCustom
      rw [role]
      exact ⟨rfl, fun _ member => nomatch member⟩
  · rw [List.mem_singleton.mp isTop, topRole]
    exact ⟨rfl, fun _ member => List.mem_singleton.mp member⟩

theorem StackWired.closed_stackHoldings : (store.stackHoldings stack).Closed store := by
  refine closed_regionOf (fun other isStack => ?_)
    fun pipeline isPipeline stage layer other leads => ?_
  · rw [List.mem_singleton.mp isStack]
    exact List.mem_singleton_self _
  · rw [List.mem_singleton.mp isPipeline] at layer
    rw [(wired.roles layer).2 other leads]
    exact List.mem_singleton_self _

theorem StackWired.flat_stackHoldings : (store.stackHoldings stack).Flat store := by
  intro other isStack stage layer
  rw [List.mem_singleton.mp isStack] at layer
  exact stacksOf_of_role (wired.roles layer).1

end Stack

section Node

variable {node : Ref .node}

theorem pipeline_mem_holdings : (store.nodes.get node).pipeline ∈ (store.holdings node).pipelines :=
  List.mem_cons_self

variable (wired : store.Wired) (sole : store.SoleHubs) (issued : store.nodes.Issued node)

include wired sole issued

/-- The stacks that belong to a node are wired to it. -/
theorem stackWired_of_mem_holdings
    {stack : Ref .stack}
    (inside : stack ∈ (store.holdings node).groups) :
    ∃ hub group, store.StackWired (store.nodes.get node).pipeline hub group stack := by
  obtain ⟨stage, layer, listed⟩ := List.mem_flatMap.mp inside
  obtain ⟨group, registered⟩ := mem_stacksOf_iff.mp listed
  exact ⟨stage, group, (wired.nodes node issued).layer_stackWired sole issued layer registered⟩

theorem closed_holdings : (store.holdings node).Closed store := by
  refine closed_regionOf (fun stack isStack => ?_)
    fun pipeline isPipeline stage layer other leads => ?_
  · exact List.mem_cons_of_mem _ (List.mem_map.mpr ⟨stack, isStack, rfl⟩)
  rcases List.mem_cons.mp isPipeline with rfl | isPrivate
  · rcases (wired.nodes node issued).layers stage layer with ⟨conduct, role⟩ | isHub
    · rw [role] at leads
      cases leads
    · rw [leadsTo_of_isSome_demultiplexer? isHub] at leads
      exact List.mem_flatMap.mpr ⟨stage, layer, leads⟩
  · obtain ⟨stack, isStack, rfl⟩ := List.mem_map.mp isPrivate
    obtain ⟨hub, group, stackWired⟩ := stackWired_of_mem_holdings wired sole issued isStack
    rw [(stackWired.roles layer).2 other leads]
    exact isStack

theorem flat_holdings : (store.holdings node).Flat store := by
  intro stack inside stage layer
  obtain ⟨hub, group, stackWired⟩ := stackWired_of_mem_holdings wired sole issued inside
  exact stacksOf_of_role (stackWired.roles layer).1

end Node

end ChannelMux.Store
