import ChannelMux.Proofs.Network.Enrollment

/-!
Contract: making nodes, and what does not touch the wiring, keep everything wired.

Owns what making a node, knowing forks and nodes by name and forgetting them, subscribing
agents and setting receivers do to the wiring.
-/

namespace ChannelMux.Store

/-! ### Listeners and names of forks -/

section Names

variable {store : Store}

theorem mem_listeners_unsubscribe {node other : Ref .node} {token : UInt64}
    {entry : UInt64 × Listener} :
    entry ∈ ((store.unsubscribe node token).nodes.get other).listeners ↔
      entry ∈ (store.nodes.get other).listeners ∧ (other = node → entry.1 ≠ token) := by
  by_cases same : other = node
  · subst same
    by_cases issued : store.nodes.Issued other
    · unfold unsubscribe modifyNode
      rw [Table.get_modify_self issued]
      simp
    · have stillNot : ¬ (store.unsubscribe other token).nodes.Issued other := by
        intro nowIssued
        exact issued (Table.issued_modify.mp nowIssued)
      rw [Table.get_of_not_issued issued, Table.get_of_not_issued stillNot]
      simp [default, instInhabitedNode.default]
  · unfold unsubscribe modifyNode
    rw [Table.get_modify_of_ne same]
    simp [same]

/-- Ending a subscription that is not that of a fork which lasts. -/
theorem growth_unsubscribe
    {node : Ref .node}
    {token : UInt64}
    (spare : ∀ fork, store.isForkAlive fork = true → (store.forks.get fork).node = node →
      (store.forks.get fork).token ≠ token) :
    Growth store (store.unsubscribe node token) :=
  { Growth.refl store with
    nodes := by
      apply Table.keeps_modify Node.pipeline
      intro _
      rfl
    noNewNodes := by
      intro other issued
      exact Table.issued_modify.mp issued
    tokens := by
      intro other
      apply Nat.le_of_eq
      symm
      apply Table.read_modify Node.subscriptions
      intro _
      rfl
    subscribed := by
      intro other held fork listens
      exact (mem_listeners_unsubscribe.mp listens).1
    listening := by
      intro other held fork alive _ hasToken onNode listens
      refine mem_listeners_unsubscribe.mpr ⟨listens, ?_⟩
      intro same
      rw [same] at onNode
      rw [← hasToken]
      exact spare fork alive onNode }

theorem growth_retireFork
    (wired : store.Wired)
    {ended : Ref .fork}
    (issued : store.forks.Issued ended) :
    Growth store (store.retireFork ended) := by
  unfold retireFork
  split
  · exact Growth.refl store
  · rename_i notAlive
    apply growth_unsubscribe
    intro fork alive onNode hasToken
    have same := wired.tokens fork ended (Table.issued_of_isNamed alive) issued onNode hasToken
    rw [same] at alive
    exact notAlive alive

/-- Knowing a bound fork by a name. -/
theorem growth_nameForks
    {fork : Ref .fork}
    (issued : store.forks.Issued fork)
    (bound : store.Bound fork)
    (name : String) :
    Growth store { store with forks := store.forks.name fork name } :=
  { Growth.refl store with
    forks := Table.keeps_name _ _ _ _
    noNewForks := by
      intro other issuedAfter
      exact Table.issued_name.mp issuedAfter
    alive := by
      intro other alive
      rcases Table.isNamed_of_isNamed_name alive with same | aliveBefore
      · rw [same]
        exact Or.inr ⟨bound, issued⟩
      · exact Or.inl aliveBefore
    listening := by
      intro node token other _ _ _ _ listens
      exact listens }

theorem growth_forgetForks (name : String) :
    Growth store { store with forks := store.forks.forget name } :=
  { Growth.refl store with
    forks := Table.keeps_forget _ _ _
    noNewForks := by
      intro other issuedAfter
      exact Table.issued_forget.mp issuedAfter
    alive := by
      intro other alive
      exact Or.inl (Table.isNamed_of_isNamed_forget alive)
    listening := by
      intro node token other _ _ _ _ listens
      exact listens }

section Renaming

variable {property : Store → Prop}
  (kept : ∀ {before after : Store}, Growth before after → before.Wired → property before →
    property after)

include kept

/-- What growth keeps is kept when a bound fork is known by a name. -/
theorem kept_nameFork
    (wired : store.Wired)
    (holds : property store)
    {fork : Ref .fork}
    (issued : store.forks.Issued fork)
    (bound : store.Bound fork)
    (name : String) :
    property (store.nameFork fork name) := by
  have renamed := growth_nameForks issued bound name
  unfold nameFork
  cases held : store.forks.named? name with
  | none => exact kept renamed wired holds
  | some former =>
      have formerIssued : (store.forks.name fork name).Issued former :=
        Table.issued_name.mpr (Table.issued_of_named? held)
      exact kept (growth_retireFork (renamed.wired wired) formerIssued) (renamed.wired wired)
        (kept renamed wired holds)

/-- What growth keeps is kept when a fork is let go of. -/
theorem kept_dropFork (wired : store.Wired) (holds : property store) (name : String) :
    property (store.dropFork name) := by
  unfold dropFork
  cases held : store.forks.named? name with
  | none => exact holds
  | some former =>
      have forgotten := @growth_forgetForks store name
      have formerIssued : (store.forks.forget name).Issued former :=
        Table.issued_forget.mpr (Table.issued_of_named? held)
      exact kept (growth_retireFork (forgotten.wired wired) formerIssued)
        (forgotten.wired wired) (kept forgotten wired holds)

end Renaming

theorem wired_nameFork
    (wired : store.Wired)
    {fork : Ref .fork}
    (issued : store.forks.Issued fork)
    (bound : store.Bound fork)
    (name : String) :
    (store.nameFork fork name).Wired :=
  kept_nameFork (fun growth wired _ => growth.wired wired) wired wired issued bound name

theorem wired_dropFork (wired : store.Wired) (name : String) :
    (store.dropFork name).Wired :=
  kept_dropFork (fun growth wired _ => growth.wired wired) wired wired name

end Names

/-! ### What is not wired -/

theorem mem_listeners_subscribe {store : Store} {node other : Ref .node}
    {listener : Listener} {entry : UInt64 × Listener}
    (listens : entry ∈ ((store.subscribe node listener).2.nodes.get other).listeners) :
    entry ∈ (store.nodes.get other).listeners ∨ entry.2 = listener := by
  by_cases same : other = node
  · subst same
    by_cases issued : store.nodes.Issued other
    · have record : (store.subscribe other listener).2.nodes.get other = _ :=
        Table.get_modify_self issued _
      rw [record] at listens
      rcases List.mem_append.mp listens with old | new
      · exact Or.inl old
      · rw [List.mem_singleton.mp new]
        exact Or.inr rfl
    · have stillNot : ¬ (store.subscribe other listener).2.nodes.Issued other := by
        intro nowIssued
        exact issued (Table.issued_modify.mp nowIssued)
      rw [Table.get_of_not_issued stillNot] at listens
      cases listens
  · have record : (store.subscribe node listener).2.nodes.get other = _ :=
      Table.get_modify_of_ne same _ _
    rw [record] at listens
    exact Or.inl listens

theorem mem_listeners_subscribe_of_mem {store : Store} {node other : Ref .node}
    {listener : Listener} {entry : UInt64 × Listener}
    (listens : entry ∈ (store.nodes.get other).listeners) :
    entry ∈ ((store.subscribe node listener).2.nodes.get other).listeners := by
  by_cases same : other = node
  · subst same
    by_cases issued : store.nodes.Issued other
    · have record : (store.subscribe other listener).2.nodes.get other = _ :=
        Table.get_modify_self issued _
      rw [record]
      exact List.mem_append_left _ listens
    · rw [Table.get_of_not_issued issued] at listens
      cases listens
  · have record : (store.subscribe node listener).2.nodes.get other = _ :=
      Table.get_modify_of_ne same _ _
    rw [record]
    exact listens

/-- Subscribing an agent. -/
theorem growth_subscribe
    {node : Ref .node}
    (left : (store.nodes.get node).subscriptions + 1 < UInt64.size)
    (agent : Ref .agent) :
    Growth store (store.subscribe node (.agent agent)).2 :=
  { Growth.refl store with
    nodes := by
      apply Table.keeps_modify Node.pipeline
      intro _
      rfl
    noNewNodes := by
      intro other issued
      exact Table.issued_modify.mp issued
    tokens := by
      intro other
      by_cases same : other = node
      · subst same
        by_cases issued : store.nodes.Issued other
        · have record : (store.subscribe other (.agent agent)).2.nodes.get other = _ :=
            Table.get_modify_self issued _
          rw [record]
          exact Node.subscriptions_le left rfl
        · rw [Table.get_of_not_issued issued]
          have stillNot : ¬ (store.subscribe other (.agent agent)).2.nodes.Issued other := by
            intro nowIssued
            exact issued (Table.issued_modify.mp nowIssued)
          rw [Table.get_of_not_issued stillNot]
      · have record : (store.subscribe node (.agent agent)).2.nodes.get other = _ :=
          Table.get_modify_of_ne same _ _
        rw [record]
    subscribed := by
      intro other token fork listens
      rcases mem_listeners_subscribe listens with old | new
      · exact old
      · cases new
    listening := by
      intro other token fork _ _ _ _ listens
      exact mem_listeners_subscribe_of_mem listens }

theorem growth_addAgent (store : Store) (agent : Agent) :
    Growth store (store.addAgent agent).2 := { Growth.refl store with }

theorem growth_setReceiver (store : Store) (pipeline : Ref .pipeline) (agent : Ref .agent) :
    Growth store (store.setReceiver pipeline agent) :=
  { Growth.refl store with
    pipelines := by
      apply Table.keeps_modify Pipeline.ties
      intro _
      rfl }

theorem growth_modifyFork
    {change : Fork → Fork}
    (kept : ∀ record, (change record).ties = record.ties)
    (store : Store)
    (fork : Ref .fork) :
    Growth store (store.modifyFork fork change) :=
  { Growth.refl store with
    forks := Table.keeps_modify _ kept _ _
    noNewForks := by
      intro other issued
      exact Table.issued_modify.mp issued
    alive := by
      intro other alive
      unfold isForkAlive modifyFork at alive
      rw [Table.isNamed_modify] at alive
      exact Or.inl alive
    listening := by
      intro node token other _ _ _ _ listens
      exact listens }

theorem growth_nameNode (store : Store) (node : Ref .node) (name : String) :
    Growth store (store.nameNode node name) :=
  { Growth.refl store with
    nodes := Table.keeps_name _ _ _ _
    noNewNodes := by
      intro other issued
      exact Table.issued_name.mp issued
    tokens := by
      intro other
      unfold nameNode
      rw [Table.get_name]
    subscribed := by
      intro other token fork listens
      unfold nameNode at listens
      rwa [Table.get_name] at listens
    listening := by
      intro other token fork _ _ _ _ listens
      unfold nameNode
      rwa [Table.get_name] }

theorem growth_dropNode (store : Store) (name : String) :
    Growth store (store.dropNode name) :=
  { Growth.refl store with
    nodes := Table.keeps_forget _ _ _
    noNewNodes := by
      intro other issued
      exact Table.issued_forget.mp issued
    tokens := by
      intro other
      unfold dropNode
      rw [Table.get_forget]
    subscribed := by
      intro other token fork listens
      unfold dropNode at listens
      rwa [Table.get_forget] at listens
    listening := by
      intro other token fork _ _ _ _ listens
      unfold dropNode
      rwa [Table.get_forget] }

/-! ### Making a node -/

section Making

variable {store : Store} {name : String} {address : Address} {network : String}
  {stages : List (Ref .stage)}

theorem node_addNode_of_issued {node : Ref .node} (issued : store.nodes.Issued node) :
    (store.addNode name address network stages).2.nodes.get node = store.nodes.get node :=
  Table.get_add_of_issued issued _

theorem pipeline_addNode_of_issued {pipeline : Ref .pipeline}
    (issued : store.pipelines.Issued pipeline) :
    (store.addNode name address network stages).2.pipelines.get pipeline =
      store.pipelines.get pipeline :=
  Table.get_add_of_issued issued _

theorem node_addNode_next :
    (store.addNode name address network stages).2.nodes.get store.nodes.next =
      { name := name, address := address, network := network
        pipeline := store.pipelines.next } :=
  Table.get_add_next _ _

theorem pipeline_addNode_next :
    (store.addNode name address network stages).2.pipelines.get store.pipelines.next =
      { name := "shared:" ++ name, stages := stages
        outlet? := some (.transport store.nodes.next) } :=
  Table.get_add_next _ _

theorem issued_node_addNode {node : Ref .node} :
    (store.addNode name address network stages).2.nodes.Issued node ↔
      store.nodes.Issued node ∨ node = store.nodes.next :=
  Table.issued_add

theorem stagesOf_addNode_of_issued {pipeline : Ref .pipeline}
    (issued : store.pipelines.Issued pipeline) :
    (store.addNode name address network stages).2.stagesOf pipeline =
      store.stagesOf pipeline := by
  unfold stagesOf
  rw [pipeline_addNode_of_issued issued]

theorem hub?_addNode_of_issued (wired : store.Wired) {node : Ref .node}
    (issued : store.nodes.Issued node) :
    (store.addNode name address network stages).2.hub? node = store.hub? node := by
  unfold hub? findDemultiplexer? findStage?
  rw [node_addNode_of_issued issued,
    stagesOf_addNode_of_issued (wired.nodes node issued).pipeline]
  rfl

/-- A node that has just been made has no demultiplexer. -/
theorem hub?_addNode_next (customs : ∀ stage ∈ stages, store.IsCustom stage) :
    (store.addNode name address network stages).2.hub? store.nodes.next = none := by
  unfold hub? findDemultiplexer? findStage? stagesOf
  rw [node_addNode_next, pipeline_addNode_next, List.find?_eq_none]
  intro stage member isDemultiplexer
  obtain ⟨conduct, role⟩ := customs stage member
  change (store.demultiplexer? stage).isSome = true at isDemultiplexer
  rw [isSome_demultiplexer?, role] at isDemultiplexer
  cases isDemultiplexer

theorem extends_addNode (wired : store.Wired) :
    Extends store (store.addNode name address network stages).2 where
  pipelines := Table.keeps_add _ _ _
  stages _ issued := ⟨issued, RoleKept.refl _⟩
  groups := Table.Keeps.refl _ _
  privateStages _ _ _ _ stackWired := stagesOf_addNode_of_issued stackWired.pipeline
  nodes := Table.keeps_add _ _ _
  tokens node issued := by rw [node_addNode_of_issued issued]
  hubs node hub issued found := (hub?_addNode_of_issued wired issued).trans found
  forks := Table.Keeps.refl _ _

theorem nodeWired_addNode_of_issued
    (wired : store.Wired)
    {node : Ref .node}
    (issued : store.nodes.Issued node) :
    (store.addNode name address network stages).2.NodeWired node := by
  have extended : Extends store (store.addNode name address network stages).2 :=
    extends_addNode wired
  have before := wired.nodes node issued
  refine ⟨?_, ?_, ?_, ?_, ?_⟩
  · rw [node_addNode_of_issued issued]
    exact before.pipeline.add _
  · rw [node_addNode_of_issued issued, pipeline_addNode_of_issued before.pipeline]
    exact before.outlet
  · rw [node_addNode_of_issued issued, stagesOf_addNode_of_issued before.pipeline]
    exact before.layers
  · intro hub group stack found registered
    rw [hub?_addNode_of_issued wired issued] at found
    rw [node_addNode_of_issued issued]
    exact extended.stackWired (before.stackWired hub group stack found registered)
  · rw [node_addNode_of_issued issued]
    exact before.listeners

theorem nodeWired_addNode_next (customs : ∀ stage ∈ stages, store.IsCustom stage) :
    (store.addNode name address network stages).2.NodeWired store.nodes.next := by
  refine ⟨?_, ?_, ?_, ?_, ?_⟩
  · rw [node_addNode_next]
    exact Table.issued_add_next _ _
  · rw [node_addNode_next, pipeline_addNode_next]
  · intro stage member
    unfold stagesOf at member
    rw [node_addNode_next, pipeline_addNode_next] at member
    exact Or.inl (customs stage member)
  · intro hub group stack found
    rw [hub?_addNode_next customs] at found
    cases found
  · intro token fork listens
    rw [node_addNode_next] at listens
    cases listens

/-- Making a node of custom stages keeps everything wired. -/
theorem wired_addNode (wired : store.Wired)
    (customs : ∀ stage ∈ stages, store.IsCustom stage) :
    (store.addNode name address network stages).2.Wired := by
  have extended : Extends store (store.addNode name address network stages).2 :=
    extends_addNode wired
  refine ⟨?_, ?_, ?_, wired.members, wired.tokens, ?_⟩
  · intro node issued
    rcases issued_node_addNode.mp issued with old | new
    · exact nodeWired_addNode_of_issued wired old
    · rw [new]
      exact nodeWired_addNode_next customs
  · intro left right hub leftIssued rightIssued leftHub rightHub
    rcases issued_node_addNode.mp leftIssued with leftOld | leftNew
    · rw [hub?_addNode_of_issued wired leftOld] at leftHub
      rcases issued_node_addNode.mp rightIssued with rightOld | rightNew
      · rw [hub?_addNode_of_issued wired rightOld] at rightHub
        exact wired.hubs left right hub leftOld rightOld leftHub rightHub
      · rw [rightNew, hub?_addNode_next customs] at rightHub
        cases rightHub
    · rw [leftNew, hub?_addNode_next customs] at leftHub
      cases leftHub
  · intro fork issued
    exact extended.forkWired issued (wired.forks fork issued)
  · intro fork alive
    have bound := wired.bound fork alive
    have nodeIssued := (wired.forks fork (Table.issued_of_isNamed alive)).node
    refine ⟨bound.member, ?_⟩
    have listens := bound.listens
    rw [← node_addNode_of_issued nodeIssued] at listens
    exact listens

/-- A node that has just been made of custom stages has no demultiplexer. -/
theorem soleHubs_addNode (wired : store.Wired) (sole : store.SoleHubs)
    (customs : ∀ stage ∈ stages, store.IsCustom stage) :
    (store.addNode name address network stages).2.SoleHubs := by
  intro node issued left leftLayer right rightLayer leftHub rightHub
  change (store.demultiplexer? left).isSome at leftHub
  change (store.demultiplexer? right).isSome at rightHub
  rcases issued_node_addNode.mp issued with old | new
  · rw [node_addNode_of_issued old, stagesOf_addNode_of_issued (wired.nodes node old).pipeline]
      at leftLayer rightLayer
    exact sole node old left leftLayer right rightLayer leftHub rightHub
  · unfold stagesOf at leftLayer
    rw [new, node_addNode_next, pipeline_addNode_next] at leftLayer
    obtain ⟨conduct, role⟩ := customs left leftLayer
    rw [isSome_demultiplexer?, role] at leftHub
    cases leftHub

end Making

end ChannelMux.Store
