import ChannelMux.Proofs.Forking.Ensured
import ChannelMux.Proofs.Forking.InPlace

/-!
Contract: what building a fork changes, and that it changes nothing if it is refused.

Owns what a store is like in which a fork has just been built, compared with the one before:
a demultiplexer where there was none, a stack for the group where there was none, the
binding of the fork, its subscription and the fork itself; all else is as it was. Owns that
a building does just that or nothing at all.
-/

namespace ChannelMux

/-- A refusal is one of those that building a fork can meet. -/
def ForkRefusal.IsOfBuilding : ForkRefusal → Prop
  | .nodeMissing => True
  | .emptyIdentifier _ => True
  | .demultiplexerMissing => True
  | .delivery refusal => ∃ neighbor, refusal = .neighborMissing neighbor
  | .groupTaken _ => True
  | .memberTaken _ _ => True
  | .notConnected _ => False
  | .unsupported _ => False

namespace Store

/-- A node, its pipeline and stages, and the stacks of its groups exist. -/
structure Grounded (store : Store) (node : Ref .node) : Prop where
  issued : store.nodes.Issued node
  pipeline : store.pipelines.Issued (store.nodes.get node).pipeline
  layers : ∀ stage ∈ store.stagesOf (store.nodes.get node).pipeline, store.stages.Issued stage
  registered : ∀ hub group stack, store.hub? node = some hub →
    Delivery.stackOf? store hub group = some stack → store.groups.Issued stack

/-- A fork has just been built over a node, and that is all. -/
structure Builds (before after : Store) (plan : ForkPlan) (node : Ref .node)
    (group member : String) (hub : Ref .stage) (stack : Ref .stack) (fork : Ref .fork) :
    Prop where
  atHub : after.hub? node = some hub
  splicesHub : SplicesHub before after (before.nodes.get node).pipeline
    plan.settings.placement hub
  splicesStack : SplicesStack before after hub group plan.stages stack
  /-- The registry has the stack for the group, and is as it was for others. -/
  registry : ∀ name, Delivery.stackOf? after hub name =
    if name = group then some stack else Delivery.stackOf? before hub name
  /-- The fork is bound where no living fork was, and nobody else is. -/
  free : before.liveMember? stack member = none
  members : (after.groups.get stack).members =
    (before.groups.get stack).members.put member fork
  /-- Of a stack that there was nothing else has become different. -/
  oldStack : before.groups.Issued stack → after.groups.get stack =
    { before.groups.get stack with
      members := (before.groups.get stack).members.put member fork }
  issued : after.groups.Issued stack
  pipeline : after.pipelines.get (before.nodes.get node).pipeline =
    { before.pipelines.get (before.nodes.get node).pipeline with
      stages := after.stagesOf (before.nodes.get node).pipeline }
  pipelines : Table.Spares (before.nodes.get node).pipeline before.pipelines after.pipelines
  stages : Table.Spares hub before.stages after.stages
  groups : Table.Spares stack before.groups after.groups
  /-- The fork is one more listener of its node. -/
  nodes : after.nodes = before.nodes.modify node fun record => { record with
    listeners := record.listeners ++ [(record.nextToken, .fork fork)]
    nextToken := record.nextToken + 1 }
  isNext : fork = before.forks.next
  forks : after.forks = before.forks.add {
    group := group
    member := member
    node := node
    stack := stack
    status := (before.nodes.get node).status
    receiver? := plan.receiver?
    token := (before.nodes.get node).nextToken }
  agents : after.agents = before.agents
  networks : after.networks = before.networks

/-! ### What they change together -/

section Together

variable {before spliced stacked : Store} {node : Ref .node} {placement : Placement}
  {hub : Ref .stage} {group : String} {stages : List (Ref .stage)} {stack : Ref .stack}

theorem Grounded.pipeline_of_ensuresHub
    (grounded : before.Grounded node)
    (hubStep : EnsuresHub before spliced (before.nodes.get node).pipeline placement hub) :
    spliced.pipelines.Issued (before.nodes.get node).pipeline :=
  (hubStep.pipelines _ grounded.pipeline).1

theorem Grounded.layers_of_ensuresHub
    (grounded : before.Grounded node)
    (hubStep : EnsuresHub before spliced (before.nodes.get node).pipeline placement hub) :
    ∀ stage ∈ spliced.stagesOf (before.nodes.get node).pipeline,
      spliced.stages.Issued stage := by
  have kept (stage : Ref .stage)
      (layer : stage ∈ before.stagesOf (before.nodes.get node).pipeline) :
      spliced.stages.Issued stage := (hubStep.stages stage (grounded.layers stage layer)).1
  have isHub := List.find?_some hubStep.atHub
  intro stage layer
  cases hubStep.splices with
  | found _ same =>
      rw [same] at layer
      exact kept stage layer
  | inserted _ _ index _ same =>
      rw [same] at layer
      rcases List.eq_or_mem_of_mem_insertIdx layer with new | old
      · rw [new]
        exact issued_of_isSome_demultiplexer? isHub
      · exact kept stage old

/-- A demultiplexer with which a stack has been registered is not new. -/
theorem EnsuresHub.hub?_of_registered
    (hubStep : EnsuresHub before spliced (before.nodes.get node).pipeline placement hub)
    (registered : Delivery.stackOf? before hub group = some stack) :
    before.hub? node = some hub ∧ before.stages.Issued hub := by
  have issued : before.stages.Issued hub := by
    obtain ⟨state, found, _⟩ := Option.bind_eq_some_iff.mp registered
    exact issued_of_isSome_demultiplexer? (Option.isSome_iff_exists.mpr ⟨state, found⟩)
  cases hubStep.splices with
  | found atHub _ => exact ⟨atHub, issued⟩
  | inserted _ new _ _ _ => exact absurd issued new

theorem Grounded.stack_issued
    (grounded : before.Grounded node)
    (hubStep : EnsuresHub before spliced (before.nodes.get node).pipeline placement hub)
    (stackStep : EnsuresStack spliced stacked hub group stages stack) :
    stacked.groups.Issued stack := by
  apply stackStep.issued
  cases stackStep.splices with
  | found registered _ =>
      rw [hubStep.registry] at registered
      have atHub := (hubStep.hub?_of_registered registered).1
      rw [hubStep.groups]
      exact Or.inl (grounded.registered hub group stack atHub registered)
  | made unregistered => exact Or.inr unregistered

theorem hub?_of_ensured
    (grounded : before.Grounded node)
    (hubStep : EnsuresHub before spliced (before.nodes.get node).pipeline placement hub)
    (stackStep : EnsuresStack spliced stacked hub group stages stack) :
    stacked.hub? node = some hub := by
  have sameNode : stacked.nodes.get node = before.nodes.get node := by
    rw [stackStep.nodes, hubStep.nodes]
  unfold hub?
  rw [sameNode, stackStep.hubs _ (grounded.pipeline_of_ensuresHub hubStep)
    (grounded.layers_of_ensuresHub hubStep)]
  exact hubStep.atHub

/-- The stack is found or made with regard to the store before the demultiplexer was, too. -/
theorem splicesStack_of_ensured
    (hubStep : EnsuresHub before spliced (before.nodes.get node).pipeline placement hub)
    (stackStep : EnsuresStack spliced stacked hub group stages stack) :
    SplicesStack before stacked hub group stages stack := by
  cases stackStep.splices with
  | found registered same =>
      rw [hubStep.registry] at registered
      have issued := (hubStep.hub?_of_registered registered).2
      exact .found registered (same.trans (hubStep.asItWas issued))
  | made unregistered new registry named newPipeline bottom top layers bottomNew topNew
      bottomRole topRole =>
      rw [hubStep.registry] at unregistered
      rw [hubStep.groups] at new
      refine .made unregistered new ?_ named ?_ bottom top layers
        ⟨?_, bottomNew.2⟩ ⟨?_, topNew.2⟩ bottomRole topRole
      · intro state found
        have issued : before.stages.Issued hub :=
          issued_of_isSome_demultiplexer? (Option.isSome_iff_exists.mpr ⟨state, found⟩)
        have same := hubStep.asItWas issued
        have foundThen : spliced.demultiplexer? hub = some state :=
          (congrArg Stage.demultiplexer? same).trans found
        rw [registry state foundThen, same]
      · exact fun was => newPipeline (hubStep.pipelines _ was).1
      · exact fun was => bottomNew.1 (hubStep.stages _ was).1
      · exact fun was => topNew.1 (hubStep.stages _ was).1

theorem nodes_enroll (store : Store) (record : Fork) :
    (store.enroll record).nodes = store.nodes.modify record.node fun known => { known with
      listeners := known.listeners ++ [(known.nextToken, .fork store.forks.next)]
      nextToken := known.nextToken + 1 } := by
  let token := (store.nodes.get record.node).nextToken
  have subscribed : (store.enroll record).nodes = store.nodes.modify record.node fun known =>
      { known with
        listeners := known.listeners ++ [(token, .fork store.forks.next)]
        nextToken := token + 1 } := rfl
  exact subscribed.trans (Table.modify_congr fun _ => rfl)

theorem SplicesStack.enroll
    (splices : SplicesStack before stacked hub group stages stack)
    {record : Fork}
    (issued : stacked.groups.Issued stack)
    (inStack : record.stack = stack) :
    SplicesStack before (stacked.enroll record) hub group stages stack := by
  subst inStack
  have sameStack := stack_enroll_self issued
  cases splices with
  | found registered same => exact .found registered same
  | made unregistered new registry named newPipeline bottom top layers bottomNew topNew
      bottomRole topRole =>
      refine .made unregistered new registry ?_ ?_ bottom top ?_ bottomNew topNew bottomRole
        topRole
      · rw [sameStack]
        exact named
      · rw [sameStack]
        exact newPipeline
      · rw [sameStack]
        exact layers

/-- A fork that is built after its demultiplexer and its stack have been ensured is built,
and that is all. -/
theorem builds_of_ensured
    {plan : ForkPlan}
    {member : String}
    (grounded : before.Grounded node)
    (hubStep : EnsuresHub before spliced (before.nodes.get node).pipeline
      plan.settings.placement hub)
    (stackStep : EnsuresStack spliced stacked hub group plan.stages stack)
    (free : stacked.liveMember? stack member = none) :
    Builds before (stacked.enroll {
      group := group
      member := member
      node := node
      stack := stack
      status := (before.nodes.get node).status
      receiver? := plan.receiver?
      token := (stacked.nodes.get node).nextToken })
      plan node group member hub stack stacked.forks.next := by
  have nodes : stacked.nodes = before.nodes := stackStep.nodes.trans hubStep.nodes
  have forks : stacked.forks = before.forks := stackStep.forks.trans hubStep.forks
  have issued := grounded.stack_issued hubStep stackStep
  let record : Fork := {
    group := group
    member := member
    node := node
    stack := stack
    status := (before.nodes.get node).status
    receiver? := plan.receiver?
    token := (stacked.nodes.get node).nextToken }
  have sameStack : (stacked.enroll record).groups.get stack = _ := stack_enroll_self issued
  have members : (stacked.groups.get stack).members = (before.groups.get stack).members := by
    rw [stackStep.members, hubStep.groups]
  have groups : Table.Keeps id before.groups stacked.groups := by
    have kept := stackStep.groups
    rwa [hubStep.groups] at kept
  have sharedKept := stackStep.pipelines _ (grounded.pipeline_of_ensuresHub hubStep)
  have sameShared : stacked.pipelines.get (before.nodes.get node).pipeline =
      spliced.pipelines.get (before.nodes.get node).pipeline := sharedKept.2
  have sharedStages : stacked.stagesOf (before.nodes.get node).pipeline =
      spliced.stagesOf (before.nodes.get node).pipeline := congrArg Pipeline.stages sameShared
  exact {
    atHub := (hub?_enroll node).trans (hub?_of_ensured grounded hubStep stackStep)
    splicesHub := hubStep.splices.of_stagesOf_eq sharedStages
    splicesStack := (splicesStack_of_ensured hubStep stackStep).enroll issued rfl
    registry := by
      intro name
      refine (stackStep.registry name).trans ?_
      rw [hubStep.registry]
    free := by
      unfold liveMember? isForkAlive at free ⊢
      rwa [members, forks] at free
    members := by
      rw [sameStack, members]
    oldStack := by
      intro was
      have same : stacked.groups.get stack = before.groups.get stack := (groups stack was).2
      rw [sameStack, same]
    issued := Table.issued_modify.mpr issued
    pipeline := by
      refine sameShared.trans (hubStep.record.trans ?_)
      rw [← sharedStages]
      rfl
    pipelines := hubStep.pipelines.trans (stackStep.pipelines.spares _)
    stages := hubStep.stages.trans stackStep.stages
    groups := (groups.spares stack).trans (Table.spares_modify stack _ _)
    nodes := by
      rw [nodes_enroll, nodes]
    isNext := congrArg Table.next forks
    forks := by
      change stacked.forks.add _ = _
      rw [forks, nodes]
    agents := stackStep.agents.trans hubStep.agents
    networks := stackStep.networks.trans hubStep.networks }

end Together

/-! ### All or nothing -/

theorem error_of_bind
    {α β : Type}
    {first : Except ForkRefusal α}
    {next : α → Except ForkRefusal β}
    {refusal : ForkRefusal}
    (refused : (first >>= next) = .error refusal) :
    first = .error refusal ∨ ∃ value, first = .ok value ∧ next value = .error refusal := by
  cases first with
  | error first =>
      cases refused
      exact Or.inl rfl
  | ok value => exact Or.inr ⟨value, rfl, refused⟩

theorem isOfBuilding_identifier
    {field : String}
    {value? : Option String}
    {refusal : ForkRefusal}
    (refused : ForkPlan.identifier field value? = .error refusal) :
    refusal.IsOfBuilding := by
  unfold ForkPlan.identifier at refused
  split at refused
  · split at refused
    · cases refused
      trivial
    · cases refused
  · cases refused
    trivial

theorem isOfBuilding_ensureDemultiplexer
    {store : Store}
    {pipeline : Ref .pipeline}
    {create : Bool}
    {placement : Placement}
    {refusal : ForkRefusal}
    (refused : store.ensureDemultiplexer pipeline create placement = .error refusal) :
    refusal.IsOfBuilding := by
  unfold ensureDemultiplexer findOrInsert insertionIndex at refused
  split at refused
  · split at refused
    · cases refused
    · rename_i cause missed
      cases refused
      split at missed
      · cases missed
      · split at missed
        · cases missed
        · cases missed
          exact ⟨_, rfl⟩
  · split at refused
    · cases refused
    · cases refused
      trivial

/-- A fork has just been built over the node that a plan names, for the group and the member that
it names, and that is all. -/
def BuildsAsPlanned (before after : Store) (plan : ForkPlan) (fork : Ref .fork) : Prop :=
  ∃ node group member hub stack, plan.node? = some node ∧ plan.group? = some group ∧
    plan.member? = some member ∧ group ≠ "" ∧ member ≠ "" ∧
      Builds before after plan node group member hub stack fork

theorem isOfBuilding_ensureStack
    {store : Store}
    {hub : Ref .stage}
    {shared : Ref .pipeline}
    {group : String}
    {stages : List (Ref .stage)}
    {requireFresh : Bool}
    {refusal : ForkRefusal}
    (refused : store.ensureStack hub shared group stages requireFresh = .error refusal) :
    refusal.IsOfBuilding := by
  unfold ensureStack at refused
  split at refused
  · cases refused
    trivial
  · split at refused
    · split at refused
      · cases refused
        trivial
      · cases refused
    · cases refused

theorem isOfBuilding_buildFork
    {store : Store}
    {plan : ForkPlan}
    {refusal : ForkRefusal}
    (refused : store.buildFork plan = .error refusal) :
    refusal.IsOfBuilding := by
  unfold buildFork at refused
  cases given : plan.node? with
  | none =>
      rw [given] at refused
      cases refused
      trivial
  | some node =>
  rw [given] at refused
  rcases error_of_bind refused with noNode | ⟨_, _, refused⟩
  · cases noNode
  rcases error_of_bind refused with noGroup | ⟨group, _, refused⟩
  · exact isOfBuilding_identifier noGroup
  rcases error_of_bind refused with noMember | ⟨member, _, refused⟩
  · exact isOfBuilding_identifier noMember
  rcases error_of_bind refused with noHub | ⟨⟨hub, spliced⟩, _, refused⟩
  · exact isOfBuilding_ensureDemultiplexer noHub
  rcases error_of_bind refused with noStack | ⟨⟨stack, stacked⟩, _, refused⟩
  · exact isOfBuilding_ensureStack noStack
  rcases error_of_bind refused with taken | ⟨bound, _, refused⟩
  · unfold bind at taken
    split at taken
    · cases taken
      trivial
    · cases taken
  · cases refused

/-- Where everything is wired every node is grounded, so in any store that can be reached. -/
theorem Wired.grounded
    {store : Store}
    (wired : store.Wired)
    {node : Ref .node}
    (issued : store.nodes.Issued node) :
    store.Grounded node := by
  have nodeWired := wired.nodes node issued
  exact {
    issued := issued
    pipeline := nodeWired.pipeline
    layers := fun stage layer => nodeWired.layer_issued layer
    registered := fun hub group stack atHub registered =>
      (nodeWired.stackWired hub group stack atHub registered).issued }

theorem Reachable.grounded
    {permits : Action → Prop}
    {store : Store}
    (reachable : Reachable permits store)
    {node : Ref .node}
    (issued : store.nodes.Issued node) :
    store.Grounded node :=
  (wired_of_reachable reachable).grounded issued

/-- What is built has the node and the identifiers that it was to have, and is all that has
changed. -/
theorem builds_of_buildFork
    {store after : Store}
    {plan : ForkPlan}
    {fork : Ref .fork}
    (grounded : ∀ node, plan.node? = some node → store.Grounded node)
    (built : store.buildFork plan = .ok (fork, after)) :
    BuildsAsPlanned store after plan fork := by
  obtain ⟨node, group, member, hub, spliced, stack, stacked, isNode, isGroup, isMember,
    groupKnown, memberKnown, ensuredHub, ensuredStack, free, isNext, same⟩ :=
      buildFork_cases built
  subst isNext
  subst same
  have ground := grounded node isNode
  have hubStep := ensuresHub ground.pipeline ground.layers ensuredHub
  have isHub := List.find?_some hubStep.atHub
  have stackStep := ensuresStack isHub ensuredStack
  refine ⟨node, group, member, hub, stack, isNode, isGroup, isMember, ?_, ?_,
    builds_of_ensured ground hubStep stackStep free⟩
  · intro empty
    rw [empty] at groupKnown
    cases groupKnown
  · intro empty
    rw [empty] at memberKnown
    cases memberKnown

/-- A fork is built in place as a whole or not at all. A building that is refused leaves the
store as it was, though it takes nothing back. One that succeeds inserts a demultiplexer if
there was none, registers a stack for the group if there was none, binds the fork and
subscribes it, and does nothing else: over a node whose parts exist, and so over every node of a
store that can be reached. -/
theorem buildForkInPlace_allOrNothing (store : Store) (plan : ForkPlan) :
    (∀ refusal after, store.buildForkInPlace plan = (.error refusal, after) →
      after = store ∧ refusal.IsOfBuilding) ∧
    (∀ fork after, (∀ node, plan.node? = some node → store.Grounded node) →
      store.buildForkInPlace plan = (.ok fork, after) →
        BuildsAsPlanned store after plan fork) ∧
    (∀ permits fork after, Reachable permits store →
      (∀ node, plan.node? = some node → store.nodes.Issued node) →
        store.buildForkInPlace plan = (.ok fork, after) →
          BuildsAsPlanned store after plan fork) := by
  have builds (fork : Ref .fork) (after : Store)
      (grounded : ∀ node, plan.node? = some node → store.Grounded node)
      (built : store.buildForkInPlace plan = (.ok fork, after)) :
      BuildsAsPlanned store after plan fork := by
    rw [buildForkInPlace_eq] at built
    cases result : store.buildFork plan with
    | error cause =>
        rw [result] at built
        cases built
    | ok made =>
        rw [result] at built
        cases built
        exact builds_of_buildFork grounded result
  refine ⟨fun refusal after refused => ?_, builds, fun permits fork after reachable issued => ?_⟩
  · rw [buildForkInPlace_eq] at refused
    cases result : store.buildFork plan with
    | error cause =>
        rw [result] at refused
        cases refused
        exact ⟨rfl, isOfBuilding_buildFork result⟩
    | ok made =>
        rw [result] at refused
        cases refused
  · exact builds fork after fun node isNode => reachable.grounded (issued node isNode)

/-! ### A node with one fork -/

/-- A fork for one member of one group. -/
def firstPlan : ForkPlan := { node? := some ⟨0⟩, group? := some "g", member? := some "m" }

/-- A fork for another member of the group. -/
def secondPlan : ForkPlan := { firstPlan with member? := some "n" }

/-- A node without stages. -/
def vacant : Store := (Store.addNode {} "a" (.filled 1) "net" []).2

/-- The node with the first fork, both of which are known by name. -/
def occupied : Store :=
  (run? {} [.addNode "a" "a" (.filled 1) "net" [], .buildFork firstPlan "first"]).getD {}

/-- The first fork is built, and one for another member; one for the same member is refused, and
everything is as it was. -/
theorem buildForkInPlace_allOrNothing_occupied :
    BuildsAsPlanned vacant (vacant.buildForkInPlace firstPlan).2 firstPlan ⟨0⟩ ∧
    BuildsAsPlanned occupied (occupied.buildForkInPlace secondPlan).2 secondPlan ⟨1⟩ ∧
    (occupied.buildForkInPlace firstPlan).1 = .error (.memberTaken "g" "m") ∧
    (occupied.buildForkInPlace firstPlan).2 = occupied := by
  have wired : vacant.Wired := wired_addNode wired_empty (by simp)
  have reachable : Reachable (fun _ => True) occupied := reachable_made fun _ _ => trivial
  have refused : (occupied.buildForkInPlace firstPlan).1 = .error (.memberTaken "g" "m") := by
    decide +kernel
  refine ⟨?_, ?_, refused, ?_⟩
  · refine (buildForkInPlace_allOrNothing vacant firstPlan).2.1 ⟨0⟩ _ (fun node isNode => ?_)
      (Prod.ext (by decide +kernel) rfl)
    cases isNode
    exact wired.grounded (by decide)
  · refine (buildForkInPlace_allOrNothing occupied secondPlan).2.2 _ ⟨1⟩ _ reachable
      (fun node isNode => ?_) (Prod.ext (by decide +kernel) rfl)
    cases isNode
    decide +kernel
  · exact ((buildForkInPlace_allOrNothing occupied firstPlan).1 _ _
      (Prod.ext refused rfl)).1

end Store

end ChannelMux
