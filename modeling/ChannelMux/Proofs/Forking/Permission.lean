import ChannelMux.Proofs.Forking.Chronicle
import ChannelMux.Proofs.Network.Action

/-!
Contract: when a fork can be built.

Owns that a fork can be built at a node of a wired store just if the node has a demultiplexer or
may get one where there is a place for it, its group may be joined, and no fork that lasts is
bound to its group and member there.

Does not own what is built.
-/

namespace ChannelMux

/-- There is a place beside a neighbor just where the neighbor is. -/
theorem Placement.isSome_index?_iff {placement : Placement} {names : List String} :
    (placement.index? names).isSome ↔
      ∀ neighbor, placement.neighbor? = some neighbor → neighbor ∈ names := by
  unfold Placement.index?
  cases beside : placement.neighbor? with
  | none => cases placement.side <;> simp
  | some neighbor =>
      simp only [Option.isSome_map, List.findIdx?_isSome, List.any_eq_true, beq_iff_eq,
        exists_eq_right, Option.some.injEq, forall_eq']

namespace Store

/-- A fork for a group and a member may be built at a node under some settings. -/
structure Permits (store : Store) (node : Ref .node) (group member : String)
    (settings : ForkSettings) : Prop where
  hub : (store.hub? node).isSome ∨ settings.createIfAbsent = true ∧
    (settings.placement.index? (store.stageNames (store.nodes.get node).pipeline)).isSome
  stack : settings.requireFreshGroup = true → store.groupStack? node group = none
  free : store.boundFork? node group member = none

section Ensuring

variable {store : Store} {node : Ref .node}

/-- A demultiplexer is there or can be made just if there is one or a place for one. -/
theorem exists_ensureDemultiplexer_iff {create : Bool} {placement : Placement} :
    (∃ made, store.ensureDemultiplexer (store.nodes.get node).pipeline create placement =
        .ok made) ↔
      ((store.hub? node).isSome ∨ create = true ∧
        (placement.index? (store.stageNames (store.nodes.get node).pipeline)).isSome) := by
  have search : store.findStage? (store.nodes.get node).pipeline
      (fun stage => stage.demultiplexer?.isSome) = store.hub? node := rfl
  have find : store.findDemultiplexer? (store.nodes.get node).pipeline = store.hub? node := rfl
  unfold ensureDemultiplexer findOrInsert insertionIndex
  rw [search, find]
  cases found : store.hub? node with
  | some hub => cases create <;> simp
  | none =>
      cases create with
      | false => simp
      | true =>
          cases placed : placement.index?
              (store.stageNames (store.nodes.get node).pipeline) with
          | none => simp [Bind.bind, Except.bind]
          | some index => simp [Bind.bind, Except.bind, Pure.pure, Except.pure]

theorem exists_ensureStack_iff
    {hub : Ref .stage}
    {shared : Ref .pipeline}
    {group : String}
    {stages : List (Ref .stage)}
    {requireFresh : Bool}
    (isHub : (store.demultiplexer? hub).isSome) :
    (∃ made, store.ensureStack hub shared group stages requireFresh = .ok made) ↔
      (requireFresh = true → Delivery.stackOf? store hub group = none) := by
  obtain ⟨state, found⟩ := Option.isSome_iff_exists.mp isHub
  unfold ensureStack Delivery.stackOf?
  rw [found]
  dsimp only [Option.bind_some]
  cases state.groups.get? group with
  | none => simp
  | some stack => cases requireFresh <;> simp

end Ensuring

section Building

variable {store : Store} {node : Ref .node} {group member : String} {plan : ForkPlan}
  (wired : store.Wired) (issued : store.nodes.Issued node) (isNode : plan.node? = some node)
  (isGroup : plan.group? = some group) (isMember : plan.member? = some member)
  (groupNamed : group ≠ "") (memberNamed : member ≠ "")
  (customs : ∀ stage ∈ plan.stages, store.IsCustom stage)

/-- What is bound to a group and member is so whatever stages and stacks there are. -/
theorem boundFork?_congr
    {other : Store}
    (same : other.forks = store.forks) :
    other.boundFork? node group member = store.boundFork? node group member := by
  have sameBound (fork : Ref .fork) :
      other.IsBoundTo fork node group member ↔ store.IsBoundTo fork node group member := by
    unfold IsBoundTo isForkAlive
    rw [same]
  unfold boundFork?
  simp only [same, sameBound]

include wired issued customs in
/-- The place in a stack is free just if no fork that lasts is bound to the group and member. -/
theorem liveMember?_ensured
    {create requireFresh : Bool}
    {placement : Placement}
    {hub : Ref .stage}
    {spliced stacked : Store}
    {stack : Ref .stack}
    (ensuredHub : store.ensureDemultiplexer (store.nodes.get node).pipeline create placement =
      .ok (hub, spliced))
    (ensuredStack : spliced.ensureStack hub (store.nodes.get node).pipeline group plan.stages
      requireFresh = .ok (stack, stacked)) :
    stacked.liveMember? stack member = store.boundFork? node group member := by
  obtain ⟨splice, atHub⟩ := splice_ensureDemultiplexer wired issued ensuredHub
  have issuedSpliced : spliced.nodes.Issued node := by
    rw [splice.nodes]
    exact issued
  rw [← splice.nodes] at ensuredStack
  obtain ⟨spliceStack, atHubStack, registered⟩ := splice_ensureStack splice.wired issuedSpliced
    atHub (fun stage listed => splice.extended.isCustom (customs stage listed)) ensuredStack
  have issuedStacked : stacked.nodes.Issued node := by
    rw [spliceStack.nodes]
    exact issuedSpliced
  rw [spliceStack.wired.liveMember?_eq_boundFork? issuedStacked atHubStack registered]
  exact boundFork?_congr (spliceStack.forks.trans splice.forks)

/-- The registry of a demultiplexer that is there, or has just been inserted. -/
theorem stackOf?_ensured
    {create : Bool}
    {placement : Placement}
    {hub : Ref .stage}
    {spliced : Store}
    (ensured : store.ensureDemultiplexer (store.nodes.get node).pipeline create placement =
      .ok (hub, spliced))
    (group : String) :
    Delivery.stackOf? spliced hub group = store.groupStack? node group := by
  unfold groupStack? hub?
  rcases ensureDemultiplexer_cases ensured with ⟨found, same⟩ | ⟨unfound, isNext, _, _, same⟩
  · rw [found, same]
    rfl
  · have role := role_freshDemultiplexer store
    rw [unfound, same, isNext, stackOf?_eq_bind]
    exact congrArg (fun role => role.groups?.bind (·.get? group)) role

include isNode isGroup isMember groupNamed memberNamed in
/-- A fork is built once its demultiplexer and its stack are there and its place is free. -/
theorem exists_buildFork_of_ensured
    {hub : Ref .stage}
    {spliced stacked : Store}
    {stack : Ref .stack}
    (ensuredHub : store.ensureDemultiplexer (store.nodes.get node).pipeline
      plan.settings.createIfAbsent plan.settings.placement = .ok (hub, spliced))
    (ensuredStack : spliced.ensureStack hub (store.nodes.get node).pipeline group plan.stages
      plan.settings.requireFreshGroup = .ok (stack, stacked))
    (free : stacked.liveMember? stack member = none) :
    ∃ made, store.buildFork plan = .ok made := by
  have identifiedGroup : ForkPlan.identifier "group_id" (some group) = .ok group := by
    simp [ForkPlan.identifier, groupNamed]
  have identifiedMember : ForkPlan.identifier "member_id" (some member) = .ok member := by
    simp [ForkPlan.identifier, memberNamed]
  unfold buildFork bind
  simp [isNode, isGroup, isMember, identifiedGroup, identifiedMember, ensuredHub, ensuredStack,
    free, Bind.bind, Except.bind, Pure.pure, Except.pure]

include wired issued isNode isGroup isMember groupNamed memberNamed customs in
/-- A fork can be built just if it is permitted. -/
theorem exists_buildFork_iff :
    (∃ made, store.buildFork plan = .ok made) ↔
      store.Permits node group member plan.settings := by
  constructor
  · rintro ⟨⟨fork, after⟩, built⟩
    obtain ⟨given, givenGroup, givenMember, hub, spliced, stack, stacked, sameNode, sameGroup,
      sameMember, _, _, ensuredHub, ensuredStack, free, _, _⟩ := buildFork_cases built
    rw [isNode] at sameNode
    rw [isGroup] at sameGroup
    rw [isMember] at sameMember
    cases sameNode
    cases sameGroup
    cases sameMember
    have isHub := (eq_or_empty_of_ensureDemultiplexer ensuredHub).1
    refine ⟨exists_ensureDemultiplexer_iff.mp ⟨_, ensuredHub⟩, fun requireFresh => ?_, ?_⟩
    · rw [← stackOf?_ensured ensuredHub]
      exact (exists_ensureStack_iff isHub).mp ⟨_, ensuredStack⟩ requireFresh
    · rw [← liveMember?_ensured wired issued customs ensuredHub ensuredStack]
      exact free
  · rintro ⟨mayHub, fresh, free⟩
    obtain ⟨⟨hub, spliced⟩, ensuredHub⟩ := exists_ensureDemultiplexer_iff.mpr mayHub
    have isHub := (eq_or_empty_of_ensureDemultiplexer ensuredHub).1
    obtain ⟨⟨stack, stacked⟩, ensuredStack⟩ : ∃ made, spliced.ensureStack hub
        (store.nodes.get node).pipeline group plan.stages plan.settings.requireFreshGroup =
          .ok made := by
      apply (exists_ensureStack_iff isHub).mpr
      rw [stackOf?_ensured ensuredHub]
      exact fresh
    apply exists_buildFork_of_ensured isNode isGroup isMember groupNamed memberNamed ensuredHub
      ensuredStack
    rw [liveMember?_ensured wired issued customs ensuredHub ensuredStack]
    exact free

end Building

end Store

end ChannelMux
