import ChannelMux.Proofs.Delivery.Descending
import ChannelMux.Proofs.Delivery.Region
import ChannelMux.Proofs.Network.Holdings
import ChannelMux.Proofs.Store.SameTables

/-!
Contract: stores that differ in what is done on the way up outside of a region.

Owns what it is for two stores to be akin about a region: they are the same but for what stages
outside of the region do and remember on the way up, and for what agents outside of it do and
remember. Owns that such stores hang together in the same way, and which changes of one of two
such stores, and of both, leave them akin.

What a stage heeds of its record on the way down is given, and has to be the same.
-/

namespace ChannelMux

/-- A role without what it does on the way up and has counted. -/
def Role.outline : Role → Role
  | .custom conduct => .custom { conduct with up := fun _ => .accept }
  | .demultiplexer state => .demultiplexer { state with counters := {} }
  | role => role

theorem Role.leadsTo_outline (role : Role) : role.outline.leadsTo = role.leadsTo := by
  cases role <;> rfl

theorem Role.groups?_outline (role : Role) : role.outline.groups? = role.groups? := by
  cases role <;> rfl

theorem Role.downward_outline (role : Role) : role.outline.downward = role.downward := by
  cases role <;> rfl

theorem Role.outline_eq_groupBottom {role : Role} {group : String} :
    role.outline = .groupBottom group ↔ role = .groupBottom group := by
  cases role <;> simp [Role.outline]

theorem Role.outline_eq_groupTop {role : Role} {stack : Ref .stack} :
    role.outline = .groupTop stack ↔ role = .groupTop stack := by
  cases role <;> simp [Role.outline]

theorem Role.custom_of_outline
    {role : Role}
    {conduct : Conduct}
    (outlined : role.outline = .custom conduct) :
    ∃ former, role = .custom former := by
  cases role with
  | custom former => exact ⟨former, rfl⟩
  | _ => cases outlined

/-- A stage without what it does on the way up, has counted, and does not heed on the way
down. -/
def Stage.outline (heeds : StageEntry → Bool) (stage : Stage) : Stage :=
  { stage with role := stage.role.outline, entries := stage.entries.filter heeds }

theorem Stage.outline_counted
    (heeds : StageEntry → Bool)
    (change : DemultiplexerCounters → DemultiplexerCounters)
    (stage : Stage) :
    (stage.counted change).outline heeds = stage.outline heeds := by
  obtain ⟨name, role, entries⟩ := stage
  cases role <;> rfl

namespace Store

/-- Two stores differ in no more than what stages outside of a region do and remember on the
way up and agents outside of it do and remember. -/
structure Akin (own : Region) (heeds : Ref .stage → StageEntry → Bool) (left right : Store) :
    Prop extends SameTables left right where
  issued : ∀ stage, right.stages.Issued stage ↔ left.stages.Issued stage
  outlines : ∀ stage, (right.stages.get stage).outline (heeds stage) =
    (left.stages.get stage).outline (heeds stage)
  stages : ∀ stage ∈ own.stages, right.stages.get stage = left.stages.get stage
  agents : ∀ agent ∈ own.agents, Table.SameAt agent left.agents right.agents

namespace Akin

variable {own : Region} {heeds : Ref .stage → StageEntry → Bool}
  {left middle right before after : Store}

theorem refl (store : Store) : Akin own heeds store store where
  toSameTables := .refl store
  issued _ := Iff.rfl
  outlines _ := rfl
  stages _ _ := rfl
  agents agent _ := .refl agent _

theorem symm (akin : Akin own heeds left right) : Akin own heeds right left where
  toSameTables := akin.toSameTables.symm
  issued stage := (akin.issued stage).symm
  outlines stage := (akin.outlines stage).symm
  stages stage inside := (akin.stages stage inside).symm
  agents agent inside := (akin.agents agent inside).symm

theorem trans (first : Akin own heeds left middle) (second : Akin own heeds middle right) :
    Akin own heeds left right where
  toSameTables := first.toSameTables.trans second.toSameTables
  issued stage := (second.issued stage).trans (first.issued stage)
  outlines stage := (second.outlines stage).trans (first.outlines stage)
  stages stage inside := (second.stages stage inside).trans (first.stages stage inside)
  agents agent inside := (first.agents agent inside).trans (second.agents agent inside)

/-! ### What akin stores have in common -/

section Common

variable (akin : Akin own heeds left right)

include akin

theorem sameIn : own.SameIn left right where
  groups stack _ := by rw [akin.groups]
  pipelines pipeline _ := by rw [akin.toSameTables.stagesOf_eq]
  receivers pipeline _ := by rw [akin.pipelines]
  stages stage inside := ⟨akin.stages stage inside, akin.issued stage⟩
  living fork _ := by rw [akin.toSameTables.isForkAlive_eq]
  takers fork _ := by rw [akin.forks]
  agents := akin.agents

theorem outline_role_eq (stage : Ref .stage) :
    (right.stages.get stage).role.outline = (left.stages.get stage).role.outline :=
  congrArg Stage.role (akin.outlines stage)

theorem downward_eq (stage : Ref .stage) :
    (right.stages.get stage).role.downward = (left.stages.get stage).role.downward := by
  rw [← Role.downward_outline, akin.outline_role_eq, Role.downward_outline]

theorem leadsTo_eq (stage : Ref .stage) :
    (right.stages.get stage).role.leadsTo = (left.stages.get stage).role.leadsTo := by
  rw [← Role.leadsTo_outline, akin.outline_role_eq, Role.leadsTo_outline]

theorem heeded_eq (stage : Ref .stage) :
    (right.stages.get stage).entries.filter (heeds stage) =
      (left.stages.get stage).entries.filter (heeds stage) :=
  congrArg Stage.entries (akin.outlines stage)

theorem stacksOf_eq : Delivery.stacksOf right = Delivery.stacksOf left := by
  funext stage
  rw [stacksOf_eq_getD, stacksOf_eq_getD, ← Role.groups?_outline, akin.outline_role_eq,
    Role.groups?_outline]

/-- A region is closed in both or in neither. -/
theorem closed {region : Region} (closed : region.Closed left) : region.Closed right where
  pipelines := by
    rw [akin.groups]
    exact closed.pipelines
  forks := by
    rw [akin.groups]
    exact closed.forks
  stages := by
    rw [akin.toSameTables.stagesOf_eq]
    exact closed.stages
  receivers := by
    rw [akin.pipelines]
    exact closed.receivers
  groups stage inside := by
    rw [akin.leadsTo_eq]
    exact closed.groups stage inside
  takers := by
    rw [akin.forks]
    exact closed.takers

theorem flat {region : Region} (flat : region.Flat left) : region.Flat right := by
  unfold Region.Flat
  rw [akin.groups, akin.toSameTables.stagesOf_eq, akin.stacksOf_eq]
  exact flat

/-- The same belongs to a node in both. -/
theorem holdings_eq : right.holdings = left.holdings := by
  unfold holdings regionOf
  rw [akin.nodes, akin.groups, akin.forks, akin.pipelines, akin.toSameTables.stagesOf_eq,
    akin.stacksOf_eq]

theorem isCustom {stage : Ref .stage} (custom : left.IsCustom stage) : right.IsCustom stage := by
  obtain ⟨conduct, role⟩ := custom
  have outlined := akin.outline_role_eq stage
  rw [role] at outlined
  exact Role.custom_of_outline outlined

theorem isSome_demultiplexer?_eq (stage : Ref .stage) :
    (right.demultiplexer? stage).isSome = (left.demultiplexer? stage).isSome := by
  rw [isSome_demultiplexer?, isSome_demultiplexer?, ← Role.groups?_outline,
    akin.outline_role_eq, Role.groups?_outline]

theorem stackOf?_eq : Delivery.stackOf? right = Delivery.stackOf? left := by
  funext stage group
  rw [stackOf?_eq_bind, stackOf?_eq_bind, ← Role.groups?_outline, akin.outline_role_eq,
    Role.groups?_outline]

theorem hub?_eq : right.hub? = left.hub? := by
  funext node
  unfold hub? findDemultiplexer? findStage?
  rw [akin.toSameTables.stagesOf_eq, akin.nodes]
  congr 1
  funext stage
  exact akin.isSome_demultiplexer?_eq stage

/-! ### How akin stores hang together -/

theorem stackWired
    {shared : Ref .pipeline}
    {hub : Ref .stage}
    {group : String}
    {stack : Ref .stack}
    (wired : left.StackWired shared hub group stack) :
    right.StackWired shared hub group stack := by
  obtain ⟨bottom, customs, top, stages, bottomIssued, bottomRole, allCustom, topIssued, topRole⟩ :=
    wired.layers
  have bottomOutline := akin.outline_role_eq bottom
  have topOutline := akin.outline_role_eq top
  rw [bottomRole] at bottomOutline
  rw [topRole] at topOutline
  constructor
  · rw [akin.groups]
    exact wired.issued
  · rw [akin.groups]
    exact wired.named
  · rw [akin.groups, akin.pipelines]
    exact wired.pipeline
  · rw [akin.groups, akin.pipelines]
    exact wired.outlet
  · rw [akin.groups, akin.toSameTables.stagesOf_eq]
    exact ⟨bottom, customs, top, stages, (akin.issued bottom).mpr bottomIssued,
      Role.outline_eq_groupBottom.mp bottomOutline,
      fun stage member => akin.isCustom (allCustom stage member), (akin.issued top).mpr topIssued,
      Role.outline_eq_groupTop.mp topOutline⟩

theorem nodeWired {node : Ref .node} (wired : left.NodeWired node) : right.NodeWired node := by
  constructor
  · rw [akin.nodes, akin.pipelines]
    exact wired.pipeline
  · rw [akin.nodes, akin.pipelines]
    exact wired.outlet
  · rw [akin.nodes, akin.toSameTables.stagesOf_eq]
    intro stage layer
    rw [akin.isSome_demultiplexer?_eq]
    exact (wired.layers stage layer).imp_left akin.isCustom
  · rw [akin.hub?_eq, akin.stackOf?_eq, akin.nodes]
    intro hub group stack found registered
    exact akin.stackWired (wired.stackWired hub group stack found registered)
  · rw [akin.nodes, akin.forks]
    exact wired.listeners

/-- Everything is wired in both or in neither. -/
theorem wired (wired : left.Wired) : right.Wired := by
  constructor
  · rw [akin.nodes]
    exact fun node issued => akin.nodeWired (wired.nodes node issued)
  · rw [akin.nodes, akin.hub?_eq]
    exact wired.hubs
  · rw [akin.forks]
    intro fork issued
    obtain ⟨node, stack, token⟩ := wired.forks fork issued
    constructor
    · rw [akin.nodes, akin.forks]
      exact node
    · rw [akin.hub?_eq, akin.stackOf?_eq, akin.forks]
      exact stack
    · rw [akin.nodes, akin.forks]
      exact token
  · rw [akin.groups, akin.forks]
    exact wired.members
  · rw [akin.forks]
    exact wired.tokens
  · rw [akin.toSameTables.isForkAlive_eq]
    intro fork alive
    obtain ⟨member, listens⟩ := wired.bound fork alive
    constructor
    · rw [akin.groups, akin.forks]
      exact member
    · rw [akin.nodes, akin.forks]
      exact listens

theorem soleHubs (sole : left.SoleHubs) : right.SoleHubs := by
  unfold SoleHubs
  rw [akin.nodes, akin.toSameTables.stagesOf_eq]
  intro node issued first layer second otherLayer
  rw [akin.isSome_demultiplexer?_eq, akin.isSome_demultiplexer?_eq]
  exact sole node issued first layer second otherLayer

end Common

/-! ### Changes of both -/

theorem modifyNode (akin : Akin own heeds left right) (node : Ref .node) (change : Node → Node) :
    Akin own heeds (left.modifyNode node change) (right.modifyNode node change) :=
  { akin with
    nodes := by
      unfold Store.modifyNode
      rw [akin.nodes] }

theorem modifyFork (akin : Akin own heeds left right) (fork : Ref .fork) (change : Fork → Fork) :
    Akin own heeds (left.modifyFork fork change) (right.modifyFork fork change) :=
  { akin with
    forks := by
      unfold Store.modifyFork
      rw [akin.forks] }

theorem putCluster (akin : Akin own heeds left right) (network name : String)
    (cluster : Cluster) :
    Akin own heeds (left.putCluster network name cluster)
      (right.putCluster network name cluster) :=
  { akin with
    networks := by
      unfold Store.putCluster
      rw [akin.networks] }

theorem modifyAgent (akin : Akin own heeds left right) (agent : Ref .agent)
    (change : Agent → Agent) :
    Akin own heeds (left.modifyAgent agent change) (right.modifyAgent agent change) :=
  { akin with
    agents := fun other inside => (akin.agents other inside).modify agent change }

/-- The same may be changed of a stage in both, if what is left of it does not depend on what
is not. -/
theorem modifyStage
    {stage : Ref .stage}
    {change : Stage → Stage}
    (akin : Akin own heeds left right)
    (commutes : ∀ first second : Stage,
      second.outline (heeds stage) = first.outline (heeds stage) →
        (change second).outline (heeds stage) = (change first).outline (heeds stage)) :
    Akin own heeds (left.modifyStage stage change) (right.modifyStage stage change) :=
  { akin with
    issued := fun other =>
      Table.issued_modify.trans ((akin.issued other).trans Table.issued_modify.symm)
    outlines := fun other => by
      unfold Store.modifyStage
      by_cases same : other = stage
      · subst same
        by_cases issued : left.stages.Issued other
        · rw [Table.get_modify_self issued, Table.get_modify_self ((akin.issued other).mpr issued)]
          exact commutes _ _ (akin.outlines other)
        · have notRight := mt (akin.issued other).mp issued
          rw [Table.get_of_not_issued (mt Table.issued_modify.mp issued),
            Table.get_of_not_issued (mt Table.issued_modify.mp notRight)]
      · rw [Table.get_modify_of_ne same, Table.get_modify_of_ne same]
        exact akin.outlines other
    stages := fun other inside =>
      ((akin.sameIn.stages other inside).modify stage change).content }

theorem recordStage (akin : Akin own heeds left right) (stage : Ref .stage) (entry : StageEntry) :
    Akin own heeds
      (left.modifyStage stage fun record => { record with entries := entry :: record.entries })
      (right.modifyStage stage fun record =>
        { record with entries := entry :: record.entries }) := by
  refine akin.modifyStage fun first second same => ?_
  have entries := congrArg Stage.entries same
  change second.entries.filter (heeds stage) = first.entries.filter (heeds stage) at entries
  change { second.outline (heeds stage) with
      entries := (entry :: second.entries).filter (heeds stage) } =
    { first.outline (heeds stage) with
      entries := (entry :: first.entries).filter (heeds stage) }
  rw [same, List.filter_cons, List.filter_cons, entries]

/-! ### Changes of one -/

/-- What is changed of a stage outside leaves a store akin to what it was, if what is left of
the stage is the same. -/
theorem of_modifyStage
    {stage : Ref .stage}
    {change : Stage → Stage}
    (outside : stage ∉ own.stages)
    (unseen : ∀ record : Stage,
      (change record).outline (heeds stage) = record.outline (heeds stage))
    (store : Store) :
    Akin own heeds store (store.modifyStage stage change) where
  toSameTables := ⟨rfl, rfl, rfl, rfl, rfl⟩
  issued _ := Table.issued_modify
  outlines other := by
    by_cases same : other = stage
    · subst same
      exact Table.read_modify (Stage.outline (heeds other)) unseen store.stages other other
    · unfold Store.modifyStage
      rw [Table.get_modify_of_ne same]
  stages other inside :=
    Table.get_modify_of_ne (ne_of_mem_of_not_mem inside outside) store.stages change
  agents agent _ := .refl agent _

theorem of_modifyAgent
    {agent : Ref .agent}
    (outside : agent ∉ own.agents)
    (store : Store)
    (change : Agent → Agent) :
    Akin own heeds store (store.modifyAgent agent change) :=
  { refl store with
    agents := fun _ inside =>
      .of_modify_ne (ne_of_mem_of_not_mem inside outside) store.agents change }

end Akin

end Store

end ChannelMux
