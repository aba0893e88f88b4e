import ChannelMux.Proofs.Network.Action

/-!
Contract: a stack says truly whether it has stages of its own.

Owns the invariant that the mark on a stack, by which a fork decides whether to name the
group itself, is set just when nothing stands between the bottom and top of the stack, and
the proof that every action keeps it so.

The mark is set once, when the stack is made. It stays true because a pipeline that hangs on
another one is never edited: only the pipelines of nodes are, and those lead to the nodes.
-/

namespace ChannelMux.Store

/-- A stack hangs on a place in some pipeline, and says whether there is anything between its
own bottom and top. -/
structure StackCandid (store : Store) (stack : Ref .stack) : Prop where
  issued : store.pipelines.Issued (store.groups.get stack).pipeline
  hangs : ∃ shared hub, (store.pipelines.get (store.groups.get stack).pipeline).outlet? =
    some (.anchor shared hub)
  marked : (store.groups.get stack).isPassthrough = true ↔
    (store.stagesOf (store.groups.get stack).pipeline).length = 2

/-- What stacks say of their stages is so. -/
def Candid (store : Store) : Prop :=
  ∀ stack, store.groups.Issued stack → store.StackCandid stack

/-- No stack is made, those there are keep their pipelines and what they say, and pipelines
that hang on others keep their ties. -/
structure SameStacks (before after : Store) : Prop where
  groups : ∀ stack, after.groups.Issued stack → before.groups.Issued stack ∧
    (after.groups.get stack).pipeline = (before.groups.get stack).pipeline ∧
    (after.groups.get stack).isPassthrough = (before.groups.get stack).isPassthrough
  hanging : ∀ pipeline shared hub, before.pipelines.Issued pipeline →
    (before.pipelines.get pipeline).outlet? = some (.anchor shared hub) →
      after.pipelines.Issued pipeline ∧
        (after.pipelines.get pipeline).ties = (before.pipelines.get pipeline).ties

/-- A stack is still candid if its pipeline keeps its ties. -/
theorem StackCandid.of_ties
    {before after : Store}
    {stack : Ref .stack}
    (candid : before.StackCandid stack)
    (samePipeline : (after.groups.get stack).pipeline = (before.groups.get stack).pipeline)
    (sameMark : (after.groups.get stack).isPassthrough =
      (before.groups.get stack).isPassthrough)
    (issued : after.pipelines.Issued (before.groups.get stack).pipeline)
    (ties : (after.pipelines.get (before.groups.get stack).pipeline).ties =
      (before.pipelines.get (before.groups.get stack).pipeline).ties) :
    after.StackCandid stack := by
  have sameOutlet := congrArg Pipeline.outlet? ties
  have sameStages := congrArg Pipeline.stages ties
  change (after.pipelines.get (before.groups.get stack).pipeline).outlet? =
    (before.pipelines.get (before.groups.get stack).pipeline).outlet? at sameOutlet
  change after.stagesOf (before.groups.get stack).pipeline =
    before.stagesOf (before.groups.get stack).pipeline at sameStages
  refine ⟨?_, ?_, ?_⟩
  · rw [samePipeline]
    exact issued
  · rw [samePipeline, sameOutlet]
    exact candid.hangs
  · rw [samePipeline, sameMark, sameStages]
    exact candid.marked

namespace SameStacks

variable {before after : Store}

theorem candid (same : SameStacks before after) (candid : before.Candid) : after.Candid := by
  intro stack issued
  obtain ⟨issuedBefore, samePipeline, sameMark⟩ := same.groups stack issued
  have candidBefore := candid stack issuedBefore
  obtain ⟨shared, hub, hangs⟩ := candidBefore.hangs
  obtain ⟨still, ties⟩ := same.hanging _ shared hub candidBefore.issued hangs
  exact candidBefore.of_ties samePipeline sameMark still ties

end SameStacks

namespace Candid

variable {before after : Store} (candid : before.Candid)

include candid

theorem of_keeps
    (groups : after.groups = before.groups)
    (pipelines : Table.Keeps Pipeline.ties before.pipelines after.pipelines) :
    after.Candid := by
  refine SameStacks.candid ⟨?_, fun pipeline _ _ issued _ => pipelines pipeline issued⟩ candid
  intro stack issued
  rw [groups] at issued ⊢
  exact ⟨issued, rfl, rfl⟩

theorem of_eq
    (groups : after.groups = before.groups)
    (pipelines : after.pipelines = before.pipelines) :
    after.Candid := by
  refine candid.of_keeps groups ?_
  rw [pipelines]
  exact Table.Keeps.refl _ _

theorem of_skeleton_eq (same : after.skeleton = before.skeleton) : after.Candid :=
  candid.of_eq (groups_eq same) (pipelines_eq same)

end Candid

/-! ### What is done to stacks and pipelines -/

section Changes

variable {store : Store}

theorem candid_retireFork (candid : store.Candid) (fork : Ref .fork) :
    (store.retireFork fork).Candid := by
  unfold retireFork
  split <;> exact candid.of_eq rfl rfl

theorem candid_nameFork (candid : store.Candid) (fork : Ref .fork) (name : String) :
    (store.nameFork fork name).Candid := by
  have renamed : Candid { store with forks := store.forks.name fork name } :=
    candid.of_eq rfl rfl
  unfold nameFork
  split
  · exact candid_retireFork renamed _
  · exact renamed

theorem candid_dropFork (candid : store.Candid) (name : String) :
    (store.dropFork name).Candid := by
  have forgotten : Candid { store with forks := store.forks.forget name } :=
    candid.of_eq rfl rfl
  unfold dropFork
  split
  · exact candid_retireFork forgotten _
  · exact candid

/-- The pipeline of a node leads to the node, so that an insertion there is into no stack. -/
theorem candid_insertAt
    {node : Ref .node}
    {index : Nat}
    {stage : Ref .stage}
    (candid : store.Candid)
    (wired : store.Wired)
    (issued : store.nodes.Issued node) :
    (store.insertAt (store.nodes.get node).pipeline index stage).Candid := by
  have edited : SameStacks store
      (store.insertAt (store.nodes.get node).pipeline index stage) := by
    refine ⟨fun stack stackIssued => ⟨stackIssued, rfl, rfl⟩, ?_⟩
    intro pipeline shared hub pipelineIssued hangs
    refine ⟨Table.issued_modify.mpr pipelineIssued, ?_⟩
    have different : pipeline ≠ (store.nodes.get node).pipeline := by
      intro same
      rw [same, (wired.nodes node issued).outlet] at hangs
      cases hangs
    unfold insertAt modifyPipeline
    rw [Table.get_modify_of_ne different]
  exact edited.candid candid

theorem candid_ensureDemultiplexer
    {node : Ref .node}
    {create : Bool}
    {placement : Placement}
    {hub : Ref .stage}
    {spliced : Store}
    (candid : store.Candid)
    (wired : store.Wired)
    (issued : store.nodes.Issued node)
    (ensured : store.ensureDemultiplexer (store.nodes.get node).pipeline create placement =
      .ok (hub, spliced)) :
    spliced.Candid := by
  rcases ensureDemultiplexer_cases ensured with found | inserted
  · obtain ⟨_, rfl⟩ := found
    exact candid
  · obtain ⟨_, rfl, index, _, rfl⟩ := inserted
    have added : (store.addStage .freshDemultiplexer).2.Candid := candid.of_eq rfl rfl
    exact candid_insertAt added
      ((growth_addStage store .freshDemultiplexer).wired wired) issued

/-- A stack that has just been made has two stages besides those that it was made of. -/
theorem stackCandid_makeStack
    (shared : Ref .pipeline)
    (hub : Ref .stage)
    (group : String)
    (stages : List (Ref .stage)) :
    (store.makeStack shared hub group stages).2.StackCandid store.groups.next := by
  have record : (store.makeStack shared hub group stages).2.groups.get store.groups.next =
      { group := group, pipeline := store.pipelines.next, isPassthrough := stages.isEmpty } :=
    Table.get_add_next _ _
  have pipeline : ∃ bottom top,
      (store.makeStack shared hub group stages).2.pipelines.get store.pipelines.next =
        { name := "fork:" ++ group
          stages := bottom :: stages ++ [top]
          outlet? := some (.anchor shared hub) } := ⟨_, _, Table.get_add_next _ _⟩
  obtain ⟨bottom, top, pipeline⟩ := pipeline
  refine ⟨?_, ⟨shared, hub, ?_⟩, ?_⟩
  · rw [record]
    exact Table.issued_add_next _ _
  · rw [record, pipeline]
  · unfold stagesOf
    rw [record, pipeline]
    cases stages <;> simp

theorem candid_makeStack
    (candid : store.Candid)
    (shared : Ref .pipeline)
    (hub : Ref .stage)
    (group : String)
    (stages : List (Ref .stage)) :
    (store.makeStack shared hub group stages).2.Candid := by
  have keeps : Table.Keeps Pipeline.ties store.pipelines
      (store.makeStack shared hub group stages).2.pipelines := Table.keeps_add _ _ _
  intro stack issued
  rcases Table.issued_add.mp issued with old | isNew
  · have sameRecord : (store.makeStack shared hub group stages).2.groups.get stack =
        store.groups.get stack := Table.get_add_of_issued old _
    obtain ⟨still, ties⟩ := keeps _ (candid stack old).issued
    exact (candid stack old).of_ties (by rw [sameRecord]) (by rw [sameRecord]) still ties
  · rw [isNew]
    exact stackCandid_makeStack shared hub group stages

theorem candid_ensureStack
    {hub : Ref .stage}
    {shared : Ref .pipeline}
    {group : String}
    {stages : List (Ref .stage)}
    {requireFresh : Bool}
    {stack : Ref .stack}
    {stacked : Store}
    (candid : store.Candid)
    (ensured : store.ensureStack hub shared group stages requireFresh = .ok (stack, stacked)) :
    stacked.Candid := by
  rcases ensureStack_cases ensured with found | made
  · obtain ⟨_, rfl, _⟩ := found
    exact candid
  · obtain ⟨_, _, rfl⟩ := made
    exact (candid_makeStack candid shared hub group stages).of_eq rfl rfl

/-- A stack that a fork is bound in gets another member, and that is all. -/
theorem candid_enroll (candid : store.Candid) (record : Fork) :
    (store.enroll record).Candid := by
  have bound : SameStacks store (store.enroll record) := by
    refine ⟨fun stack issued => ⟨Table.issued_modify.mp issued, ?_, ?_⟩,
      fun _ _ _ issued _ => ⟨issued, rfl⟩⟩
    · refine Table.read_modify GroupStack.pipeline ?_ _ _ _
      intro _
      rfl
    · refine Table.read_modify GroupStack.isPassthrough ?_ _ _ _
      intro _
      rfl
  exact bound.candid candid

theorem candid_buildFork
    {plan : ForkPlan}
    {fork : Ref .fork}
    {built : Store}
    (candid : store.Candid)
    (wired : store.Wired)
    (nodeAlive : plan.node?.all store.isNodeAlive = true)
    (isBuilt : store.buildFork plan = .ok (fork, built)) :
    built.Candid := by
  obtain ⟨node, group, member, hub, spliced, stack, stacked, hasNode, _, _, _, _, ensuredHub,
    ensuredStack, _, _, rfl⟩ := buildFork_cases isBuilt
  rw [hasNode] at nodeAlive
  have issued := wired.issued_of_isNodeAlive nodeAlive
  have candidSpliced := candid_ensureDemultiplexer candid wired issued ensuredHub
  exact candid_enroll (candid_ensureStack candidSpliced ensuredStack) _

end Changes

/-! ### Every action -/

theorem candid_act_ensureDemultiplexer
    {store after : Store}
    {node : Ref .node}
    {create : Bool}
    {placement : Placement}
    (wired : store.Wired)
    (candid : store.Candid)
    (acted : store.act? (.ensureDemultiplexer node create placement) = some after) :
    after.Candid := by
  obtain ⟨alive, acted⟩ := given_eq_some.mp acted
  cases acted
  cases ensured : store.ensureDemultiplexer (store.nodes.get node).pipeline create placement with
  | error refusal => exact candid
  | ok made =>
      exact candid_ensureDemultiplexer candid wired (wired.issued_of_isNodeAlive alive) ensured

theorem candid_act_ensureStack
    {store after : Store}
    {node : Ref .node}
    {group : String}
    {stages : List (Ref .stage)}
    {requireFresh : Bool}
    (candid : store.Candid)
    (acted : store.act? (.ensureStack node group stages requireFresh) = some after) :
    after.Candid := by
  obtain ⟨_, acted⟩ := given_eq_some.mp acted
  cases found : store.hub? node with
  | none =>
      simp only [found] at acted
      cases acted
      exact candid
  | some hub =>
      simp only [found] at acted
      cases acted
      cases ensured : store.ensureStack hub (store.nodes.get node).pipeline group stages
        requireFresh with
      | error refusal => exact candid
      | ok made => exact candid_ensureStack candid ensured

/-- Every action keeps it so that stacks say truly what they have. -/
theorem candid_act
    {store after : Store}
    {action : Action}
    (wired : store.Wired)
    (candid : store.Candid)
    (acted : store.act? action = some after) :
    after.Candid := by
  cases step_of_act wired acted with
  | refused => exact candid
  | addAgent manner => exact candid.of_eq rfl rfl
  | addStage name conduct => exact candid.of_eq rfl rfl
  | addNode _ label => exact candid.of_keeps rfl (Table.keeps_add _ _ _)
  | holdNode _ label => exact candid.of_eq rfl rfl
  | dropNode label => exact candid.of_eq rfl rfl
  | setReceiver _ agent =>
      refine candid.of_keeps rfl (Table.keeps_modify Pipeline.ties ?_ _ _)
      intro _
      rfl
  | insertStage issued _ index => exact candid_insertAt candid wired issued
  -- What ensuring does in particular is not seen in the step that it makes.
  | ensureDemultiplexer _ => exact candid_act_ensureDemultiplexer wired candid acted
  | ensureStack _ => exact candid_act_ensureStack candid acted
  | buildFork nodeAlive _ _ isBuilt label =>
      exact candid_nameFork (candid_buildFork candid wired nodeAlive isBuilt) _ label
  | holdFork _ label => exact candid_nameFork candid _ label
  | dropFork label => exact candid_dropFork candid label
  | setForkReceiver => exact candid.of_eq rfl rfl
  | listen _ _ agent => exact candid.of_eq rfl rfl
  | unlisten _ => exact candid.of_eq rfl rfl
  | travel finished => exact candid.of_skeleton_eq (skeleton_eq_of_travel finished)
  | receive finished => exact candid.of_skeleton_eq (skeleton_eq_of_receive finished)
  | call _ finished => exact candid.of_skeleton_eq (skeleton_eq_of_call finished)

theorem candid_of_reachable
    {permits : Action → Prop}
    {store : Store}
    (reachable : Reachable permits store) :
    store.Candid := by
  induction reachable with
  | empty =>
      intro stack issued
      exact absurd issued (Nat.not_lt_zero _)
  | step reachable _ acted inductionHypothesis =>
      exact candid_act (wired_of_reachable reachable) inductionHypothesis acted

end ChannelMux.Store
