import Mathlib.Data.List.Find
import ChannelMux.Proofs.Network.Wiring

/-!
Contract: additions that leave the wiring alone.

Owns the changes of a store that add pipelines, stages and stacks which nothing refers to
yet, or concern what is not wired at all, and proves that they keep everything wired. So it
is with everything that runs, since that leaves the skeleton as it is.
-/

namespace ChannelMux.Store

/-- Things are added, and what was there keeps its ties. Forks may end or be subscribed no
more once they have ended. -/
structure Growth (before after : Store) : Prop where
  pipelines : Table.Keeps Pipeline.ties before.pipelines after.pipelines
  stages : Table.Keeps (fun stage => stage.role.bare) before.stages after.stages
  groups : Table.Keeps id before.groups after.groups
  newGroups : ∀ stack, after.groups.Issued stack →
    before.groups.Issued stack ∨ (after.groups.get stack).members = .empty
  nodes : Table.Keeps Node.pipeline before.nodes after.nodes
  noNewNodes : ∀ node, after.nodes.Issued node → before.nodes.Issued node
  tokens : ∀ node, (before.nodes.get node).subscriptions ≤ (after.nodes.get node).subscriptions
  forks : Table.Keeps Fork.ties before.forks after.forks
  noNewForks : ∀ fork, after.forks.Issued fork → before.forks.Issued fork
  subscribed : ∀ node token fork, (token, .fork fork) ∈ (after.nodes.get node).listeners →
    (token, .fork fork) ∈ (before.nodes.get node).listeners
  alive : ∀ fork, after.isForkAlive fork = true →
    before.isForkAlive fork = true ∨ before.Bound fork ∧ before.forks.Issued fork
  listening : ∀ node token fork, after.isForkAlive fork = true →
    before.forks.Issued fork → (before.forks.get fork).token = token →
      (before.forks.get fork).node = node →
        (token, .fork fork) ∈ (before.nodes.get node).listeners →
          (token, .fork fork) ∈ (after.nodes.get node).listeners

theorem roleKept_of_bare_eq {before after : Role} (same : after.bare = before.bare) :
    RoleKept before after where
  custom conduct custom := by
    rw [← Role.bare_eq_custom_iff, same, Role.bare_eq_custom_iff]
    exact custom
  groupBottom group bottom := by
    rw [← Role.bare_eq_groupBottom_iff, same, Role.bare_eq_groupBottom_iff]
    exact bottom
  groupTop stack top := by
    rw [← Role.bare_eq_groupTop_iff, same, Role.bare_eq_groupTop_iff]
    exact top
  demultiplexer state demultiplexer := by
    subst demultiplexer
    cases after with
    | demultiplexer extended =>
        cases extended
        cases same
        exact ⟨_, rfl, fun _ _ held => held⟩
    | custom _ => cases same
    | groupBottom _ => cases same
    | groupTop _ => cases same

namespace Growth

variable {before after : Store}

theorem stagesOf_eq (growth : Growth before after) {pipeline : Ref .pipeline}
    (issued : before.pipelines.Issued pipeline) :
    after.stagesOf pipeline = before.stagesOf pipeline := by
  have ties := congrArg Pipeline.stages (growth.pipelines pipeline issued).2
  exact ties

theorem nodePipeline_eq (growth : Growth before after) {node : Ref .node}
    (issued : before.nodes.Issued node) :
    (after.nodes.get node).pipeline = (before.nodes.get node).pipeline :=
  (growth.nodes node issued).2

theorem nodeStages_eq (growth : Growth before after) (wired : before.Wired)
    {node : Ref .node} (issued : before.nodes.Issued node) :
    after.stagesOf (after.nodes.get node).pipeline =
      before.stagesOf (before.nodes.get node).pipeline := by
  rw [growth.nodePipeline_eq issued, growth.stagesOf_eq (wired.nodes node issued).pipeline]

theorem hub?_eq (growth : Growth before after) (wired : before.Wired)
    {node : Ref .node} (issued : before.nodes.Issued node) :
    after.hub? node = before.hub? node := by
  unfold hub? findDemultiplexer? findStage?
  rw [growth.nodeStages_eq wired issued]
  apply List.find?_congr
  intro stage layer
  have stageIssued := (wired.nodes node issued).layer_issued layer
  exact isSome_demultiplexer?_of_bare_eq (growth.stages stage stageIssued).2

theorem extends_ (growth : Growth before after) (wired : before.Wired) :
    Extends before after where
  pipelines := by
    intro pipeline issued
    obtain ⟨still, ties⟩ := growth.pipelines pipeline issued
    have outlets := congrArg Pipeline.outlet? ties
    exact ⟨still, outlets⟩
  stages := by
    intro stage issued
    obtain ⟨still, same⟩ := growth.stages stage issued
    exact ⟨still, roleKept_of_bare_eq same⟩
  groups := by
    intro stack issued
    obtain ⟨still, same⟩ := growth.groups stack issued
    exact ⟨still, congrArg (fun record => (record.group, record.pipeline)) same⟩
  privateStages := by
    intro shared hub group stack stackWired
    exact growth.stagesOf_eq stackWired.pipeline
  nodes := growth.nodes
  tokens node _ := growth.tokens node
  hubs := by
    intro node hub issued found
    rw [growth.hub?_eq wired issued]
    exact found
  forks := growth.forks

theorem nodeWired (growth : Growth before after) (wired : before.Wired)
    {node : Ref .node} (issued : before.nodes.Issued node) :
    after.NodeWired node := by
  have extended := growth.extends_ wired
  have nodeWired := wired.nodes node issued
  obtain ⟨pipelineIssued, sameOutlet⟩ := extended.pipelines _ nodeWired.pipeline
  refine ⟨?_, ?_, ?_, ?_, ?_⟩
  · rw [growth.nodePipeline_eq issued]
    exact pipelineIssued
  · rw [growth.nodePipeline_eq issued, sameOutlet]
    exact nodeWired.outlet
  · intro stage layer
    rw [growth.nodeStages_eq wired issued] at layer
    exact (nodeWired.layers stage layer).imp extended.isCustom extended.isSome_demultiplexer?
  · intro hub group stack found registered
    rw [growth.hub?_eq wired issued] at found
    have hubIssued := nodeWired.layer_issued (mem_of_hub? found).1
    rw [stackOf?_of_bare_eq (growth.stages hub hubIssued).2] at registered
    rw [growth.nodePipeline_eq issued]
    exact extended.stackWired (nodeWired.stackWired hub group stack found registered)
  · intro token fork listens
    obtain ⟨forkIssued, onNode, hasToken⟩ :=
      nodeWired.listeners token fork (growth.subscribed node token fork listens)
    obtain ⟨still, ties⟩ := growth.forks fork forkIssued
    have sameNode := congrArg Fork.node ties
    have sameToken := congrArg Fork.token ties
    exact ⟨still, sameNode.trans onNode, sameToken.trans hasToken⟩

theorem boundAfter (growth : Growth before after) (wired : before.Wired)
    {fork : Ref .fork} (alive : after.isForkAlive fork = true) :
    after.Bound fork := by
  have known : before.Bound fork ∧ before.forks.Issued fork := by
    rcases growth.alive fork alive with aliveBefore | bound
    · exact ⟨wired.bound fork aliveBefore, Table.issued_of_isNamed aliveBefore⟩
    · exact bound
  obtain ⟨bound, issued⟩ := known
  have ties := (growth.forks fork issued).2
  have sameNode := congrArg Fork.node ties
  have sameStack := congrArg Fork.stack ties
  have sameMember := congrArg Fork.member ties
  have sameToken := congrArg Fork.token ties
  change (after.forks.get fork).node = (before.forks.get fork).node at sameNode
  change (after.forks.get fork).stack = (before.forks.get fork).stack at sameStack
  change (after.forks.get fork).member = (before.forks.get fork).member at sameMember
  change (after.forks.get fork).token = (before.forks.get fork).token at sameToken
  obtain ⟨hub, found, registered⟩ := (wired.forks fork issued).stack
  have nodeWired := wired.nodes _ (wired.forks fork issued).node
  have stackIssued := (nodeWired.stackWired hub _ _ found registered).issued
  have sameRecord : after.groups.get (before.forks.get fork).stack =
      before.groups.get (before.forks.get fork).stack := (growth.groups _ stackIssued).2
  refine ⟨?_, ?_⟩
  · rw [sameStack, sameMember, sameRecord]
    exact bound.member
  · rw [sameNode, sameToken]
    exact growth.listening _ _ fork alive issued rfl rfl bound.listens

/-- What leaves the wiring alone keeps everything wired. -/
theorem wired (growth : Growth before after) (wired : before.Wired) : after.Wired where
  nodes node issued := growth.nodeWired wired (growth.noNewNodes node issued)
  hubs left right hub leftIssued rightIssued leftHub rightHub := by
    have leftBefore := growth.noNewNodes left leftIssued
    have rightBefore := growth.noNewNodes right rightIssued
    rw [growth.hub?_eq wired leftBefore] at leftHub
    rw [growth.hub?_eq wired rightBefore] at rightHub
    exact wired.hubs left right hub leftBefore rightBefore leftHub rightHub
  forks fork issued := by
    have issuedBefore := growth.noNewForks fork issued
    exact (growth.extends_ wired).forkWired issuedBefore (wired.forks fork issuedBefore)
  members stack member fork issued held := by
    rcases growth.newGroups stack issued with issuedBefore | new
    · have sameRecord : after.groups.get stack = before.groups.get stack :=
        (growth.groups stack issuedBefore).2
      rw [sameRecord] at held
      obtain ⟨forkIssued, inStack, underMember⟩ :=
        wired.members stack member fork issuedBefore held
      obtain ⟨still, ties⟩ := growth.forks fork forkIssued
      have sameStack := congrArg Fork.stack ties
      have sameMember := congrArg Fork.member ties
      exact ⟨still, sameStack.trans inStack, sameMember.trans underMember⟩
    · rw [new] at held
      cases held
  tokens left right leftIssued rightIssued sameNode sameToken := by
    have leftBefore := growth.noNewForks left leftIssued
    have rightBefore := growth.noNewForks right rightIssued
    have leftTies := (growth.forks left leftBefore).2
    have rightTies := (growth.forks right rightBefore).2
    have leftNode := congrArg Fork.node leftTies
    have rightNode := congrArg Fork.node rightTies
    have leftToken := congrArg Fork.token leftTies
    have rightToken := congrArg Fork.token rightTies
    refine wired.tokens left right leftBefore rightBefore ?_ ?_
    · exact leftNode.symm.trans (sameNode.trans rightNode)
    · exact leftToken.symm.trans (sameToken.trans rightToken)
  bound fork alive := growth.boundAfter wired alive

/-- What leaves the wiring alone makes no second demultiplexer in a pipeline. -/
theorem soleHubs (growth : Growth before after) (wired : before.Wired)
    (sole : before.SoleHubs) :
    after.SoleHubs := by
  intro node issued left leftLayer right rightLayer leftHub rightHub
  have issuedBefore := growth.noNewNodes node issued
  rw [growth.nodeStages_eq wired issuedBefore] at leftLayer rightLayer
  have layerIssued {stage : Ref .stage}
      (layer : stage ∈ before.stagesOf (before.nodes.get node).pipeline) :
      before.stages.Issued stage := (wired.nodes node issuedBefore).layer_issued layer
  rw [isSome_demultiplexer?_of_bare_eq (growth.stages left (layerIssued leftLayer)).2] at leftHub
  rw [isSome_demultiplexer?_of_bare_eq (growth.stages right (layerIssued rightLayer)).2]
    at rightHub
  exact sole node issuedBefore left leftLayer right rightLayer leftHub rightHub

/-- Stores of one skeleton differ in nothing that is wired. -/
theorem of_skeleton_eq (same : after.skeleton = before.skeleton) : Growth before after where
  pipelines := by
    rw [pipelines_eq same]
    exact Table.Keeps.refl _ _
  stages stage issued := ⟨(issued_stage_iff same stage).mpr issued, bare_role_eq same stage⟩
  groups := by
    rw [groups_eq same]
    exact Table.Keeps.refl _ _
  newGroups stack issued := by
    rw [groups_eq same] at issued
    exact Or.inl issued
  nodes node issued := ⟨(issued_node_iff same node).mpr issued, Store.nodePipeline_eq same node⟩
  noNewNodes node issued := (issued_node_iff same node).mp issued
  tokens node := (subscriptions_eq same node).ge
  forks fork issued := by
    refine ⟨(issued_fork_iff same fork).mpr issued, ?_⟩
    have ties := congrArg Fork.ties (still_fork_eq same fork)
    exact ties
  noNewForks fork issued := (issued_fork_iff same fork).mp issued
  subscribed node token fork listens := by
    rw [listeners_eq same] at listens
    exact listens
  alive fork alive := by
    rw [isForkAlive_eq same] at alive
    exact Or.inl alive
  listening node token fork _ _ _ _ listens := by
    rw [listeners_eq same]
    exact listens

end Growth

theorem Wired.of_skeleton_eq
    {before after : Store}
    (wired : before.Wired)
    (same : after.skeleton = before.skeleton) :
    after.Wired := (Growth.of_skeleton_eq same).wired wired

theorem SoleHubs.of_skeleton_eq
    {before after : Store}
    (sole : before.SoleHubs)
    (wired : before.Wired)
    (same : after.skeleton = before.skeleton) :
    after.SoleHubs := (Growth.of_skeleton_eq same).soleHubs wired sole

end ChannelMux.Store
