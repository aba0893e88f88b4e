import ChannelMux.Proofs.Delivery.Calm
import ChannelMux.Proofs.Network.Action
import ChannelMux.Proofs.Network.Membership

/-!
Contract: what is done with a network beside traffic, joining and leaving.

Owns the actions that are calm, which make quiet agents and transparent stages only. Owns
what an action leaves alone that neither carries traffic nor lets a node join or leave a
cluster: no node enters another status, no cluster changes, no agent is told anything, and
calm stores stay calm.
-/

namespace ChannelMux

/-- What is where a node is: its network and address, its status and its cluster. -/
def Node.seat (node : Node) : Node :=
  { node with
    name := ""
    pipeline := ⟨0⟩
    view? := none
    listeners := []
    nextToken := 0
    counters := {} }

/-- Who is made is quiet, and which stage is made is transparent. -/
def Action.IsCalm : Action → Prop
  | .addAgent manner => manner.Quiet
  | .addStage _ conduct => conduct.Transparent
  | _ => True

/-- Whether an action lets no traffic in from outside. -/
def Action.isInside : Action → Bool
  | .travel _ => false
  | .receive _ _ => false
  | _ => true

namespace Store

/-- Nodes stay where they are, and forks that last have the status that they had, or that of
their node. -/
structure Unmoved (before after : Store) : Prop where
  nodes : Table.Keeps Node.seat before.nodes after.nodes
  networks : after.networks = before.networks
  forks : ∀ fork, after.isForkAlive fork = true →
    (before.isForkAlive fork = true ∧
      (after.forks.get fork).node = (before.forks.get fork).node ∧
      (after.forks.get fork).status = (before.forks.get fork).status) ∨
    (after.forks.get fork).status = (after.nodes.get (after.forks.get fork).node).status

namespace Unmoved

variable {before after : Store}

theorem status_eq (unmoved : Unmoved before after) {node : Ref .node}
    (issued : before.nodes.Issued node) :
    (after.nodes.get node).status = (before.nodes.get node).status := by
  have fields := congrArg Node.status (unmoved.nodes node issued).2
  exact fields

theorem agreed (unmoved : Unmoved before after) (wired : before.Wired)
    (agreed : before.Agreed) :
    after.Agreed where
  listed := by
    have clusters (network name : String) :
        after.cluster network name = before.cluster network name := by
      unfold Store.cluster
      rw [unmoved.networks]
    refine ⟨?_, ?_⟩
    · intro network name member isMember
      rw [clusters] at isMember
      obtain ⟨issued, inNetwork, status, cluster, address⟩ :=
        agreed.listed.seated network name member isMember
      obtain ⟨still, same⟩ := unmoved.nodes member.node issued
      have sameNetwork := congrArg Node.network same
      have sameStatus := congrArg Node.status same
      have sameCluster := congrArg Node.cluster? same
      have sameAddress := congrArg Node.address same
      exact ⟨still, sameNetwork.trans inNetwork, sameStatus.trans status,
        sameCluster.trans cluster, sameAddress.trans address⟩
    · intro network name
      rw [clusters]
      exact agreed.listed.once network name
  mirrors := by
    intro fork alive
    rcases unmoved.forks fork alive with old | mirrors
    · obtain ⟨wasAlive, sameNode, sameStatus⟩ := old
      have issued := (wired.forks fork (Table.issued_of_isNamed wasAlive)).node
      rw [sameNode, sameStatus, unmoved.status_eq issued]
      exact agreed.mirrors fork wasAlive
    · exact mirrors

/-- What is recorded and counted moves nobody. -/
theorem of_shape_eq (same : after.shape = before.shape) : Unmoved before after where
  nodes node issued := by
    have skeleton := skeleton_eq_of_shape_eq same
    have seats := congrArg Node.seat (bare_node_eq same node)
    exact ⟨(issued_node_iff skeleton node).mpr issued, seats⟩
  networks := networks_eq same
  forks fork alive := by
    rw [isForkAlive_eq (skeleton_eq_of_shape_eq same)] at alive
    rw [forks_eq same]
    exact Or.inl ⟨alive, rfl, rfl⟩

end Unmoved

/-- Nobody is moved or told anything, and who is added is quiet and transparent. -/
structure Undisturbed (before after : Store) : Prop extends Unmoved before after where
  agents : Table.Keeps id before.agents after.agents
  quiet : ∀ agent, after.agents.get agent = before.agents.get agent ∨
    (after.agents.get agent).manner.Quiet
  stages : ∀ stage conduct, (after.stages.get stage).role = .custom conduct →
    (before.stages.get stage).role = .custom conduct ∨ conduct.Transparent

namespace Undisturbed

variable {before after : Store}

theorem refl (store : Store) : Undisturbed store store where
  nodes := Table.Keeps.refl _ _
  networks := rfl
  forks _ alive := Or.inl ⟨alive, rfl, rfl⟩
  agents := Table.Keeps.refl _ _
  quiet _ := Or.inl rfl
  stages _ _ custom := Or.inl custom

theorem calm (undisturbed : Undisturbed before after) (calm : Calm before) : Calm after where
  agents agent := by
    rcases undisturbed.quiet agent with same | quiet
    · rw [same]
      exact calm.agents agent
    · exact quiet
  stages stage conduct custom := by
    rcases undisturbed.stages stage conduct custom with old | transparent
    · exact calm.stages stage conduct old
    · exact transparent

theorem trans {between : Store} (first : Undisturbed before between)
    (second : Undisturbed between after) (wired : between.Wired) :
    Undisturbed before after where
  nodes := first.nodes.trans second.nodes
  networks := second.networks.trans first.networks
  forks fork alive := by
    rcases second.forks fork alive with old | mirrors
    · obtain ⟨wasAlive, sameNode, sameStatus⟩ := old
      rcases first.forks fork wasAlive with older | mirrored
      · obtain ⟨wasAliveBefore, sameNodeBefore, sameStatusBefore⟩ := older
        exact Or.inl ⟨wasAliveBefore, sameNode.trans sameNodeBefore,
          sameStatus.trans sameStatusBefore⟩
      · have issued := (wired.forks fork (Table.issued_of_isNamed wasAlive)).node
        rw [sameNode, sameStatus, second.status_eq issued]
        exact Or.inr mirrored
    · exact Or.inr mirrors
  agents := first.agents.trans second.agents
  quiet agent := by
    rcases second.quiet agent with same | quiet
    · rw [same]
      exact first.quiet agent
    · exact Or.inr quiet
  stages stage conduct custom := by
    rcases second.stages stage conduct custom with old | transparent
    · exact first.stages stage conduct old
    · exact Or.inr transparent

end Undisturbed

/-! ### Single changes -/

section Changes

variable {store : Store}

theorem undisturbed_modifyNode
    {change : Node → Node}
    (kept : ∀ record, (change record).seat = record.seat)
    (store : Store)
    (node : Ref .node) :
    Undisturbed store (store.modifyNode node change) :=
  { Undisturbed.refl store with
    nodes := Table.keeps_modify _ kept _ _
    forks := fun _ alive => Or.inl ⟨alive, rfl, rfl⟩ }

theorem undisturbed_nameNode (store : Store) (node : Ref .node) (name : String) :
    Undisturbed store (store.nameNode node name) :=
  { Undisturbed.refl store with
    nodes := Table.keeps_name _ _ _ _
    forks := fun _ alive => Or.inl ⟨alive, rfl, rfl⟩ }

theorem undisturbed_dropNode (store : Store) (name : String) :
    Undisturbed store (store.dropNode name) :=
  { Undisturbed.refl store with
    nodes := Table.keeps_forget _ _ _
    forks := fun _ alive => Or.inl ⟨alive, rfl, rfl⟩ }

theorem undisturbed_addNode (store : Store) (name : String) (address : Address)
    (network : String) (stages : List (Ref .stage)) :
    Undisturbed store (store.addNode name address network stages).2 :=
  { Undisturbed.refl store with
    nodes := Table.keeps_add _ _ _
    forks := fun _ alive => Or.inl ⟨alive, rfl, rfl⟩ }

theorem undisturbed_addAgent {manner : Manner} (quiet : manner.Quiet) (store : Store) :
    Undisturbed store (store.addAgent { manner := manner }).2 :=
  { Undisturbed.refl store with
    forks := fun _ alive => Or.inl ⟨alive, rfl, rfl⟩
    agents := Table.keeps_add _ _ _
    quiet := by
      intro agent
      rcases Table.get_add_cases store.agents { manner := manner } agent with old | isNew
      · exact Or.inl old
      · right
        change ((store.agents.add { manner := manner }).get agent).manner.Quiet
        rw [isNew]
        exact quiet }

theorem undisturbed_addStage (name : String) {conduct : Conduct}
    (transparent : conduct.Transparent) (store : Store) :
    Undisturbed store (store.addStage { name := name, role := .custom conduct }).2 :=
  { Undisturbed.refl store with
    forks := fun _ alive => Or.inl ⟨alive, rfl, rfl⟩
    stages := by
      intro stage other custom
      change ((store.stages.add { name := name, role := .custom conduct }).get stage).role =
        .custom other at custom
      rcases Table.get_add_cases store.stages { name := name, role := .custom conduct } stage
        with old | isNew
      · rw [old] at custom
        exact Or.inl custom
      · rw [isNew] at custom
        cases custom
        exact Or.inr transparent }

theorem undisturbed_splice {after : Store} (splice : Splice store after) :
    Undisturbed store after where
  nodes := by
    rw [splice.nodes]
    exact Table.Keeps.refl _ _
  networks := splice.networks
  forks fork alive := by
    unfold isForkAlive at alive ⊢
    rw [splice.forks] at alive ⊢
    exact Or.inl ⟨alive, rfl, rfl⟩
  agents := by
    rw [splice.agents]
    exact Table.Keeps.refl _ _
  quiet agent := by
    rw [splice.agents]
    exact Or.inl rfl
  stages stage conduct custom := Or.inl (splice.customs stage conduct custom)

theorem undisturbed_enroll (store : Store) (record : Fork) :
    Undisturbed store (store.enroll record) :=
  { Undisturbed.refl store with
    nodes := by
      apply Table.keeps_modify
      intro _
      rfl
    forks := by
      intro fork alive
      rw [isForkAlive_enroll] at alive
      rw [fork_enroll_of_issued (Table.issued_of_isNamed alive)]
      exact Or.inl ⟨alive, rfl, rfl⟩ }

theorem undisturbed_modifyFork
    {change : Fork → Fork}
    (kept : ∀ record, (change record).node = record.node ∧
      (change record).status = record.status)
    (store : Store)
    (fork : Ref .fork) :
    Undisturbed store (store.modifyFork fork change) :=
  { Undisturbed.refl store with
    forks := by
      intro other alive
      unfold isForkAlive modifyFork at alive
      rw [Table.isNamed_modify] at alive
      refine Or.inl ⟨alive, ?_, ?_⟩
      · exact Table.read_modify Fork.node (fun record => (kept record).1) _ _ _
      · exact Table.read_modify Fork.status (fun record => (kept record).2) _ _ _ }

/-- Knowing a fork by a name that lasts already or has the status of its node. -/
theorem undisturbed_nameForks
    {fork : Ref .fork}
    (known : store.isForkAlive fork = true ∨ (store.forks.get fork).status =
      (store.nodes.get (store.forks.get fork).node).status)
    (name : String) :
    Undisturbed store { store with forks := store.forks.name fork name } :=
  { Undisturbed.refl store with
    forks := by
      intro other alive
      dsimp only
      rw [Table.get_name]
      rcases Table.isNamed_of_isNamed_name alive with same | wasAlive
      · rw [same]
        rcases known with lasts | mirrors
        · exact Or.inl ⟨lasts, rfl, rfl⟩
        · exact Or.inr mirrors
      · exact Or.inl ⟨wasAlive, rfl, rfl⟩ }

theorem undisturbed_forgetForks (store : Store) (name : String) :
    Undisturbed store { store with forks := store.forks.forget name } :=
  { Undisturbed.refl store with
    forks := by
      intro other alive
      dsimp only
      rw [Table.get_forget]
      exact Or.inl ⟨Table.isNamed_of_isNamed_forget alive, rfl, rfl⟩ }

theorem undisturbed_retireFork (store : Store) (fork : Ref .fork) :
    Undisturbed store (store.retireFork fork) := by
  unfold retireFork
  split
  · exact Undisturbed.refl store
  · apply undisturbed_modifyNode
    intro _
    rfl

theorem undisturbed_nameFork
    {fork : Ref .fork}
    (wired : store.Wired)
    (issued : store.forks.Issued fork)
    (bound : store.Bound fork)
    (known : store.isForkAlive fork = true ∨ (store.forks.get fork).status =
      (store.nodes.get (store.forks.get fork).node).status)
    (name : String) :
    Undisturbed store (store.nameFork fork name) := by
  have renamed := undisturbed_nameForks known name
  unfold nameFork
  cases store.forks.named? name with
  | none => exact renamed
  | some former =>
      have renamedWired := (growth_nameForks issued bound name).wired wired
      exact renamed.trans (undisturbed_retireFork _ former) renamedWired

theorem undisturbed_dropFork (wired : store.Wired) (name : String) :
    Undisturbed store (store.dropFork name) := by
  unfold dropFork
  cases store.forks.named? name with
  | none => exact Undisturbed.refl store
  | some former =>
      have forgottenWired := (growth_forgetForks name).wired wired
      exact (undisturbed_forgetForks store name).trans (undisturbed_retireFork _ former)
        forgottenWired

end Changes

/-! ### Actions -/

/-- Building a fork disturbs nothing, and the fork has the status of its node. -/
theorem undisturbed_buildFork
    {store built : Store}
    {plan : ForkPlan}
    {fork : Ref .fork}
    (wired : store.Wired)
    (nodeAlive : plan.node?.all store.isNodeAlive = true)
    (left : plan.node?.all store.canSubscribe = true)
    (customs : ∀ stage ∈ plan.stages, store.IsCustom stage)
    (isBuilt : store.buildFork plan = .ok (fork, built)) :
    Undisturbed store built ∧ (built.forks.get fork).status =
      (built.nodes.get (built.forks.get fork).node).status := by
  obtain ⟨stacked, record, splice, enrollable, status, isNext, same⟩ :=
    buildFork_enrolls wired nodeAlive left customs isBuilt
  subst isNext
  subst same
  have enrolled := undisturbed_enroll stacked record
  refine ⟨(undisturbed_splice splice).trans enrolled splice.wired, ?_⟩
  rw [fork_enroll_next, enrolled.status_eq enrollable.node, splice.nodes]
  exact status

/-- What neither carries traffic nor calls an operation disturbs nothing. -/
theorem undisturbed_act
    {store after : Store}
    {action : Action}
    (wired : store.Wired)
    (calm : action.IsCalm)
    (still : action.runs = false)
    (acted : store.act? action = some after) :
    Undisturbed store after := by
  cases step_of_act wired acted with
  | refused => exact Undisturbed.refl store
  | addAgent manner => exact undisturbed_addAgent calm store
  | addStage name conduct => exact undisturbed_addStage name calm store
  | addNode customs label name address network =>
      exact (undisturbed_addNode store name address network _).trans
        (undisturbed_nameNode _ _ label) (wired_addNode wired customs)
  | holdNode _ label => exact undisturbed_nameNode store _ label
  | dropNode label => exact undisturbed_dropNode store label
  | setReceiver => exact { Undisturbed.refl store with }
  | insertStage => exact { Undisturbed.refl store with }
  | ensureDemultiplexer splice => exact undisturbed_splice splice
  | ensureStack splice => exact undisturbed_splice splice
  | buildFork nodeAlive left customs isBuilt label =>
      obtain ⟨builtWired, issued, bound⟩ := wired_buildFork wired nodeAlive left customs isBuilt
      obtain ⟨undisturbed, mirrors⟩ := undisturbed_buildFork wired nodeAlive left customs isBuilt
      exact undisturbed.trans
        (undisturbed_nameFork builtWired issued bound (Or.inr mirrors) label) builtWired
  | holdFork alive label =>
      exact undisturbed_nameFork wired (Table.issued_of_isNamed alive) (wired.bound _ alive)
        (Or.inl alive) label
  | dropFork label => exact undisturbed_dropFork wired label
  | setForkReceiver =>
      apply undisturbed_modifyFork
      intro _
      exact ⟨rfl, rfl⟩
  | listen =>
      apply undisturbed_modifyNode
      intro _
      rfl
  | unlisten =>
      apply undisturbed_modifyNode
      intro _
      rfl
  | travel => cases still
  | receive => cases still
  | call => cases still

end Store

end ChannelMux
