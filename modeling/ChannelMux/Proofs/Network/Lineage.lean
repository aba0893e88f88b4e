import ChannelMux.Proofs.Network.Undisturbed

/-!
Contract: what goes on as itself, and what has ended for good.

Owns what every action and every run keeps of the nodes and forks that there were: a node has
the address and the network that it was made with, a fork is over the node that it was built
over, and neither lasts again once it has ended.
-/

namespace ChannelMux

/-- Where a node can be found. -/
def Node.place (node : Node) : String × Address := (node.network, node.address)

namespace Store

/-- What there was goes on as itself, and what had ended has still ended. -/
structure Descends (before after : Store) : Prop where
  nodes : Table.Keeps Node.place before.nodes after.nodes
  named : ∀ node, before.nodes.Issued node → after.nodes.isNamed node = true →
    before.isNodeAlive node = true
  forks : Table.Keeps Fork.node before.forks after.forks
  living : ∀ fork, after.isForkAlive fork = true →
    before.isForkAlive fork = true ∨
      ¬ before.forks.Issued fork ∧
        (before.nodes.Issued (after.forks.get fork).node →
          before.isNodeAlive (after.forks.get fork).node = true)

namespace Descends

variable {before between after : Store} {node : Ref .node} {fork : Ref .fork}

theorem isForkAlive
    (descends : Descends before after)
    (issued : before.forks.Issued fork)
    (alive : after.isForkAlive fork = true) :
    before.isForkAlive fork = true :=
  (descends.living fork alive).resolve_right fun isNew => isNew.1 issued

theorem isNodeAlive
    (descends : Descends before after)
    (issued : before.nodes.Issued node)
    (alive : after.isNodeAlive node = true) :
    before.isNodeAlive node = true := by
  rcases Bool.or_eq_true_iff.mp alive with named | held
  · exact descends.named node issued named
  · -- A fork that lasts is over the node: it was there before, or has been built over it.
    obtain ⟨fork, _, holds⟩ := List.any_eq_true.mp held
    obtain ⟨forkAlive, sameNode⟩ := Bool.and_eq_true_iff.mp holds
    have overNode := eq_of_beq sameNode
    rcases descends.living fork forkAlive with wasAlive | ⟨_, overAlive⟩
    · have kept := (descends.forks fork (Table.issued_of_isNamed wasAlive)).2
      rw [← overNode, kept]
      exact isNodeAlive_of_isForkAlive wasAlive
    · rw [overNode] at overAlive
      exact overAlive issued

theorem place_eq
    (descends : Descends before after)
    (issued : before.nodes.Issued node) :
    (after.nodes.get node).network = (before.nodes.get node).network ∧
      (after.nodes.get node).address = (before.nodes.get node).address :=
  Prod.mk.inj (descends.nodes node issued).2

theorem trans
    (first : Descends before between)
    (second : Descends between after) :
    Descends before after where
  nodes := first.nodes.trans second.nodes
  named node issued named :=
    first.isNodeAlive issued (second.named node (first.nodes node issued).1 named)
  forks := first.forks.trans second.forks
  living fork alive := by
    rcases second.living fork alive with wasAlive | ⟨notIssued, overAlive⟩
    · refine (first.living fork wasAlive).imp_right fun ⟨isNew, overNode⟩ => ⟨isNew, ?_⟩
      rw [(second.forks fork (Table.issued_of_isNamed wasAlive)).2]
      exact overNode
    · refine Or.inr ⟨fun issued => notIssued (first.forks fork issued).1, fun issued => ?_⟩
      exact first.isNodeAlive issued (overAlive (first.nodes _ issued).1)

end Descends

/-! ### Single changes -/

variable {store before after : Store}

theorem isNodeAlive_of_isNamed
    {node : Ref .node}
    (named : store.nodes.isNamed node = true) :
    store.isNodeAlive node = true := Bool.or_eq_true_iff.mpr (Or.inl named)

theorem Descends.refl (store : Store) : Descends store store where
  nodes := Table.Keeps.refl _ _
  named _ _ named := isNodeAlive_of_isNamed named
  forks := Table.Keeps.refl _ _
  living _ alive := Or.inl alive

theorem descends_of_skeleton_eq (same : after.skeleton = before.skeleton) :
    Descends before after where
  nodes node issued := by
    refine ⟨(issued_node_iff same node).mpr issued, ?_⟩
    have places := congrArg Node.place (still_node_eq same node)
    exact places
  named node _ named := by
    rw [← isNodeAlive_eq same]
    exact isNodeAlive_of_isNamed named
  forks fork issued := by
    refine ⟨(issued_fork_iff same fork).mpr issued, ?_⟩
    have nodes := congrArg Fork.node (still_fork_eq same fork)
    exact nodes
  living fork alive := Or.inl ((isForkAlive_eq same fork).symm.trans alive)

theorem descends_of_splice (splice : Splice before after) : Descends before after where
  nodes := by
    rw [splice.nodes]
    exact Table.Keeps.refl _ _
  named node _ named := by
    rw [splice.nodes] at named
    exact isNodeAlive_of_isNamed named
  forks := by
    rw [splice.forks]
    exact Table.Keeps.refl _ _
  living fork alive := by
    unfold Store.isForkAlive at alive
    rw [splice.forks] at alive
    exact Or.inl alive

theorem descends_modifyNode
    {change : Node → Node}
    (kept : ∀ record, (change record).place = record.place)
    (store : Store)
    (node : Ref .node) :
    Descends store (store.modifyNode node change) :=
  { Descends.refl store with
    nodes := Table.keeps_modify _ kept _ _
    named := by
      intro other _ named
      unfold modifyNode at named
      rw [Table.isNamed_modify] at named
      exact isNodeAlive_of_isNamed named
    living := fun _ alive => Or.inl alive }

theorem descends_modifyFork
    {change : Fork → Fork}
    (kept : ∀ record, (change record).node = record.node)
    (store : Store)
    (fork : Ref .fork) :
    Descends store (store.modifyFork fork change) :=
  { Descends.refl store with
    forks := Table.keeps_modify _ kept _ _
    living := by
      intro other alive
      unfold Store.isForkAlive modifyFork at alive
      rw [Table.isNamed_modify] at alive
      exact Or.inl alive }

theorem descends_addNode (store : Store) (name : String) (address : Address)
    (network : String) (stages : List (Ref .stage)) (label : String) :
    Descends store
      ((store.addNode name address network stages).2.nameNode
        (store.addNode name address network stages).1 label) where
  nodes := (Table.keeps_add _ _ _).trans (Table.keeps_name _ _ _ _)
  named node issued named := by
    rcases Table.isNamed_of_isNamed_name named with isNew | wasNamed
    · exact absurd isNew (Table.ne_next issued)
    · change (store.nodes.add _).isNamed node = true at wasNamed
      rw [Table.isNamed_add] at wasNamed
      exact isNodeAlive_of_isNamed wasNamed
  forks := Table.Keeps.refl _ _
  living _ alive := Or.inl alive

theorem descends_nameNode
    {node : Ref .node}
    (alive : store.isNodeAlive node = true)
    (label : String) :
    Descends store (store.nameNode node label) :=
  { Descends.refl store with
    nodes := Table.keeps_name _ _ _ _
    named := by
      intro other _ named
      rcases Table.isNamed_of_isNamed_name named with same | wasNamed
      · rw [same]
        exact alive
      · exact isNodeAlive_of_isNamed wasNamed
    living := fun _ alive => Or.inl alive }

theorem descends_dropNode (store : Store) (label : String) :
    Descends store (store.dropNode label) :=
  { Descends.refl store with
    nodes := Table.keeps_forget _ _ _
    named := fun _ _ named => isNodeAlive_of_isNamed (Table.isNamed_of_isNamed_forget named)
    living := fun _ alive => Or.inl alive }

theorem descends_retireFork (store : Store) (fork : Ref .fork) :
    Descends store (store.retireFork fork) := by
  unfold retireFork
  split
  · exact Descends.refl store
  · apply descends_modifyNode
    intro _
    rfl

/-- Whoever gets a name has lasted before, or has just been built over a node that lasts. -/
theorem descends_nameForks
    {fork : Ref .fork}
    (descends : Descends before store)
    (lasts : before.isForkAlive fork = true ∨
      ¬ before.forks.Issued fork ∧
        (before.nodes.Issued (store.forks.get fork).node →
          before.isNodeAlive (store.forks.get fork).node = true))
    (name : String) :
    Descends before { store with forks := store.forks.name fork name } :=
  { descends with
    forks := descends.forks.trans (Table.keeps_name _ _ _ _)
    living := by
      intro other alive
      dsimp only
      rw [Table.get_name]
      rcases Table.isNamed_of_isNamed_name alive with same | wasAlive
      · rw [same]
        exact lasts
      · exact descends.living other wasAlive }

theorem descends_nameFork
    {fork : Ref .fork}
    (descends : Descends before store)
    (lasts : before.isForkAlive fork = true ∨
      ¬ before.forks.Issued fork ∧
        (before.nodes.Issued (store.forks.get fork).node →
          before.isNodeAlive (store.forks.get fork).node = true))
    (name : String) :
    Descends before (store.nameFork fork name) := by
  have renamed := descends_nameForks descends lasts name
  unfold nameFork
  cases store.forks.named? name with
  | none => exact renamed
  | some former => exact renamed.trans (descends_retireFork _ former)

theorem descends_dropFork (store : Store) (name : String) :
    Descends store (store.dropFork name) := by
  unfold dropFork
  cases store.forks.named? name with
  | none => exact Descends.refl store
  | some former =>
      refine Descends.trans ?_ (descends_retireFork _ former)
      exact { Descends.refl store with
        forks := Table.keeps_forget _ _ _
        living := fun _ alive => Or.inl (Table.isNamed_of_isNamed_forget alive) }

theorem descends_enroll (store : Store) (record : Fork) :
    Descends store (store.enroll record) where
  nodes := by
    apply Table.keeps_modify
    intro _
    rfl
  named node _ named := by
    have wasNamed : store.nodes.isNamed node = true := (Table.isNamed_modify _ _ _ _).symm.trans named
    exact isNodeAlive_of_isNamed wasNamed
  forks := Table.keeps_add _ _ _
  living fork alive := by
    rw [isForkAlive_enroll] at alive
    exact Or.inl alive

/-! ### Actions and runs -/

/-- A fork is built over a node that lasts. -/
theorem isNodeAlive_of_buildFork
    {built : Store}
    {plan : ForkPlan}
    {fork : Ref .fork}
    (nodeAlive : plan.node?.all store.isNodeAlive = true)
    (isBuilt : store.buildFork plan = .ok (fork, built)) :
    store.isNodeAlive (built.forks.get fork).node = true := by
  obtain ⟨node, _, _, _, _, _, _, hasNode, _, _, _, _, _, _, _, isNext, same⟩ :=
    buildFork_cases isBuilt
  rw [hasNode] at nodeAlive
  rw [same, isNext, fork_enroll_next]
  exact nodeAlive

theorem descends_act
    {action : Action}
    (wired : store.Wired)
    (acted : store.act? action = some after) :
    Descends store after := by
  cases step_of_act wired acted with
  | refused => exact Descends.refl store
  | addNode customs label name address network =>
      exact descends_addNode store name address network _ label
  | holdNode _ label =>
      obtain ⟨alive, _⟩ := given_eq_some.mp acted
      exact descends_nameNode alive label
  | dropNode label => exact descends_dropNode store label
  | ensureDemultiplexer splice => exact descends_of_splice splice
  | ensureStack splice => exact descends_of_splice splice
  | @buildFork plan fork built nodeAlive left customs isBuilt label =>
      have overAlive := isNodeAlive_of_buildFork nodeAlive isBuilt
      obtain ⟨stacked, record, splice, _, _, isNext, same⟩ :=
        buildFork_enrolls wired nodeAlive left customs isBuilt
      subst same
      have built := (descends_of_splice splice).trans (descends_enroll stacked record)
      refine descends_nameFork built (Or.inr ⟨fun issued => ?_, fun _ => overAlive⟩) label
      rw [isNext, splice.forks] at issued
      exact Nat.lt_irrefl _ issued
  | holdFork alive label => exact descends_nameFork (Descends.refl store) (Or.inl alive) label
  | dropFork label => exact descends_dropFork store label
  | setForkReceiver =>
      apply descends_modifyFork
      intro _
      rfl
  | listen =>
      apply descends_modifyNode
      intro _
      rfl
  | unlisten =>
      apply descends_modifyNode
      intro _
      rfl
  | travel finished => exact descends_of_skeleton_eq (skeleton_eq_of_travel finished)
  | receive finished => exact descends_of_skeleton_eq (skeleton_eq_of_receive finished)
  | call _ finished => exact descends_of_skeleton_eq (skeleton_eq_of_call finished)
  | _ => exact { Descends.refl store with }

/-- Whatever is done, what there was goes on as itself. -/
theorem descends_run
    {actions : List Action}
    (wired : store.Wired)
    (ran : store.run? actions = some after) :
    Descends store after := by
  induction actions generalizing store with
  | nil =>
      cases ran
      exact Descends.refl _
  | cons action rest inductionHypothesis =>
      obtain ⟨between, acted, ranOn⟩ := Option.bind_eq_some_iff.mp ran
      exact (descends_act wired acted).trans
        (inductionHypothesis (wired_act wired acted) ranOn)

end Store

end ChannelMux
