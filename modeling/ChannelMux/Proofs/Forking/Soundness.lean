import ChannelMux.Proofs.Forking.Chronicle

/-!
Contract: when the registry of a node is sound.

Owns the invariant of a chronicle: the stacks of a node are founded on plans that were built,
and their members are the forks over the node. Owns what a sound registry shows, that the
registry of a vacant node is sound, and that it stays so by whatever leaves alone what it
consists of.
-/

namespace ChannelMux

namespace Store

/-- A fork is under its member in its stack. -/
def IsHeld (store : Store) (fork : Ref .fork) : Prop :=
  (store.groups.get (store.forks.get fork).stack).members.get?
    (store.forks.get fork).member = some fork

/-- A stack is one of a group at a node, made by the first plan for the group. -/
structure Founded (store : Store) (node : Ref .node) (built : List ForkPlan) (group : String)
    (stack : Ref .stack) : Prop where
  named : (store.groups.get stack).group = group
  pipeline : store.pipelines.Issued (store.groups.get stack).pipeline
  apart : (store.groups.get stack).pipeline ≠ (store.nodes.get node).pipeline
  plan : ∃ plan bottom top, foundingPlan? built group = some plan ∧
    store.privateStages stack = bottom :: plan.stages ++ [top] ∧
    store.stages.Issued bottom ∧ (store.stages.get bottom).role = .groupBottom group ∧
    store.stages.Issued top ∧ (store.stages.get top).role = .groupTop stack

/-- The registry of a node is sound: stacks are founded on plans, and members are forks. -/
structure Sound (store : Store) (node : Ref .node) (built : List ForkPlan) : Prop where
  grounded : store.Grounded node
  oneHub : (store.hubsOf (store.nodes.get node).pipeline).length ≤ 1
  founded : ∀ group stack, store.groupStack? node group = some stack →
    store.Founded node built group stack
  known : ∀ group, (store.groupStack? node group).isSome ↔
    ∃ plan ∈ built, plan.group? = some group
  forks : ∀ fork, store.forks.Issued fork → (store.forks.get fork).node = node →
    store.groupStack? node (store.forks.get fork).group = some (store.forks.get fork).stack
  held : ∀ fork, store.isForkAlive fork = true → (store.forks.get fork).node = node →
    store.IsHeld fork
  members : ∀ group stack, store.groupStack? node group = some stack → ∀ member fork,
    (store.groups.get stack).members.get? member = some fork →
      store.forks.Issued fork ∧ (store.forks.get fork).node = node ∧
        (store.forks.get fork).group = group ∧ (store.forks.get fork).member = member

theorem hub?_eq_head? (store : Store) (node : Ref .node) :
    store.hub? node = (store.hubsOf (store.nodes.get node).pipeline).head? :=
  List.head?_filter.symm

theorem groupStack?_eq_some_iff
    {store : Store}
    {node : Ref .node}
    {group : String}
    {stack : Ref .stack} :
    store.groupStack? node group = some stack ↔
      ∃ hub, store.hub? node = some hub ∧ Delivery.stackOf? store hub group = some stack :=
  Option.bind_eq_some_iff

theorem Grounded.stack_issued_of_registered
    {store : Store}
    {node : Ref .node}
    (grounded : store.Grounded node)
    {group : String}
    {stack : Ref .stack}
    (registered : store.groupStack? node group = some stack) :
    store.groups.Issued stack := by
  obtain ⟨hub, atHub, isRegistered⟩ := groupStack?_eq_some_iff.mp registered
  exact grounded.registered hub group stack atHub isRegistered

/-! ### What a sound registry shows -/

section Sound

variable {store : Store} {node : Ref .node} {built : List ForkPlan}

theorem mem_groupNames_iff {group : String} :
    group ∈ store.groupNames node ↔ (store.groupStack? node group).isSome := by
  unfold groupNames groupStack? Delivery.stackOf?
  cases store.hub? node with
  | none => simp
  | some hub =>
      cases found : store.demultiplexer? hub with
      | none => simp [found]
      | some state => simp [found, Registry.mem_names_iff]

theorem groupNames_ordered (store : Store) (node : Ref .node) :
    (store.groupNames node).Pairwise (· < ·) := by
  unfold groupNames
  split
  · exact Registry.names_ordered _
  · exact List.Pairwise.nil

theorem liveMember?_eq_some_iff {stack : Ref .stack} {member : String} {fork : Ref .fork} :
    store.liveMember? stack member = some fork ↔
      (store.groups.get stack).members.get? member = some fork ∧
        store.isForkAlive fork = true :=
  Option.filter_eq_some_iff

theorem mem_liveMembers_iff {stack : Ref .stack} {member : String} :
    member ∈ store.liveMembers stack ↔ ∃ fork, store.liveMember? stack member = some fork := by
  simp only [liveMembers, liveMember?_eq_some_iff, Registry.get?_eq_some_iff, List.mem_map,
    List.mem_filter]
  constructor
  · rintro ⟨entry, ⟨listed, alive⟩, rfl⟩
    exact ⟨entry.2, listed, alive⟩
  · rintro ⟨fork, listed, alive⟩
    exact ⟨(member, fork), ⟨listed, alive⟩, rfl⟩

theorem liveMembers_ordered (store : Store) (stack : Ref .stack) :
    (store.liveMembers stack).Pairwise (· < ·) :=
  List.pairwise_map.mpr ((store.groups.get stack).members.ordered.sublist List.filter_sublist)

namespace Sound

theorem resolves
    (sound : store.Sound node built)
    {group : String}
    {stack : Ref .stack}
    (registered : store.groupStack? node group = some stack)
    {member : String}
    {fork : Ref .fork} :
    store.liveMember? stack member = some fork ↔ store.IsBoundTo fork node group member := by
  rw [liveMember?_eq_some_iff]
  constructor
  · rintro ⟨held, alive⟩
    obtain ⟨_, onNode, ofGroup, asMember⟩ := sound.members group stack registered member fork held
    exact ⟨alive, onNode, ofGroup, asMember⟩
  · rintro ⟨alive, onNode, ofGroup, asMember⟩
    have inStack := sound.forks fork (Table.issued_of_isNamed alive) onNode
    rw [ofGroup, registered] at inStack
    have held := sound.held fork alive onNode
    unfold IsHeld at held
    rw [← Option.some.inj inStack, asMember] at held
    exact ⟨held, alive⟩

theorem registered_of_bound
    (sound : store.Sound node built)
    {group member : String}
    {fork : Ref .fork}
    (bound : store.IsBoundTo fork node group member) :
    ∃ stack, store.groupStack? node group = some stack := by
  obtain ⟨alive, onNode, ofGroup, _⟩ := bound
  have inStack := sound.forks fork (Table.issued_of_isNamed alive) onNode
  rw [ofGroup] at inStack
  exact ⟨_, inStack⟩

theorem keepsRegistry (sound : store.Sound node built) : store.KeepsRegistry node built where
  oneHub := sound.oneHub
  founded group stack registered := by
    obtain ⟨plan, bottom, top, isPlan, stages, _, bottomRole, _, topRole⟩ :=
      (sound.founded group stack registered).plan
    exact ⟨plan, bottom, top, isPlan, stages, bottomRole, topRole⟩
  groups group := mem_groupNames_iff.trans (sound.known group)
  groupsOrdered := groupNames_ordered store node
  listed group := mem_groupNames_iff
  unique left right group member leftBound rightBound := by
    obtain ⟨stack, registered⟩ := sound.registered_of_bound leftBound
    have leftFound := (sound.resolves registered).mpr leftBound
    have rightFound := (sound.resolves registered).mpr rightBound
    exact Option.some.inj (leftFound.symm.trans rightFound)
  resolves group stack registered member fork := sound.resolves registered
  unregistered group none member fork bound := by
    obtain ⟨stack, registered⟩ := sound.registered_of_bound bound
    rw [none] at registered
    cases registered
  members group stack registered member := by
    simp only [mem_liveMembers_iff, sound.resolves registered]
  membersOrdered := store.liveMembers_ordered

end Sound

end Sound

/-! ### What a vacant node shows -/

theorem Vacant.groupStack?_eq_none {store : Store} {node : Ref .node} (vacant : store.Vacant node)
    (group : String) :
    store.groupStack? node group = none := by
  unfold groupStack?
  rw [hub?_eq_head?, vacant.noHub]
  rfl

theorem Vacant.sound {store : Store} {node : Ref .node} (vacant : store.Vacant node) :
    store.Sound node [] := by
  have noStack (group : String) (stack : Ref .stack) :
      store.groupStack? node group ≠ some stack := by
    intro registered
    rw [vacant.groupStack?_eq_none group] at registered
    cases registered
  refine ⟨⟨vacant.issued, vacant.pipeline, vacant.layers, ?_⟩, ?_, ?_, ?_, ?_, ?_, ?_⟩
  · intro hub group stack atHub registered
    exact absurd (groupStack?_eq_some_iff.mpr ⟨hub, atHub, registered⟩) (noStack group stack)
  · rw [vacant.noHub]
    exact Nat.zero_le _
  · intro group stack registered
    exact absurd registered (noStack group stack)
  · intro group
    rw [vacant.groupStack?_eq_none group]
    simp
  · intro fork issued onNode
    exact absurd onNode (vacant.noForks fork issued)
  · intro fork alive onNode
    exact absurd onNode (vacant.noForks fork (Table.issued_of_isNamed alive))
  · intro group stack registered
    exact absurd registered (noStack group stack)

/-- A node that is made with stages of which none is a demultiplexer is vacant. -/
theorem vacant_addNode
    {store : Store}
    {name : String}
    {address : Address}
    {network : String}
    {stages : List (Ref .stage)}
    (layers : ∀ stage ∈ stages,
      store.stages.Issued stage ∧ (store.demultiplexer? stage).isSome = false)
    (nodes : ∀ fork, store.forks.Issued fork →
      store.nodes.Issued (store.forks.get fork).node) :
    (store.addNode name address network stages).2.Vacant store.nodes.next := by
  let made := (store.addNode name address network stages).2
  have pipeline : (made.nodes.get store.nodes.next).pipeline = store.pipelines.next :=
    congrArg Node.pipeline node_addNode_next
  have sameStages : made.stagesOf store.pipelines.next = stages :=
    congrArg Pipeline.stages pipeline_addNode_next
  refine ⟨issued_node_addNode.mpr (Or.inr rfl), ?_, ?_, ?_, ?_⟩
  · rw [pipeline]
    exact Table.issued_add_next _ _
  · rw [pipeline, sameStages]
    exact fun stage layer => (layers stage layer).1
  · unfold hubsOf
    rw [pipeline, sameStages, List.filter_eq_nil_iff]
    intro stage layer isHub
    exact Bool.false_ne_true ((layers stage layer).2.symm.trans isHub)
  · intro fork issued onNode
    exact Table.ne_next (nodes fork issued) onNode

/-! ### Dealings that build nothing -/

/-- What the registry of a node consists of is left alone. No fork lasts anew, except one
that is held in its stack. -/
structure LeavesRegistry (node : Ref .node) (before after : Store) : Prop where
  nodes : Table.Keeps Node.pipeline before.nodes after.nodes
  pipelines : ∀ pipeline, before.pipelines.Issued pipeline → after.pipelines.Issued pipeline ∧
    (pipeline ≠ (before.nodes.get node).pipeline →
      after.stagesOf pipeline = before.stagesOf pipeline)
  layers : ∀ stage ∈ after.stagesOf (before.nodes.get node).pipeline,
    after.stages.Issued stage
  hubs : after.hubsOf (before.nodes.get node).pipeline =
    before.hubsOf (before.nodes.get node).pipeline
  stages : Table.Keeps Stage.role before.stages after.stages
  groups : after.groups = before.groups
  forks : Table.Keeps id before.forks after.forks
  noNewForks : ∀ fork, after.forks.Issued fork → before.forks.Issued fork
  alive : ∀ fork, after.isForkAlive fork = true →
    before.isForkAlive fork = true ∨ before.forks.Issued fork ∧ before.IsHeld fork

namespace LeavesRegistry

variable {before after : Store} {node : Ref .node} {built : List ForkPlan}

theorem hub?_eq (leaves : LeavesRegistry node before after)
    (issued : before.nodes.Issued node) :
    after.hub? node = before.hub? node := by
  have samePipeline := (leaves.nodes node issued).2
  rw [hub?_eq_head?, hub?_eq_head?, samePipeline, leaves.hubs]

theorem groupStack?_eq (leaves : LeavesRegistry node before after)
    (grounded : before.Grounded node) (group : String) :
    after.groupStack? node group = before.groupStack? node group := by
  unfold groupStack?
  rw [leaves.hub?_eq grounded.issued]
  cases atHub : before.hub? node with
  | none => rfl
  | some hub =>
      have issued := grounded.layers hub (mem_of_hub? atHub).1
      have sameRole := (leaves.stages hub issued).2
      exact stackOf?_of_bare_eq (congrArg Role.bare sameRole) group

theorem grounded (leaves : LeavesRegistry node before after)
    (grounded : before.Grounded node) : after.Grounded node := by
  have kept := leaves.nodes node grounded.issued
  refine ⟨kept.1, ?_, ?_, ?_⟩
  · rw [kept.2]
    exact (leaves.pipelines _ grounded.pipeline).1
  · rw [kept.2]
    exact leaves.layers
  · intro hub group stack atHub registered
    have registeredAfter := groupStack?_eq_some_iff.mpr ⟨hub, atHub, registered⟩
    rw [leaves.groupStack?_eq grounded] at registeredAfter
    obtain ⟨hubBefore, atHubBefore, registeredBefore⟩ :=
      groupStack?_eq_some_iff.mp registeredAfter
    rw [leaves.groups]
    exact grounded.registered hubBefore group stack atHubBefore registeredBefore

theorem fork_eq (leaves : LeavesRegistry node before after) {fork : Ref .fork}
    (issued : before.forks.Issued fork) :
    after.forks.get fork = before.forks.get fork := (leaves.forks fork issued).2

theorem privateStages_eq (leaves : LeavesRegistry node before after) {group : String}
    {stack : Ref .stack} (founded : before.Founded node built group stack) :
    after.privateStages stack = before.privateStages stack := by
  unfold privateStages
  rw [leaves.groups]
  exact (leaves.pipelines _ founded.pipeline).2 founded.apart

theorem founded (leaves : LeavesRegistry node before after) (issued : before.nodes.Issued node)
    {group : String} {stack : Ref .stack} (founded : before.Founded node built group stack) :
    after.Founded node built group stack := by
  obtain ⟨plan, bottom, top, isPlan, stages, bottomIssued, bottomRole, topIssued, topRole⟩ :=
    founded.plan
  have bottomKept := leaves.stages bottom bottomIssued
  have topKept := leaves.stages top topIssued
  have sameStages := leaves.privateStages_eq founded
  refine ⟨?_, ?_, ?_, plan, bottom, top, isPlan, sameStages.trans stages, bottomKept.1,
    bottomKept.2.trans bottomRole, topKept.1, topKept.2.trans topRole⟩
  · rw [leaves.groups]
    exact founded.named
  · rw [leaves.groups]
    exact (leaves.pipelines _ founded.pipeline).1
  · rw [leaves.groups, (leaves.nodes node issued).2]
    exact founded.apart

/-- What leaves a registry alone keeps it sound. -/
theorem sound (leaves : LeavesRegistry node before after)
    (sound : before.Sound node built) : after.Sound node built where
  grounded := leaves.grounded sound.grounded
  oneHub := by
    rw [(leaves.nodes node sound.grounded.issued).2, leaves.hubs]
    exact sound.oneHub
  founded group stack registered := by
    rw [leaves.groupStack?_eq sound.grounded] at registered
    exact leaves.founded sound.grounded.issued (sound.founded group stack registered)
  known group := by
    rw [leaves.groupStack?_eq sound.grounded]
    exact sound.known group
  forks fork issued onNode := by
    have was := leaves.noNewForks fork issued
    rw [leaves.fork_eq was] at onNode ⊢
    rw [leaves.groupStack?_eq sound.grounded]
    exact sound.forks fork was onNode
  held fork alive onNode := by
    unfold IsHeld
    rw [leaves.groups]
    rcases leaves.alive fork alive with wasAlive | ⟨was, held⟩
    · have was := Table.issued_of_isNamed wasAlive
      rw [leaves.fork_eq was] at onNode ⊢
      exact sound.held fork wasAlive onNode
    · rw [leaves.fork_eq was]
      exact held
  members group stack registered member fork held := by
    rw [leaves.groupStack?_eq sound.grounded] at registered
    rw [leaves.groups] at held
    obtain ⟨was, onNode, ofGroup, asMember⟩ :=
      sound.members group stack registered member fork held
    rw [leaves.fork_eq was]
    exact ⟨(leaves.forks fork was).1, onNode, ofGroup, asMember⟩

theorem persists (leaves : LeavesRegistry node before after)
    (sound : before.Sound node built) : Persists before after node where
  hub hub atHub := by rw [leaves.hub?_eq sound.grounded.issued, atHub]
  groupStack group stack registered := by
    rw [leaves.groupStack?_eq sound.grounded, registered]
  stages group stack registered :=
    leaves.privateStages_eq (sound.founded group stack registered)

end LeavesRegistry

section Leaving

variable {store : Store} {node : Ref .node}

theorem leavesRegistry_addStage (grounded : store.Grounded node) (stage : Stage) :
    LeavesRegistry node store (store.addStage stage).2 where
  nodes := Table.Keeps.refl _ _
  pipelines _ issued := ⟨issued, fun _ => rfl⟩
  layers layer member := (grounded.layers layer member).add stage
  hubs := by
    apply List.filter_congr
    intro layer member
    have same : (store.addStage stage).2.stages.get layer = store.stages.get layer :=
      Table.get_add_of_issued (grounded.layers layer member) stage
    exact congrArg (fun record : Stage => record.demultiplexer?.isSome) same
  stages := Table.keeps_add _ _ _
  groups := rfl
  forks := Table.Keeps.refl _ _
  noNewForks fork issued := issued
  alive fork alive := Or.inl alive

theorem filter_insertIdx_of_not
    {α : Type}
    (property : α → Bool)
    {item : α}
    (without : property item = false)
    (index : Nat)
    (items : List α) :
    (items.insertIdx index item).filter property = items.filter property := by
  induction items generalizing index with
  | nil =>
      cases index with
      | zero => simp [without]
      | succ index => rfl
  | cons head tail inductionHypothesis =>
      cases index with
      | zero => simp [List.filter_cons, without]
      | succ index =>
          rw [List.insertIdx_succ_cons, List.filter_cons, List.filter_cons,
            inductionHypothesis]

/-- A stage that is inserted and is not a demultiplexer hides none and adds none. -/
theorem leavesRegistry_insertAt
    (grounded : store.Grounded node)
    {stage : Ref .stage}
    (issued : store.stages.Issued stage)
    (notHub : (store.demultiplexer? stage).isSome = false)
    (index : Nat) :
    LeavesRegistry node store (store.insertAt (store.nodes.get node).pipeline index stage) where
  nodes := Table.Keeps.refl _ _
  pipelines _ was :=
    ⟨Table.issued_modify.mpr was, fun other => stagesOf_insertAt_of_ne other⟩
  layers layer member := by
    rw [stagesOf_insertAt_self grounded.pipeline] at member
    rcases List.eq_or_mem_of_mem_insertIdx member with new | old
    · rw [new]
      exact issued
    · exact grounded.layers layer old
  hubs := by
    unfold hubsOf
    rw [stagesOf_insertAt_self grounded.pipeline]
    exact filter_insertIdx_of_not (fun layer => (store.demultiplexer? layer).isSome) notHub _ _
  stages := Table.Keeps.refl _ _
  groups := rfl
  forks := Table.Keeps.refl _ _
  noNewForks fork issued := issued
  alive fork alive := Or.inl alive

/-- Names of forks and listeners of nodes may become different. -/
theorem leavesRegistry_forks
    (grounded : store.Grounded node)
    {forks : Table .fork Fork}
    {nodes : Table .node Node}
    (forksKept : Table.Keeps id store.forks forks)
    (noNewForks : ∀ fork, forks.Issued fork → store.forks.Issued fork)
    (alive : ∀ fork, forks.isNamed fork = true →
      store.isForkAlive fork = true ∨ store.forks.Issued fork ∧ store.IsHeld fork)
    (nodesKept : Table.Keeps Node.pipeline store.nodes nodes) :
    LeavesRegistry node store { store with forks := forks, nodes := nodes } where
  nodes := nodesKept
  pipelines _ issued := ⟨issued, fun _ => rfl⟩
  layers := grounded.layers
  hubs := rfl
  stages := Table.Keeps.refl _ _
  groups := rfl
  forks := forksKept
  noNewForks := noNewForks
  alive := alive

/-- Retiring a fork changes nothing but who listens to its node. -/
theorem retireFork_eq (store : Store) (fork : Ref .fork) :
    ∃ nodes, store.retireFork fork = { store with nodes := nodes } ∧
      Table.Keeps Node.pipeline store.nodes nodes := by
  unfold retireFork
  split
  · exact ⟨store.nodes, rfl, Table.Keeps.refl _ _⟩
  · refine ⟨_, rfl, ?_⟩
    apply Table.keeps_modify Node.pipeline
    intro _
    rfl

theorem leavesRegistry_nameFork
    (grounded : store.Grounded node)
    {fork : Ref .fork}
    (issued : store.forks.Issued fork)
    (held : store.isForkAlive fork = true ∨ store.IsHeld fork)
    (label : String) :
    LeavesRegistry node store (store.nameFork fork label) := by
  have kept : Table.Keeps id store.forks (store.forks.name fork label) :=
    Table.keeps_name _ _ _ _
  have noNew (other : Ref .fork) (issuedAfter : (store.forks.name fork label).Issued other) :
      store.forks.Issued other := Table.issued_name.mp issuedAfter
  have alive (other : Ref .fork) (named : (store.forks.name fork label).isNamed other = true) :
      store.isForkAlive other = true ∨ store.forks.Issued other ∧ store.IsHeld other := by
    rcases Table.isNamed_of_isNamed_name named with same | was
    · rw [same]
      exact held.imp_right fun held => ⟨issued, held⟩
    · exact Or.inl was
  unfold nameFork
  cases store.forks.named? label with
  | none => exact leavesRegistry_forks grounded kept noNew alive (Table.Keeps.refl _ _)
  | some former =>
      obtain ⟨nodes, same, nodesKept⟩ :=
        retireFork_eq { store with forks := store.forks.name fork label } former
      simp only [same]
      exact leavesRegistry_forks grounded kept noNew alive nodesKept

theorem leavesRegistry_dropFork (grounded : store.Grounded node) (label : String) :
    LeavesRegistry node store (store.dropFork label) := by
  have kept : Table.Keeps id store.forks (store.forks.forget label) :=
    Table.keeps_forget _ _ _
  unfold dropFork
  cases store.forks.named? label with
  | none =>
      exact leavesRegistry_forks grounded (Table.Keeps.refl _ _) (fun _ issued => issued)
        (fun _ alive => Or.inl alive) (Table.Keeps.refl _ _)
  | some former =>
      obtain ⟨nodes, same, nodesKept⟩ :=
        retireFork_eq { store with forks := store.forks.forget label } former
      simp only [same]
      exact leavesRegistry_forks grounded kept (fun _ issued => Table.issued_forget.mp issued)
        (fun _ alive => Or.inl (Table.isNamed_of_isNamed_forget alive)) nodesKept

end Leaving

end Store

end ChannelMux
