import ChannelMux.Proofs.Network.Ensuring

/-!
Contract: building forks and letting go of them keeps everything wired.

Owns what building a fork can do, namely to ensure the demultiplexer and the stack of its
group and to enroll the fork: it is added, bound under its member and subscribed to its
node. Owns what naming a fork, dropping it and subscribing agents do to the wiring.
-/

namespace ChannelMux.Store

/-- Adds a fork, bound in its stack and subscribed to its node. -/
def enroll (store : Store) (record : Fork) : Store :=
  let bound := store.modifyStack record.stack fun stack =>
    { stack with members := stack.members.put record.member store.forks.next }
  let subscribed := (bound.subscribe record.node (.fork store.forks.next)).2
  { subscribed with forks := subscribed.forks.add record }

/-! ### What building a fork does -/

/-- A building in two steps that succeeds has succeeded in both. -/
theorem ok_of_bind
    {α β : Type}
    {first : Except ForkRefusal α}
    {next : α → Except ForkRefusal β}
    {value : β}
    (built : (first >>= next) = .ok value) :
    ∃ between, first = .ok between ∧ next between = .ok value := by
  cases first with
  | error refusal => cases built
  | ok between => exact ⟨between, rfl, built⟩

theorem ok_of_identifier
    {field : String}
    {value? : Option String}
    {value : String}
    (identified : ForkPlan.identifier field value? = .ok value) :
    value? = some value ∧ value.isEmpty = false := by
  cases value? with
  | none => cases identified
  | some given =>
      cases empty : given.isEmpty with
      | true =>
          simp only [ForkPlan.identifier, empty, if_true] at identified
          cases identified
      | false =>
          simp only [ForkPlan.identifier, empty] at identified
          cases identified
          exact ⟨rfl, empty⟩

theorem buildFork_cases
    {store after : Store}
    {plan : ForkPlan}
    {fork : Ref .fork}
    (built : store.buildFork plan = .ok (fork, after)) :
    ∃ node group member hub spliced stack stacked,
      plan.node? = some node ∧ plan.group? = some group ∧ plan.member? = some member ∧
        group.isEmpty = false ∧ member.isEmpty = false ∧
        store.ensureDemultiplexer (store.nodes.get node).pipeline
          plan.settings.createIfAbsent plan.settings.placement = .ok (hub, spliced) ∧
        spliced.ensureStack hub (store.nodes.get node).pipeline group plan.stages
          plan.settings.requireFreshGroup = .ok (stack, stacked) ∧
        stacked.liveMember? stack member = none ∧ fork = stacked.forks.next ∧
        after = stacked.enroll {
          group := group
          member := member
          node := node
          stack := stack
          status := (store.nodes.get node).status
          receiver? := plan.receiver?
          token := (stacked.nodes.get node).nextToken } := by
  unfold buildFork at built
  cases givenNode : plan.node? with
  | none =>
      rw [givenNode] at built
      cases built
  | some node =>
  rw [givenNode] at built
  obtain ⟨_, isNode, built⟩ := ok_of_bind built
  cases isNode
  obtain ⟨group, hasGroup, built⟩ := ok_of_bind built
  obtain ⟨member, hasMember, built⟩ := ok_of_bind built
  obtain ⟨⟨hub, spliced⟩, ensuredHub, built⟩ := ok_of_bind built
  obtain ⟨⟨stack, stacked⟩, ensuredStack, built⟩ := ok_of_bind built
  obtain ⟨bound, isBound, built⟩ := ok_of_bind built
  obtain ⟨givenGroup, groupKnown⟩ := ok_of_identifier hasGroup
  obtain ⟨givenMember, memberKnown⟩ := ok_of_identifier hasMember
  refine ⟨node, group, member, hub, spliced, stack, stacked, rfl, givenGroup,
    givenMember, groupKnown, memberKnown, ensuredHub, ensuredStack, ?_⟩
  unfold bind at isBound
  cases living : stacked.liveMember? stack member with
  | some other =>
      rw [living] at isBound
      cases isBound
  | none =>
      rw [living] at isBound
      cases isBound
      cases built
      exact ⟨rfl, rfl, rfl⟩

/-! ### Enrolling a fork -/

section Enrollment

variable {store : Store} {record : Fork}

theorem node_enroll_of_ne {node : Ref .node} (different : node ≠ record.node) :
    (store.enroll record).nodes.get node = store.nodes.get node :=
  Table.get_modify_of_ne different _ _

theorem node_enroll_self (issued : store.nodes.Issued record.node) :
    (store.enroll record).nodes.get record.node =
      { store.nodes.get record.node with
        listeners := (store.nodes.get record.node).listeners ++
          [((store.nodes.get record.node).nextToken, .fork store.forks.next)]
        nextToken := (store.nodes.get record.node).nextToken + 1 } :=
  Table.get_modify_self issued _

theorem nodePipeline_enroll (node : Ref .node) :
    ((store.enroll record).nodes.get node).pipeline = (store.nodes.get node).pipeline := by
  apply Table.read_modify Node.pipeline
  intro _
  rfl

theorem hub?_enroll (node : Ref .node) :
    (store.enroll record).hub? node = store.hub? node := by
  unfold hub?
  rw [nodePipeline_enroll]
  rfl

/-- Enrolling a fork changes no pipeline and makes no demultiplexer. -/
theorem soleHubs_enroll (sole : store.SoleHubs) : (store.enroll record).SoleHubs := by
  intro node issued left leftLayer right rightLayer leftHub rightHub
  rw [nodePipeline_enroll] at leftLayer rightLayer
  have issuedBefore : store.nodes.Issued node := Table.issued_modify.mp issued
  exact sole node issuedBefore left leftLayer right rightLayer leftHub rightHub

theorem fork_enroll_of_issued {fork : Ref .fork} (issued : store.forks.Issued fork) :
    (store.enroll record).forks.get fork = store.forks.get fork :=
  Table.get_add_of_issued issued _

theorem fork_enroll_next :
    (store.enroll record).forks.get store.forks.next = record :=
  Table.get_add_next _ _

theorem issued_fork_enroll {fork : Ref .fork} :
    (store.enroll record).forks.Issued fork ↔
      store.forks.Issued fork ∨ fork = store.forks.next :=
  Table.issued_add

theorem isForkAlive_enroll (fork : Ref .fork) :
    (store.enroll record).isForkAlive fork = store.isForkAlive fork :=
  Table.isNamed_add _ _ _

theorem stack_enroll_of_ne {stack : Ref .stack} (different : stack ≠ record.stack) :
    (store.enroll record).groups.get stack = store.groups.get stack :=
  Table.get_modify_of_ne different _ _

theorem stack_enroll_self (issued : store.groups.Issued record.stack) :
    (store.enroll record).groups.get record.stack =
      { store.groups.get record.stack with
        members := (store.groups.get record.stack).members.put record.member
          store.forks.next } :=
  Table.get_modify_self issued _

theorem extends_enroll
    (left : (store.nodes.get record.node).subscriptions + 1 < UInt64.size) :
    Extends store (store.enroll record) where
  pipelines := Table.Keeps.refl _ _
  stages _ issued := ⟨issued, RoleKept.refl _⟩
  groups := by
    apply Table.keeps_modify (fun stack : GroupStack => (stack.group, stack.pipeline))
    intro _
    rfl
  privateStages _ _ _ _ _ := rfl
  nodes := by
    apply Table.keeps_modify
    intro _
    rfl
  tokens node _ := by
    by_cases same : node = record.node
    · subst same
      by_cases issued : store.nodes.Issued record.node
      · rw [node_enroll_self issued]
        exact Node.subscriptions_le left rfl
      · have stillNot : ¬ (store.enroll record).nodes.Issued record.node := by
          intro nowIssued
          exact issued (Table.issued_modify.mp nowIssued)
        rw [Table.get_of_not_issued issued, Table.get_of_not_issued stillNot]
    · rw [node_enroll_of_ne same]
  hubs node hub _ found := (hub?_enroll node).trans found
  forks := Table.keeps_add _ _ _

/-- What makes a fork ready to be enrolled: its stack is that of its group at its node, no
fork that lasts is bound under its member, it takes the next token, and tokens do not come
round by that. -/
structure Enrollable (store : Store) (record : Fork) : Prop where
  node : store.nodes.Issued record.node
  stack : ∃ hub, store.hub? record.node = some hub ∧
    Delivery.stackOf? store hub record.group = some record.stack
  free : store.liveMember? record.stack record.member = none
  token : record.token = (store.nodes.get record.node).nextToken
  left : (store.nodes.get record.node).subscriptions + 1 < UInt64.size

theorem Enrollable.stackIssued
    (enrollable : store.Enrollable record)
    (wired : store.Wired) :
    store.groups.Issued record.stack := by
  obtain ⟨hub, found, registered⟩ := enrollable.stack
  exact ((wired.nodes _ enrollable.node).stackWired hub _ _ found registered).issued

/-- A fork that has been enrolled is bound. -/
theorem bound_enroll (enrollable : store.Enrollable record) (wired : store.Wired) :
    (store.enroll record).Bound store.forks.next := by
  refine ⟨?_, ?_⟩
  · rw [fork_enroll_next, stack_enroll_self (enrollable.stackIssued wired)]
    exact Registry.get?_put_self _ _ _
  · rw [fork_enroll_next, node_enroll_self enrollable.node, enrollable.token]
    exact List.mem_append_right _ List.mem_cons_self

theorem bound_enroll_of_alive
    (enrollable : store.Enrollable record)
    (wired : store.Wired)
    {fork : Ref .fork}
    (alive : store.isForkAlive fork = true) :
    (store.enroll record).Bound fork := by
  have issued := Table.issued_of_isNamed alive
  have bound := wired.bound fork alive
  refine ⟨?_, ?_⟩
  · rw [fork_enroll_of_issued issued]
    by_cases sameStack : (store.forks.get fork).stack = record.stack
    · rw [sameStack, stack_enroll_self (enrollable.stackIssued wired)]
      have member := bound.member
      rw [sameStack] at member
      have different : (store.forks.get fork).member ≠ record.member := by
        intro sameMember
        have free := enrollable.free
        rw [sameMember] at member
        unfold liveMember? at free
        rw [member] at free
        simp [alive] at free
      exact (Registry.get?_put_of_ne different _ _).trans member
    · rw [stack_enroll_of_ne sameStack]
      exact bound.member
  · rw [fork_enroll_of_issued issued]
    by_cases sameNode : (store.forks.get fork).node = record.node
    · have listens := bound.listens
      rw [sameNode] at listens ⊢
      rw [node_enroll_self enrollable.node]
      exact List.mem_append_left _ listens
    · rw [node_enroll_of_ne sameNode]
      exact bound.listens

theorem listeners_enroll
    (enrollable : store.Enrollable record)
    {node : Ref .node}
    {token : UInt64}
    {fork : Ref .fork}
    (listens : (token, .fork fork) ∈ ((store.enroll record).nodes.get node).listeners) :
    (token, .fork fork) ∈ (store.nodes.get node).listeners ∨
      fork = store.forks.next ∧ token = record.token ∧ node = record.node := by
  by_cases same : node = record.node
  · subst same
    rw [node_enroll_self enrollable.node] at listens
    rcases List.mem_append.mp listens with old | new
    · exact Or.inl old
    · have entry := List.mem_singleton.mp new
      cases entry
      exact Or.inr ⟨rfl, enrollable.token.symm, rfl⟩
  · rw [node_enroll_of_ne same] at listens
    exact Or.inl listens

theorem nodeWired_enroll
    (enrollable : store.Enrollable record)
    (wired : store.Wired)
    {node : Ref .node}
    (issued : store.nodes.Issued node) :
    (store.enroll record).NodeWired node := by
  have extended : Extends store (store.enroll record) := extends_enroll enrollable.left
  have before := wired.nodes node issued
  refine ⟨?_, ?_, ?_, ?_, ?_⟩
  · rw [nodePipeline_enroll]
    exact before.pipeline
  · rw [nodePipeline_enroll]
    exact before.outlet
  · rw [nodePipeline_enroll]
    exact before.layers
  · intro hub group stack found registered
    rw [hub?_enroll] at found
    rw [nodePipeline_enroll]
    exact extended.stackWired (before.stackWired hub group stack found registered)
  · intro token fork listens
    rcases listeners_enroll enrollable listens with old | new
    · obtain ⟨forkIssued, onNode, hasToken⟩ := before.listeners token fork old
      rw [fork_enroll_of_issued forkIssued]
      exact ⟨forkIssued.add _, onNode, hasToken⟩
    · obtain ⟨isNext, isToken, isNode⟩ := new
      rw [isNext, fork_enroll_next]
      exact ⟨Table.issued_add_next _ _, isNode.symm, isToken.symm⟩

theorem forkWired_enroll_next (enrollable : store.Enrollable record) :
    (store.enroll record).ForkWired store.forks.next := by
  have isRecord : (store.enroll record).forks.get store.forks.next = record :=
    fork_enroll_next
  obtain ⟨hub, found, registered⟩ := enrollable.stack
  refine ⟨?_, ⟨hub, ?_, ?_⟩, ?_⟩
  · rw [isRecord]
    exact Table.issued_modify.mpr enrollable.node
  · rw [isRecord, hub?_enroll]
    exact found
  · rw [isRecord]
    exact registered
  · rw [isRecord, node_enroll_self enrollable.node, enrollable.token]
    exact ((Node.toNat_nextToken enrollable.left).trans
      (Node.subscriptions_succ enrollable.left rfl).symm).le

/-- The members of a stack are those that there were, and the fork under its own. -/
theorem member_enroll_cases
    {stack : Ref .stack}
    {member : String}
    {fork : Ref .fork}
    (issued : store.groups.Issued stack)
    (held : ((store.enroll record).groups.get stack).members.get? member = some fork) :
    (store.groups.get stack).members.get? member = some fork ∨
      fork = store.forks.next ∧ stack = record.stack ∧ member = record.member := by
  by_cases sameStack : stack = record.stack
  · subst sameStack
    rw [stack_enroll_self issued] at held
    by_cases sameMember : member = record.member
    · subst sameMember
      have isNext := (Registry.get?_put_self _ _ _).symm.trans held
      exact Or.inr ⟨(Option.some.inj isNext).symm, rfl, rfl⟩
    · exact Or.inl ((Registry.get?_put_of_ne sameMember _ _).symm.trans held)
  · rw [stack_enroll_of_ne sameStack] at held
    exact Or.inl held

/-- The token of the fork is above those of the forks that its node had before. -/
theorem token_ne_of_issued
    (enrollable : store.Enrollable record)
    (wired : store.Wired)
    {old : Ref .fork}
    (issued : store.forks.Issued old)
    (onNode : (store.forks.get old).node = record.node) :
    (store.forks.get old).token ≠ record.token := by
  have below := (wired.forks old issued).token
  rw [onNode] at below
  intro same
  rw [same, enrollable.token, Node.toNat_nextToken enrollable.left] at below
  exact Nat.not_succ_le_self _ below

/-- Enrolling a fork keeps everything wired. -/
theorem wired_enroll (enrollable : store.Enrollable record) (wired : store.Wired) :
    (store.enroll record).Wired where
  nodes node issued := nodeWired_enroll enrollable wired (Table.issued_modify.mp issued)
  hubs left right hub leftIssued rightIssued leftHub rightHub := by
    rw [hub?_enroll] at leftHub rightHub
    exact wired.hubs left right hub (Table.issued_modify.mp leftIssued)
      (Table.issued_modify.mp rightIssued) leftHub rightHub
  forks fork issued := by
    rcases issued_fork_enroll.mp issued with old | new
    · exact (extends_enroll enrollable.left).forkWired old (wired.forks fork old)
    · rw [new]
      exact forkWired_enroll_next enrollable
  members stack member fork issued held := by
    have issuedBefore : store.groups.Issued stack := Table.issued_modify.mp issued
    rcases member_enroll_cases issuedBefore held with old | new
    · obtain ⟨forkIssued, inStack, underMember⟩ :=
        wired.members stack member fork issuedBefore old
      rw [fork_enroll_of_issued forkIssued]
      exact ⟨forkIssued.add _, inStack, underMember⟩
    · obtain ⟨isNext, isStack, isMember⟩ := new
      rw [isNext, fork_enroll_next]
      exact ⟨Table.issued_add_next _ _, isStack.symm, isMember.symm⟩
  tokens left right leftIssued rightIssued sameNode sameToken := by
    rcases issued_fork_enroll.mp leftIssued with leftOld | leftNew
    · rw [fork_enroll_of_issued leftOld] at sameNode sameToken
      rcases issued_fork_enroll.mp rightIssued with rightOld | rightNew
      · rw [fork_enroll_of_issued rightOld] at sameNode sameToken
        exact wired.tokens left right leftOld rightOld sameNode sameToken
      · rw [rightNew, fork_enroll_next] at sameNode sameToken
        exact absurd sameToken (token_ne_of_issued enrollable wired leftOld sameNode)
    · rw [leftNew, fork_enroll_next] at sameNode sameToken
      rcases issued_fork_enroll.mp rightIssued with rightOld | rightNew
      · rw [fork_enroll_of_issued rightOld] at sameNode sameToken
        exact absurd sameToken.symm
          (token_ne_of_issued enrollable wired rightOld sameNode.symm)
      · exact leftNew.trans rightNew.symm
  bound fork alive := by
    rw [isForkAlive_enroll] at alive
    exact bound_enroll_of_alive enrollable wired alive

end Enrollment

end ChannelMux.Store
