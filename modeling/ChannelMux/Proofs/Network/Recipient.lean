import ChannelMux.Proofs.Network.Wiring

/-!
Contract: whom a message at a node is for.

Owns the fork that lasts and is bound to a group and member at a node, which there is at
most once, and the agent that is to get a message that comes up at a node. Both are said
without regard to pipelines, stacks and bindings; where everything is wired, the stack of
the group finds the same fork.
-/

namespace ChannelMux.Store

/-- A fork that lasts is bound to this group and member at this node. -/
def IsBoundTo (store : Store) (fork : Ref .fork) (node : Ref .node) (group member : String) :
    Prop :=
  store.isForkAlive fork = true ∧ (store.forks.get fork).node = node ∧
    (store.forks.get fork).group = group ∧ (store.forks.get fork).member = member

instance (store : Store) (fork : Ref .fork) (node : Ref .node) (group member : String) :
    Decidable (store.IsBoundTo fork node group member) :=
  inferInstanceAs (Decidable (_ ∧ _))

/-- The fork that is bound to a group and member at a node. -/
def boundFork? (store : Store) (node : Ref .node) (group member : String) :
    Option (Ref .fork) :=
  store.forks.refs.find? fun fork => store.IsBoundTo fork node group member

/-- Who is to get a message that comes up at a node. Without a demultiplexer the top of the
node's pipeline gets everything; with one it gets what has no routing header, and a message
with one is for the fork that is bound to the group and member that it names. -/
def recipient? (store : Store) (node : Ref .node) (message : Message) : Option (Ref .agent) :=
  match store.hub? node, message.routing? with
  | some _, some header =>
      match header.group?, header.member? with
      | some group, some member =>
          (store.boundFork? node group member).bind fun fork => (store.forks.get fork).receiver?
      | _, _ => none
  | _, _ => (store.pipelines.get (store.nodes.get node).pipeline).receiver?

section Recipient

variable {store : Store} {node : Ref .node} {message : Message} {header : RoutingHeader}

theorem recipient?_of_no_hub (noHub : store.hub? node = none) :
    store.recipient? node message =
      (store.pipelines.get (store.nodes.get node).pipeline).receiver? := by
  unfold recipient?
  rw [noHub]

theorem recipient?_of_unrouted (unrouted : message.routing? = none) :
    store.recipient? node message =
      (store.pipelines.get (store.nodes.get node).pipeline).receiver? := by
  unfold recipient?
  rw [unrouted]
  cases store.hub? node <;> rfl

theorem recipient?_of_groupless
    {hub : Ref .stage}
    (found : store.hub? node = some hub)
    (routed : message.routing? = some header)
    (groupless : header.group? = none) :
    store.recipient? node message = none := by
  unfold recipient?
  rw [found, routed]
  dsimp only
  rw [groupless]

theorem recipient?_of_group
    {hub : Ref .stage}
    {group : String}
    (found : store.hub? node = some hub)
    (routed : message.routing? = some header)
    (names : header.group? = some group) :
    store.recipient? node message =
      (header.member?.bind (store.boundFork? node group)).bind fun fork =>
        (store.forks.get fork).receiver? := by
  unfold recipient?
  rw [found, routed]
  dsimp only
  rw [names]
  cases header.member? <;> rfl

end Recipient

namespace Wired

variable {store : Store} {node : Ref .node} {group member : String}

/-- At most one fork that lasts is bound to a group and member at a node. -/
theorem fork_unique
    (wired : store.Wired)
    {left right : Ref .fork}
    (leftBound : store.IsBoundTo left node group member)
    (rightBound : store.IsBoundTo right node group member) :
    left = right := by
  obtain ⟨leftAlive, leftNode, leftGroup, leftMember⟩ := leftBound
  obtain ⟨rightAlive, rightNode, rightGroup, rightMember⟩ := rightBound
  obtain ⟨leftHub, leftFound, leftRegistered⟩ :=
    (wired.forks left (Table.issued_of_isNamed leftAlive)).stack
  obtain ⟨rightHub, rightFound, rightRegistered⟩ :=
    (wired.forks right (Table.issued_of_isNamed rightAlive)).stack
  have leftHeld := (wired.bound left leftAlive).member
  have rightHeld := (wired.bound right rightAlive).member
  rw [leftNode] at leftFound
  rw [rightNode, leftFound] at rightFound
  cases rightFound
  rw [leftGroup] at leftRegistered
  rw [rightGroup, leftRegistered] at rightRegistered
  have sameStack := Option.some.inj rightRegistered
  rw [leftMember, sameStack] at leftHeld
  rw [rightMember, leftHeld] at rightHeld
  exact Option.some.inj rightHeld

theorem boundFork?_eq_some
    (wired : store.Wired)
    {fork : Ref .fork} :
    store.boundFork? node group member = some fork ↔
      store.IsBoundTo fork node group member := by
  constructor
  · intro found
    have property := List.find?_some found
    exact of_decide_eq_true property
  · intro bound
    have listed : fork ∈ store.forks.refs := Table.mem_refs.mpr (Table.issued_of_isNamed bound.1)
    cases found : store.boundFork? node group member with
    | none =>
        have notBound := List.find?_eq_none.mp found fork listed
        exact absurd (decide_eq_true bound) notBound
    | some other =>
        have property := List.find?_some found
        have otherBound : store.IsBoundTo other node group member := of_decide_eq_true property
        rw [wired.fork_unique otherBound bound]

/-- The stack of a group at a node finds under a member the fork that is bound to both. -/
theorem liveMember?_eq_boundFork?
    (wired : store.Wired)
    {hub : Ref .stage}
    {stack : Ref .stack}
    (nodeIssued : store.nodes.Issued node)
    (found : store.hub? node = some hub)
    (registered : Delivery.stackOf? store hub group = some stack) :
    store.liveMember? stack member = store.boundFork? node group member := by
  have stackWired := (wired.nodes node nodeIssued).stackWired hub group stack found registered
  apply Option.ext
  intro fork
  rw [wired.boundFork?_eq_some, liveMember?, Option.filter_eq_some_iff]
  constructor
  · intro held
    obtain ⟨inMembers, alive⟩ := held
    obtain ⟨forkIssued, inStack, underMember⟩ :=
      wired.members stack member fork stackWired.issued inMembers
    have forkWired := wired.forks fork forkIssued
    obtain ⟨forkHub, forkFound, forkRegistered⟩ := forkWired.stack
    rw [inStack] at forkRegistered
    -- The stack has one group and hangs on one pipeline, which leads to one node.
    have other := (wired.nodes _ forkWired.node).stackWired forkHub _ stack forkFound forkRegistered
    have sameOutlet := other.outlet.symm.trans stackWired.outlet
    have samePipeline : (store.nodes.get (store.forks.get fork).node).pipeline =
        (store.nodes.get node).pipeline := by
      have sameAnchor := Option.some.inj sameOutlet
      exact (Outlet.anchor.inj sameAnchor).1
    exact ⟨alive, wired.eq_of_pipeline_eq forkWired.node nodeIssued samePipeline,
      other.named.symm.trans stackWired.named, underMember⟩
  · intro bound
    obtain ⟨alive, onNode, ofGroup, underMember⟩ := bound
    obtain ⟨forkHub, forkFound, forkRegistered⟩ :=
      (wired.forks fork (Table.issued_of_isNamed alive)).stack
    rw [onNode, found] at forkFound
    cases forkFound
    rw [ofGroup, registered] at forkRegistered
    have held := (wired.bound fork alive).member
    rw [← Option.some.inj forkRegistered, underMember] at held
    exact ⟨held, alive⟩

/-- A group without a stack at a node has no fork there. -/
theorem boundFork?_of_unregistered
    (wired : store.Wired)
    {hub : Ref .stage}
    (found : store.hub? node = some hub)
    (unregistered : Delivery.stackOf? store hub group = none)
    (member : String) :
    store.boundFork? node group member = none := by
  cases bound : store.boundFork? node group member with
  | none => rfl
  | some fork =>
      obtain ⟨alive, onNode, ofGroup, _⟩ := wired.boundFork?_eq_some.mp bound
      obtain ⟨forkHub, forkFound, forkRegistered⟩ :=
        (wired.forks fork (Table.issued_of_isNamed alive)).stack
      rw [onNode, found] at forkFound
      cases forkFound
      rw [ofGroup, unregistered] at forkRegistered
      cases forkRegistered

end Wired

end ChannelMux.Store
