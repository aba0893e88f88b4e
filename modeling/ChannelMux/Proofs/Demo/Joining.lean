import ChannelMux.Proofs.Demo.Making
import ChannelMux.Proofs.Network.Billing

/-!
Contract: the hosts of a demonstration join their cluster.

Owns that every host can join, one after the other, who is in the cluster then, and what
demultiplexers are charged for: everybody who has joined tells its groups of the new view. Nobody
is told of a message meanwhile.

Does not own what hosts do once all have joined.
-/

namespace ChannelMux

/-- The demultiplexer of a node that has one. -/
def Store.hubOf (store : Store) (node : Ref .node) : Ref .stage := (store.hub? node).getD ⟨0⟩

namespace Demo

/-! ### What is counted and told meanwhile -/

/-- Between two stores these things have been counted, and agents have been told of so many
messages. -/
structure Reckoned (charges : List Charge) (heard : Ref .agent → Nat) (before after : Store) :
    Prop where
  charged : Store.Charged charges before after
  told : ∀ agent, ∃ notices, after.agents.get agent = (before.agents.get agent).hearAll notices ∧
    (notices.flatMap Notice.messages).length = heard agent

namespace Reckoned

variable {before between after : Store} {first second : List Charge}
  {heardFirst heardSecond : Ref .agent → Nat}

theorem refl (store : Store) : Reckoned [] (fun _ => 0) store store where
  charged := .refl store
  told _ := ⟨[], rfl, rfl⟩

theorem trans
    (earlier : Reckoned first heardFirst before between)
    (later : Reckoned second heardSecond between after) :
    Reckoned (first ++ second) (fun agent => heardFirst agent + heardSecond agent) before
      after where
  charged := earlier.charged.trans later.charged
  told agent := by
    obtain ⟨notices, same, count⟩ := earlier.told agent
    obtain ⟨others, sameLater, countLater⟩ := later.told agent
    refine ⟨notices ++ others, ?_, ?_⟩
    · rw [sameLater, same, Agent.hearAll_append]
    · rw [List.flatMap_append, List.length_append, count, countLater]

/-- What is heard when an operation is called is known of what is sent. -/
theorem of_call
    {operation : Operation}
    {reply : Reply}
    {charges : List Charge}
    {heard : Ref .agent → Nat}
    (orderly : before.Orderly)
    (can : before.canCall operation = true)
    (finished : before.call operation = some (reply, after))
    (charged : Store.Charged charges before after)
    (count : ∀ agent, ((before.sent operation).messagesTo agent).length = heard agent) :
    Reckoned charges heard before after where
  charged := charged
  told agent := by
    obtain ⟨_, told, agents, messages⟩ := Store.orderly_call orderly can finished
    refine ⟨told.noticesTo agent, ?_, ?_⟩
    · rw [agents, get_hearAll]
    · have same := messages agent
      unfold Told.messagesTo at same
      rw [same]
      exact count agent

end Reckoned

/-! ### Joining -/

/-- The hosts that have joined a cluster, in order, while others wait. -/
structure Underway (base : Store) (hosts joined : List Host) (cluster : String) (store : Store) :
    Prop where
  reachable : store.Reachable Action.IsCalm
  skeleton : store.skeleton = base.skeleton
  members : (store.cluster "" cluster).members.map Member.node = joined.map Host.node
  connected : ∀ host ∈ joined, (store.nodes.get host.node).status = .connected ∧
    (store.nodes.get host.node).cluster? = some cluster
  waiting : ∀ host ∈ hosts, host.node ∉ joined.map Host.node →
    (store.nodes.get host.node).status = .opened

namespace Made

variable {plan : Plan} {hosts : List Host} {base : Store}
  (made : Made plan plan.nodes hosts base) (positive : plan.isPositive = true)

include made

theorem underway (cluster : String) : Underway base hosts [] cluster base where
  reachable := made.reachable
  skeleton := rfl
  members := by
    unfold Store.cluster
    rw [made.pristine.networks]
    rfl
  connected := by simp
  waiting host _ _ := (made.pristine.nodes host.node).1

include positive in
theorem hub?_eq {host : Host} (member : host ∈ hosts) :
    base.hub? host.node = some (base.hubOf host.node) := by
  have firstSeat : (0, 0) ∈ plan.seats := Plan.mem_seats.mpr (Plan.isPositive_iff.mp positive).2
  obtain ⟨channel, isChannel, _⟩ := (made.mem_seats_iff member).mp firstSeat
  have found := (made.furnishes host member).isSome_hub? isChannel
  unfold Store.hubOf
  exact (Option.some_get found).symm.trans (by rw [Option.get_eq_getD])

include positive in
theorem hubOf_inj
    {host other : Host}
    (member : host ∈ hosts)
    (otherMember : other ∈ hosts)
    (same : base.hubOf other.node = base.hubOf host.node) :
    other = host := by
  have wired := made.wired
  have found := made.hub?_eq positive member
  have foundOther := made.hub?_eq positive otherMember
  rw [same] at foundOther
  have sameNode := wired.hubs _ _ _ ((made.furnishes other otherMember).issued wired)
    ((made.furnishes host member).issued wired) foundOther found
  exact made.eq_of_node_eq member otherMember sameNode

end Made

namespace Underway

variable {base store : Store} {hosts joined : List Host} {cluster : String} {host : Host}
  (underway : Underway base hosts joined cluster store)

include underway

theorem orderly : store.Orderly := Store.orderly_of_reachable underway.reachable

theorem furnishes (furnished : Furnishes base host) : Furnishes store host :=
  furnished.of_skeleton_eq underway.skeleton

/-- The way up to a host is clear. -/
theorem clearWay
    (furnished : Furnishes base host)
    (found : base.hub? host.node = some (base.hubOf host.node)) :
    store.ClearWay host.node (base.hubOf host.node) := by
  have furnishes := underway.furnishes furnished
  refine underway.orderly.clearWay (furnishes.issued underway.orderly.wired) furnishes.oneHub ?_
  rw [hub?_of_skeleton_eq underway.skeleton]
  exact found

/-- What was called has put nodes and clusters where it puts them. -/
theorem of_call
    {operation : Operation}
    {reply : Reply}
    {after : Store}
    {others : List Host}
    (can : store.canCall operation = true)
    (finished : store.call operation = some (reply, after))
    (members : ((store.reseated operation).cluster "" cluster).members.map Member.node =
      others.map Host.node)
    (connected : ∀ host ∈ others,
      ((store.reseated operation).nodes.get host.node).status = .connected ∧
        ((store.reseated operation).nodes.get host.node).cluster? = some cluster)
    (waiting : ∀ host ∈ hosts, host.node ∉ others.map Host.node →
      ((store.reseated operation).nodes.get host.node).status = .opened) :
    Underway base hosts others cluster after := by
  obtain ⟨networks, nodes⟩ := (underway.orderly.passive.accounts finished).stands
  have status (node : Ref .node) : (after.nodes.get node).status =
      ((store.reseated operation).nodes.get node).status := by
    have fields := congrArg Node.status (nodes node)
    exact fields
  have inCluster (node : Ref .node) : (after.nodes.get node).cluster? =
      ((store.reseated operation).nodes.get node).cluster? := by
    have fields := congrArg Node.cluster? (nodes node)
    exact fields
  have acted : store.act? (.call operation) = some after := by
    unfold Store.act?
    rw [Store.given_eq_some, finished]
    exact ⟨can, rfl⟩
  refine ⟨.step underway.reachable (by trivial) acted, ?_, ?_, ?_, ?_⟩
  · exact (Store.skeleton_eq_of_call finished).trans underway.skeleton
  · unfold Store.cluster at members ⊢
    rw [networks]
    exact members
  · intro host member
    rw [status, inCluster]
    exact connected host member
  · intro host member apart
    rw [status]
    exact waiting host member apart

end Underway

/-- What a host that joins is charged for: everybody who has joined tells its groups of the new
view. -/
def greetings (base : Store) (joined : List Host) : List Charge :=
  joined.map fun host => .broadcast (base.hubOf host.node)

section Joining

variable {plan : Plan} {hosts joined : List Host} {base store : Store} {cluster : String}
  {host : Host} (made : Made plan plan.nodes hosts base) (positive : plan.isPositive = true)
  (underway : Underway base hosts joined cluster store) (isHost : host ∈ hosts)
  (waits : host.node ∉ joined.map Host.node)

include made underway isHost

theorem Underway.isNodeAlive : store.isNodeAlive host.node = true :=
  (underway.furnishes (made.furnishes host isHost)).alive

theorem Underway.network : (store.nodes.get host.node).network = "" :=
  (underway.furnishes (made.furnishes host isHost)).network

/-- The cluster with a host that joins has those who have joined, and the host. -/
theorem Underway.liveMembers_eq (known : ∀ other ∈ joined, other ∈ hosts) :
    Delivery.liveMembers store (store.clusterWith host.node cluster) =
      (joined ++ [host]).map Host.node := by
  have nodes : (store.clusterWith host.node cluster).members.map Member.node =
      (joined ++ [host]).map Host.node := by
    unfold Store.clusterWith
    dsimp only
    rw [underway.network made isHost, List.map_append, underway.members, List.map_append]
    rfl
  unfold Delivery.liveMembers
  rw [nodes, List.filter_eq_self]
  intro node member
  obtain ⟨other, isOther, rfl⟩ := List.mem_map.mp member
  rcases List.mem_append.mp isOther with old | new
  · exact underway.isNodeAlive made (known other old)
  · rw [List.mem_singleton.mp new]
    exact underway.isNodeAlive made isHost

include waits in
/-- Once a call has moved a host that waits into the cluster, the host has joined. -/
theorem Underway.of_connect
    {reply : Reply}
    {after : Store}
    (finished : store.call (.connect host.node cluster) = some (reply, after)) :
    Underway base hosts (joined ++ [host]) cluster after := by
  have alive := underway.isNodeAlive made isHost
  have reseated : store.reseated (.connect host.node cluster) = store.enter host.node cluster :=
    if_pos (underway.waiting host isHost waits)
  have entered : (store.enter host.node cluster).nodes.get host.node =
      { store.nodes.get host.node with status := .connected, cluster? := some cluster } := by
    rw [Store.nodes_enter]
    exact Table.get_modify_self (underway.orderly.wired.issued_of_isNodeAlive alive) _
  have others (node : Ref .node) (different : node ≠ host.node) :
      (store.enter host.node cluster).nodes.get node = store.nodes.get node := by
    rw [Store.nodes_enter]
    exact Table.get_modify_of_ne different _ _
  have can : store.canCall (.connect host.node cluster) = true := alive
  refine underway.of_call can finished ?_ ?_ ?_
  · have members := Store.members_enter_self store host.node cluster
    rw [underway.network made isHost] at members
    rw [reseated, members, List.map_append, underway.members, List.map_append]
    rfl
  · intro other member
    rw [reseated]
    rcases List.mem_append.mp member with old | new
    · rw [others other.node fun same => waits (same ▸ List.mem_map_of_mem old)]
      exact underway.connected other old
    · rw [List.mem_singleton.mp new, entered]
      exact ⟨rfl, rfl⟩
  · intro other member apart
    rw [List.map_append, List.mem_append, not_or] at apart
    rw [reseated, others other.node fun same => apart.2 (same ▸ List.mem_singleton_self _)]
    exact underway.waiting other member apart.1

include positive waits in
/-- A host that waits can join. -/
theorem Underway.join (known : ∀ other ∈ joined, other ∈ hosts) :
    ∃ after, store.call (.connect host.node cluster) = some (.ok (), after) ∧
      Underway base hosts (joined ++ [host]) cluster after ∧
      Reckoned (greetings base (joined ++ [host])) (fun _ => 0) store after := by
  have live := underway.liveMembers_eq made isHost known
  have clear : ∀ node ∈ Delivery.liveMembers store (store.clusterWith host.node cluster),
      store.ClearWay node (base.hubOf node) := by
    rw [live]
    intro node member
    obtain ⟨other, isOther, rfl⟩ := List.mem_map.mp member
    have isHostToo : other ∈ hosts := by
      rcases List.mem_append.mp isOther with old | new
      · exact known other old
      · rw [List.mem_singleton.mp new]
        exact isHost
    exact underway.clearWay (made.furnishes other isHostToo) (made.hub?_eq positive isHostToo)
  obtain ⟨after, finished, charged⟩ := Store.call_connect_charged underway.orderly
    (Store.soleHubs_of_reachable underway.reachable) (underway.waiting host isHost waits) clear
  rw [live, List.map_map] at charged
  have can : store.canCall (.connect host.node cluster) = true := underway.isNodeAlive made isHost
  exact ⟨after, finished, underway.of_connect made isHost waits finished,
    .of_call underway.orderly can finished charged fun _ => rfl⟩

end Joining

/-- What hosts are charged for that join one after the other. -/
def welcomes (base : Store) (joined : List Host) : List Charge :=
  (List.range joined.length).flatMap fun count => greetings base (joined.take (count + 1))

theorem welcomes_concat (base : Store) (joined : List Host) (host : Host) :
    welcomes base (joined ++ [host]) =
      welcomes base joined ++ greetings base (joined ++ [host]) := by
  unfold welcomes
  rw [List.length_append, List.length_singleton, List.range_succ, List.flatMap_append,
    List.flatMap_singleton]
  congr 1
  · refine List.flatMap_congr fun count member => ?_
    have below : count + 1 ≤ joined.length := List.mem_range.mp member
    rw [List.take_append_of_le_length below]
  · rw [List.take_of_length_le (by simp)]

/-- All hosts join, one after the other. -/
theorem Made.join_all
    {plan : Plan}
    {hosts : List Host}
    {base : Store}
    (made : Made plan plan.nodes hosts base)
    (positive : plan.isPositive = true)
    (cluster : String) :
    ∃ after, (hosts.forM fun host => call (.connect host.node cluster)) base = .ok ((), after) ∧
      Underway base hosts hosts cluster after ∧
      Reckoned (welcomes base hosts) (fun _ => 0) base after := by
  -- Who has joined is what the run of joinings carries on, with the bill for it so far.
  let holds (joined : List Host) (store : Store) : Prop :=
    Underway base hosts joined cluster store ∧
      Reckoned (welcomes base joined) (fun _ => 0) base store
  have start : holds [] base := ⟨made.underway cluster, .refl base⟩
  refine Play.forM_ok holds (fun joined host rest store split before => ?_) start
  obtain ⟨underway, reckoned⟩ := before
  have isHost : host ∈ hosts := by simp [split]
  have waits : host.node ∉ joined.map Host.node := by
    have nodes := made.nodes
    rw [split, List.map_append, List.nodup_append] at nodes
    intro member
    exact nodes.2.2 _ member _ (by simp) rfl
  obtain ⟨after, called, onward, bill⟩ := underway.join made positive isHost waits
    fun other member => by simp [split, member]
  refine ⟨after, Play.call_of_ok called, onward, ?_⟩
  rw [welcomes_concat]
  exact reckoned.trans bill

end Demo

end ChannelMux
