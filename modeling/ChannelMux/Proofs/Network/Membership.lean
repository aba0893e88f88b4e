import ChannelMux.Proofs.Network.Adoption
import ChannelMux.Proofs.Registry

/-!
Contract: who is in a cluster.

Owns the agreement of the clusters of a network with its nodes: a node that is listed in a
cluster is connected to it, and is listed there once and under its own address. Joining a
cluster, leaving it and closing a node keep it, and with it the agreement of the forks that
last with their nodes.
-/

namespace ChannelMux.Store

/-- A member of a cluster is a node that is connected to it, under the node's address. -/
structure Seated (nodes : Table .node Node) (network name : String) (member : Member) :
    Prop where
  issued : nodes.Issued member.node
  network : (nodes.get member.node).network = network
  status : (nodes.get member.node).status = .connected
  cluster : (nodes.get member.node).cluster? = some name
  address : (nodes.get member.node).address = member.address

/-- Clusters list nodes that are connected to them, and none twice. -/
structure Listed (store : Store) : Prop where
  seated : ∀ network name, ∀ member ∈ (store.cluster network name).members,
    Seated store.nodes network name member
  once : ∀ network name, ((store.cluster network name).members.map Member.node).Nodup

/-- Clusters, nodes and forks agree. -/
structure Agreed (store : Store) : Prop where
  listed : store.Listed
  mirrors : store.Mirrors

/-! ### Clusters -/

section Clusters

variable {store : Store} {network name : String}

theorem members_renewed (cluster : Cluster) : (renewed cluster).members = cluster.members := by
  unfold renewed
  split <;> rfl

theorem members_putCluster_self (cluster : Cluster) :
    ((store.putCluster network name cluster).cluster network name).members =
      cluster.members := by
  unfold Store.cluster putCluster
  rw [Registry.get?_alter_self, Option.getD_some]
  cases empty : cluster.members.isEmpty with
  | true =>
      rw [if_pos rfl, Registry.get?_erase_self]
      exact (List.isEmpty_iff.mp empty).symm
  | false =>
      rw [if_neg Bool.false_ne_true, Registry.get?_put_self]
      rfl

theorem cluster_putCluster_of_ne
    {otherNetwork otherName : String}
    (different : otherNetwork = network → otherName ≠ name)
    (cluster : Cluster) :
    (store.putCluster network name cluster).cluster otherNetwork otherName =
      store.cluster otherNetwork otherName := by
  unfold Store.cluster putCluster
  by_cases sameNetwork : otherNetwork = network
  · have otherwise := different sameNetwork
    subst sameNetwork
    rw [Registry.get?_alter_self, Option.getD_some]
    dsimp only
    split
    · rw [Registry.get?_erase_of_ne otherwise]
    · rw [Registry.get?_put_of_ne otherwise]
  · rw [Registry.get?_alter_of_ne sameNetwork]

end Clusters

/-! ### Seats -/

section Seats

variable {store : Store} {node : Ref .node} {name : String}

theorem Seated.modify_of_ne
    {nodes : Table .node Node}
    {network : String}
    {member : Member}
    (seated : Seated nodes network name member)
    (different : member.node ≠ node)
    (change : Node → Node) :
    Seated (nodes.modify node change) network name member := by
  obtain ⟨issued, inNetwork, status, cluster, address⟩ := seated
  have same : (nodes.modify node change).get member.node = nodes.get member.node :=
    Table.get_modify_of_ne different _ _
  refine ⟨Table.issued_modify.mpr issued, ?_, ?_, ?_, ?_⟩ <;> rw [same] <;> assumption

/-- A node that is not connected is in no cluster. -/
theorem Listed.ne_of_not_connected
    (listed : store.Listed)
    (notConnected : (store.nodes.get node).status ≠ .connected)
    {network : String}
    {member : Member}
    (isMember : member ∈ (store.cluster network name).members) :
    member.node ≠ node := by
  intro same
  have status := (listed.seated network name member isMember).status
  rw [same] at status
  exact notConnected status

/-- A node that has become different is in no cluster, and nobody has entered one. -/
theorem Listed.of_sublist
    {after : Store}
    {change : Node → Node}
    (listed : store.Listed)
    (nodes : after.nodes = store.nodes.modify node change)
    (left : ∀ network name, (after.cluster network name).members.Sublist
      (store.cluster network name).members)
    (gone : ∀ network name, ∀ member ∈ (after.cluster network name).members,
      member.node ≠ node) :
    after.Listed where
  seated network name member isMember := by
    rw [nodes]
    have before := listed.seated network name member ((left network name).subset isMember)
    exact before.modify_of_ne (gone network name member isMember) change
  once network name := (listed.once network name).sublist ((left network name).map Member.node)

theorem nodes_enter (store : Store) (node : Ref .node) (name : String) :
    (store.enter node name).nodes = store.nodes.modify node fun record =>
      { record with status := .connected, cluster? := some name } := rfl

theorem members_enter_self (store : Store) (node : Ref .node) (name : String) :
    ((store.enter node name).cluster (store.nodes.get node).network name).members =
      (store.cluster (store.nodes.get node).network name).members ++
        [{ address := (store.nodes.get node).address, name := (store.nodes.get node).name
           node := node }] := by
  unfold enter
  rw [members_putCluster_self, members_renewed]

theorem cluster_enter_of_ne
    {network other : String}
    (different : network = (store.nodes.get node).network → other ≠ name) :
    (store.enter node name).cluster network other = store.cluster network other :=
  cluster_putCluster_of_ne different _

theorem listed_enter
    (listed : store.Listed)
    (issued : store.nodes.Issued node)
    (notConnected : (store.nodes.get node).status ≠ .connected)
    (name : String) :
    (store.enter node name).Listed where
  seated network other member isMember := by
    rw [nodes_enter]
    by_cases here : network = (store.nodes.get node).network ∧ other = name
    · obtain ⟨rfl, rfl⟩ := here
      rw [members_enter_self] at isMember
      rcases List.mem_append.mp isMember with old | new
      · have before := listed.seated _ _ member old
        exact before.modify_of_ne (listed.ne_of_not_connected notConnected old) _
      · rw [List.mem_singleton.mp new]
        refine ⟨Table.issued_modify.mpr issued, ?_, ?_, ?_, ?_⟩ <;>
          rw [Table.get_modify_self issued]
    · have otherwise : network = (store.nodes.get node).network → other ≠ name :=
        fun sameNetwork sameName => here ⟨sameNetwork, sameName⟩
      rw [cluster_enter_of_ne otherwise] at isMember
      have before := listed.seated network other member isMember
      exact before.modify_of_ne (listed.ne_of_not_connected notConnected isMember) _
  once network other := by
    by_cases here : network = (store.nodes.get node).network ∧ other = name
    · obtain ⟨rfl, rfl⟩ := here
      rw [members_enter_self, List.map_append]
      refine List.nodup_append.mpr ⟨listed.once _ _, by simp, ?_⟩
      intro left inCluster right isNode sameNode
      obtain ⟨member, isMember, isLeft⟩ := List.mem_map.mp inCluster
      rw [List.mem_singleton.mp isNode, ← isLeft] at sameNode
      exact listed.ne_of_not_connected notConnected isMember sameNode
    · have otherwise : network = (store.nodes.get node).network → other ≠ name :=
        fun sameNetwork sameName => here ⟨sameNetwork, sameName⟩
      rw [cluster_enter_of_ne otherwise]
      exact listed.once network other

theorem members_withdraw_self (store : Store) (record : Node) (name : String) :
    ((store.withdraw record name).cluster record.network name).members =
      (store.cluster record.network name).members.filter (·.address != record.address) := by
  unfold withdraw
  dsimp only
  split
  · rename_i empty
    rw [List.isEmpty_iff.mp empty]
    rfl
  · rw [members_putCluster_self, members_renewed]

theorem cluster_withdraw_of_ne
    {record : Node}
    {network other : String}
    (different : network = record.network → other ≠ name)
    (store : Store) :
    (store.withdraw record name).cluster network other = store.cluster network other := by
  unfold withdraw
  dsimp only
  split
  · rfl
  · exact cluster_putCluster_of_ne different _

theorem nodes_withdraw (store : Store) (record : Node) (name : String) :
    (store.withdraw record name).nodes = store.nodes := by
  unfold withdraw
  dsimp only
  split <;> rfl

theorem nodes_exit (store : Store) (node : Ref .node) :
    (store.exit node).nodes = store.nodes.modify node fun record =>
      { record with status := .opened, cluster? := none, view? := none } := by
  unfold exit
  dsimp only
  split
  · exact nodes_withdraw _ _ _
  · rfl

/-- Leaving takes those with the address of the node out of the cluster that it has its seat
in, and leaves the other clusters as they are. -/
theorem members_exit_cases (store : Store) (node : Ref .node) (network other : String) :
    (network = (store.nodes.get node).network ∧
        (store.nodes.get node).cluster? = some other ∧
        ((store.exit node).cluster network other).members =
          (store.cluster network other).members.filter
            (·.address != (store.nodes.get node).address)) ∨
      (¬ (network = (store.nodes.get node).network ∧
          (store.nodes.get node).cluster? = some other) ∧
        ((store.exit node).cluster network other).members =
          (store.cluster network other).members) := by
  have opened : (store.modifyNode node fun record =>
      { record with status := .opened, cluster? := none, view? := none }).cluster network other =
        store.cluster network other := rfl
  unfold exit
  dsimp only
  cases inCluster : (store.nodes.get node).cluster? with
  | none =>
      dsimp only
      rw [opened]
      refine Or.inr ⟨fun found => ?_, rfl⟩
      cases found.2
  | some name =>
      dsimp only
      by_cases here : network = (store.nodes.get node).network ∧ other = name
      · obtain ⟨rfl, rfl⟩ := here
        rw [members_withdraw_self, opened]
        exact Or.inl ⟨rfl, rfl, rfl⟩
      · have elsewhere : network = (store.nodes.get node).network → other ≠ name :=
          fun sameNetwork sameName => here ⟨sameNetwork, sameName⟩
        rw [cluster_withdraw_of_ne elsewhere, opened]
        refine Or.inr ⟨fun found => ?_, rfl⟩
        exact here ⟨found.1, (Option.some.inj found.2).symm⟩

theorem listed_exit (listed : store.Listed) (node : Ref .node) : (store.exit node).Listed := by
  apply listed.of_sublist (nodes_exit store node)
  · intro network other
    obtain ⟨_, _, members⟩ | ⟨_, members⟩ := members_exit_cases store node network other
    · rw [members]
      exact List.filter_sublist
    · exact members ▸ List.Sublist.refl _
  · intro network other member isMember isNode
    have seated (old : member ∈ (store.cluster network other).members) :
        Seated store.nodes network other member := listed.seated network other member old
    obtain ⟨_, _, members⟩ | ⟨elsewhere, members⟩ :=
      members_exit_cases store node network other
    · rw [members] at isMember
      obtain ⟨old, kept⟩ := List.mem_filter.mp isMember
      rw [← isNode, (seated old).address] at kept
      simp at kept
    · rw [members] at isMember
      rw [← isNode] at elsewhere
      exact elsewhere ⟨(seated isMember).network.symm, (seated isMember).cluster⟩

end Seats

/-! ### Joining, leaving and closing -/

section Agreement

variable {store : Store} {node : Ref .node}

theorem listed_adopt (listed : store.Listed) (node : Ref .node) (entered : Status) :
    (store.adopt node entered).Listed := by
  obtain ⟨nodes, networks⟩ := nodes_adoptAll store entered (store.nodes.get node).listeners
  change (store.adopt node entered).nodes = store.nodes at nodes
  change (store.adopt node entered).networks = store.networks at networks
  have clusters (network name : String) :
      (store.adopt node entered).cluster network name = store.cluster network name := by
    unfold Store.cluster
    rw [networks]
  refine ⟨?_, ?_⟩
  · intro network name member isMember
    rw [clusters] at isMember
    rw [nodes]
    exact listed.seated network name member isMember
  · intro network name
    rw [clusters]
    exact listed.once network name

/-- A node enters a status and its listeners are told of it. -/
theorem agreed_adopt
    {between : Store}
    {change : Node → Node}
    (wired : store.Wired)
    (issued : store.nodes.Issued node)
    (mirrors : store.Mirrors)
    (listed : between.Listed)
    (skeleton : between.skeleton = store.skeleton)
    (nodes : between.nodes = store.nodes.modify node change)
    (forks : between.forks = store.forks) :
    (between.adopt node (between.nodes.get node).status).Agreed := by
  refine ⟨listed_adopt listed node _, ?_⟩
  apply mirrors_adopt (wired.of_skeleton_eq skeleton)
  · rw [nodes]
    exact Table.issued_modify.mpr issued
  · intro fork alive otherNode
    rw [isForkAlive_eq skeleton] at alive
    rw [forks] at otherNode ⊢
    rw [nodes, Table.get_modify_of_ne otherNode]
    exact mirrors fork alive

theorem skeleton_enter (store : Store) (node : Ref .node) (name : String) :
    (store.enter node name).skeleton = store.skeleton := by
  unfold enter skeleton modifyNode putCluster
  dsimp only
  rw [Table.map_modify]
  intro record
  rfl

theorem skeleton_withdraw (store : Store) (record : Node) (name : String) :
    (store.withdraw record name).skeleton = store.skeleton := by
  unfold withdraw
  dsimp only
  split <;> rfl

theorem forks_withdraw (store : Store) (record : Node) (name : String) :
    (store.withdraw record name).forks = store.forks := by
  unfold withdraw
  dsimp only
  split <;> rfl

theorem skeleton_exit (store : Store) (node : Ref .node) :
    (store.exit node).skeleton = store.skeleton := by
  have opened : (store.modifyNode node fun record =>
      { record with status := .opened, cluster? := none, view? := none }).skeleton =
        store.skeleton := by
    apply skeleton_modifyNode
    intro record
    rfl
  unfold exit
  dsimp only
  split
  · exact (skeleton_withdraw _ _ _).trans opened
  · exact opened

theorem agents_exit (store : Store) (node : Ref .node) :
    (store.exit node).agents = store.agents := by
  unfold exit withdraw
  dsimp only
  split
  · split <;> rfl
  · rfl

theorem stages_exit (store : Store) (node : Ref .node) :
    (store.exit node).stages = store.stages := by
  unfold exit withdraw
  dsimp only
  split
  · split <;> rfl
  · rfl

theorem forks_exit (store : Store) (node : Ref .node) :
    (store.exit node).forks = store.forks := by
  unfold exit
  dsimp only
  split
  · exact forks_withdraw _ _ _
  · rfl

theorem agreed_connected (wired : store.Wired) (issued : store.nodes.Issued node)
    (agreed : store.Agreed) (name : String) :
    (store.connected node name).Agreed := by
  unfold connected
  split
  · rename_i opened
    have notConnected : (store.nodes.get node).status ≠ .connected := by
      rw [opened]
      intro impossible
      cases impossible
    have entered : ((store.enter node name).nodes.get node).status = .connected := by
      rw [nodes_enter, Table.get_modify_self issued]
    rw [← entered]
    exact agreed_adopt wired issued agreed.mirrors
      (listed_enter agreed.listed issued notConnected name) (skeleton_enter store node name)
      (nodes_enter store node name) rfl
  · exact agreed

theorem agreed_disconnected (wired : store.Wired) (issued : store.nodes.Issued node)
    (agreed : store.Agreed) :
    (store.disconnected node).Agreed := by
  unfold disconnected
  split
  · have left : ((store.exit node).nodes.get node).status = .opened := by
      rw [nodes_exit, Table.get_modify_self issued]
    rw [← left]
    exact agreed_adopt wired issued agreed.mirrors (listed_exit agreed.listed node)
      (skeleton_exit store node) (nodes_exit store node) (forks_exit store node)
  · exact agreed

theorem skeleton_disconnected (store : Store) (node : Ref .node) :
    (store.disconnected node).skeleton = store.skeleton := by
  unfold disconnected
  split
  · exact (skeleton_adoptAll _ _ _).trans (skeleton_exit store node)
  · rfl

theorem nodes_shut (store : Store) (node : Ref .node) :
    (store.shut node).nodes = store.nodes.modify node fun record =>
      { record with status := .closed } := rfl

theorem agreed_shut (wired : store.Wired) (issued : store.nodes.Issued node)
    (agreed : store.Agreed) (notConnected : (store.nodes.get node).status ≠ .connected) :
    ((store.shut node).adopt node .closed).Agreed := by
  have listed : (store.shut node).Listed := by
    apply agreed.listed.of_sublist (nodes_shut store node)
    · intro network name
      exact List.Sublist.refl _
    · intro network name member isMember
      exact agreed.listed.ne_of_not_connected notConnected isMember
  have skeleton : (store.shut node).skeleton = store.skeleton := by
    apply skeleton_modifyNode
    intro record
    rfl
  have shut : ((store.shut node).nodes.get node).status = .closed := by
    rw [nodes_shut, Table.get_modify_self issued]
  rw [← shut]
  exact agreed_adopt wired issued agreed.mirrors listed skeleton (nodes_shut store node) rfl

theorem not_connected_disconnected (issued : store.nodes.Issued node) :
    ((store.disconnected node).nodes.get node).status ≠ .connected := by
  unfold disconnected
  split
  · have nodes : ((store.exit node).adopt node .opened).nodes = (store.exit node).nodes :=
      (nodes_adoptAll _ _ _).1
    rw [nodes, nodes_exit, Table.get_modify_self issued]
    intro impossible
    cases impossible
  · assumption

theorem agreed_closed (wired : store.Wired) (issued : store.nodes.Issued node)
    (agreed : store.Agreed) :
    (store.closed node).Agreed := by
  have leftAgreed := agreed_disconnected wired issued agreed
  have skeleton := skeleton_disconnected store node
  have leftIssued := (issued_node_iff skeleton node).mpr issued
  unfold closed
  dsimp only
  split
  · exact agreed_shut (wired.of_skeleton_eq skeleton) leftIssued leftAgreed
      (not_connected_disconnected issued)
  · exact leftAgreed

end Agreement

end ChannelMux.Store
