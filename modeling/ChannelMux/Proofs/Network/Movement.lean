import ChannelMux.Proofs.Network.Standing

/-!
Contract: where operations move nodes, and what they announce.

Owns what an operation announces: the view that the cluster then has, to its members that
last, and nothing if nobody is left there. Owns which clusters are other ones afterwards, and
that a node stays where it is, enters a cluster or leaves the one that it was in.
-/

namespace ChannelMux

/-- The view that the members of a cluster have. -/
def Cluster.view (cluster : Cluster) : View :=
  let addresses := cluster.members.map Member.address
  { creator := addresses.headD default, id := cluster.lastView, members := addresses }

namespace Store

variable {store after : Store} {node : Ref .node} {network name : String}

/-! ### What is announced -/

theorem cluster_putCluster_of_members
    {cluster : Cluster}
    (members : cluster.members ≠ [])
    (store : Store)
    (network name : String) :
    (store.putCluster network name cluster).cluster network name = cluster := by
  have occupied : ¬ cluster.members.isEmpty = true := fun empty => members (List.isEmpty_iff.mp empty)
  unfold Store.cluster putCluster
  rw [Registry.get?_alter_self, Option.getD_some]
  dsimp only
  rw [if_neg occupied, Registry.get?_put_self]
  rfl

/-- A cluster without members is forgotten, and with it the number of its latest view. -/
theorem cluster_putCluster_of_empty
    {cluster : Cluster}
    (empty : cluster.members = [])
    (store : Store)
    (network name : String) :
    (store.putCluster network name cluster).cluster network name = {} := by
  unfold Store.cluster putCluster
  rw [Registry.get?_alter_self, Option.getD_some]
  dsimp only
  rw [if_pos (List.isEmpty_iff.mpr empty), Registry.get?_erase_self]
  rfl

/-- What is announced is the next view of a cluster, to the members of it that last. -/
structure Announces (store moved : Store) (announcement : Announcement) : Prop where
  members : (moved.cluster announcement.network announcement.cluster).members ≠ []
  view : announcement.view =
    (moved.cluster announcement.network announcement.cluster).view
  number : announcement.view.id =
    (store.cluster announcement.network announcement.cluster).lastView + 1
  recipients : announcement.recipients = Delivery.liveMembers store
    (moved.cluster announcement.network announcement.cluster)
  elsewhere : ∀ network name, (network = announcement.network → name ≠ announcement.cluster) →
    moved.cluster network name = store.cluster network name

/-- Nothing is announced: at most the last member of a cluster has left it. -/
def Unannounced (store moved : Store) : Prop :=
  ∀ network name, moved.cluster network name = store.cluster network name ∨
    moved.cluster network name = {} ∧ (store.cluster network name).members ≠ []

/-- A cluster is kept whose members have changed. -/
theorem announce_cases
    {base : Store}
    {cluster : Cluster}
    (same : base.networks = store.networks)
    (number : cluster.lastView = (store.cluster network name).lastView)
    (changes : cluster.members = [] → (store.cluster network name).members ≠ []) :
    (store.announce? network name cluster = none ∧
        Unannounced store (base.putCluster network name (renewed cluster))) ∨
      ∃ announcement, store.announce? network name cluster = some announcement ∧
        Announces store (base.putCluster network name (renewed cluster)) announcement := by
  have others (otherNetwork otherName : String)
      (different : otherNetwork = network → otherName ≠ name) :
      (base.putCluster network name (renewed cluster)).cluster otherNetwork otherName =
        store.cluster otherNetwork otherName := by
    rw [cluster_putCluster_of_ne different]
    unfold Store.cluster
    rw [same]
  by_cases empty : cluster.members = []
  · left
    refine ⟨if_pos (List.isEmpty_iff.mpr empty), fun otherNetwork otherName => ?_⟩
    by_cases here : otherNetwork = network ∧ otherName = name
    · obtain ⟨rfl, rfl⟩ := here
      right
      refine ⟨cluster_putCluster_of_empty ?_ _ _ _, changes empty⟩
      rw [members_renewed, empty]
    · exact Or.inl (others _ _ fun sameNetwork sameName => here ⟨sameNetwork, sameName⟩)
  · right
    have occupied : ¬ cluster.members.isEmpty = true := fun none => empty (List.isEmpty_iff.mp none)
    have kept : (base.putCluster network name (renewed cluster)).cluster network name =
        (Delivery.nextView cluster).2 := by
      have isRenewed : renewed cluster = (Delivery.nextView cluster).2 := if_neg occupied
      rw [isRenewed]
      have members : (Delivery.nextView cluster).2.members ≠ [] := empty
      exact cluster_putCluster_of_members members base network name
    refine ⟨_, if_neg occupied, ?_, ?_, ?_, ?_, others⟩
    · rw [kept]
      exact empty
    · rw [kept]
      rfl
    · change cluster.lastView + 1 = _
      rw [number]
    · rw [kept]
      rfl

theorem announce_enter_cases (store : Store) (node : Ref .node) (name : String) :
    ∃ announcement,
      store.announce? (store.nodes.get node).network name (store.clusterWith node name) =
          some announcement ∧
        Announces store (store.enter node name) announcement := by
  have joined : (store.clusterWith node name).members ≠ [] := by
    unfold clusterWith
    simp
  let base := store.modifyNode node fun record =>
    { record with status := .connected, cluster? := some name }
  have same : base.networks = store.networks := rfl
  have occupied : ¬ (store.clusterWith node name).members.isEmpty = true :=
    fun nobody => joined (List.isEmpty_iff.mp nobody)
  have number : (store.clusterWith node name).lastView =
      (store.cluster (store.nodes.get node).network name).lastView := rfl
  rcases announce_cases same number fun nobody => absurd nobody joined with silent | announced
  · have impossible := silent.1
    unfold announce? at impossible
    rw [if_neg occupied] at impossible
    cases impossible
  · exact announced

/-- A node that leaves its cluster is announced to those that are left there. -/
theorem announce_exit_cases
    {name : String}
    (inCluster : (store.nodes.get node).cluster? = some name) :
    let record := store.nodes.get node
    (store.announce? record.network name (store.clusterWithout record name) = none ∧
        Unannounced store (store.exit node)) ∨
      ∃ announcement,
        store.announce? record.network name (store.clusterWithout record name) =
            some announcement ∧
          Announces store (store.exit node) announcement := by
  let base := store.modifyNode node fun record =>
    { record with status := .opened, cluster? := none, view? := none }
  have same : base.networks = store.networks := rfl
  have left : store.exit node = base.withdraw (store.nodes.get node) name := by
    unfold exit
    dsimp only
    rw [inCluster]
  dsimp only
  rw [left]
  unfold withdraw
  dsimp only
  split
  · rename_i nobody
    left
    have nobodyBefore : (store.cluster (store.nodes.get node).network name).members = [] :=
      List.isEmpty_iff.mp nobody
    have empty : (store.clusterWithout (store.nodes.get node) name).members.isEmpty = true := by
      unfold clusterWithout
      dsimp only
      rw [nobodyBefore]
      rfl
    refine ⟨if_pos empty, fun _ _ => Or.inl rfl⟩
  · rename_i occupied
    exact announce_cases same rfl fun _ members => occupied (List.isEmpty_iff.mpr members)

theorem unannounced_refl (store : Store) : Unannounced store store :=
  fun _ _ => Or.inl rfl

theorem parting_cases (store : Store) (node : Ref .node) :
    (store.parting? node = none ∧
        Unannounced store (store.moved (.disconnect node))) ∨
      ∃ announcement, store.parting? node = some announcement ∧
        Announces store (store.moved (.disconnect node)) announcement := by
  unfold parting? moved
  dsimp only
  by_cases connected : (store.nodes.get node).status = .connected
  · rw [if_pos connected, if_pos connected]
    cases inCluster : (store.nodes.get node).cluster? with
    | some name => exact announce_exit_cases inCluster
    | none =>
        refine Or.inl ⟨rfl, fun network name => Or.inl ?_⟩
        unfold exit
        dsimp only
        rw [inCluster]
        rfl
  · rw [if_neg connected, if_neg connected]
    exact Or.inl ⟨rfl, unannounced_refl store⟩

/-- What an operation announces, and which clusters are other ones afterwards. -/
theorem announcement_cases (store : Store) (operation : Operation) :
    (store.announcement? operation = none ∧ Unannounced store (store.moved operation)) ∨
      ∃ announcement, store.announcement? operation = some announcement ∧
        Announces store (store.moved operation) announcement := by
  cases operation with
  | connect node name =>
      unfold announcement? moved
      dsimp only
      by_cases opened : (store.nodes.get node).status = .opened
      · rw [if_pos opened, if_pos opened]
        exact Or.inr (announce_enter_cases store node name)
      · rw [if_neg opened, if_neg opened]
        exact Or.inl ⟨rfl, unannounced_refl store⟩
  | disconnect node => exact parting_cases store node
  | close node => exact parting_cases store node
  | sendFork fork message => exact Or.inl ⟨rfl, unannounced_refl store⟩
  | sendNode node message => exact Or.inl ⟨rfl, unannounced_refl store⟩

/-! ### Where nodes are moved -/

/-- A node stays as it is, enters a cluster, or leaves the one that it was in. -/
inductive NodeMove (store : Store) (operation : Operation) (node : Ref .node) (record : Node) :
    Prop where
  | stays (same : record = store.nodes.get node)
  | enters (name : String) (called : operation = .connect node name)
      (opened : (store.nodes.get node).status = .opened)
      (same : record =
        { store.nodes.get node with status := .connected, cluster? := some name })
  | exits (called : operation = .disconnect node ∨ operation = .close node)
      (connected : (store.nodes.get node).status = .connected)
      (same : record =
        { store.nodes.get node with status := .opened, cluster? := none, view? := none })

theorem nodeMove_exit
    {operation : Operation}
    {moving : Ref .node}
    (called : operation = .disconnect moving ∨ operation = .close moving)
    (connected : (store.nodes.get moving).status = .connected)
    (node : Ref .node) :
    NodeMove store operation node ((store.exit moving).nodes.get node) := by
  rw [nodes_exit]
  by_cases isMoving : node = moving
  · subst isMoving
    by_cases issued : store.nodes.Issued node
    · exact .exits called connected (Table.get_modify_self issued _)
    · rw [Table.get_of_not_issued issued] at connected
      cases connected
  · exact .stays (Table.get_modify_of_ne isMoving _ _)

theorem nodeMove_moved (store : Store) (operation : Operation) (node : Ref .node) :
    NodeMove store operation node ((store.moved operation).nodes.get node) := by
  cases store.move_moved operation with
  | stays same => exact .stays (by rw [same])
  | enters moving name called opened same =>
      rw [same, nodes_enter]
      by_cases isMoving : node = moving
      · subst isMoving
        by_cases issued : store.nodes.Issued node
        · exact .enters name called opened (Table.get_modify_self issued _)
        · refine .stays ?_
          rw [Table.get_of_not_issued issued,
            Table.get_of_not_issued (mt Table.issued_modify.mp issued)]
      · exact .stays (Table.get_modify_of_ne isMoving _ _)
  | exits moving called connected same =>
      rw [same]
      exact nodeMove_exit called connected node

/-- A node that is closed has left its cluster before. -/
theorem not_connected_moved_close (store : Store) (node : Ref .node) :
    ((store.moved (.close node)).nodes.get node).status ≠ .connected := by
  intro connected
  cases nodeMove_moved store (.close node) node with
  | stays same =>
      rw [same] at connected
      have left : store.moved (.close node) = store.exit node := if_pos connected
      have issued : store.nodes.Issued node := by
        by_contra notIssued
        rw [Table.get_of_not_issued notIssued] at connected
        cases connected
      rw [left, nodes_exit, Table.get_modify_self issued] at same
      have opened := congrArg Node.status same
      rw [connected] at opened
      cases opened
  | enters name called => cases called
  | exits _ _ same =>
      rw [same] at connected
      cases connected

/-- Beside being moved a node may be closed, and is in no cluster then. -/
theorem node_reseated_cases (store : Store) (operation : Operation) (node : Ref .node) :
    (store.reseated operation).nodes.get node = (store.moved operation).nodes.get node ∨
      ((store.moved operation).nodes.get node).status ≠ .connected ∧
        (store.reseated operation).nodes.get node =
          { (store.moved operation).nodes.get node with status := .closed } := by
  cases operation with
  | close moving =>
      by_cases isMoving : node = moving
      · subst isMoving
        by_cases issued : (store.moved (.close node)).nodes.Issued node
        · exact Or.inr ⟨not_connected_moved_close store node,
            Accounts.node_shut_self issued⟩
        · refine Or.inl ?_
          unfold reseated
          rw [nodes_shut, Table.get_of_not_issued issued,
            Table.get_of_not_issued (mt Table.issued_modify.mp issued)]
      · exact Or.inl (Accounts.node_shut_of_ne isMoving _)
  | _ => exact Or.inl rfl

theorem listed_moved
    {operation : Operation}
    (wired : store.Wired)
    (listed : store.Listed)
    (can : store.canCall operation = true) :
    (store.moved operation).Listed := by
  cases store.move_moved operation with
  | stays same =>
      rw [same]
      exact listed
  | enters node name called opened same =>
      rw [same]
      subst called
      refine listed_enter listed (wired.issued_of_isNodeAlive can) ?_ name
      rw [opened]
      exact fun impossible => nomatch impossible
  | exits node _ _ same =>
      rw [same]
      exact listed_exit listed node

end Store

end ChannelMux
