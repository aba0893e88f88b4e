import ChannelMux.Proofs.Delivery.Lifecycle

/-!
Contract: what connecting, disconnecting and closing announce, and to whom.

Owns the announcement that an operation makes, which is a new view and the members it is
given to, and the order of what an operation does: first the node is moved, then the new view
is given to the members, then the listeners are told.
-/

namespace ChannelMux

/-- A new view of a cluster, and the members that it is given to, in turn. -/
structure Announcement where
  network : String
  cluster : String
  view : View
  recipients : List (Ref .node)
deriving DecidableEq

namespace Store

/-- The announcement of a cluster whose members have changed; if nobody is left there is
none. -/
def announce? (store : Store) (network name : String) (cluster : Cluster) :
    Option Announcement :=
  if cluster.members.isEmpty then none
  else some
    { network := network, cluster := name, view := (Delivery.nextView cluster).1
      recipients := Delivery.liveMembers store cluster }

/-- A cluster with a node as its last member. -/
def clusterWith (store : Store) (node : Ref .node) (name : String) : Cluster :=
  let record := store.nodes.get node
  let cluster := store.cluster record.network name
  { cluster with
    members := cluster.members ++
      [{ address := record.address, name := record.name, node := node }] }

/-- A cluster without those that have the address of a node. -/
def clusterWithout (store : Store) (record : Node) (name : String) : Cluster :=
  let cluster := store.cluster record.network name
  { cluster with members := cluster.members.filter (·.address != record.address) }

/-- What is announced when a node leaves the cluster that it is in. -/
def parting? (store : Store) (node : Ref .node) : Option Announcement :=
  let record := store.nodes.get node
  if record.status = .connected then
    record.cluster?.bind fun name =>
      store.announce? record.network name (store.clusterWithout record name)
  else none

/-- What an operation announces. -/
def announcement? (store : Store) : Operation → Option Announcement
  | .connect node name =>
      if (store.nodes.get node).status = .opened then
        store.announce? (store.nodes.get node).network name (store.clusterWith node name)
      else none
  | .disconnect node => store.parting? node
  | .close node => store.parting? node
  | .sendFork _ _ => none
  | .sendNode _ _ => none

/-- What an operation makes of a store before it announces anything: the node is moved. -/
def moved (store : Store) : Operation → Store
  | .connect node name =>
      if (store.nodes.get node).status = .opened then store.enter node name else store
  | .disconnect node => if (store.nodes.get node).status = .connected then store.exit node else store
  | .close node => if (store.nodes.get node).status = .connected then store.exit node else store
  | .sendFork _ _ => store
  | .sendNode _ _ => store

/-- How an operation moves its node. -/
inductive Move (store : Store) (operation : Operation) (moved : Store) : Prop where
  | stays (same : moved = store)
  | enters (node : Ref .node) (name : String) (called : operation = .connect node name)
      (opened : (store.nodes.get node).status = .opened) (same : moved = store.enter node name)
  | exits (node : Ref .node) (called : operation = .disconnect node ∨ operation = .close node)
      (connected : (store.nodes.get node).status = .connected) (same : moved = store.exit node)

theorem move_moved (store : Store) (operation : Operation) :
    Move store operation (store.moved operation) := by
  cases operation with
  | connect node name =>
      by_cases opened : (store.nodes.get node).status = .opened
      · exact .enters node name rfl opened (if_pos opened)
      · exact .stays (if_neg opened)
  | disconnect node =>
      by_cases connected : (store.nodes.get node).status = .connected
      · exact .exits node (Or.inl rfl) connected (if_pos connected)
      · exact .stays (if_neg connected)
  | close node =>
      by_cases connected : (store.nodes.get node).status = .connected
      · exact .exits node (Or.inr rfl) connected (if_pos connected)
      · exact .stays (if_neg connected)
  | sendFork fork message => exact .stays rfl
  | sendNode node message => exact .stays rfl

/-- Where the nodes are after an operation: the node is moved, and if it is closed then it is
closed for good. -/
def reseated (store : Store) : Operation → Store
  | .close node => (store.moved (.close node)).shut node
  | operation => store.moved operation

theorem liveMembers_eq
    {before after : Store}
    (same : after.skeleton = before.skeleton)
    (cluster : Cluster) :
    Delivery.liveMembers after cluster = Delivery.liveMembers before cluster := by
  unfold Delivery.liveMembers
  rw [funext (isNodeAlive_eq same)]

theorem announce?_eq
    {before after : Store}
    (same : after.skeleton = before.skeleton)
    (network name : String)
    (cluster : Cluster) :
    after.announce? network name cluster = before.announce? network name cluster := by
  unfold announce?
  rw [liveMembers_eq same]

end Store

/-! ### The order of what is done -/

namespace Delivery

/-- Gives a new view to its recipients, in turn. -/
def announce (inner : Entrances) : Option Announcement → Run Unit
  | none => pure ()
  | some announcement => announcement.recipients.forM (giveView inner announcement.view)

theorem installView_eq (inner : Entrances) (network name : String) (cluster : Cluster)
    (store : Store) :
    installView inner network name cluster store =
      announce inner (store.announce? network name cluster)
        (store.putCluster network name (Store.renewed cluster)) := by
  unfold installView Store.announce? Store.renewed
  split
  · rfl
  · rfl

theorem join_eq (inner : Entrances) (node : Ref .node) (name : String) (store : Store) :
    join inner node name store =
      announce inner
        (store.announce? (store.nodes.get node).network name (store.clusterWith node name))
        (store.enter node name) := by
  have same : (store.modifyNode node fun record =>
      { record with status := .connected, cluster? := some name }).skeleton =
        store.skeleton := by
    apply Store.skeleton_modifyNode
    intro record
    rfl
  rw [← Store.announce?_eq same]
  exact installView_eq inner _ name (store.clusterWith node name) _

/-- Connecting moves the node, announces the new view and tells the listeners. -/
theorem connect_eq
    {node : Ref .node}
    {store : Store}
    (opened : (store.nodes.get node).status = .opened)
    (inner : Entrances)
    (name : String) :
    connect inner node name store =
      (announce inner (store.announcement? (.connect node name)) >>= fun _ =>
        tellListeners inner node .connected >>= fun _ => pure (.ok ()))
          (store.enter node name) := by
  have joins : connect inner node name store =
      (join inner node name >>= fun _ =>
        tellListeners inner node .connected >>= fun _ => pure (.ok ())) store := by
    unfold connect
    rw [Rule.look_apply, opened]
  have announces : store.announcement? (.connect node name) =
      store.announce? (store.nodes.get node).network name (store.clusterWith node name) :=
    if_pos opened
  rw [joins, announces]
  change (join inner node name store).bind _ = _
  rw [join_eq]
  rfl

theorem leave_eq (inner : Entrances) (record : Node) (name : String) (store : Store) :
    leave inner record name store =
      announce inner
        (store.announce? record.network name (store.clusterWithout record name))
        (store.withdraw record name) := by
  unfold Store.withdraw
  change (if (store.cluster record.network name).members.isEmpty then _ else _ : Run Unit)
    store = _
  split
  · rename_i empty
    have nobody : (store.clusterWithout record name).members.isEmpty = true := by
      unfold Store.clusterWithout
      dsimp only
      rw [List.isEmpty_iff.mp empty]
      rfl
    unfold Store.announce?
    rw [if_pos nobody, if_pos empty]
    rfl
  · rename_i others
    rw [if_neg others]
    exact installView_eq inner _ name (store.clusterWithout record name) store

/-- Disconnecting moves the node, announces the new view and tells the listeners. -/
theorem disconnect_eq
    {node : Ref .node}
    {store : Store}
    (connected : (store.nodes.get node).status = .connected)
    (inner : Entrances) :
    disconnect inner node store =
      (announce inner (store.announcement? (.disconnect node)) >>= fun _ =>
        tellListeners inner node .opened) (store.exit node) := by
  have same : (store.modifyNode node fun record =>
      { record with status := .opened, cluster? := none, view? := none }).skeleton =
        store.skeleton := by
    apply Store.skeleton_modifyNode
    intro record
    rfl
  have parts : store.announcement? (.disconnect node) =
      (store.nodes.get node).cluster?.bind fun name =>
        store.announce? (store.nodes.get node).network name
          (store.clusterWithout (store.nodes.get node) name) := if_pos connected
  have opens : disconnect inner node store =
      ((store.nodes.get node).cluster?.elim (pure ()) (leave inner (store.nodes.get node)) >>=
        fun _ => tellListeners inner node .opened)
          (store.modifyNode node fun record =>
            { record with status := .opened, cluster? := none, view? := none }) := by
    change (if (store.nodes.get node).status = .connected then _ else _ : Run Unit) store = _
    rw [if_pos connected]
    cases (store.nodes.get node).cluster? <;> rfl
  rw [opens, parts]
  unfold Store.exit
  dsimp only
  cases (store.nodes.get node).cluster? with
  | none => rfl
  | some name =>
      change (leave inner (store.nodes.get node) name _).bind _ = _
      rw [leave_eq, Store.announce?_eq same]
      rfl

end Delivery

end ChannelMux
