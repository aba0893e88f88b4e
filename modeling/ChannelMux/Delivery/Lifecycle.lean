import ChannelMux.Delivery.Agent

/-!
Contract: how nodes join and leave clusters.

Owns connecting, disconnecting and closing, the views that every change of membership
makes, and the order of what is told to whom: first every member that still exists is given
the view, then the listeners of the node are told its status.

A member that does not exist any more stays listed until its address leaves. The number of
a cluster's latest view is forgotten with its last member.
-/

namespace ChannelMux.Delivery

/-- The view of a cluster after a change of its members, and the cluster that has it. -/
def nextView (cluster : Cluster) : View × Cluster :=
  let addresses := cluster.members.map Member.address
  let number := cluster.lastView + 1
  ({ creator := addresses.headD default, id := number, members := addresses },
    { cluster with lastView := number })

/-- The members of a cluster that still exist, in the order in which they joined. -/
def liveMembers (store : Store) (cluster : Cluster) : List (Ref .node) :=
  (cluster.members.map Member.node).filter store.isNodeAlive

def giveView (inner : Entrances) (view : View) (node : Ref .node) : Run Unit := do
  modify fun store => store.modifyNode node fun record => { record with view? := some view }
  let pipeline ← Run.look fun store => (store.nodes.get node).pipeline
  (inner.travel (.up pipeline (.single (.viewChange view)))).ignore

/-- Keeps a cluster whose members have changed, and gives the new view to those that still
exist; a cluster without members has no view. -/
def installView (inner : Entrances) (network name : String) (cluster : Cluster) : Run Unit := do
  if cluster.members.isEmpty then
    modify fun store => store.putCluster network name cluster
  else
    let (view, viewed) := nextView cluster
    modify fun store => store.putCluster network name viewed
    let members ← Run.look fun store => liveMembers store viewed
    members.forM (giveView inner view)

/-- Tells a listener that a node entered a status. A fork takes the status over, and is
given the address of the node when it is connected. -/
def tellListener (inner : Entrances) (node : Ref .node) (entered : Status)
    (listener : Listener) : Run Unit := do
  let record ← Run.look fun store => store.nodes.get node
  match listener with
  | .agent agent => (tell inner agent (.status entered record.status)).ignore
  | .fork fork =>
      if (← get).isForkAlive fork then
        modify fun store => store.modifyFork fork fun record => { record with status := entered }
        if entered = .connected then
          (handFork inner fork (.single (.localAddress record.address))).ignore

def tellListeners (inner : Entrances) (node : Ref .node) (entered : Status) : Run Unit := do
  let listeners ← Run.look fun store => (store.nodes.get node).listeners
  listeners.forM fun entry => tellListener inner node entered entry.2

def setStatus (node : Ref .node) (status : Status) : Run Unit :=
  modify fun store => store.modifyNode node fun record => { record with status := status }

def join (inner : Entrances) (node : Ref .node) (name : String) : Run Unit := do
  let record ← Run.look fun store => store.nodes.get node
  let cluster ← Run.look fun store => store.cluster record.network name
  let member : Member := { address := record.address, name := record.name, node := node }
  modify fun store => store.modifyNode node fun record =>
    { record with status := .connected, cluster? := some name }
  installView inner record.network name
    { cluster with members := cluster.members ++ [member] }

/-- Connects a node to a cluster. It is no error if it is connected to it already. -/
def connect (inner : Entrances) (node : Ref .node) (name : String) : Run Outcome := do
  let record ← Run.look fun store => store.nodes.get node
  match record.status with
  | .closed => return .error (.transport (.inStatus record.name .closed))
  | .connected | .connecting =>
      if record.cluster? = some name then return .ok ()
      else return .error (.transport (.otherCluster record.name (record.cluster?.getD "")))
  | .opened =>
      join inner node name
      tellListeners inner node .connected
      return .ok ()

def leave (inner : Entrances) (record : Node) (name : String) : Run Unit := do
  let cluster ← Run.look fun store => store.cluster record.network name
  if cluster.members.isEmpty then return
  installView inner record.network name
    { cluster with members := cluster.members.filter (·.address != record.address) }

/-- Disconnects a node, if it is connected. -/
def disconnect (inner : Entrances) (node : Ref .node) : Run Unit := do
  let record ← Run.look fun store => store.nodes.get node
  if record.status = .connected then
    modify fun store => store.modifyNode node fun record =>
      { record with status := .opened, cluster? := none, view? := none }
    if let some name := record.cluster? then leave inner record name
    tellListeners inner node .opened

/-- Closes a node for good, disconnecting it first. -/
def close (inner : Entrances) (node : Ref .node) : Run Unit := do
  disconnect inner node
  let record ← Run.look fun store => store.nodes.get node
  if record.status ≠ .closed then
    setStatus node .closed
    tellListeners inner node .closed

end ChannelMux.Delivery
