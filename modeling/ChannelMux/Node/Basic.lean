import ChannelMux.Store.Liveness

/-!
Contract: nodes and their listeners.

Owns the making of a node with its shared pipeline, and the subscription of listeners,
each under the next token of the node. Tokens are eight-octet integers, so that they come
round once 2 to the 64th of them have been given out.
-/

namespace ChannelMux.Store

/-- Makes a node, in no cluster, whose shared pipeline has the given stages, bottom first,
and leads to the network. -/
def addNode (store : Store) (name : String) (address : Address) (network : String)
    (stages : List (Ref .stage)) : Ref .node × Store :=
  let node := store.nodes.next
  let (pipeline, withPipeline) := store.addPipeline {
    name := "shared:" ++ name
    stages := stages
    outlet? := some (.transport node) }
  (node, { withPipeline with
    nodes := withPipeline.nodes.add
      { name := name, address := address, network := network, pipeline := pipeline } })

/-- Subscribes a listener to the status of a node, under the token given with the store. -/
def subscribe (store : Store) (node : Ref .node) (listener : Listener) : UInt64 × Store :=
  let token := (store.nodes.get node).nextToken
  (token, store.modifyNode node fun record =>
    { record with
      listeners := record.listeners ++ [(token, listener)]
      nextToken := token + 1 })

def isSubscribed (store : Store) (node : Ref .node) (token : UInt64) : Bool :=
  (store.nodes.get node).listeners.any (fun entry => entry.1 == token)

def unsubscribe (store : Store) (node : Ref .node) (token : UInt64) : Store :=
  store.modifyNode node fun record =>
    { record with listeners := record.listeners.filter (fun entry => entry.1 != token) }

def setReceiver (store : Store) (pipeline : Ref .pipeline) (agent : Ref .agent) : Store :=
  store.modifyPipeline pipeline fun record => { record with receiver? := some agent }

def setOutlet (store : Store) (pipeline : Ref .pipeline) (outlet : Outlet) : Store :=
  store.modifyPipeline pipeline fun record => { record with outlet? := some outlet }

end ChannelMux.Store
