import ChannelMux.Delivery.Enter

/-!
Contract: operations whose listeners are told in a way of its own.

Owns joining, leaving and calling with a round that is given, which is how the listeners of a
node are told that it entered a status. With the round that tells them one after another these
are the operations themselves.
-/

namespace ChannelMux.Delivery

/-- How the listeners of a node are told that it entered a status. -/
abbrev Round := Ref .node → Status → Run Unit

def connectBy (round : Round) (inner : Entrances) (node : Ref .node) (name : String) :
    Run Outcome := do
  let record ← Run.look fun store => store.nodes.get node
  match record.status with
  | .closed => return .error (.transport (.inStatus record.name .closed))
  | .connected | .connecting =>
      if record.cluster? = some name then return .ok ()
      else return .error (.transport (.otherCluster record.name (record.cluster?.getD "")))
  | .opened =>
      join inner node name
      round node .connected
      return .ok ()

def disconnectBy (round : Round) (inner : Entrances) (node : Ref .node) : Run Unit := do
  let record ← Run.look fun store => store.nodes.get node
  if record.status = .connected then
    modify fun store => store.modifyNode node fun record =>
      { record with status := .opened, cluster? := none, view? := none }
    if let some name := record.cluster? then leave inner record name
    round node .opened

def closeBy (round : Round) (inner : Entrances) (node : Ref .node) : Run Unit := do
  disconnectBy round inner node
  let record ← Run.look fun store => store.nodes.get node
  if record.status ≠ .closed then
    setStatus node .closed
    round node .closed

/-- Calls an operation; listeners are told of statuses by the round. -/
def callBy (round : Round) (inner : Entrances) : Operation → Run Reply
  | .sendFork fork message => sendFork inner fork message
  | .sendNode node message => sendNode inner node message
  | .connect node cluster => return reply (← connectBy round inner node cluster)
  | .disconnect node => do
      disconnectBy round inner node
      return .ok ()
  | .close node => do
      closeBy round inner node
      return .ok ()

variable (inner : Entrances) (node : Ref .node)

theorem connect_eq_connectBy (name : String) :
    connect inner node name = connectBy (tellListeners inner) inner node name := rfl

theorem disconnect_eq_disconnectBy :
    disconnect inner node = disconnectBy (tellListeners inner) inner node := rfl

theorem close_eq_closeBy : close inner node = closeBy (tellListeners inner) inner node := rfl

theorem call_eq_callBy (operation : Operation) :
    call inner operation = callBy (tellListeners inner) inner operation := by
  cases operation <;> rfl

end ChannelMux.Delivery
