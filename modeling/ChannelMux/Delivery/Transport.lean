import ChannelMux.Encoding.Message
import ChannelMux.Delivery.Agent

/-!
Contract: what a node sends to its cluster and receives from it.

Owns the sending of a message: only a connected node sends, the message gets the node's
address as its source, it is written once, and every member that it is for gets a copy
that is read back. The sender is not told what becomes of the copies.
-/

namespace ChannelMux.Delivery

def receive (inner : Entrances) (node : Ref .node) (traffic : Traffic) : Run Outcome := do
  let (messages, octets) := match traffic with
    | .single (.message message) => (1, message.payload.length)
    | .single _ => (0, 0)
    | .batch batch => (batch.size, batch.payloadSize)
  modify fun store => store.modifyNode node fun record =>
    { record with counters := { record.counters with
        messagesReceived := record.counters.messagesReceived + UInt64.ofNat messages
        octetsReceived := record.counters.octetsReceived + UInt64.ofNat octets } }
  inner.travel (.up (← Run.look fun store => (store.nodes.get node).pipeline) traffic)

/-- The members of the node's cluster that a message is for and that still exist, in the
order in which they joined. -/
def targets (store : Store) (node : Node) (destination? : Option Address) :
    List (Ref .node) :=
  let members := (store.cluster node.network (node.cluster?.getD "")).members
  (members.filter fun member =>
    destination?.all (fun address => address == member.address) &&
      store.isNodeAlive member.node).map Member.node

/-- Gives every target its copy of a written message. -/
def deliverCopies (inner : Entrances) (written : Octets) : List (Ref .node) → Run Outcome
  | [] => pure (.ok ())
  | targets =>
      match Encoding.messageOfOctets written with
      | .error error => pure (.error (.transport (.encoding error)))
      | .ok copy => do
          targets.forM fun target =>
            (receive inner target (.single (.message copy))).ignore
          return .ok ()

def transmit (inner : Entrances) (node : Ref .node) (message : Message) : Run Outcome := do
  let sender ← Run.look fun store => store.nodes.get node
  if sender.status = .connected then
    match Encoding.writeMessage { message with source? := some sender.address } with
    | .error error => return .error (.transport (.encoding error))
    | .ok written =>
        modify fun store => store.modifyNode node fun record =>
          { record with counters := { record.counters with
              messagesSent := record.counters.messagesSent + 1
              octetsSent := record.counters.octetsSent +
                UInt64.ofNat message.payload.length } }
        deliverCopies inner written (targets (← get) sender message.destination?)
  else return .error (.transport (.inStatus sender.name sender.status))

/-- Takes what leaves the bottom of a node's pipeline; only messages are sent. -/
def leaveNode (inner : Entrances) (node : Ref .node) (event : Event) : Run Outcome := do
  if (← get).isNodeAlive node then
    match event with
    | .message message => transmit inner node message
    | _ => return .ok ()
  else return .error (.transport .nodeGone)

end ChannelMux.Delivery
