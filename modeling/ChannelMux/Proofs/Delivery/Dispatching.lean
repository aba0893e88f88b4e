import ChannelMux.Delivery.Enter
import ChannelMux.Proofs.Delivery.Discipline
import ChannelMux.Proofs.Store.SameTables

/-!
Contract: judging what a node sends to its cluster.

Owns what nodes count when a message is sent and received. Owns what a discipline has to judge of
the sending of a message, which is what the sender counts and what becomes of each copy. The sender
is not told what becomes of a copy, and so it is judged without its outcome.
-/

namespace ChannelMux

namespace TrafficCounters

/-- A message with a payload of so many octets has been sent. -/
def send (counters : TrafficCounters) (octets : Nat) : TrafficCounters :=
  { counters with
    messagesSent := counters.messagesSent + 1
    octetsSent := counters.octetsSent + UInt64.ofNat octets }

/-- A message with a payload of so many octets has been received. -/
def receive (counters : TrafficCounters) (octets : Nat) : TrafficCounters :=
  { counters with
    messagesReceived := counters.messagesReceived + 1
    octetsReceived := counters.octetsReceived + UInt64.ofNat octets }

end TrafficCounters

/-- A node has received a message with a payload of so many octets. -/
def Node.receive (octets : Nat) (node : Node) : Node :=
  { node with counters := node.counters.receive octets }

/-- A node has sent a message with a payload of so many octets. -/
def Store.countSent (store : Store) (node : Ref .node) (octets : Nat) : Store :=
  store.modifyNode node fun record => { record with counters := record.counters.send octets }

/-- A copy that arrives is counted, and goes up the pipeline that the node has then. -/
theorem Delivery.ignore_receive (inner : Entrances) (node : Ref .node) (message : Message) :
    (receive inner node (.single (.message message))).ignore =
      ((MonadState.modifyGet fun store : Store =>
          ((), store.modifyNode node (Node.receive message.payload.length))) >>= fun _ =>
        (Run.look fun store => (store.nodes.get node).pipeline) >>= fun pipeline =>
          (inner.travel (.up pipeline (.single (.message message)))).ignore) := rfl

/-- A node without what it has counted as sent. -/
def Node.unsent (node : Node) : Node :=
  { node with counters := { node.counters with messagesSent := 0, octetsSent := 0 } }

namespace Discipline

/-- What nodes count when they send and what becomes of the copies can be judged. -/
structure Delivers (discipline : Discipline) (inner other : Entrances) : Prop where
  tables : ∀ {left right}, discipline.holds left → discipline.agrees left right →
    Store.SameTables left right
  counts : ∀ node change, (∀ record, Node.unsent (change record) = record.unsent) →
    discipline.judges
      (MonadState.modifyGet fun store : Store => ((), store.modifyNode node change))
      (MonadState.modifyGet fun store : Store => ((), store.modifyNode node change))
  receives : ∀ {store} target message, discipline.holds store →
    store.isNodeAlive target = true →
      discipline.judges (Delivery.receive inner target (.single (.message message))).ignore
        (Delivery.receive other target (.single (.message message))).ignore

namespace Delivers

variable {discipline : Discipline} {inner other : Entrances}
  (delivers : discipline.Delivers inner other)

include delivers

theorem deliverCopies
    {store : Store}
    (holds : discipline.holds store)
    {targets : List (Ref .node)}
    (alive : ∀ target ∈ targets, store.isNodeAlive target = true)
    (written : Octets) :
    discipline.judges (Delivery.deliverCopies inner written targets)
      (Delivery.deliverCopies other written targets) := by
  unfold Delivery.deliverCopies
  split
  · exact discipline.pure _
  · split
    · exact discipline.pure _
    · refine discipline.bind (discipline.forM fun target member => ?_) fun _ =>
        discipline.pure _
      exact delivers.receives target _ holds (alive target member)

/-- The copies go to the members that last when the sending has been counted. -/
theorem transmit (node : Ref .node) (message : Message) :
    discipline.judges (Delivery.transmit inner node message)
      (Delivery.transmit other node message) := by
  refine discipline.look (fun holds agrees => by rw [(delivers.tables holds agrees).nodes])
    fun {store} _ => ?_
  split
  · split
    · exact discipline.pure _
    · refine discipline.bind (delivers.counts node _ fun _ => rfl) fun _ => ?_
      refine discipline.get (fun holds agrees => by rw [(delivers.tables holds agrees).targets_eq])
        fun holds => delivers.deliverCopies holds (fun target member => ?_) _
      obtain ⟨entry, kept, same⟩ := List.mem_map.mp member
      rw [← same]
      exact (Bool.and_eq_true_iff.mp (List.mem_filter.mp kept).2).2
  · exact discipline.pure _

/-- Nothing but messages is sent. -/
theorem leaveNode (node : Ref .node) (event : Event) :
    discipline.judges (Delivery.leaveNode inner node event)
      (Delivery.leaveNode other node event) := by
  refine discipline.get
    (fun holds agrees => by rw [(delivers.tables holds agrees).isNodeAlive_eq]) fun _ => ?_
  split
  · split
    · exact delivers.transmit node _
    · exact discipline.pure _
  · exact discipline.pure _

end Delivers

end Discipline

end ChannelMux
