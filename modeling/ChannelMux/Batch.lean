import ChannelMux.Event

/-!
Contract: batches of messages that travel together.

Owns the batch record, the splitting of a batch by a property of its messages, and
batches that carry other messages under the same description.
-/

namespace ChannelMux

/-- Messages that travel together, and what is said of all of them. -/
structure Batch where
  destination? : Option Address := none
  sender : Address
  cluster : String
  multicast : Bool := false
  messages : List Message := []
deriving DecidableEq, Repr

namespace Batch

/-- A batch of other messages under the same description. -/
def derive (batch : Batch) (messages : List Message) : Batch :=
  { batch with messages := messages }

def size (batch : Batch) : Nat := batch.messages.length

def push (batch : Batch) (message : Message) : Batch :=
  batch.derive (batch.messages ++ [message])

def payloadSize (batch : Batch) : Nat :=
  batch.messages.foldl (fun total message => total + message.payload.length) 0

/-- The messages with a property, taken out of the batch: both they and the messages
left behind keep their order. -/
def extract (batch : Batch) (property : Message → Bool) : List Message × Batch :=
  let parts := batch.messages.partition property
  (parts.1, batch.derive parts.2)

/-- The messages chosen by place and content, taken out of the batch as by `extract`. -/
def extractAt (batch : Batch) (choose : Nat → Message → Bool) : List Message × Batch :=
  let parts := batch.messages.zipIdx.partition (fun entry => choose entry.2 entry.1)
  (parts.1.map Prod.fst, batch.derive (parts.2.map Prod.fst))

end Batch

/-- What travels up a pipeline: one event, or a batch of messages. -/
inductive Traffic where
  | single (event : Event)
  | batch (batch : Batch)
deriving DecidableEq, Repr

end ChannelMux
