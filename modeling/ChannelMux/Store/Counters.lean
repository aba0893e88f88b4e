import ChannelMux.Json.Value
import ChannelMux.Store.Records

/-!
Contract: counters as JSON documents.

Owns the keys under which the counters of nodes and demultiplexers are reported, in
alphabetical order.
-/

namespace ChannelMux

/-- A counter as a document. -/
private def counterJson (counter : UInt64) : Json := .count counter.toNat

/-- What a node has carried. -/
def TrafficCounters.toJson (counters : TrafficCounters) : Json :=
  .ofMembers
    [("bytes_received", counterJson counters.octetsReceived),
      ("bytes_sent", counterJson counters.octetsSent),
      ("messages_received", counterJson counters.messagesReceived),
      ("messages_sent", counterJson counters.messagesSent)]

/-- How many groups a demultiplexer has, and what it has counted. -/
def Demultiplexer.statistics (demultiplexer : Demultiplexer) : Json :=
  let counters := demultiplexer.counters
  .ofMembers
    [("batch_failures", counterJson counters.batchFailures),
      ("batches_split", counterJson counters.batchesSplit),
      ("broadcasts", counterJson counters.broadcasts),
      ("groups", .count demultiplexer.groups.size),
      ("misses", counterJson counters.misses),
      ("passed_through", counterJson counters.passedThrough),
      ("routed", counterJson counters.routed)]

end ChannelMux
