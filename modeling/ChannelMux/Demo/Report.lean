import ChannelMux.Store.Counters

/-!
Contract: what a demonstration reports.

Owns the counts that are reported for nodes, forks and their receivers, and their form as a
document, whose keys stand in alphabetical order.
-/

namespace ChannelMux.Demo

/-- What is reported of a node. -/
structure NodeReport where
  name : String
  demultiplexer? : Option Demultiplexer
  counters : TrafficCounters

/-- What is reported of a demonstration. -/
structure Report where
  expected : Nat
  nodes : List NodeReport
  deliveries : List (String × Nat)
  /-- How many messages have reached the receiver of every node. -/
  unforked : List (String × Nat)

def NodeReport.toJson (report : NodeReport) : Json :=
  .ofMembers
    [("channel", report.counters.toJson),
      ("demux", (report.demultiplexer?.map Demultiplexer.statistics).getD .null),
      ("groups", (report.demultiplexer?.map fun state =>
        .array (state.groups.names.map Json.text)).getD .null),
      ("node", .text report.name)]

namespace Report

def receivedJson (key : String) (entry : String × Nat) : Json :=
  .ofMembers [(key, .text entry.1), ("received", .count entry.2)]

def toJson (report : Report) : Json :=
  .ofMembers
    [("deliveries", .array (report.deliveries.map (receivedJson "channel"))),
      ("expected_per_channel", .count report.expected),
      ("nodes", .array (report.nodes.map NodeReport.toJson)),
      ("unforked", .array (report.unforked.map (receivedJson "node")))]

/-- How many forks have not received what they should have. -/
def short (report : Report) : Nat :=
  report.deliveries.countP (fun delivery => delivery.2 != report.expected)

end Report

end ChannelMux.Demo
