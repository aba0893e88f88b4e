import Mathlib.Data.UInt
import ChannelMux.Proofs.Demo.Speaking
import ChannelMux.Proofs.Json.Printing

/-!
Contract: the document that is printed of a demonstration.

Owns what a report is to show of a plan, and what a document is to show of it: under its keys, the
numbers, the texts, and the names with how much has been received. A report that shows what it is to
show gives a document that does, and what is printed of a report is read back as its document.

Does not own that a demonstration gives such a report.
-/

namespace ChannelMux

/-! ### What stands in a document -/

namespace Json

/-- A number as the value of a counter. -/
def counter? (document : Json) : Option Nat := document.natBelow? (Octets.capacity 8)

def items? : Json → Option (List Json)
  | .array items => some items
  | _ => none

/-- The texts of an array of them. -/
def texts? (document : Json) : Option (List String) :=
  document.items?.bind (List.mapM text?)

/-- What an array says under each name about how much has been received. -/
def receipts? (document : Json) (key : String) : Option (List (String × Nat)) :=
  document.items?.bind (List.mapM fun entry => do
    return (← entry[key].text?, ← entry["received"].counter?))

section Members

variable {key other : String} {value : Json} {others : List (String × Json)}

theorem ofMembers_getElem_self (key : String) (value : Json) (others : List (String × Json)) :
    (ofMembers ((key, value) :: others))[key] = value := by
  change (ofMembers ((key, value) :: others)).get key = value
  simp [ofMembers, get, get?]

theorem ofMembers_getElem_of_ne (isOther : key ≠ other) :
    (ofMembers ((key, value) :: others))[other] = (ofMembers others)[other] := by
  change (ofMembers ((key, value) :: others)).get other = (ofMembers others).get other
  simp [ofMembers, get, get?, isOther]

end Members

theorem counter?_count {value : Nat} (below : value < Octets.capacity 8) :
    (count value).counter? = some value :=
  natBelow?_count below

theorem counter?_toNat (counter : UInt64) :
    (count counter.toNat).counter? = some counter.toNat :=
  counter?_count counter.toNat_lt

/-- Reading the items of an array that have been written one by one. -/
theorem mapM_map_of_read
    {α β : Type}
    {items : List α}
    {write : α → Json}
    {read : Json → Option β}
    {value : α → β}
    (reads : ∀ item ∈ items, read (write item) = some (value item)) :
    (items.map write).mapM read = some (items.map value) := by
  induction items with
  | nil => rfl
  | cons item others inductionHypothesis =>
      have first := reads item List.mem_cons_self
      have onward := inductionHypothesis fun other member =>
        reads other (List.mem_cons_of_mem _ member)
      rw [List.map_cons, List.mapM_cons, first, onward]
      rfl

theorem texts?_array (texts : List String) :
    (array (texts.map text)).texts? = some texts := by
  have reads : ∀ value ∈ texts, text? (text value) = some (id value) := fun _ _ => rfl
  exact (mapM_map_of_read reads).trans (congrArg some (List.map_id texts))

end Json

namespace Demo

/-! ### What is to be shown -/

/-- How many octets are sent at the node with a number: those of the messages of its forks, and
those of its own message. -/
def Plan.octetsAt (plan : Plan) (node : Nat) : Nat :=
  ((List.range plan.groups).flatMap fun group => (List.range plan.members).flatMap fun member =>
    (List.range plan.messages).map fun number => (forkPayload group member number).length).sum +
      (nodePayload node).length

/-- What a report is to say of the node with a number, all nodes having sent so many octets. -/
structure NodeReport.Shows (report : NodeReport) (plan : Plan) (number : Nat)
    (allSent : UInt64) : Prop where
  name : report.name = nodeName number
  /-- The groups are those of the plan, sorted. -/
  demultiplexer : ∃ state, report.demultiplexer? = some state ∧
    state.groups.names.Perm ((List.range plan.groups).map groupName) ∧
    state.groups.names.Pairwise (· < ·) ∧
    state.counters = {
      routed := .ofNat (plan.nodes * (plan.groups * plan.members * plan.messages))
      passedThrough := .ofNat plan.nodes
      misses := 0
      broadcasts := .ofNat (plan.nodes - number)
      batchesSplit := 0
      batchFailures := 0 }
  messagesSent : report.counters.messagesSent =
    .ofNat (plan.groups * plan.members * plan.messages + 1)
  messagesReceived : report.counters.messagesReceived =
    .ofNat (plan.nodes * (plan.groups * plan.members * plan.messages + 1))
  octetsSent : report.counters.octetsSent = .ofNat (plan.octetsAt number)
  octetsReceived : report.counters.octetsReceived = allSent

/-- What a report is to say of a demonstration. -/
structure Report.Shows (report : Report) (plan : Plan) : Prop where
  expected : report.expected = plan.messages * plan.nodes
  count : report.nodes.length = plan.nodes
  nodes : ∀ number (node : NodeReport), report.nodes[number]? = some node →
    node.Shows plan number (report.nodes.map fun other => other.counters.octetsSent).sum
  deliveries : report.deliveries = (List.range plan.nodes).flatMap fun node =>
    (List.range plan.groups).flatMap fun group => (List.range plan.members).map fun member =>
      (channelName node group member, plan.nodes * plan.messages)
  unforked : report.unforked = (List.range plan.nodes).map fun node => (nodeName node, plan.nodes)

end Demo

/-- What the entry of the node with a number is to show, if `sent` is how many octets have been
sent at each of the nodes. -/
structure Json.ShowsNode (entry : Json) (plan : Demo.Plan) (number : Nat) (sent : List Nat) :
    Prop where
  name : entry["node"].text? = some (Demo.nodeName number)
  /-- The groups are those of the plan, sorted. -/
  groups : ∃ names, entry["groups"].texts? = some names ∧
    names.Perm ((List.range plan.groups).map Demo.groupName) ∧ names.Pairwise (· < ·)
  groupCount : entry["demux"]["groups"].counter? = some plan.groups
  routed : entry["demux"]["routed"].counter? =
    some (plan.nodes * (plan.groups * plan.members * plan.messages))
  passedThrough : entry["demux"]["passed_through"].counter? = some plan.nodes
  misses : entry["demux"]["misses"].counter? = some 0
  broadcasts : entry["demux"]["broadcasts"].counter? = some (plan.nodes - number)
  batchesSplit : entry["demux"]["batches_split"].counter? = some 0
  batchFailures : entry["demux"]["batch_failures"].counter? = some 0
  messagesSent : entry["channel"]["messages_sent"].counter? =
    some (plan.groups * plan.members * plan.messages + 1)
  messagesReceived : entry["channel"]["messages_received"].counter? =
    some (plan.nodes * (plan.groups * plan.members * plan.messages + 1))
  octetsSent : entry["channel"]["bytes_sent"].counter? =
    some (plan.octetsAt number % Octets.capacity 8)
  /-- The sum of what has been sent, as a counter has it. -/
  octetsReceived : entry["channel"]["bytes_received"].counter? =
    some (sent.sum % Octets.capacity 8)

/-- What a document is to show of a demonstration. -/
structure Json.Shows (document : Json) (plan : Demo.Plan) : Prop where
  expected : document["expected_per_channel"].counter? = some (plan.messages * plan.nodes)
  nodes : ∃ entries sent, document["nodes"].items? = some entries ∧
    entries.mapM (fun entry => entry["channel"]["bytes_sent"].counter?) = some sent ∧
    entries.length = plan.nodes ∧
    ∀ number (entry : Json), entries[number]? = some entry → entry.ShowsNode plan number sent
  deliveries : document["deliveries"].receipts? "channel" =
    some ((List.range plan.nodes).flatMap fun node => (List.range plan.groups).flatMap fun group =>
      (List.range plan.members).map fun member =>
        (Demo.channelName node group member, plan.nodes * plan.messages))
  unforked : document["unforked"].receipts? "node" =
    some ((List.range plan.nodes).map fun node => (Demo.nodeName node, plan.nodes))

namespace Demo

/-! ### The document of a report -/

section Values

variable {plan : Plan} (positive : plan.isPositive = true) (inRange : plan.InRange)

include inRange in
theorem Plan.InRange.routed :
    plan.nodes * (plan.groups * plan.members * plan.messages) < Octets.capacity 8 :=
  Nat.lt_of_le_of_lt (Nat.mul_le_mul_left _ (Nat.le_succ _)) inRange.received

include inRange in
theorem Plan.InRange.nodeCount : plan.nodes < Octets.capacity 8 :=
  Nat.lt_of_le_of_lt (Nat.le_mul_of_pos_right _ (Nat.succ_pos _)) inRange.received

include positive inRange in
theorem Plan.InRange.sent :
    plan.groups * plan.members * plan.messages + 1 < Octets.capacity 8 :=
  Nat.lt_of_le_of_lt (Nat.le_mul_of_pos_left _ (Plan.isPositive_iff.mp positive).1)
    inRange.received

include positive inRange in
theorem Plan.InRange.delivered : plan.nodes * plan.messages < Octets.capacity 8 := by
  obtain ⟨_, groups, members⟩ := Plan.isPositive_iff.mp positive
  exact Nat.lt_of_le_of_lt
    (Nat.mul_le_mul_left _ (Nat.le_mul_of_pos_left _ (Nat.mul_pos groups members)))
    inRange.routed

end Values

theorem counter?_of_eq_ofNat
    {counter : UInt64}
    {value : Nat}
    (same : counter = .ofNat value)
    (below : value < Octets.capacity 8) :
    (Json.count counter.toNat).counter? = some value := by
  rw [same, Json.counter?_toNat, UInt64.toNat_ofNat_of_lt' below]

/-- Counters add up as numbers do, but for their capacity. -/
theorem toNat_sum (counters : List UInt64) :
    counters.sum.toNat = (counters.map UInt64.toNat).sum % Octets.capacity 8 := by
  induction counters with
  | nil => rfl
  | cons counter others inductionHypothesis =>
      rw [List.sum_cons, List.map_cons, List.sum_cons, UInt64.toNat_add, inductionHypothesis]
      exact Nat.add_mod_mod ..

/-- A report of a node that shows what it is to show gives an entry that does. -/
theorem NodeReport.Shows.toJson
    {report : NodeReport}
    {plan : Plan}
    {number : Nat}
    {sent : List UInt64}
    (isShown : report.Shows plan number sent.sum)
    (positive : plan.isPositive = true)
    (inRange : plan.InRange) :
    report.toJson.ShowsNode plan number (sent.map UInt64.toNat) := by
  obtain ⟨state, found, names, ordered, counted⟩ := isShown.demultiplexer
  have entry : report.toJson = .ofMembers
      [("channel", report.counters.toJson), ("demux", state.statistics),
        ("groups", .array (state.groups.names.map .text)), ("node", .text report.name)] := by
    unfold NodeReport.toJson
    rw [found]
    rfl
  have groupCount : state.groups.size = plan.groups := by
    have same := names.length_eq
    rw [List.length_map, List.length_range] at same
    exact (List.length_map ..).symm.trans same
  have nothing := Octets.capacity_pos 8
  rw [entry]
  exact {
    name := congrArg some isShown.name
    groups := ⟨_, Json.texts?_array _, names, ordered⟩
    groupCount := by
      rw [← groupCount]
      exact Json.counter?_count (groupCount ▸ inRange.groups)
    routed := counter?_of_eq_ofNat (congrArg (·.routed) counted) inRange.routed
    passedThrough := counter?_of_eq_ofNat (congrArg (·.passedThrough) counted) inRange.nodeCount
    misses := counter?_of_eq_ofNat (congrArg (·.misses) counted) nothing
    broadcasts := counter?_of_eq_ofNat (congrArg (·.broadcasts) counted)
      (Nat.lt_of_le_of_lt (Nat.sub_le ..) inRange.nodeCount)
    batchesSplit := counter?_of_eq_ofNat (congrArg (·.batchesSplit) counted) nothing
    batchFailures := counter?_of_eq_ofNat (congrArg (·.batchFailures) counted) nothing
    messagesSent := counter?_of_eq_ofNat isShown.messagesSent (inRange.sent positive)
    messagesReceived := counter?_of_eq_ofNat isShown.messagesReceived inRange.received
    octetsSent := by
      have same : report.counters.octetsSent.toNat = plan.octetsAt number % Octets.capacity 8 := by
        rw [isShown.octetsSent]
        exact UInt64.toNat_ofNat' ..
      rw [← same]
      exact Json.counter?_toNat _
    octetsReceived := by
      rw [← toNat_sum, ← isShown.octetsReceived]
      exact Json.counter?_toNat _ }

theorem Report.receipts?_array
    {key : String}
    {entries : List (String × Nat)}
    (isOther : key ≠ "received")
    (within : ∀ entry ∈ entries, entry.2 < Octets.capacity 8) :
    (Json.array (entries.map (receivedJson key))).receipts? key = some entries := by
  refine (Json.mapM_map_of_read fun entry member => ?_).trans (congrArg some (List.map_id entries))
  have named : (receivedJson key entry)[key] = .text entry.1 := Json.ofMembers_getElem_self ..
  have counted : (receivedJson key entry)["received"] = .count entry.2 :=
    (Json.ofMembers_getElem_of_ne isOther).trans (Json.ofMembers_getElem_self ..)
  rw [named, counted, Json.counter?_count (within entry member)]
  rfl

/-- A report that shows what it is to show gives a document that does. -/
theorem Report.Shows.toJson
    {report : Report}
    {plan : Plan}
    (isShown : report.Shows plan)
    (positive : plan.isPositive = true)
    (inRange : plan.InRange) :
    report.toJson.Shows plan where
  expected := by
    have below := inRange.delivered positive
    rw [Nat.mul_comm, ← isShown.expected] at below
    rw [← isShown.expected]
    exact Json.counter?_count below
  nodes := by
    refine ⟨report.nodes.map NodeReport.toJson,
      (report.nodes.map fun node => node.counters.octetsSent).map UInt64.toNat, rfl, ?_, ?_, ?_⟩
    · rw [List.map_map]
      exact Json.mapM_map_of_read fun node _ => Json.counter?_toNat node.counters.octetsSent
    · rw [List.length_map, isShown.count]
    · intro number entry found
      rw [List.getElem?_map] at found
      obtain ⟨node, isNode, rfl⟩ := Option.map_eq_some_iff.mp found
      exact (isShown.nodes number node isNode).toJson positive inRange
  deliveries := by
    rw [← isShown.deliveries]
    refine Report.receipts?_array (by decide) fun entry member => ?_
    rw [isShown.deliveries] at member
    obtain ⟨node, _, ofNode⟩ := List.mem_flatMap.mp member
    obtain ⟨group, _, ofGroup⟩ := List.mem_flatMap.mp ofNode
    obtain ⟨number, _, rfl⟩ := List.mem_map.mp ofGroup
    exact inRange.delivered positive
  unforked := by
    rw [← isShown.unforked]
    refine Report.receipts?_array (by decide) fun entry member => ?_
    rw [isShown.unforked] at member
    obtain ⟨node, _, rfl⟩ := List.mem_map.mp member
    exact inRange.nodeCount

theorem plain_counters (counters : TrafficCounters) : counters.toJson.Plain := by
  refine .ofMembers ?_
  simp only [List.forall_mem_cons]
  exact ⟨.count _, .count _, .count _, .count _, List.forall_mem_nil _⟩

theorem plain_statistics (demultiplexer : Demultiplexer) : demultiplexer.statistics.Plain := by
  refine .ofMembers ?_
  simp only [List.forall_mem_cons]
  exact ⟨.count _, .count _, .count _, .count _, .count _, .count _, .count _,
    List.forall_mem_nil _⟩

theorem NodeReport.plain_toJson (report : NodeReport) : report.toJson.Plain := by
  have names (state : Demultiplexer) : (Json.array (state.groups.names.map .text)).Plain := by
    refine .array fun entry member => ?_
    obtain ⟨name, _, rfl⟩ := List.mem_map.mp member
    exact .text name
  refine .ofMembers ?_
  simp only [List.forall_mem_cons]
  refine ⟨plain_counters _, ?_, ?_, .text _, List.forall_mem_nil _⟩
  · cases report.demultiplexer? with
    | none => exact .null
    | some state => exact plain_statistics state
  · cases report.demultiplexer? with
    | none => exact .null
    | some state => exact names state

/-- Everything in the document of a report is a count or a text, or made of such. -/
theorem Report.plain_toJson (report : Report) : report.toJson.Plain := by
  have received (key : String) (entries : List (String × Nat)) :
      (Json.array (entries.map (receivedJson key))).Plain := by
    refine .array fun entry member => ?_
    obtain ⟨named, _, rfl⟩ := List.mem_map.mp member
    refine .ofMembers ?_
    simp only [List.forall_mem_cons]
    exact ⟨.text _, .count _, List.forall_mem_nil _⟩
  have nodes : (Json.array (report.nodes.map NodeReport.toJson)).Plain := by
    refine .array fun entry member => ?_
    obtain ⟨node, _, rfl⟩ := List.mem_map.mp member
    exact node.plain_toJson
  refine .ofMembers ?_
  simp only [List.forall_mem_cons]
  exact ⟨received _ _, .count _, nodes, received _ _, List.forall_mem_nil _⟩

/-- What is printed of a report is read back as its document. -/
theorem Report.ofString?_toJson (report : Report) :
    Json.ofString? (report.toJson.indented ++ "\n") = some report.toJson := by
  refine report.plain_toJson.ofString?_render (some 0) fun character member => ?_
  exact Or.inr (List.mem_singleton.mp member)

end Demo

end ChannelMux
