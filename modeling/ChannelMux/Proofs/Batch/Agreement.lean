import ChannelMux.Proofs.Batch.Ascent
import ChannelMux.Proofs.Batch.Piecemeal
import ChannelMux.Proofs.Batch.Splitting
import ChannelMux.Proofs.Network.ExactlyOnce

/-!
Contract: messages that a node receives together and one after the other.

Owns what it is for a node to have received messages: what its consumers have been handed of
them, what demultiplexers and the node itself have counted, and what agents have been told.
Owns that a batch is received as its messages are one by one, in order, if everything on
their way edits messages one by one and everyone who gets them takes them one by one.

The order of what is handed to different consumers is not the same. It does not matter, since
every consumer by itself is handed the same messages in the same order.
-/

namespace ChannelMux

/-! ### Counting at a node -/

/-- Counts messages that a node has received. -/
def Node.countReceived (messages : List Message) (node : Node) : Node :=
  { node with counters := { node.counters with
      messagesReceived := node.counters.messagesReceived + UInt64.ofNat messages.length
      octetsReceived := node.counters.octetsReceived +
        UInt64.ofNat (messages.map fun message => message.payload.length).sum } }

namespace Node

theorem countReceived_nil : countReceived [] = id := by
  funext node
  simp [countReceived]

theorem countReceived_append (first second : List Message) :
    countReceived second ∘ countReceived first = countReceived (first ++ second) := by
  funext node
  simp [countReceived, UInt64.ofNat_add, UInt64.add_assoc]

end Node

theorem Batch.payloadSize_eq (batch : Batch) :
    batch.payloadSize = (batch.messages.map fun message => message.payload.length).sum := by
  unfold payloadSize
  rw [List.sum_eq_foldl_nat, List.foldl_map]

namespace Store

theorem shape_countReceived (store : Store) (node : Ref .node) (messages : List Message) :
    (store.modifyNode node (Node.countReceived messages)).shape = store.shape := by
  apply shape_modifyNode
  intro record
  rfl

theorem countReceived_countReceived (store : Store) (node : Ref .node)
    (first second : List Message) :
    (store.modifyNode node (Node.countReceived first)).modifyNode node
        (Node.countReceived second) =
      store.modifyNode node (Node.countReceived (first ++ second)) := by
  unfold modifyNode
  rw [Table.modify_modify, Node.countReceived_append]

end Store

/-- It makes no difference to what has been delivered whether a node counts before or
after. -/
theorem Delivered.countReceived
    {told : Told}
    {tally : Tally}
    {before after : Store}
    (delivered : Delivered told tally before after)
    (node : Ref .node)
    (messages : List Message) :
    Delivered told tally (before.modifyNode node (Node.countReceived messages))
      (after.modifyNode node (Node.countReceived messages)) where
  shape := by rw [Store.shape_countReceived, Store.shape_countReceived, delivered.shape]
  agents := delivered.agents
  nodes := by
    unfold Store.modifyNode
    rw [delivered.nodes]
  counted := delivered.counted

namespace Store

variable {base store before between after : Store} {edit : Ref .stage → Message → Message}
  {node : Ref .node} {messages : List Message} {handoffs : Handoffs} {tally : Tally}

/-- Takes messages that arrive at a node from outside one after the other, whatever comes of
each. -/
def receiveEach (store : Store) (node : Ref .node) : List Message → Option Store
  | [] => some store
  | message :: rest =>
      (store.receive node (.single (.message message))).bind fun result =>
        result.2.receiveEach node rest

/-! ### Where messages get to from a node -/

/-- Whom messages may get to from a node. -/
def Reaches (store : Store) (node : Ref .node) (consumer : Consumer) : Prop :=
  store.LeadsTo (store.nodes.get node).pipeline
    (store.stagesOf (store.nodes.get node).pipeline) consumer

/-- What of a message that a node receives a consumer gets. -/
def gets? (store : Store) (edit : Ref .stage → Message → Message) (node : Ref .node)
    (consumer : Consumer) (message : Message) : Option Message :=
  store.arrival? edit (store.nodes.get node).pipeline consumer
    (store.stagesOf (store.nodes.get node).pipeline) message

/-- Everything on the way of messages from a node edits messages one by one, and whoever gets
these messages takes them one by one, accepts them and gives no command. -/
structure Piecemeal (store : Store) (edit : Ref .stage → Message → Message)
    (node : Ref .node) (messages : List Message) : Prop where
  shared : store.EditsBy edit (store.stagesOf (store.nodes.get node).pipeline)
  groups : ∀ hub, store.hub? node = some hub → store.EditsHub edit hub
  manner : ∀ consumer agent, store.Reaches node consumer →
    store.receiverOf? consumer = some agent → (store.agents.get agent).manner.Piecemeal
  accepts : ∀ consumer agent, store.Reaches node consumer →
    store.receiverOf? consumer = some agent →
      ∀ message ∈ messages.filterMap (store.gets? edit node consumer),
        (store.agents.get agent).manner.Accepts message

theorem Piecemeal.of_subset
    {fewer : List Message}
    (piecemeal : store.Piecemeal edit node messages)
    (subset : fewer ⊆ messages) :
    store.Piecemeal edit node fewer where
  shared := piecemeal.shared
  groups := piecemeal.groups
  manner := piecemeal.manner
  accepts consumer agent reaches receives message member := by
    obtain ⟨received, among, gets⟩ := List.mem_filterMap.mp member
    exact piecemeal.accepts consumer agent reaches receives message
      (List.mem_filterMap.mpr ⟨received, subset among, gets⟩)

/-- Messages that a node receives have been handed to whoever gets them, and counted. -/
abbrev HandsOut (store : Store) (edit : Ref .stage → Message → Message) (node : Ref .node)
    (messages : List Message) (handoffs : Handoffs) (tally : Tally) : Prop :=
  store.Arrives edit (store.nodes.get node).pipeline
    (store.stagesOf (store.nodes.get node).pipeline) messages handoffs tally

theorem HandsOut.accepts
    (handsOut : store.HandsOut edit node messages handoffs tally)
    (piecemeal : store.Piecemeal edit node messages)
    {entry : Consumer × Traffic}
    (member : entry ∈ handoffs)
    {agent : Ref .agent}
    (receives : store.receiverOf? entry.1 = some agent) :
    ∀ message ∈ entry.2.messages, (store.agents.get agent).manner.Accepts message := by
  intro message among
  have arrived : handoffs.messagesTo entry.1 =
      messages.filterMap (store.gets? edit node entry.1) := handsOut.arrived entry.1
  apply piecemeal.accepts entry.1 agent (handsOut.handed entry member).2 receives
  rw [← arrived]
  exact Handoffs.mem_messagesTo member among

/-- Nobody gives a command who is handed messages that a node receives. -/
theorem HandsOut.settle
    (handsOut : store.HandsOut edit node messages handoffs tally)
    (piecemeal : store.Piecemeal edit node messages) :
    handoffs.Settle store := by
  intro entry member agent receives
  obtain ⟨carries, reaches⟩ := handsOut.handed entry member
  have manner := piecemeal.manner entry.1 agent reaches receives
  exact ⟨.ok (), manner.settles carries (handsOut.accepts piecemeal member receives)⟩

/-! ### Receiving -/

/-- Between two stores a node has received messages: they have been handed out, agents have
been told, and everything has been counted. -/
structure Received (base : Store) (edit : Ref .stage → Message → Message) (node : Ref .node)
    (messages : List Message) (handoffs : Handoffs) (tally : Tally)
    (before after : Store) : Prop where
  handsOut : base.HandsOut edit node messages handoffs tally
  delivered : Delivered (handoffs.told base) tally
    (before.modifyNode node (Node.countReceived messages)) after

namespace Received

variable {first second : List Message} {firstHandoffs secondHandoffs : Handoffs}
  {firstTally secondTally : Tally}

theorem nothing (base before : Store) : base.Received edit node [] [] [] before before where
  handsOut := Arrives.nothing
  delivered := by
    unfold modifyNode
    rw [Node.countReceived_nil, Table.modify_id]
    exact Delivered.of_bookkept (Bookkept.refl before)

theorem append
    (earlier : base.Received edit node first firstHandoffs firstTally before between)
    (later : base.Received edit node second secondHandoffs secondTally between after) :
    base.Received edit node (first ++ second) (firstHandoffs ++ secondHandoffs)
      (firstTally ++ secondTally) before after where
  handsOut := earlier.handsOut.append later.handsOut
  delivered := by
    have whole := (earlier.delivered.countReceived node second).trans later.delivered
    rw [countReceived_countReceived] at whole
    unfold Handoffs.told at *
    rwa [List.flatMap_append]

theorem skeleton (received : base.Received edit node messages handoffs tally before after) :
    after.skeleton = before.skeleton :=
  skeleton_eq_of_shape_eq
    (received.delivered.shape.trans (shape_countReceived before node messages))

end Received

/-- A node counts what it receives, and then it goes up the pipeline of the node. -/
theorem receive_eq_travel
    {traffic : Traffic}
    (carries : traffic.carriesMessage = true)
    (inner : Entrances)
    (node : Ref .node)
    (before : Store) :
    Delivery.receive inner node traffic before =
      (Run.look (fun store => (store.nodes.get node).pipeline) >>= fun pipeline =>
        inner.travel (.up pipeline traffic))
          (before.modifyNode node (Node.countReceived traffic.messages)) := by
  cases traffic with
  | batch whole =>
      have same : (Traffic.batch whole).messages = whole.messages := rfl
      unfold Delivery.receive
      rw [same]
      unfold Node.countReceived
      rw [← whole.payloadSize_eq]
      rfl
  | single event =>
      cases event with
      | message message => rfl
      | viewChange view => cases carries
      | localAddress address => cases carries
      | suspect address => cases carries

/-- What goes up the pipeline of a node is handed out. -/
theorem travel_handsOut
    {traffic : Traffic}
    (wired : base.Wired)
    (issued : base.nodes.Issued node)
    (piecemeal : base.Piecemeal edit node traffic.messages)
    (carries : traffic.carriesMessage = true)
    (named : ∀ message ∈ traffic.messages, message.routing?.isSome → message.group?.isSome)
    (depth : Nat) :
    Course base
      (Run.look (fun store => (store.nodes.get node).pipeline) >>= fun pipeline =>
        (Entrances.within (depth + 2)).travel (.up pipeline traffic))
      fun handoffs tally _ => base.HandsOut edit node traffic.messages handoffs tally := by
  refine Course.look fun store same => Course.look fun other sameThen => ?_
  rw [nodePipeline_eq same, stagesOf_eq sameThen]
  refine Course.ascend_arrives (wired.nodes node issued).layers piecemeal.shared carries named ?_
  exact fun hub found => Or.inr ⟨_, wired.hubWired issued found, piecemeal.groups hub found⟩

theorem receive_received
    {traffic : Traffic}
    (wired : base.Wired)
    (issued : base.nodes.Issued node)
    (piecemeal : base.Piecemeal edit node traffic.messages)
    (carries : traffic.carriesMessage = true)
    (named : ∀ message ∈ traffic.messages, message.routing?.isSome → message.group?.isSome)
    (known : before.skeleton = base.skeleton) :
    ∃ outcome after handoffs tally, before.receive node traffic = some (outcome, after) ∧
      base.Received edit node traffic.messages handoffs tally before after := by
  have course := travel_handsOut wired issued piecemeal carries named 999998
  have knownCounted :=
    (skeleton_eq_of_shape_eq (shape_countReceived before node traffic.messages)).trans known
  obtain ⟨outcome, after, handoffs, tally, finished, handsOut, delivered⟩ :=
    (course _ knownCounted).delivers knownCounted fun _ _ _ handsOut =>
      HandsOut.settle handsOut piecemeal
  exact ⟨outcome, after, handoffs, tally,
    (receive_eq_travel carries _ node before).trans finished, handsOut, delivered⟩

theorem receiveEach_received
    (wired : base.Wired)
    (issued : base.nodes.Issued node)
    (piecemeal : base.Piecemeal edit node messages)
    (named : ∀ message ∈ messages, message.routing?.isSome → message.group?.isSome)
    (known : before.skeleton = base.skeleton) :
    ∃ after handoffs tally, before.receiveEach node messages = some after ∧
      base.Received edit node messages handoffs tally before after := by
  induction messages generalizing before with
  | nil => exact ⟨before, [], [], rfl, Received.nothing base before⟩
  | cons message rest inductionHypothesis =>
      have alone : base.Piecemeal edit node (Traffic.single (.message message)).messages :=
        piecemeal.of_subset (by simp [Traffic.messages])
      obtain ⟨outcome, between, first, counted, received, isReceived⟩ :=
        receive_received wired issued alone rfl
          (List.forall_mem_singleton.mpr (named message List.mem_cons_self)) known
      obtain ⟨after, others, later, receivedRest, areReceived⟩ := inductionHypothesis
        (piecemeal.of_subset (List.subset_cons_self message rest))
        (fun other member => named other (List.mem_cons_of_mem _ member))
        (isReceived.skeleton.trans known)
      refine ⟨after, first ++ others, counted ++ later, ?_, isReceived.append areReceived⟩
      unfold receiveEach
      rw [received]
      exact receivedRest

/-! ### What is known of it afterwards -/

namespace Received

theorem agents (received : base.Received edit node messages handoffs tally before after) :
    after.agents = hearAll before.agents (handoffs.told base) := received.delivered.agents

theorem counted_eq
    (received : base.Received edit node messages handoffs tally before after)
    {stage : Ref .stage}
    (isHub : (before.demultiplexer? stage).isSome)
    (mark : Mark) :
    after.counted stage mark = before.counted stage mark + UInt64.ofNat
      ((messages.flatMap (base.marks edit
        (base.stagesOf (base.nodes.get node).pipeline))).count (stage, mark)) := by
  rw [← received.handsOut.counted.count_eq]
  exact received.delivered.counted stage mark isHub

/-- Whoever takes what is for one consumer alone has heard of the messages that the consumer
gets. -/
theorem agent_eq
    (received : base.Received edit node messages handoffs tally before after)
    (piecemeal : base.Piecemeal edit node messages)
    (known : before.skeleton = base.skeleton)
    {consumer : Consumer}
    {agent : Ref .agent}
    (receives : base.receiverOf? consumer = some agent)
    (reaches : base.Reaches node consumer)
    (alone : ∀ other, base.Reaches node other → base.receiverOf? other = some agent →
      other = consumer) :
    after.agents.get agent = (before.agents.get agent).hearMessages
      (messages.filterMap (base.gets? edit node consumer)) := by
  have handsOut := received.handsOut
  have arrived : handoffs.messagesTo consumer =
      messages.filterMap (base.gets? edit node consumer) := handsOut.arrived consumer
  have only (entry : Consumer × Traffic) (member : entry ∈ handoffs) :
      base.receiverOf? entry.1 = some agent ↔ entry.1 = consumer := by
    refine ⟨alone entry.1 (handsOut.handed entry member).2, fun isConsumer => ?_⟩
    rw [isConsumer]
    exact receives
  have sameManner : (before.agents.get agent).manner = (base.agents.get agent).manner :=
    manner_eq known agent
  rw [received.agents, get_hearAll, Handoffs.noticesTo_told only,
    Agent.hearAll_piecemeal, ← arrived]
  · unfold Handoffs.messagesTo
    rw [List.flatMap_map]
  · rw [sameManner]
    exact piecemeal.manner consumer agent reaches receives
  · rw [List.forall_mem_map]
    intro entry member
    exact (handsOut.handed entry (List.mem_filter.mp member).1).1
  · rw [sameManner, List.flatMap_map]
    intro message member
    apply piecemeal.accepts consumer agent reaches receives
    rwa [← arrived]

theorem agent_eq_of_not_reached
    (received : base.Received edit node messages handoffs tally before after)
    {agent : Ref .agent}
    (nobody : ∀ consumer, base.Reaches node consumer → base.receiverOf? consumer ≠ some agent) :
    after.agents.get agent = before.agents.get agent := by
  rw [received.agents, get_hearAll, Handoffs.noticesTo_told_of_not_taking]
  · rfl
  · exact fun entry member => nobody entry.1 (received.handsOut.handed entry member).2

theorem counted_eq_zero
    (received : base.Received edit node messages handoffs tally before after)
    {stage : Ref .stage}
    (notHub : (before.demultiplexer? stage).isSome = false)
    (mark : Mark) :
    after.counted stage mark = 0 := by
  have stillNot := (isSome_demultiplexer?_of_bare_eq
    (bare_role_eq received.skeleton stage)).trans notHub
  unfold counted
  rw [Option.isSome_eq_false_iff, Option.isNone_iff_eq_none] at stillNot
  rw [stillNot]

end Received

/-- An agent takes what messages get to from a node for one consumer at most. -/
def TakesForOne (store : Store) (node : Ref .node) (agent : Ref .agent) : Prop :=
  ∀ first second, store.Reaches node first → store.Reaches node second →
    store.receiverOf? first = some agent → store.receiverOf? second = some agent →
      first = second

/-- A batch in which every routing header names a group is received as its messages are one
by one, if they are edited and taken one by one. Every consumer is handed the same messages in
the same order, so that whoever takes them for one consumer alone has heard the same, and
demultiplexers and the node have counted the same. -/
theorem receive_batchAgrees
    {batch : Batch}
    (wired : store.Wired)
    (issued : store.nodes.Issued node)
    (piecemeal : store.Piecemeal edit node batch.messages)
    (named : batch.NamesGroups) :
    ∃ outcome whole singly handedWhole handedSingly tallyWhole tallySingly,
      store.receive node (.batch batch) = some (outcome, whole) ∧
      store.receiveEach node batch.messages = some singly ∧
      store.Received edit node batch.messages handedWhole tallyWhole store whole ∧
      store.Received edit node batch.messages handedSingly tallySingly store singly ∧
      (∀ consumer, handedWhole.messagesTo consumer = handedSingly.messagesTo consumer) ∧
      (∀ agent, store.TakesForOne node agent →
        whole.agents.get agent = singly.agents.get agent) ∧
      (∀ stage mark, whole.counted stage mark = singly.counted stage mark) ∧
      whole.nodes = singly.nodes := by
  have receives : ∃ outcome after handoffs tally,
      store.receive node (.batch batch) = some (outcome, after) ∧
        store.Received edit node batch.messages handoffs tally store after :=
    receive_received wired issued piecemeal rfl named rfl
  obtain ⟨outcome, whole, handedWhole, tallyWhole, received, isReceived⟩ := receives
  obtain ⟨singly, handedSingly, tallySingly, receivedEach, areReceived⟩ :=
    receiveEach_received wired issued piecemeal named rfl
  refine ⟨outcome, whole, singly, handedWhole, handedSingly, tallyWhole, tallySingly, received,
    receivedEach, isReceived, areReceived, fun consumer => ?_, fun agent one => ?_,
    fun stage mark => ?_, ?_⟩
  · rw [isReceived.handsOut.arrived, areReceived.handsOut.arrived]
  · by_cases reached : ∃ consumer, store.Reaches node consumer ∧
        store.receiverOf? consumer = some agent
    · obtain ⟨consumer, reaches, receives⟩ := reached
      have alone (other : Consumer) (reachesOther : store.Reaches node other)
          (receivesOther : store.receiverOf? other = some agent) : other = consumer :=
        one other consumer reachesOther reaches receivesOther receives
      rw [isReceived.agent_eq piecemeal rfl receives reaches alone,
        areReceived.agent_eq piecemeal rfl receives reaches alone]
    · have nobody (consumer : Consumer) (reaches : store.Reaches node consumer) :
          store.receiverOf? consumer ≠ some agent :=
        fun receives => reached ⟨consumer, reaches, receives⟩
      rw [isReceived.agent_eq_of_not_reached nobody, areReceived.agent_eq_of_not_reached nobody]
  · cases isHub : (store.demultiplexer? stage).isSome with
    | true => rw [isReceived.counted_eq isHub, areReceived.counted_eq isHub]
    | false => rw [isReceived.counted_eq_zero isHub, areReceived.counted_eq_zero isHub]
  · rw [isReceived.delivered.nodes, areReceived.delivered.nodes]

/-! ### A node whose stages mark and record -/

/-- A node with a stage that marks payloads below its demultiplexer and one that records
above it. A stage in the stack of the first of its groups marks payloads as well, and one in
that of the other passes everything on. -/
def relay : List Action :=
  let plan (group member : String) (agent : Ref .agent) : ForkPlan :=
    { node? := some ⟨0⟩, group? := some group, member? := some member,
      receiver? := some agent }
  [.addAgent .queue, .addAgent .queue, .addAgent .queue, .addAgent .queue,
    .addStage "s" (.marking "s"), .addStage "p" (.marking "p"), .addStage "d" .transparent,
    .addStage "r" .recording, .addNode "a" "a" (.filled 1) "net" [⟨0⟩], .setReceiver ⟨0⟩ ⟨0⟩,
    .buildFork { plan "e" "m" ⟨1⟩ with stages := [⟨1⟩] } "first",
    .buildFork { plan "g" "m" ⟨2⟩ with stages := [⟨2⟩] } "second",
    .buildFork (plan "g" "n" ⟨3⟩) "third", .insertStage ⟨0⟩ ⟨3⟩ .top]

/-- The node with its forks. -/
def relayed : Store := (Store.run? {} relay).getD {}

/-- How its stages edit messages. -/
def relayedEdit (stage : Ref .stage) : Message → Message :=
  if stage = ⟨0⟩ then (·.mark (Octets.ofString "^s"))
  else if stage = ⟨1⟩ then (·.mark (Octets.ofString "^p"))
  else id

theorem reachable_relayed :
    Reachable (Action.Makes (fun _ => True) fun manner =>
      manner.Piecemeal ∧ ∀ message, manner.Accepts message) relayed := by
  have queue : Manner.queue.Piecemeal ∧ ∀ message, Manner.queue.Accepts message :=
    ⟨Manner.oneByOne_piecemeal _ none, fun _ => rfl⟩
  apply reachable_made
  simp [relay, Action.Makes, queue]

theorem relayed_edits
    {stage : Ref .stage}
    {conduct : Conduct}
    (role : (relayed.stages.get stage).role = .custom conduct) :
    conduct.Edits (relayedEdit stage) := by
  have issued := IsCustom.issued ⟨conduct, role⟩
  have custom : relayed.isCustom stage = true := by
    unfold isCustom
    rw [role]
  have among : stage ∈ [⟨0⟩, ⟨1⟩, ⟨2⟩, ⟨3⟩] :=
    (by decide +kernel : ∀ stage ∈ relayed.stages.refs, relayed.isCustom stage = true →
      stage ∈ [⟨0⟩, ⟨1⟩, ⟨2⟩, ⟨3⟩]) stage (Table.mem_refs.mpr issued) custom
  rw [List.mem_cons, List.mem_cons, List.mem_cons, List.mem_singleton] at among
  rcases among with rfl | rfl | rfl | rfl
  · exact (Conduct.marking_edits "s").of_role (by with_unfolding_all rfl) role
  · exact (Conduct.marking_edits "p").of_role (by with_unfolding_all rfl) role
  · exact Conduct.transparent_transparent.edits.of_role (by with_unfolding_all rfl) role
  · exact Conduct.recording_transparent.edits.of_role (by with_unfolding_all rfl) role

/-- Every agent there takes what is for one consumer. -/
theorem relayed_consumer
    {consumer : Consumer}
    {agent : Ref .agent}
    (reaches : relayed.Reaches ⟨0⟩ consumer)
    (receives : relayed.receiverOf? consumer = some agent) :
    consumer = if agent = ⟨0⟩ then .top ⟨0⟩ else .fork ⟨agent.index - 1⟩ := by
  cases consumer with
  | top other =>
      have isPipeline : other = (relayed.nodes.get ⟨0⟩).pipeline := reaches
      have known : relayed.receiverOf? (.top (relayed.nodes.get ⟨0⟩).pipeline) = some ⟨0⟩ := by
        decide +kernel
      rw [isPipeline, known] at receives
      cases receives
      rw [isPipeline]
      decide +kernel
  | fork fork =>
      have issued : relayed.forks.Issued fork := by
        by_contra notIssued
        have takes : (relayed.forks.get fork).receiver? = some agent := receives
        rw [Table.get_of_not_issued notIssued] at takes
        cases takes
      have known := (by decide +kernel : ∀ fork ∈ relayed.forks.refs,
        relayed.receiverOf? (.fork fork) = some ⟨fork.index + 1⟩) fork
          (Table.mem_refs.mpr issued)
      rw [known] at receives
      cases receives
      simp

/-- The node receives messages for both groups, for a group and for members that there are
not, and for nobody in particular, as a batch and one by one. -/
theorem receive_batchAgrees_mixture :
    ∃ outcome whole singly,
      relayed.receive ⟨0⟩ (.batch mixture) = some (outcome, whole) ∧
      relayed.receiveEach ⟨0⟩ mixture.messages = some singly ∧
      (∀ agent, whole.agents.get agent = singly.agents.get agent) ∧
      ([0, 1, 2, 3].map fun agent => (whole.agents.get ⟨agent⟩).log.map Message.payload) =
        [[[1, 94, 115], [9, 94, 115]], [[3, 94, 115, 94, 112]], [[5, 94, 115]],
          [[2, 94, 115], [8, 94, 115]]] ∧
      (∀ stage mark, whole.counted stage mark = singly.counted stage mark) ∧
      ([Mark.routed, .passedThrough, .missed].map (whole.counted ⟨4⟩)) = [6, 2, 1] ∧
      whole.nodes = singly.nodes := by
  have wired := wired_of_reachable reachable_relayed
  have peopled := peopled_of_reachable reachable_relayed
    ⟨fun batch => (Script.forEach_accept batch.messages).symm, fun _ => rfl⟩
  have piecemeal : relayed.Piecemeal relayedEdit ⟨0⟩ mixture.messages :=
    { shared := fun _ _ _ => relayed_edits
      groups := fun _ _ _ _ _ _ _ _ => relayed_edits
      manner := fun _ agent _ _ => (peopled.agents agent).1
      accepts := fun _ agent _ _ message _ => (peopled.agents agent).2 message }
  obtain ⟨outcome, whole, singly, _, _, _, _, received, receivedEach, _, _, _, agents, counted,
    nodes⟩ := receive_batchAgrees wired (by decide +kernel) piecemeal mixture_namesGroups
  have one (agent : Ref .agent) : relayed.TakesForOne ⟨0⟩ agent := by
    intro first second reachesFirst reachesSecond receivesFirst receivesSecond
    rw [relayed_consumer reachesFirst receivesFirst,
      relayed_consumer reachesSecond receivesSecond]
  have shown : (relayed.receive ⟨0⟩ (.batch mixture)).map (fun result =>
      ([0, 1, 2, 3].map fun agent => (result.2.agents.get ⟨agent⟩).log.map Message.payload,
        [Mark.routed, .passedThrough, .missed].map (result.2.counted ⟨4⟩))) =
      some ([[[1, 94, 115], [9, 94, 115]], [[3, 94, 115, 94, 112]], [[5, 94, 115]],
        [[2, 94, 115], [8, 94, 115]]], [6, 2, 1]) := by decide +kernel
  rw [received] at shown
  have views := Option.some.inj shown
  exact ⟨outcome, whole, singly, received, receivedEach, fun agent => agents agent (one agent),
    congrArg Prod.fst views, counted, congrArg Prod.snd views, nodes⟩

end Store

end ChannelMux
