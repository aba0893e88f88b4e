import ChannelMux.Proofs.Delivery.Completion
import ChannelMux.Proofs.Delivery.Forwarding
import ChannelMux.Proofs.Encoding.Payload
import ChannelMux.Proofs.Network.ExactlyOnce
import ChannelMux.Proofs.Network.Makings
import ChannelMux.Proofs.Network.Seating

/-!
Contract: what is counted when a node sends a message.

Owns the counters of nodes after a message was sent: that of the sender grow by one message
and by the octets of its payload, and so do those of every target, whatever the targets make
of their copies. Owns that a sending which is refused leaves everything as it was but for what
stages recorded, with one exception: what was written and counted may not be read back, if the
message has a foreign header in the place of the routing header.

Does not own who is told of the message.
-/

namespace ChannelMux

namespace Store

/-- The counters of a node when a sender has sent a message and every target has received
its copy. -/
def tally (store : Store) (sender : Ref .node) (message : Message) (node : Ref .node) :
    TrafficCounters :=
  let before := (store.nodes.get node).counters
  let sent := if node = sender then before.send message.payload.length else before
  if (store.targetsOf sender message).contains node then sent.receive message.payload.length else sent

end Store

/-! ### At the targets -/

/-- Stores of one skeleton, in which nothing becomes of the nodes. -/
def standbyRule (base : Store) : Rule where
  holds store := store.skeleton = base.skeleton
  relates before after := after.skeleton = before.skeleton ∧ after.nodes = before.nodes
  refl _ := ⟨rfl, rfl⟩
  trans first second := ⟨second.1.trans first.1, second.2.trans first.2⟩
  keeps holds related := related.1.trans holds

namespace Store

theorem standbyRule_attends (base : Store) : (standbyRule base).Attends base where
  known holds := holds
  records stage entry _ :=
    ⟨skeleton_eq_of_unrecorded (unrecorded_recordStage _ stage entry), rfl⟩
  hears agent notice _ := ⟨skeleton_eq_of_shape_eq (shape_hear _ agent notice), rfl⟩

variable {base before : Store}

section Targets

variable (passive : base.Passive) (wired : base.Wired) (sole : base.SoleHubs)
  (known : before.skeleton = base.skeleton) (depth : Nat)

include passive wired sole known

/-- A node that a message arrives at counts it, whatever becomes of it then. -/
theorem receive_counts
    {node : Ref .node}
    (issued : base.nodes.Issued node)
    (message : Message) :
    ∃ outcome after,
      Delivery.receive (Entrances.within (depth + 2)) node (.single (.message message)) before =
          some (outcome, after) ∧
        after.skeleton = base.skeleton ∧
        after.nodes = before.nodes.modify node (Node.receive message.payload.length) := by
  let counted : Store := before.modifyNode node (Node.receive message.payload.length)
  have sameSkeleton : counted.skeleton = before.skeleton := by
    apply skeleton_modifyNode
    intro record
    rfl
  have completes := (standbyRule_attends base).completes_travel passive
    (fun change _ _ => .modify fun store _ =>
      ⟨skeleton_eq_of_shape_eq (shape_count store _ change), rfl⟩) wired sole issued
    depth (.single (.message message))
  obtain ⟨outcome, after, travels, kept, nodes⟩ := completes counted (sameSkeleton.trans known)
  refine ⟨outcome, after, ?_, kept.trans (sameSkeleton.trans known), nodes⟩
  rw [← nodePipeline_eq (sameSkeleton.trans known)] at travels
  exact travels

/-- Every target counts its copy. -/
theorem deliver_counts
    {targets : List (Ref .node)}
    (issued : ∀ target ∈ targets, base.nodes.Issued target)
    (copy : Message) :
    ∃ after,
      (targets.forM fun target => (Delivery.receive (Entrances.within (depth + 2)) target
        (.single (.message copy))).ignore) before = some ((), after) ∧
        after.nodes = targets.foldl
          (fun nodes target => nodes.modify target (Node.receive copy.payload.length))
          before.nodes := by
  induction targets generalizing before with
  | nil => exact ⟨before, rfl, rfl⟩
  | cons target rest inductionHypothesis =>
      obtain ⟨outcome, between, receives, still, counted⟩ := receive_counts passive wired sole
        known depth (issued target List.mem_cons_self) copy
      obtain ⟨after, delivers, countedAll⟩ := inductionHypothesis still fun other member =>
        issued other (List.mem_cons_of_mem _ member)
      refine ⟨after, ?_, ?_⟩
      · change (Run.ignore _ >>= fun _ => rest.forM _) before = _
        unfold Run.ignore
        rw [Run.bind_apply, Run.bind_apply, receives]
        exact delivers
      · rw [countedAll, counted]
        rfl

end Targets

/-! ### At the sender -/

section Transmission

variable {node : Ref .node} {message : Message} {written : Octets} {inner : Entrances}

theorem shape_countSent (store : Store) (node : Ref .node) (octets : Nat) :
    (store.countSent node octets).shape = store.shape := by
  apply shape_modifyNode
  intro record
  rfl

theorem transmit_not_connected
    (notConnected : (before.nodes.get node).status ≠ .connected) :
    Delivery.transmit inner node message before =
      some (.error (.transport (.inStatus (before.nodes.get node).name
        (before.nodes.get node).status)), before) := by
  unfold Delivery.transmit
  rw [Rule.look_apply, if_neg notConnected]
  rfl

theorem transmit_unwritten
    {refusal : Encoding.Error}
    (connected : (before.nodes.get node).status = .connected)
    (fails : Encoding.writeMessage (before.stamped node message) = .error refusal) :
    Delivery.transmit inner node message before =
      some (.error (.transport (.encoding refusal)), before) := by
  unfold stamped at fails
  unfold Delivery.transmit
  rw [Rule.look_apply, if_pos connected, fails]
  rfl

/-- What can be written is counted, and goes to the targets that there are then. -/
theorem transmit_written
    (connected : (before.nodes.get node).status = .connected)
    (writes : Encoding.writeMessage (before.stamped node message) = .ok written) :
    Delivery.transmit inner node message before =
      Delivery.deliverCopies inner written (before.targetsOf node message)
        (before.countSent node message.payload.length) := by
  have same := shape_countSent before node message.payload.length
  have sameTargets := targets_eq same (rfl : (before.nodes.get node).bare = _)
    message.destination?
  unfold stamped at writes
  unfold Delivery.transmit targetsOf
  rw [Rule.look_apply, if_pos connected, writes, ← sameTargets]
  rfl

/-- The counters when the sender has counted the message and every target its copy. -/
theorem counters_of_targets
    {after : Store}
    (issued : before.nodes.Issued node)
    (issuedTargets : ∀ target ∈ before.targetsOf node message, before.nodes.Issued target)
    (distinct : (before.targetsOf node message).Nodup)
    (nodes : after.nodes = (before.targetsOf node message).foldl
      (fun nodes target => nodes.modify target (Node.receive message.payload.length))
      (before.countSent node message.payload.length).nodes)
    (other : Ref .node) :
    (after.nodes.get other).counters = before.tally node message other := by
  have sent : ((before.countSent node message.payload.length).nodes.get other).counters =
      if other = node then (before.nodes.get other).counters.send message.payload.length
      else (before.nodes.get other).counters := by
    unfold countSent modifyNode
    by_cases same : other = node
    · subst same
      rw [Table.get_modify_self issued, if_pos rfl]
    · rw [Table.get_modify_of_ne same, if_neg same]
  have stillIssued (target : Ref .node) (member : target ∈ before.targetsOf node message) :
      (before.countSent node message.payload.length).nodes.Issued target :=
    Table.issued_modify.mpr (issuedTargets target member)
  unfold tally
  dsimp only
  rw [nodes, Table.get_foldl_modify distinct stillIssued, ← sent]
  by_cases member : other ∈ before.targetsOf node message
  · rw [if_pos member, if_pos (List.contains_iff_mem.mpr member)]
    rfl
  · rw [if_neg member, if_neg (mt List.contains_iff_mem.mp member)]

/-- What a transmission comes to. -/
structure Transmits (before after : Store) (node : Ref .node) (message : Message)
    (outcome : Outcome) : Prop where
  counted : outcome = .ok () →
    (before.nodes.get node).status = .connected ∧
      ∀ other, (after.nodes.get other).counters = before.tally node message other
  refused : ∀ refusal, outcome = .error refusal →
    after = before ∨ ¬ Encoding.HasNoForeignRouting message ∧
      after = before.countSent node message.payload.length

theorem transmits_refused (refusal : Refusal) :
    before.Transmits before node message (.error refusal) :=
  ⟨fun impossible => (nomatch impossible), fun _ _ => Or.inl rfl⟩

/-- What the sender has written, its cluster cannot read. -/
theorem transmits_unread
    {written : Octets}
    {error : Encoding.Error}
    (writes : Encoding.writeMessage (before.stamped node message) = .ok written)
    (reads : Encoding.messageOfOctets written = .error error)
    (refusal : Refusal) :
    before.Transmits (before.countSent node message.payload.length) node message
      (.error refusal) := by
  refine ⟨fun impossible => (nomatch impossible), fun _ _ => Or.inr ⟨fun noForeign => ?_, rfl⟩⟩
  have readBack := (Encoding.messageOfOctets_writeMessage_iff writes).mpr noForeign
  rw [reads] at readBack
  cases readBack

theorem transmits_delivered
    {after : Store}
    (connected : (before.nodes.get node).status = .connected)
    (counters : ∀ other, (after.nodes.get other).counters = before.tally node message other) :
    before.Transmits after node message (.ok ()) :=
  ⟨fun _ => ⟨connected, counters⟩, fun _ impossible => (nomatch impossible)⟩

theorem transmit_counts
    (passive : before.Passive)
    (wired : before.Wired)
    (sole : before.SoleHubs)
    (listed : before.Listed)
    (issued : before.nodes.Issued node)
    (depth : Nat)
    (message : Message) :
    ∃ outcome after,
      Delivery.transmit (Entrances.within (depth + 2)) node message before =
          some (outcome, after) ∧
        before.Transmits after node message outcome := by
  by_cases connected : (before.nodes.get node).status = .connected
  · cases writes : Encoding.writeMessage (before.stamped node message) with
    | error refusal =>
        exact ⟨_, before, transmit_unwritten connected writes, transmits_refused _⟩
    | ok written =>
        rw [transmit_written connected writes]
        have issuedTargets (target : Ref .node)
            (member : target ∈ before.targetsOf node message) : before.nodes.Issued target :=
          wired.issued_of_isNodeAlive (isNodeAlive_of_mem_targetsOf member)
        have counters := fun after => @counters_of_targets before node message after issued
          issuedTargets (nodup_targetsOf listed)
        cases targets : before.targetsOf node message with
        | nil =>
            rw [targets] at counters
            exact ⟨.ok (), _, rfl, transmits_delivered connected (counters _ rfl)⟩
        | cons first others =>
            rw [targets] at counters issuedTargets
            unfold Delivery.deliverCopies
            cases reads : Encoding.messageOfOctets written with
            | error refusal => exact ⟨_, _, rfl, transmits_unread writes reads _⟩
            | ok copy =>
                have payload : copy.payload = (before.stamped node message).payload :=
                  Encoding.payload_of_copy writes reads
                change copy.payload = message.payload at payload
                have known := skeleton_eq_of_shape_eq
                  (shape_countSent before node message.payload.length)
                obtain ⟨after, delivers, nodes⟩ := deliver_counts passive wired sole known
                  depth issuedTargets copy
                rw [payload] at nodes
                refine ⟨.ok (), after, ?_, transmits_delivered connected (counters _ nodes)⟩
                dsimp only
                rw [Run.bind_apply, delivers]
                rfl
  · exact ⟨_, before, transmit_not_connected connected, transmits_refused _⟩

end Transmission

/-! ### One sending -/

/-- What a message that a node sends comes to, as the counters have it. -/
structure Accounted (before after : Store) (node : Ref .node) (message : Message)
    (reply : Reply) : Prop where
  /-- The targets are the members of the node's cluster that last and that the message is for,
  and none of them is one twice. -/
  targets : reply = .ok () →
    (before.targetsOf node message).Nodup ∧
      ∃ cluster, (before.nodes.get node).cluster? = some cluster ∧
        ∀ target, target ∈ before.targetsOf node message ↔
          before.IsLiveMember (before.nodes.get node).network cluster target ∧
            ∀ address, message.destination? = some address →
              (before.nodes.get target).address = address
  counted : reply = .ok () →
    ∀ other, (after.nodes.get other).counters = before.tally node message other
  /-- Nothing has become of anything but the records of stages, unless what was sent is not
  read back. -/
  refused : ∀ refusal, reply = .error refusal →
    after.unrecorded = before.unrecorded ∨
      ¬ Encoding.HasNoForeignRouting message ∧
        after.unrecorded = (before.countSent node message.payload.length).unrecorded

/-- What stages have recorded has no part in whom a message is for and what is counted. -/
theorem tally_eq_of_unrecorded
    {after : Store}
    (same : after.unrecorded = before.unrecorded)
    (node : Ref .node)
    (message : Message) :
    after.tally node message = before.tally node message := by
  have sameNodes := nodes_eq_of_unrecorded same
  have sameTargets : after.targetsOf node message = before.targetsOf node message := by
    unfold targetsOf
    rw [sameNodes]
    exact targets_eq (shape_eq_of_unrecorded same) rfl _
  funext other
  unfold tally
  rw [sameTargets, sameNodes]

/-- What a transmission comes to is what the sending comes to, if stages only record things
before and after. -/
theorem Transmits.accounted
    {between left after : Store}
    {node : Ref .node}
    {message : Message}
    {outcome : Outcome}
    (comes : between.Transmits left node message outcome)
    (recorded : between.unrecorded = before.unrecorded)
    (recordedOn : after.unrecorded = left.unrecorded)
    (listed : before.Listed)
    (poised : before.Poised) :
    before.Accounted after node message (Delivery.reply outcome) := by
  cases outcome with
  | ok =>
      obtain ⟨connected, counters⟩ := comes.counted rfl
      rw [nodes_eq_of_unrecorded recorded] at connected
      obtain ⟨cluster, inCluster⟩ :=
        Option.isSome_iff_exists.mp ((poised.coherent node).clustered.mp connected)
      refine ⟨fun _ => ⟨nodup_targetsOf listed, cluster, inCluster,
        mem_targetsOf listed inCluster⟩, fun _ other => ?_, fun _ impossible => nomatch impossible⟩
      rw [nodes_eq_of_unrecorded recordedOn, counters, tally_eq_of_unrecorded recorded]
  | error refusal =>
      refine ⟨fun impossible => (nomatch impossible), fun impossible => (nomatch impossible),
        fun _ _ => ?_⟩
      rcases comes.refused refusal rfl with nothing | ⟨foreign, counted⟩
      · subst nothing
        exact Or.inl (recordedOn.trans recorded)
      · refine Or.inr ⟨foreign, recordedOn.trans ?_⟩
        rw [counted]
        have tables := congrArg (Store.countSent · node message.payload.length) recorded
        exact tables

/-- In a network of transparent stages and passive agents a node that sends a message counts
it once and every target counts its copy once, and nobody else counts anything; and if the
sending is refused then nothing has been counted and nobody has received anything, except that
the sender has counted a message that its cluster could not read. -/
theorem sendNode_accounted
    {store : Store}
    {node : Ref .node}
    (reachable : Reachable (Action.Makes Conduct.Transparent Manner.Passive) store)
    (alive : store.isNodeAlive node = true)
    (message : Message) :
    ∃ reply after, store.call (.sendNode node message) = some (reply, after) ∧
      store.Accounted after node message reply := by
  have amongPassive : Reachable Action.MakesPassive store := reachable.mono fun action makes => by
    cases action <;> first | exact makes | trivial
  obtain ⟨wired, passive, agreed⟩ := composed_of_reachable amongPassive
  have sole := soleHubs_of_reachable reachable
  have transparent := (peopled_of_reachable reachable (passive_empty ⟨0⟩)).stages
  obtain ⟨between, recorded, alike⟩ :=
    Forwards.sendNode wired alive transparent 999998 message store rfl
  have skeleton := skeleton_eq_of_unrecorded recorded
  have agreedBetween := agreed_of_shape_eq wired agreed (shape_eq_of_unrecorded recorded)
  obtain ⟨outcome, left, transmits, comes⟩ := transmit_counts
    (passive.of_skeleton_eq skeleton) (wired.of_skeleton_eq skeleton)
    (sole.of_skeleton_eq wired skeleton) agreedBetween.listed
    ((issued_node_iff skeleton node).mpr (wired.issued_of_isNodeAlive alive)) 999996 message
  have ends : (Delivery.transmit (Entrances.within 999998) node message >>= fun outcome =>
      pure (Delivery.reply outcome)) between = some (Delivery.reply outcome, left) := by
    rw [Run.bind_apply, transmits]
    rfl
  obtain ⟨after, finished, recordedOn⟩ := alike.finishes ends
  refine ⟨Delivery.reply outcome, after, ?_, comes.accounted recorded recordedOn agreed.listed
    (poised_of_reachable amongPassive)⟩
  unfold Store.call
  rw [depthLimit_eq]
  exact finished

/-! ### A network of three nodes, and one of a single node -/

/-- Three nodes, two of them connected to one cluster. The second one has a stage and a
demultiplexer. -/
def trio : Store :=
  (run? {} [.addStage "log" .recording, .addNode "a" "a" (.filled 1) "net" [],
    .addNode "b" "b" (.filled 2) "net" [⟨0⟩], .addNode "c" "c" (.filled 3) "net" [],
    .ensureDemultiplexer ⟨1⟩ true {}, .call (.connect ⟨0⟩ "k"),
    .call (.connect ⟨1⟩ "k")]).getD {}

theorem reachable_trio :
    Reachable (Action.Makes Conduct.Transparent Manner.Passive) trio := by
  refine reachable_made fun action member => ?_
  simp only [List.mem_cons, List.not_mem_nil, or_false] at member
  rcases member with rfl | rfl | rfl | rfl | rfl | rfl | rfl <;>
    first | exact Conduct.recording_transparent | trivial

/-- The first node counts a message of its own as sent and as received, the second one as
received, and the third one, which is not connected, counts nothing. A message of the third
one is refused, and nothing becomes of it. -/
theorem sendNode_accounted_trio :
    (∃ after, trio.call (.sendNode ⟨0⟩ greeting) = some (.ok (), after) ∧
      trio.Accounted after ⟨0⟩ greeting (.ok ()) ∧
      ([⟨0⟩, ⟨1⟩, ⟨2⟩].map fun node => (after.nodes.get node).counters) =
        [{ messagesSent := 1, octetsSent := 2, messagesReceived := 1, octetsReceived := 2 },
          { messagesReceived := 1, octetsReceived := 2 }, {}]) ∧
    ∃ refusal after, trio.call (.sendNode ⟨2⟩ greeting) = some (.error refusal, after) ∧
      after.unrecorded = trio.unrecorded := by
  constructor
  · obtain ⟨reply, after, finished, accounted⟩ :=
      sendNode_accounted reachable_trio (by decide +kernel : trio.isNodeAlive ⟨0⟩ = true) greeting
    have goesWell : ((trio.call (.sendNode ⟨0⟩ greeting)).map fun result => result.1.isOk) =
        some true := by decide +kernel
    rw [finished] at goesWell
    cases reply with
    | error refusal => cases goesWell
    | ok =>
        refine ⟨after, finished, accounted, ?_⟩
        simp only [accounted.counted rfl]
        decide +kernel
  · obtain ⟨reply, after, finished, accounted⟩ :=
      sendNode_accounted reachable_trio (by decide +kernel : trio.isNodeAlive ⟨2⟩ = true) greeting
    have goesBadly : ((trio.call (.sendNode ⟨2⟩ greeting)).map fun result => result.1.isOk) =
        some false := by decide +kernel
    rw [finished] at goesBadly
    cases reply with
    | ok => cases goesBadly
    | error refusal =>
        refine ⟨refusal, after, finished, ?_⟩
        rcases accounted.refused refusal rfl with nothing | ⟨foreign, _⟩
        · exact nothing
        · exact absurd (fun data member => nomatch member) foreign

/-- A single node, connected to a cluster. -/
def hermit : Store :=
  (run? {} [.addAgent .recording, .addNode "a" "a" (.filled 1) "net" [],
    .setReceiver ⟨0⟩ ⟨0⟩, .call (.connect ⟨0⟩ "c")]).getD {}

/-- A message whose foreign header takes the place of the routing header. -/
def riddle : Message where
  payload := [120]
  headers := .ofList [.foreign RoutingHeader.id (Octets.ofString "not a header")]

/-- The sending of a message that cannot be read fails after the message has been counted. -/
theorem sendNode_refused_counted :
    Reachable (Action.Makes Conduct.Transparent Manner.Passive) hermit ∧
      hermit.isNodeAlive ⟨0⟩ = true ∧
      ∃ refusal after, hermit.call (.sendNode ⟨0⟩ riddle) = some (.error refusal, after) ∧
        (hermit.nodes.get ⟨0⟩).counters = {} ∧
        (after.nodes.get ⟨0⟩).counters = { messagesSent := 1, octetsSent := 1 } := by
  refine ⟨?_, by decide +kernel, ?_⟩
  · refine reachable_made fun action member => ?_
    simp only [List.mem_cons, List.not_mem_nil, or_false] at member
    rcases member with rfl | rfl | rfl | rfl <;>
      first | exact Manner.recording_quiet.contained.passive | trivial
  · have counted : ((hermit.call (.sendNode ⟨0⟩ riddle)).map fun result =>
        (result.1.isOk, (result.2.nodes.get ⟨0⟩).counters)) =
          some (false, { messagesSent := 1, octetsSent := 1 }) := by decide +kernel
    obtain ⟨⟨reply, after⟩, finished, same⟩ := Option.map_eq_some_iff.mp counted
    obtain ⟨fails, counters⟩ := Prod.mk.inj same
    cases reply with
    | ok => cases fails
    | error refusal => exact ⟨refusal, after, finished, by decide +kernel, counters⟩

end Store

end ChannelMux
