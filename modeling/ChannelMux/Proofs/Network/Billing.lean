import ChannelMux.Proofs.Delivery.Charging
import ChannelMux.Proofs.Forking.Chronicle
import ChannelMux.Proofs.Network.StatusCourse
import ChannelMux.Proofs.Network.Tagging

/-!
Contract: what calling an operation is charged for, among quiet agents and transparent stages.

Owns that a message which can be written and read back is charged to the node that sends it and,
at every node that it is for, to the node and to its demultiplexer; that so is a message of a
fork, with the tag that it has got by then; and that a node which joins a cluster is charged for
one broadcast at every member.

Does not own who is told of what is sent, which is for `Orderly` stores to say.
-/

namespace ChannelMux

namespace Store

/-- Where a node has one demultiplexer and nothing else but transparent stages, the way up to
the demultiplexer and on from it is clear. -/
theorem Orderly.clearWay
    {store : Store}
    {node : Ref .node}
    {hub : Ref .stage}
    (orderly : store.Orderly)
    (issued : store.nodes.Issued node)
    (oneHub : (store.hubsOf (store.nodes.get node).pipeline).length ≤ 1)
    (found : store.hub? node = some hub) :
    store.ClearWay node hub := by
  refine ⟨?_, orderly.wired.hubWired issued found⟩
  obtain ⟨layer, isHub⟩ := mem_of_hub? found
  obtain ⟨below, above, layers⟩ := List.append_of_mem layer
  refine ⟨below, above, layers, fun stage member => ?_⟩
  -- A demultiplexer among the others would be a second one.
  have noHub : (below ++ above).filter (fun other => (store.demultiplexer? other).isSome) = [] := by
    unfold hubsOf at oneHub
    rw [layers, List.filter_append, List.filter_cons, if_pos isHub] at oneHub
    rw [List.filter_append, ← List.length_eq_zero_iff]
    simp only [List.length_append, List.length_cons] at oneHub ⊢
    omega
  have inPipeline : stage ∈ store.stagesOf (store.nodes.get node).pipeline := by
    rw [layers]
    simp only [List.mem_append, List.mem_cons] at member ⊢
    tauto
  rcases (orderly.wired.nodes node issued).layers stage inPipeline with custom | another
  · obtain ⟨conduct, role⟩ := custom
    exact ⟨conduct, role, orderly.calm.stages stage conduct role⟩
  · exact absurd another (List.filter_eq_nil_iff.mp noHub stage member)

theorem Orderly.passive {store : Store} (orderly : store.Orderly) : store.Passive :=
  fun agent => (orderly.calm.agents agent).contained.passive

/-- What is charged for a message that a node sends, `hubAt` being the demultiplexers of the
nodes. -/
def postage (store : Store) (hubAt : Ref .node → Ref .stage) (node : Ref .node)
    (message : Message) : List Charge :=
  .sent node message.payload.length ::
    (store.targetsOf node message).flatMap fun target =>
      [.received target message.payload.length,
        .marked (hubAt target) (store.markOf (hubAt target) message)]

/-- A message with a routing header names a group in it. -/
def NamesGroup (message : Message) : Prop :=
  message.routing?.isSome = true → message.group?.isSome = true

/-- A message that a node can send to everybody: it is written and read back as it is, and goes
to nodes with a way clear for it. -/
structure Sendable (store : Store) (hubAt : Ref .node → Ref .stage) (node : Ref .node)
    (message : Message) : Prop where
  connected : (store.nodes.get node).status = .connected
  writable : Encoding.Writable (store.stamped node message)
  noForeign : Encoding.HasNoForeignRouting message
  named : NamesGroup message
  clear : ∀ target ∈ store.targetsOf node message, store.ClearWay target (hubAt target)

end Store

namespace Charges

variable {base before : Store} {hubAt : Ref .node → Ref .stage} {node : Ref .node}
  {message : Message}

/-! ### Sending -/

theorem deliverCopies
    {written : Octets}
    {targets : List (Ref .node)}
    (passive : base.Passive)
    (clear : ∀ target ∈ targets, base.ClearWay target (hubAt target))
    (named : Store.NamesGroup message)
    (reads : Encoding.messageOfOctets written = .ok message)
    (known : before.skeleton = base.skeleton)
    (depth : Nat) :
    ∃ after, Delivery.deliverCopies (Entrances.within (depth + 2)) written targets before =
        some (.ok (), after) ∧
      Store.Charged (targets.flatMap fun target => [.received target message.payload.length,
        .marked (hubAt target) (base.markOf (hubAt target) message)]) before after := by
  cases targets with
  | nil => exact ⟨before, rfl, .refl before⟩
  | cons first others =>
      have each : ∀ target ∈ first :: others, Charges base
          (Delivery.receive (Entrances.within (depth + 2)) target
            (.single (.message message))).ignore _ :=
        fun target member => (receive (clear target member) passive named).ignore
      obtain ⟨_, after, ran, charged⟩ := forM each before known
      refine ⟨after, ?_, charged⟩
      unfold Delivery.deliverCopies
      rw [reads]
      dsimp only
      rw [Run.bind_apply, ran]
      rfl

/-- A node sends what is sendable, wherever stages have recorded something and things have been
counted before. -/
theorem transmit
    (passive : base.Passive)
    (sendable : base.Sendable hubAt node message)
    (same : before.shape = base.shape)
    (depth : Nat) :
    ∃ after, Delivery.transmit (Entrances.within (depth + 2)) node message before =
        some (.ok (), after) ∧
      Store.Charged (base.postage hubAt node message) before after := by
  obtain ⟨written, writes⟩ := (Encoding.writable_iff_writeMessage _).mpr sendable.writable
  have reads := (Encoding.messageOfOctets_writeMessage_iff writes).mpr sendable.noForeign
  have connected := (Store.nodeStatus_eq same node).trans sendable.connected
  have targets : before.targetsOf node message = base.targetsOf node message :=
    Store.targets_eq same (Store.bare_node_eq same node) message.destination?
  have sent := Store.Charged.sent before node message.payload.length
  rw [← Store.stamped_eq same] at writes
  have named : Store.NamesGroup (base.stamped node message) := sendable.named
  obtain ⟨after, delivers, charged⟩ := deliverCopies passive sendable.clear named reads
    (sent.skeleton.trans (Store.skeleton_eq_of_shape_eq same)) depth
  refine ⟨after, ?_, sent.trans charged⟩
  rw [Store.transmit_written connected writes, targets]
  exact delivers

/-- A new view is a broadcast at every member that it is given to. -/
theorem announce
    {announcement : Announcement}
    (passive : base.Passive)
    (clear : ∀ member ∈ announcement.recipients, base.ClearWay member (hubAt member))
    (depth : Nat) :
    Charges base (Delivery.announce (Entrances.within (depth + 2)) (some announcement))
      (announcement.recipients.map fun member => .broadcast (hubAt member)) := by
  rw [List.map_eq_flatMap]
  refine forM fun member isMember => ?_
  have given (store : Store) : Store.Charged [] store (store.modifyNode member fun record =>
      { record with view? := some announcement.view }) := by
    apply Store.Charged.nothing
    · apply Store.skeleton_modifyNode
      exact fun _ => rfl
    · exact fun _ => rfl
    · intro other
      apply Table.read_modify Node.counters
      exact fun _ => rfl
  refine (modify given).bind fun _ => get fun store known => ?_
  dsimp only
  rw [Store.nodePipeline_eq known]
  exact (climb_view (clear member isMember) passive announcement.view).ignore

end Charges

namespace Store

variable {store : Store} {hubAt : Ref .node → Ref .stage} {node : Ref .node}

theorem call_sendNode_charged
    {message : Message}
    (orderly : store.Orderly)
    (alive : store.isNodeAlive node = true)
    (sendable : store.Sendable hubAt node message) :
    ∃ after, store.call (.sendNode node message) = some (.ok (), after) ∧
      Charged (store.postage hubAt node message) store after := by
  obtain ⟨between, recorded, alike⟩ := Forwards.sendNode orderly.wired alive
    orderly.calm.stages 999998 message store rfl
  obtain ⟨left, transmits, charged⟩ := Charges.transmit orderly.passive sendable
    (shape_eq_of_unrecorded recorded) 999996
  have sends : (Delivery.transmit (Entrances.within 999998) node message >>= fun outcome =>
      pure (Delivery.reply outcome)) between = some (.ok (), left) := by
    rw [Run.bind_apply, transmits]
    rfl
  obtain ⟨after, finished, closed⟩ := alike.finishes sends
  refine ⟨after, finished, ?_⟩
  have whole := ((Charged.of_countsNothing (.of_unrecorded recorded)).trans charged).trans
    (.of_countsNothing (.of_unrecorded closed))
  rwa [List.nil_append, List.append_nil] at whole

/-- A message of a fork is charged for as one of its node that has the fork's tag. -/
theorem call_sendFork_charged
    {fork : Ref .fork}
    {message : Message}
    (orderly : store.Orderly)
    (candid : store.Candid)
    (alive : store.isForkAlive fork = true)
    (sendable : store.Sendable hubAt (store.forks.get fork).node
      ((store.forks.get fork).tag message)) :
    ∃ after, store.call (.sendFork fork message) = some (.ok (), after) ∧
      Charged (store.postage hubAt (store.forks.get fork).node
        ((store.forks.get fork).tag message)) store after := by
  have connected := (orderly.agreed.mirrors fork alive).trans sendable.connected
  let edits : Ref .stage → Message → Message → Prop := fun _ given edited => edited = given
  have unrouted : ∀ stage given edited, edits stage given edited →
      edited.headers.get? RoutingHeader.id = given.headers.get? RoutingHeader.id := by
    rintro stage given edited rfl
    rfl
  obtain ⟨inside, outside, sent, tags⟩ := orderly.wired.exists_tags candid alive connected
    (fun stage _ conduct role => (orderly.calm.stages stage conduct role).handsOn) unrouted
    message
  have isTagged := tags.unedited fun _ _ _ same => same
  obtain ⟨entering, leaving, middle, between, back, onward, descent, descentOn, runs⟩ := tags.runs
  have recorded := descentOn.recorded.trans descent.recorded
  rw [isTagged] at runs
  obtain ⟨left, transmits, charged⟩ := Charges.transmit orderly.passive sendable
    (shape_eq_of_unrecorded recorded) 999995
  have finished := runs 999997
  rw [transmits, Option.map_some] at finished
  have closed : (back (onward (.ok (), left))).2.unrecorded = left.unrecorded :=
    (descent.recordsBack _).trans (descentOn.recordsBack _)
  -- What the stages made of the outcome is known from whom the copies have reached.
  have isOk : Delivery.reply (back (onward (.ok (), left))).1 = .ok () := by
    obtain ⟨written, writes⟩ := (Encoding.writable_iff_writeMessage _).mpr sendable.writable
    obtain ⟨reply, after, called, _, well⟩ := call_sendFork orderly alive message
    have same := finished.symm.trans called
    cases same
    apply well
    rw [copy?_of_written sendable.connected writes sendable.noForeign]
    rfl
  rw [isOk] at finished
  refine ⟨_, finished, ?_⟩
  have whole := ((Charged.of_countsNothing (.of_unrecorded recorded)).trans charged).trans
    (.of_countsNothing (.of_unrecorded closed))
  rwa [List.nil_append, List.append_nil] at whole

/-- A node that joins a cluster makes every member tell its groups of the new view. -/
theorem call_connect_charged
    {name : String}
    (orderly : store.Orderly)
    (sole : store.SoleHubs)
    (opened : (store.nodes.get node).status = .opened)
    (clear : ∀ member ∈ Delivery.liveMembers store (store.clusterWith node name),
      store.ClearWay member (hubAt member)) :
    ∃ after, store.call (.connect node name) = some (.ok (), after) ∧
      Charged ((Delivery.liveMembers store (store.clusterWith node name)).map fun member =>
        .broadcast (hubAt member)) store after := by
  have passive := orderly.passive
  obtain ⟨reply, after, finished, _⟩ :=
    Sturdy.completes_move passive orderly.wired sole
      (rfl : (Operation.connect node name).sends = false) 999997 store rfl
  rw [reply_connect_of_opened opened finished] at finished
  refine ⟨after, finished, ?_⟩
  obtain ⟨outcome, joined, connects, isReply⟩ := Rule.bind_eq_some finished
  obtain rfl : joined = after := congrArg Prod.snd (Option.some.inj isReply)
  rw [Delivery.connect_eq opened] at connects
  obtain ⟨_, given, announces, onward⟩ := Rule.bind_eq_some connects
  obtain ⟨_, told, tells, isOutcome⟩ := Rule.bind_eq_some onward
  obtain rfl : told = joined := congrArg Prod.snd (Option.some.inj isOutcome)
  have entered : Charged [] store (store.enter node name) := by
    refine .nothing (skeleton_enter store node name) (fun _ => rfl) fun other => ?_
    apply Table.read_modify Node.counters
    exact fun _ => rfl
  let announcement : Announcement :=
    { network := (store.nodes.get node).network, cluster := name
      view := (Delivery.nextView (store.clusterWith node name)).1
      recipients := Delivery.liveMembers store (store.clusterWith node name) }
  have isAnnounced : store.announcement? (.connect node name) = some announcement := by
    have someone : (store.clusterWith node name).members.isEmpty = false := by
      unfold clusterWith
      simp
    unfold announcement?
    dsimp only
    rw [if_pos opened]
    unfold announce?
    rw [someone]
    rfl
  have bills : Charges store
      (Delivery.announce (Entrances.within 999999) (some announcement)) _ :=
    Charges.announce passive clear 999997
  obtain ⟨_, left, announcesToo, charged⟩ :=
    bills (store.enter node name) (skeleton_enter store node name)
  rw [isAnnounced, announcesToo] at announces
  cases announces
  have notified := Notified.tellListeners passive
    (charged.skeleton.trans (skeleton_enter store node name)) tells
  have uncharged : Charged [] given told := by
    refine .nothing notified.skeleton (fun stage => ?_) fun other => ?_
    · rw [notified.stages]
    · rw [notified.nodes]
  have whole := (entered.trans charged).trans uncharged
  rwa [List.nil_append, List.append_nil] at whole

end Store

end ChannelMux
