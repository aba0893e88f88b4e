import ChannelMux.Proofs.Delivery.Completion
import ChannelMux.Proofs.Delivery.Counting
import ChannelMux.Proofs.Network.Reentrancy
import ChannelMux.Proofs.Network.Tagging

/-!
Contract: what a fork answers when it sends.

Owns that behind stages that pass messages on a message of a fork always comes to its node: the
fork says that it is not connected, or its node sends the message and the fork answers as the node
does, which may be in another status by then or unable to write the message. Owns that a fork
that is told in time says that it is not connected if and only if its node is not, and that it
fails otherwise for messages alone that cannot be written.

A fork that is told too late hands its message to a node that is not connected any more, and
answers what the node says to that. Does not own what becomes of the copies of a message.
-/

namespace ChannelMux.Store

/-- What can be written can be read back by those whom it is for, so that the sender is told of
no refusal. -/
theorem transmit_ok
    {store after : Store}
    {inner : Entrances}
    {node : Ref .node}
    {message : Message}
    {written : Octets}
    {outcome : Outcome}
    (connected : (store.nodes.get node).status = .connected)
    (writes : Encoding.writeMessage (store.stamped node message) = .ok written)
    (noForeign : Encoding.HasNoForeignRouting message)
    (finished : Delivery.transmit inner node message store = some (outcome, after)) :
    outcome = .ok () := by
  have reads := (Encoding.messageOfOctets_writeMessage_iff writes).mpr noForeign
  rw [transmit_written connected writes] at finished
  unfold Delivery.deliverCopies at finished
  cases targets : store.targetsOf node message with
  | nil =>
      rw [targets] at finished
      cases finished
      rfl
  | cons first others =>
      rw [targets] at finished
      dsimp only at finished
      rw [reads] at finished
      obtain ⟨_, _, _, onward⟩ := Rule.bind_eq_some finished
      cases onward
      rfl

/-- Every stage on the way of what a fork sends passes messages on, edited in one of these ways,
and none of these ways touches routing headers. -/
structure PassOn (store : Store) (fork : Ref .fork)
    (edits : Ref .stage → Message → Message → Prop) : Prop where
  stages : ∀ stage ∈ store.ownStages (store.forks.get fork).stack ++
      store.stagesBelow (store.forks.get fork).node,
    ∀ conduct, (store.stages.get stage).role = .custom conduct → conduct.PassesOn (edits stage)
  unrouted : ∀ stage given edited, edits stage given edited →
    edited.headers.get? RoutingHeader.id = given.headers.get? RoutingHeader.id

/-- What a fork answers that was told last that its node is connected, where its message comes
to be sent as another one. -/
structure Answers (store : Store) (fork : Ref .fork) (message sent : Message) : Prop where
  /-- If the node is not connected any more then that is what the fork answers. -/
  late : (store.nodeOf fork).status ≠ .connected →
    ∃ after, after.unrecorded = store.unrecorded ∧ store.call (.sendFork fork message) =
      some (.error (.delivery (.transport (.inStatus (store.nodeOf fork).name
        (store.nodeOf fork).status))), after)
  /-- If what is sent cannot be written then that is what the fork answers. -/
  unwritten : (store.nodeOf fork).status = .connected → ∀ error,
    Encoding.writeMessage (store.stamped (store.forks.get fork).node sent) = .error error →
      ∃ after, after.unrecorded = store.unrecorded ∧ store.call (.sendFork fork message) =
        some (.error (.delivery (.transport (.encoding error))), after)
  /-- Otherwise it succeeds, whatever becomes of the copies. -/
  written : (store.nodeOf fork).status = .connected → ∀ written,
    Encoding.writeMessage (store.stamped (store.forks.get fork).node sent) = .ok written →
      ∀ reply after, store.call (.sendFork fork message) = some (reply, after) → reply = .ok ()
  /-- It does answer if nobody who hears of the message gives commands. -/
  finishes : store.Passive →
    ∃ reply after, store.call (.sendFork fork message) = some (reply, after)

/-- A fork fails to send because its node is not connected, or because it cannot be written what
the message comes to be sent as, and for no other cause. -/
structure FailsForCause (store : Store) (fork : Ref .fork)
    (edits : Ref .stage → Message → Message → Prop) (message : Message) : Prop where
  notConnected : (∃ status after, store.call (.sendFork fork message) =
      some (.error (.notConnected status), after)) ↔ (store.nodeOf fork).status ≠ .connected
  causes : ∀ refusal after, store.call (.sendFork fork message) = some (.error refusal, after) →
    (refusal = .notConnected (store.nodeOf fork).status ∧ after = store) ∨
      ∃ inside outside sent error, store.Tags fork edits message inside outside sent ∧
        Encoding.writeMessage (store.stamped (store.forks.get fork).node sent) = .error error ∧
          refusal = .delivery (.transport (.encoding error))

section Sending

variable {store : Store} {fork : Ref .fork} {edits : Ref .stage → Message → Message → Prop}
  {message : Message}

/-! ### Behind stages that pass messages on -/

section Passing

variable {inside outside : List (Ref .stage × Message)} {sent : Message}
  (wired : store.Wired)
  (alive : store.isForkAlive fork = true)
  (passOn : store.PassOn fork edits)
  (tags : store.Tags fork edits message inside outside sent)

include wired alive passOn tags

/-- What a fork answers is what comes of the sending of its message by the node. Stages record
things before and after that at most. -/
theorem Tags.call_eq :
    ∃ between, between.unrecorded = store.unrecorded ∧
      ∃ left : Outcome × Store → Store,
        (∀ result, (left result).unrecorded = result.2.unrecorded) ∧
        store.call (.sendFork fork message) =
          (Delivery.transmit (Entrances.within 999997) (store.forks.get fork).node sent
            between).map fun result => (Delivery.reply result.1, left result) := by
  obtain ⟨_, _, middle, between, back, onward, descent, descentOn, runs⟩ := tags.runs
  have issued := (wired.forks fork (Table.issued_of_isNamed alive)).node
  have insidePass : ∀ stage ∈ inside.map Prod.fst, ∃ conduct,
      (store.stages.get stage).role = .custom conduct ∧ conduct.PassesOn (edits stage) := by
    intro stage member
    rw [tags.throughGroup, List.mem_reverse] at member
    obtain ⟨conduct, role⟩ := isCustom_of_mem_ownStages member
    exact ⟨conduct, role, passOn.stages stage (List.mem_append_left _ member) conduct role⟩
  have outsidePass : ∀ stage ∈ outside.map Prod.fst, ∃ conduct,
      (middle.stages.get stage).role = .custom conduct ∧ conduct.PassesOn (edits stage) := by
    intro stage member
    rw [tags.throughNode, List.mem_reverse] at member
    obtain ⟨conduct, role⟩ := isCustom_of_mem_stagesBelow wired issued member
    rw [role_eq_of_unrecorded descent.recorded]
    exact ⟨conduct, role, passOn.stages stage (List.mem_append_right _ member) conduct role⟩
  have relayed (result : Outcome × Store) : (back (onward result)).1 = result.1 :=
    (descent.fst_back insidePass _).trans (descentOn.fst_back outsidePass _)
  refine ⟨between, descentOn.recorded.trans descent.recorded,
    fun result => (back (onward result)).2,
    fun result => (descent.recordsBack _).trans (descentOn.recordsBack _), ?_⟩
  simp only [relayed] at runs
  exact runs 999997

/-- Where everything is wired, what is handed down by a fork comes to its node. -/
theorem Tags.answers (sole : store.SoleHubs) : store.Answers fork message sent := by
  obtain ⟨between, recorded, left, recordsBack, called⟩ := tags.call_eq wired alive passOn
  have sameNode : store.nodeOf fork = between.nodes.get (store.forks.get fork).node := by
    rw [nodeOf, nodes_eq_of_unrecorded recorded]
  have sameStamp : store.stamped (store.forks.get fork).node sent =
      between.stamped (store.forks.get fork).node sent := by
    unfold stamped
    rw [nodes_eq_of_unrecorded recorded]
  -- A refusal of the node is given before anything is sent.
  have refused {refusal : Refusal}
      (transmits : Delivery.transmit (Entrances.within 999997) (store.forks.get fork).node sent
        between = some (.error refusal, between)) :
      ∃ after, after.unrecorded = store.unrecorded ∧ store.call (.sendFork fork message) =
        some (.error (.delivery refusal), after) := by
    rw [called, transmits]
    exact ⟨_, (recordsBack _).trans recorded, rfl⟩
  refine ⟨fun notConnected => ?_, fun connected error fails => ?_,
    fun connected written writes reply after finished => ?_, fun passive => ?_⟩
  · rw [sameNode] at notConnected ⊢
    exact refused (transmit_not_connected notConnected)
  · rw [sameNode] at connected
    rw [sameStamp] at fails
    exact refused (transmit_unwritten connected fails)
  · rw [sameNode] at connected
    rw [sameStamp] at writes
    rw [called] at finished
    obtain ⟨⟨outcome, _⟩, transmits, isReply⟩ := Option.map_eq_some_iff.mp finished
    cases isReply
    rw [transmit_ok connected writes (Encoding.hasNoForeignRouting_of_routed tags.header)
      transmits]
    rfl
  · have can : store.canCall (.sendFork fork message) = true := alive
    obtain ⟨reply, after, finished, _⟩ :=
      Sturdy.completes_call passive wired sole can rfl 999995 store rfl
    exact ⟨reply, after, finished⟩

end Passing

/-- A fork that has the status of its node fails for no other cause. -/
theorem failsForCause
    (mirrors : (store.forks.get fork).status = (store.nodeOf fork).status)
    (answers : (store.forks.get fork).status = .connected → ∃ inside outside sent,
      store.Tags fork edits message inside outside sent ∧ store.Answers fork message sent) :
    store.FailsForCause fork edits message := by
  by_cases connected : (store.forks.get fork).status = .connected
  · obtain ⟨inside, outside, sent, tags, answers⟩ := answers connected
    have nodeConnected := mirrors.symm.trans connected
    -- What it answers is known from whether the message can be written.
    have causes (refusal : ForkRefusal) (after : Store)
        (fails : store.call (.sendFork fork message) = some (.error refusal, after)) :
        ∃ error, Encoding.writeMessage (store.stamped (store.forks.get fork).node sent) =
          .error error ∧ refusal = .delivery (.transport (.encoding error)) := by
      cases writes : Encoding.writeMessage (store.stamped (store.forks.get fork).node sent) with
      | error error =>
          obtain ⟨_, _, answered⟩ := answers.unwritten nodeConnected error writes
          rw [fails] at answered
          cases answered
          exact ⟨error, rfl, rfl⟩
      | ok written =>
          have succeeds := answers.written nodeConnected written writes _ _ fails
          cases succeeds
    refine ⟨⟨?_, fun notConnected => absurd nodeConnected notConnected⟩,
      fun refusal after fails => ?_⟩
    · rintro ⟨status, after, fails⟩
      obtain ⟨_, _, impossible⟩ := causes _ after fails
      cases impossible
    · obtain ⟨error, writes, cause⟩ := causes refusal after fails
      exact Or.inr ⟨inside, outside, sent, error, tags, writes, cause⟩
  · have answered : store.call (.sendFork fork message) = _ :=
      call_sendFork_of_not_connected connected
    rw [mirrors] at connected answered
    refine ⟨⟨fun _ => connected, fun _ => ⟨_, _, answered⟩⟩, fun refusal after fails => ?_⟩
    rw [fails] at answered
    cases answered
    exact Or.inl ⟨rfl, rfl⟩

end Sending

/-- Behind stages that pass messages on, however the network has come about, a fork that was not
told last that its node is connected says so, and the message of one that was told so comes to be
tagged and to its node, and the fork answers as the node does. Where nobody gives commands while
being told of things, or where the fork is always told in time, it says that it is not connected
if and only if its node is not, and it fails for no other cause but that its tagged message
cannot be written. -/
theorem sendFork_answers
    {permits : Action → Prop}
    {store : Store}
    {fork : Ref .fork}
    {edits : Ref .stage → Message → Message → Prop}
    (reachable : Reachable permits store)
    (alive : store.isForkAlive fork = true)
    (passOn : store.PassOn fork edits)
    (message : Message) :
    ((store.forks.get fork).status ≠ .connected → store.call (.sendFork fork message) =
      some (.error (.notConnected (store.forks.get fork).status), store)) ∧
    ((store.forks.get fork).status = .connected → ∃ inside outside sent,
      store.Tags fork edits message inside outside sent ∧ store.Answers fork message sent) ∧
    (Reachable Action.MakesPassive store ∨
      ReachedInTime { node := (store.forks.get fork).node, listener := .fork fork }
        (fun _ => True) {} store → store.FailsForCause fork edits message) := by
  have wired := wired_of_reachable reachable
  have answers (connected : (store.forks.get fork).status = .connected) :
      ∃ inside outside sent, store.Tags fork edits message inside outside sent ∧
        store.Answers fork message sent := by
    have handOn := fun stage onWay conduct role =>
      (passOn.stages stage onWay conduct role).handsOn
    obtain ⟨inside, outside, sent, tags⟩ := wired.exists_tags (candid_of_reachable reachable)
      alive connected handOn passOn.unrouted message
    exact ⟨inside, outside, sent, tags,
      tags.answers wired alive passOn (soleHubs_of_reachable reachable)⟩
  refine ⟨call_sendFork_of_not_connected, answers, fun inStep => failsForCause ?_ answers⟩
  rcases inStep with passive | reached
  · exact (composed_of_reachable passive).agreed.mirrors fork alive
  · exact Option.some.inj (upToDate_of_reachedInTime reached alive rfl)

/-! ### A fork behind stages that record what passes -/

/-- A node with a stage below its demultiplexer, and a fork whose group has a stage. Both of them
record what passes them. The node is connected. -/
def lodging : List Action :=
  [.addStage "inner" .recording, .addStage "outer" .recording,
    .addNode "a" "a" (.filled 1) "net" [⟨1⟩],
    .buildFork { node? := some ⟨0⟩, group? := some "g", member? := some "m", stages := [⟨0⟩] } "f",
    .call (.connect ⟨0⟩ "c")]

def lodged : Store := (run? {} lodging).getD {}

theorem reachable_lodged :
    Reachable (Action.Makes Conduct.Transparent Manner.Passive) lodged := by
  refine reachable_made fun action member => ?_
  simp only [lodging, List.mem_cons, List.not_mem_nil, or_false] at member
  rcases member with rfl | rfl | rfl | rfl | rfl <;>
    first | exact Conduct.recording_transparent | trivial

theorem passOn_lodged : lodged.PassOn ⟨0⟩ fun _ given edited => edited = given where
  stages stage _ conduct role :=
    ((peopled_of_reachable reachable_lodged (passive_empty ⟨0⟩)).stages stage conduct role).passesOn
  unrouted _ _ _ same := by rw [same]

/-- A message with a foreign header in the place of the routing header is sent with the tag. -/
theorem sendFork_answers_lodged :
    lodged.FailsForCause ⟨0⟩ (fun _ given edited => edited = given) parcel ∧
      ∃ after, lodged.call (.sendFork ⟨0⟩ parcel) = some (.ok (), after) := by
  have passive : lodged.Passive :=
    (peopled_of_reachable reachable_lodged (passive_empty ⟨0⟩)).agents
  obtain ⟨_, answers, inStep⟩ :=
    sendFork_answers reachable_lodged (by decide +kernel) passOn_lodged parcel
  have inTime : ReachedInTime { node := (lodged.forks.get ⟨0⟩).node, listener := .fork ⟨0⟩ }
      (fun _ => True) {} lodged := by
    have node : (lodged.forks.get ⟨0⟩).node = ⟨0⟩ := by decide +kernel
    rw [node]
    exact reachedInTime_made (by decide +kernel)
  refine ⟨inStep (Or.inr inTime), ?_⟩
  obtain ⟨_, _, sent, tags, answers⟩ := answers (by decide +kernel)
  obtain ⟨reply, after, finished⟩ := answers.finishes passive
  have tagged := tags.unedited fun _ _ _ same => same
  have writes : (Encoding.writeMessage (lodged.stamped (lodged.forks.get ⟨0⟩).node
      ((lodged.forks.get ⟨0⟩).tag parcel))).toOption.isSome = true := by
    decide +kernel
  rw [← tagged] at writes
  cases written : Encoding.writeMessage
      (lodged.stamped (lodged.forks.get ⟨0⟩).node sent) with
  | error error =>
      rw [written] at writes
      cases writes
  | ok octets =>
      rw [answers.written (by decide +kernel) octets written reply after finished] at finished
      exact ⟨after, finished⟩

/-- If a listener that is told first disconnects the node as soon as it is connected, a fork over
it goes on to take the node to be connected. It has no stage on its way, and yet fails to send
with what its node says to that. -/
theorem sendFork_reaches_disconnected :
    ∃ after, Reachable (fun _ => True) (jilted false) ∧
      (jilted false).act? (.call (.connect ⟨0⟩ "k")) = some after ∧
      after.isForkAlive ⟨0⟩ = true ∧
      after.ownStages (after.forks.get ⟨0⟩).stack = [] ∧
      after.stagesBelow (after.forks.get ⟨0⟩).node = [] ∧
      (after.nodeOf ⟨0⟩).status = .opened ∧
      (after.call (.sendFork ⟨0⟩ greeting)).map Prod.fst =
        some (.error (.delivery (.transport (.inStatus "a" .opened)))) := by
  obtain ⟨after, acted⟩ := Option.isSome_iff_exists.mp
    (by decide +kernel : ((jilted false).act? (.call (.connect ⟨0⟩ "k"))).isSome = true)
  have isAfter : after = ((jilted false).act? (.call (.connect ⟨0⟩ "k"))).getD {} := by
    rw [acted]
    rfl
  refine ⟨after, reachable_jilted false, acted, ?_, ?_, ?_, ?_, ?_⟩ <;>
  · rw [isAfter]
    decide +kernel

end ChannelMux.Store
