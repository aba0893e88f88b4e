import ChannelMux.Proofs.Delivery.Replacing
import ChannelMux.Proofs.Interleaving
import ChannelMux.Proofs.Network.Makings

/-!
Contract: a receiver is insulated from what others make of their copies.

Owns that a node or fork that sends is told the same, and that a node is given the same copies in
the same order and comes to the same with each of them, whatever the stages of other nodes do on
the way up and whatever the agents there take in. Owns that every sending comes to an end if
nobody gives commands.
-/

namespace ChannelMux

/-! ### What arrives at a node in two runs -/

/-- Nothing arrives at a node, and those who receive what comes up there hear nothing. -/
structure Store.RestsAt (own : Region) (member : Ref .node) (before after : Store) : Prop where
  agents : ∀ agent ∈ own.agents, after.agents.get agent = before.agents.get agent
  node : (after.nodes.get member).unsent = (before.nodes.get member).unsent

/-- In two runs nothing arrives at a node. -/
def RestAbreast (own : Region) (member : Ref .node) (before after : Store × Store) : Prop :=
  Store.RestsAt own member before.1 after.1 ∧ Store.RestsAt own member before.2 after.2

/-- In two runs the same copy arrives at a node with the same outcome. Before and after that what
belongs to the node is the same in both. -/
structure ArrivesAbreast (own : Region) (member : Ref .node) (copy : Message)
    (before after : Store × Store) : Prop where
  alike : own.SameIn before.1 before.2
  arrives : ∃ depth outcome,
    Delivery.receive (Entrances.within depth) member (.single (.message copy)) before.1 =
        some (outcome, after.1) ∧
      Delivery.receive (Entrances.within (depth + 2)) member (.single (.message copy)) before.2 =
        some (outcome, after.2)
  alikeAfter : own.SameIn after.1 after.2

theorem RestAbreast.refl {own : Region} {member : Ref .node} (stores : Store × Store) :
    RestAbreast own member stores stores :=
  ⟨⟨fun _ _ => rfl, rfl⟩, ⟨fun _ _ => rfl, rfl⟩⟩

theorem RestAbreast.trans
    {own : Region}
    {member : Ref .node}
    (first second third : Store × Store)
    (earlier : RestAbreast own member first second)
    (later : RestAbreast own member second third) :
    RestAbreast own member first third :=
  ⟨⟨fun agent inside => (later.1.agents agent inside).trans (earlier.1.agents agent inside),
      later.1.node.trans earlier.1.node⟩,
    ⟨fun agent inside => (later.2.agents agent inside).trans (earlier.2.agents agent inside),
      later.2.node.trans earlier.2.node⟩⟩

/-- In stores of one skeleton nothing arrives at a node. -/
def restingRule (base : Store) (own : Region) (member : Ref .node) : Rule where
  holds store := store.skeleton = base.skeleton
  relates before after := after.skeleton = before.skeleton ∧ Store.RestsAt own member before after
  refl _ := ⟨rfl, fun _ _ => rfl, rfl⟩
  trans first second := ⟨second.1.trans first.1,
    fun agent inside => (second.2.agents agent inside).trans (first.2.agents agent inside),
    second.2.node.trans first.2.node⟩
  keeps known related := related.1.trans known

namespace Resting

variable {base : Store} {own : Region} {member : Ref .node}

theorem recordStage (stage : Ref .stage) (entry : StageEntry) :
    (restingRule base own member).Governs (Run.recordStage stage entry) :=
  Rule.modify fun store _ =>
    ⟨Store.skeleton_eq_of_shape_eq (Store.shape_recordStage store stage entry), fun _ _ => rfl, rfl⟩

/-- What a node counts as sent is not counted as arriving. -/
theorem counts
    {change : Node → Node}
    (unseen : ∀ record, (change record).unsent = record.unsent)
    (node : Ref .node) :
    (restingRule base own member).Governs
      (MonadState.modifyGet fun store : Store => ((), store.modifyNode node change)) := by
  refine Rule.modify fun store _ => ⟨Store.skeleton_modifyNode (fun record => ?_) store node,
    fun _ _ => rfl, Table.read_modify Node.unsent unseen store.nodes node member⟩
  have same := congrArg Node.still (unseen record)
  exact same

/-- What another node counts is not counted as arriving. -/
theorem receive_other
    {heeds : Ref .stage → StageEntry → Bool}
    {node : Ref .node}
    {depth : Nat}
    {message : Message}
    (different : node ≠ member)
    (stands : ∀ traffic, (bystanding base own heeds).Governs
      ((Entrances.within depth).travel (.up (base.nodes.get node).pipeline traffic))) :
    (restingRule base own member).Governs
      (Delivery.receive (Entrances.within depth) node (.single (.message message))).ignore := by
  rw [Delivery.ignore_receive]
  refine Rule.bind (Rule.modify fun store _ => ⟨?_, fun _ _ => rfl, ?_⟩) fun _ =>
    Rule.look fun store known => Rule.ignore ?_
  · apply Store.skeleton_modifyNode
    intro record
    rfl
  · unfold Store.modifyNode
    rw [Table.get_modify_of_ne different.symm]
  · rw [Store.nodePipeline_eq known]
    intro before outcome after knownBefore finished
    obtain ⟨kept, akin⟩ := stands _ before outcome after knownBefore finished
    exact ⟨kept, fun agent inside => (akin.agents agent inside).content, by rw [akin.nodes]⟩

end Resting

/-! ### Following two runs -/

/-- Runs are judged by whether another one does the same in a store that is akin, and the same
arrives at a node in both. The two runs are followed from where they begin. -/
def following (left right : Store) (member : Ref .node) (heeds : Ref .stage → StageEntry → Bool) :
    Discipline :=
  simulation (fun store => store.skeleton = left.skeleton) fun first second =>
    (second.skeleton = right.skeleton ∧ Store.Akin (left.holdings member) heeds first second) ∧
      ∃ copies, Interleaved (ArrivesAbreast (left.holdings member) member)
        (RestAbreast (left.holdings member) member) copies (left, right) (first, second)

namespace Following

variable {left right : Store} {member : Ref .node} {heeds : Ref .stage → StageEntry → Bool}

/-- What can be tracked can be followed, if nothing arrives meanwhile. -/
theorem of_rest
    {α : Type}
    {run other : Run α}
    (tracked : (tracking left right member heeds).judges run other)
    (rests : (restingRule left (left.holdings member) member).Governs run)
    (restsOther : (restingRule right (left.holdings member) member).Governs other) :
    (following left right member heeds).judges run other := by
  intro first second value firstAfter known agrees finished
  obtain ⟨akin, copies, course⟩ := agrees
  obtain ⟨knownAfter, secondAfter, ran, akinAfter⟩ :=
    tracked first second value firstAfter known akin finished
  have rested := (rests first value firstAfter known finished).2
  have restedOther := (restsOther second value secondAfter akin.1 ran).2
  exact ⟨knownAfter, secondAfter, ran, akinAfter, copies,
    course.rest_right RestAbreast.trans ⟨rested, restedOther⟩⟩

theorem recordStage (stage : Ref .stage) (entry : StageEntry) :
    (following left right member heeds).judges (Run.recordStage stage entry)
      (Run.recordStage stage entry) :=
  of_rest (Tracking.recordStage stage entry) (Resting.recordStage stage entry)
    (Resting.recordStage stage entry)

section Varying

variable (varies : left.VariesAround member heeds right) (wired : left.Wired)
  (sole : left.SoleHubs) (issued : left.nodes.Issued member)

include varies wired sole issued

/-- A copy that arrives at the node itself. -/
theorem receives_own (depth : Nat) (message : Message) :
    (following left right member heeds).judges
      (Delivery.receive (Entrances.within depth) member (.single (.message message))).ignore
      (Delivery.receive (Entrances.within (depth + 2)) member
        (.single (.message message))).ignore := by
  have tracked := (Tracking.upTo varies wired sole issued depth).receivesOwn message
  intro first second value firstAfter known agrees finished
  obtain ⟨akin, copies, course⟩ := agrees
  obtain ⟨outcome, between, ran, rest⟩ := Rule.bind_eq_some finished
  cases rest
  obtain ⟨knownAfter, secondAfter, ranRight, akinAfter⟩ :=
    tracked first second outcome firstAfter known akin ran
  refine ⟨knownAfter, secondAfter, ?_, akinAfter, copies ++ [message],
    course.append RestAbreast.trans
      (.single .refl ⟨akin.2.sameIn, ⟨depth, outcome, ran, ranRight⟩, akinAfter.2.sameIn⟩)⟩
  unfold Run.ignore
  rw [Run.bind_apply, ranRight]
  rfl

theorem receives
    {store : Store}
    (depth : Nat)
    (node : Ref .node)
    (message : Message)
    (known : store.skeleton = left.skeleton)
    (alive : store.isNodeAlive node = true) :
    (following left right member heeds).judges
      (Delivery.receive (Entrances.within depth) node (.single (.message message))).ignore
      (Delivery.receive (Entrances.within (depth + 2)) node
        (.single (.message message))).ignore := by
  by_cases same : node = member
  · subst same
    exact receives_own varies wired sole issued depth message
  · have tracks := Tracking.upTo varies wired sole issued depth
    have isNode : left.nodes.Issued node := by
      rw [Store.isNodeAlive_eq known] at alive
      exact wired.issued_of_isNodeAlive alive
    have closed := Store.closed_holdings wired sole isNode
    have stages := varies.stagesApart node isNode same
    have agents := varies.agentsApart node isNode same
    have stands (traffic : Traffic) := varies.leftStands.governs_travel closed stages agents
      Store.pipeline_mem_holdings depth traffic
    have standsOther (traffic : Traffic) := varies.rightStands.governs_travel
      (varies.akin.closed closed) stages agents Store.pipeline_mem_holdings (depth + 2) traffic
    rw [← varies.akin.nodes] at standsOther
    exact of_rest (tracks.receives varies wired sole node message known alive)
      (Resting.receive_other same stands) (Resting.receive_other same standsOther)

theorem departs (depth : Nat) :
    (following left right member heeds).Departs left
      (fun stage first second => (stage ∈ (left.holdings member).stages → second = first) ∧
        second.filter (heeds stage) = first.filter (heeds stage))
      (Entrances.within depth) (Entrances.within (depth + 2)) where
  tables _ agrees := agrees.1.2.toSameTables
  counts node change unseen := by
    refine of_rest (Tracking.changesNode (fun record => ?_) node) (Resting.counts unseen node)
      (Resting.counts unseen node)
    have same := congrArg Node.still (unseen record)
    exact same
  receives node message known alive :=
    receives varies wired sole issued depth node message known alive
  known known := known
  lowers :=
    { ways := fun allowed known agrees => (Tracking.lowers varies).ways allowed known agrees.1
      entries := fun allowed known agrees =>
        (Tracking.lowers varies).entries allowed known agrees.1
      conducts := fun allowed known custom matters =>
        ((Tracking.lowers varies).conducts allowed known custom matters).mono
          (fun entry _ => recordStage _ entry) (fun _ _ alike => alike) fun _ passed => passed }

/-- What nodes and forks send can be followed. -/
theorem call
    {operation : Operation}
    (can : left.canCall operation = true)
    (sends : operation.sends = true)
    (depth : Nat) :
    (following left right member heeds).judges ((Entrances.within depth).call operation)
      ((Entrances.within (depth + 2)).call operation) := by
  have departs := departs varies wired sole issued
  have descends (depth : Nat) (node : Ref .node) (isNode : left.nodes.Issued node)
      (event : Event) :
      (following left right member heeds).judges
        ((Entrances.within depth).travel (.down (left.nodes.get node).pipeline event))
        ((Entrances.within (depth + 2)).travel
          (.down (left.nodes.get node).pipeline event)) := by
    cases depth with
    | zero => exact Simulates.none _
    | succ depth => exact (departs depth).travel_down (wired.nodes node isNode) event
  have leaves (depth : Nat) (node : Ref .node) (hub : Ref .stage) (group : String)
      (stack : Ref .stack) (isNode : left.nodes.Issued node) (found : left.hub? node = some hub)
      (stackWired : left.StackWired (left.nodes.get node).pipeline hub group stack)
      (event : Event) :
      (following left right member heeds).judges
        ((Entrances.within depth).travel (.down (left.groups.get stack).pipeline event))
        ((Entrances.within (depth + 2)).travel
          (.down (left.groups.get stack).pipeline event)) := by
    have layer := (Store.mem_of_hub? found).1
    cases depth with
    | zero => exact Simulates.none _
    | succ depth =>
        refine (departs depth).travel_down_stack stackWired layer (fun passed => ?_) event
        cases depth with
        | zero => exact Simulates.none _
        | succ depth =>
            exact (departs depth).travel_downFrom (wired.nodes node isNode) layer passed
  cases depth with
  | zero => exact Simulates.none _
  | succ depth => exact (departs depth).call wired can sends (descends depth) (leaves depth)

end Varying

end Following

/-! ### One sending -/

namespace Store

/-- What becomes of a node is the same in two runs: all nodes have counted the same, the same
copies have arrived at the node, in the same order and with the same outcomes, and what belongs to
the node has recorded the same. -/
structure KeepsAbreast (member : Ref .node) (before after : Store × Store) : Prop where
  nodes : after.2.nodes = after.1.nodes
  arrivals : ∃ copies, Interleaved (ArrivesAbreast (before.1.holdings member) member)
    (RestAbreast (before.1.holdings member) member) copies before after
  same : (before.1.holdings member).SameIn after.1 after.2

/-- A receiver and the sender are insulated from what the others make of their copies. If the
stages of the other nodes do something else on the way up and the agents there take in something
else, then a sending comes to an end in both runs or in neither. It comes to the same reply, all
nodes have counted the same, and the receiver has been given the same. The agents of the receiver
may give any commands; if they give none then the sending does come to an end.

What a stage does on the way up includes what it leaves behind for the way down: stages that heed
it there would do something else on the way down as well, and are not meant. -/
theorem send_insulated
    {permits : Action → Prop}
    {left right : Store}
    {member : Ref .node}
    {heeds : Ref .stage → StageEntry → Bool}
    {operation : Operation}
    (reachable : Reachable permits left)
    (issued : left.nodes.Issued member)
    (varies : left.VariesAround member heeds right)
    (can : left.canCall operation = true)
    (sends : operation.sends = true) :
    (∀ depth reply leftAfter,
      (Entrances.within depth).call operation left = some (reply, leftAfter) →
        ∃ rightAfter,
          (Entrances.within (depth + 2)).call operation right = some (reply, rightAfter) ∧
            KeepsAbreast member (left, right) (leftAfter, rightAfter)) ∧
    (∀ depth reply rightAfter,
      (Entrances.within depth).call operation right = some (reply, rightAfter) →
        ∃ leftAfter,
          (Entrances.within (depth + 2)).call operation left = some (reply, leftAfter)) ∧
    ((∀ agent ∈ (left.holdings member).agents, (left.agents.get agent).manner.Passive) →
      ∃ reply leftAfter rightAfter,
        left.call operation = some (reply, leftAfter) ∧
          right.call operation = some (reply, rightAfter) ∧
            KeepsAbreast member (left, right) (leftAfter, rightAfter)) := by
  have wired := wired_of_reachable reachable
  have sole := soleHubs_of_reachable reachable
  have follows (depth : Nat) (reply : Reply) (leftAfter : Store)
      (finished : (Entrances.within depth).call operation left = some (reply, leftAfter)) :
      ∃ rightAfter,
        (Entrances.within (depth + 2)).call operation right = some (reply, rightAfter) ∧
          KeepsAbreast member (left, right) (leftAfter, rightAfter) := by
    obtain ⟨_, rightAfter, ran, akin, arrivals⟩ :=
      Following.call varies wired sole issued can sends depth left right reply leftAfter rfl
        ⟨⟨rfl, varies.akin⟩, [], .rest (.refl (left, right))⟩ finished
    exact ⟨rightAfter, ran, akin.2.nodes, arrivals, akin.2.sameIn⟩
  refine ⟨follows, fun depth reply rightAfter finished => ?_, fun passiveInside => ?_⟩
  · -- The stores may change places, and what belongs to the node is the same in both.
    have issuedRight : right.nodes.Issued member := by
      rw [varies.akin.nodes]
      exact issued
    have canRight : right.canCall operation = true := by
      rw [varies.akin.toSameTables.canCall_eq]
      exact can
    have begins : Interleaved (ArrivesAbreast (right.holdings member) member)
        (RestAbreast (right.holdings member) member) [] (right, left) (right, left) :=
      .rest (.refl (right, left))
    obtain ⟨_, leftAfter, ran, _⟩ :=
      Following.call varies.symm (varies.akin.wired wired) (varies.akin.soleHubs sole) issuedRight
        canRight sends depth right left reply rightAfter rfl ⟨⟨rfl, varies.symm.akin⟩, [], begins⟩
        finished
    exact ⟨leftAfter, ran⟩
  have passive : left.Passive := by
    intro agent
    by_cases inside : agent ∈ (left.holdings member).agents
    · exact passiveInside agent inside
    · exact varies.leftStands.passive agent inside
  obtain ⟨reply, leftAfter, finished, _⟩ :=
    Sturdy.completes_call passive wired sole can sends 999993 left rfl
  obtain ⟨rightAfter, ran, abreast⟩ := follows 999998 reply leftAfter finished
  have deeper : 999998 ≤ depthLimit := by decide
  exact ⟨reply, leftAfter, rightAfter, Entrances.call_within_mono deeper finished, ran, abreast⟩

/-! ### A receiver behind another one that refuses everything -/

/-- Says something to the cluster when it is told of a message for the first time. -/
def answering : Manner :=
  .listening (some { trigger := "message", command := .sendNode "c" { payload := [111, 107] } })

/-- Three nodes. There is a stage on the second one, and on the third one, which has a fork as
well, there is somebody who answers. -/
def seating : List Action :=
  [.addAgent .recording, .addAgent answering, .addAgent .recording,
    .addStage "guard" .recording, .addStage "log" .recording,
    .addNode "a" "a" (.filled 1) "net" [], .addNode "b" "b" (.filled 2) "net" [⟨0⟩],
    .addNode "c" "c" (.filled 3) "net" [⟨1⟩], .setReceiver ⟨1⟩ ⟨0⟩, .setReceiver ⟨2⟩ ⟨1⟩,
    .buildFork
      { node? := some ⟨2⟩
        group? := some "g"
        member? := some "m"
        receiver? := some ⟨2⟩ } "fork"]

def seated : Store := (run? {} seating).getD {}

/-- The nodes join one cluster. -/
def joining : List Operation := [.connect ⟨0⟩ "k", .connect ⟨1⟩ "k", .connect ⟨2⟩ "k"]

def row : Store := (seated.run? (joining.map .call)).getD {}

/-- The stage of the second node refuses whatever comes up, and so does its agent. -/
def barred : Store := (row.replaceUp ⟨0⟩ Conduct.refusingUp.up).replaceManner ⟨0⟩ .closedQueue

theorem row_joined : seated.run? (joining.map .call) = some row := by
  obtain ⟨after, ran⟩ := Option.isSome_iff_exists.mp
    (by decide +kernel : (seated.run? (joining.map .call)).isSome = true)
  unfold row
  rw [ran]
  rfl

theorem reachable_row : Reachable (Action.Makes (· = .recording) fun _ => True) row := by
  have reachable : Reachable (Action.Makes (· = .recording) fun _ => True) seated := by
    refine reachable_made fun action member => ?_
    simp only [seating, List.mem_cons, List.not_mem_nil, or_false] at member
    rcases member with rfl | rfl | rfl | rfl | rfl | rfl | rfl | rfl | rfl | rfl | rfl <;>
      first | rfl | trivial
  refine reachable_of_run? reachable (fun action member => ?_) row_joined
  obtain ⟨operation, _, rfl⟩ := List.mem_map.mp member
  trivial

/-- Nobody but the one who answers gives commands, and no stage heeds anything on the way down. -/
theorem standsBy_row : row.StandsBy (row.holdings ⟨2⟩) fun _ _ => false where
  passive agent outside := by
    by_cases issued : row.agents.Issued agent
    · have isFirst : ∀ other ∈ row.agents.refs, other ∉ (row.holdings ⟨2⟩).agents →
          other = ⟨0⟩ := by decide +kernel
      have isRecording : (seated.agents.get ⟨0⟩).manner = .recording := by with_unfolding_all rfl
      rw [isFirst agent (Table.mem_refs.mpr issued) outside,
        manner_eq (skeleton_eq_of_calls row_joined), isRecording]
      exact Manner.recording_quiet.contained.passive
    · rw [Table.get_of_not_issued issued]
      exact fun _ => trivial
  divided stage conduct _ custom := by
    have recording (traffic : Traffic) : (Conduct.recording.up traffic).Asks fun _ => True :=
      Script.asks_of_all (fun _ => trivial) _
    rw [(peopled_of_reachable reachable_row trivial).stages stage conduct custom]
    exact ⟨fun traffic => (recording traffic).admits fun _ => rfl,
      fun _ => ⟨trivial, trivial, fun _ => trivial⟩⟩

theorem variesAround_barred : row.VariesAround ⟨2⟩ (fun _ _ => false) barred := by
  have same : row.VariesAround ⟨2⟩ (fun _ _ => false) row := by
    refine .refl standsBy_row (fun node issued different => ?_) fun node issued different => ?_
    · have apart : ∀ node ∈ row.nodes.refs, node ≠ ⟨2⟩ →
          ∀ stage ∈ (row.holdings node).stages, stage ∉ (row.holdings ⟨2⟩).stages := by
        decide +kernel
      exact apart node (Table.mem_refs.mpr issued) different
    · have apart : ∀ node ∈ row.nodes.refs, node ≠ ⟨2⟩ →
          ∀ agent ∈ (row.holdings node).agents, agent ∉ (row.holdings ⟨2⟩).agents := by
        decide +kernel
      exact apart node (Table.mem_refs.mpr issued) different
  have refusing : ∀ traffic, (Conduct.refusingUp.up traffic).Asks fun _ => True :=
    fun traffic => Script.asks_of_all (fun _ => trivial) _
  exact (same.replaceUp (by decide +kernel) fun traffic => (refusing traffic).admits fun _ => rfl)
    |>.replaceManner (by decide +kernel) Manner.closedQueue_passive

/-- The third node is given the message, and answers, although in one of the runs all that comes
up at the second node is refused before. -/
theorem send_insulated_row :
    ∃ leftAfter rightAfter,
      (Entrances.within 20).call (.sendNode ⟨0⟩ { payload := [104, 105] }) row =
          some (.ok (), leftAfter) ∧
        (Entrances.within 22).call (.sendNode ⟨0⟩ { payload := [104, 105] }) barred =
          some (.ok (), rightAfter) ∧
        KeepsAbreast ⟨2⟩ (row, barred) (leftAfter, rightAfter) ∧
        (leftAfter.agents.get ⟨1⟩).entries.length = 4 ∧
        (leftAfter.stages.get ⟨0⟩).entries.length = 4 ∧
        (rightAfter.stages.get ⟨0⟩).entries.length = 2 ∧
        (rightAfter.agents.get ⟨1⟩).entries = (leftAfter.agents.get ⟨1⟩).entries := by
  have recorded : ((Entrances.within 20).call (.sendNode ⟨0⟩ { payload := [104, 105] }) row).map
      (fun result => (result.1.isOk, (result.2.agents.get ⟨1⟩).entries.length,
        (result.2.stages.get ⟨0⟩).entries.length)) = some (true, 4, 4) := by decide +kernel
  have refused : ((Entrances.within 22).call (.sendNode ⟨0⟩ { payload := [104, 105] }) barred).map
      (fun result => (result.2.stages.get ⟨0⟩).entries.length) = some 2 := by decide +kernel
  obtain ⟨⟨reply, leftAfter⟩, finished, counted⟩ := Option.map_eq_some_iff.mp recorded
  obtain ⟨goesWell, lengths⟩ := Prod.mk.inj counted
  obtain ⟨ofAgent, ofStage⟩ := Prod.mk.inj lengths
  cases reply with
  | error refusal => cases goesWell
  | ok =>
      obtain ⟨rightAfter, ran, abreast⟩ :=
        (send_insulated reachable_row (by decide +kernel) variesAround_barred
          (by decide +kernel) rfl).1 20 _ _ finished
      have inside : (⟨1⟩ : Ref .agent) ∈ (row.holdings ⟨2⟩).agents := by decide +kernel
      rw [ran] at refused
      refine ⟨leftAfter, rightAfter, finished, ran, abreast, ofAgent, ofStage,
        Option.some.inj refused, ?_⟩
      rw [(abreast.same.agents ⟨1⟩ inside).content]

end Store

end ChannelMux
