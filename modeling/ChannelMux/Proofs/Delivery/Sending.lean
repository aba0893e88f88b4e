import ChannelMux.Delivery.Enter
import ChannelMux.Proofs.Delivery.Receipt
import ChannelMux.Proofs.Encoding.RoundTrip
import ChannelMux.Proofs.HeaderSet

/-!
Contract: what becomes of a message that a node or fork sends.

Owns the message as it is when it has left the stack of the group of a fork, the copies that
the members of a cluster are given, and the fact that in a calm and wired store a message is
told to whom its copy is for at every target, and to nobody else.
-/

namespace ChannelMux

/-! ### The message of a fork -/

theorem Message.routing?_putRouting (message : Message) (header : RoutingHeader) :
    (message.putRouting header).routing? = some header := by
  have kept : (message.headers.put (.routing header)).get? RoutingHeader.id =
      some (.routing header) :=
    HeaderSet.get?_put_self _ _
  unfold routing? putRouting put
  rw [kept]

theorem Message.putRouting_putRouting (message : Message) (first second : RoutingHeader) :
    (message.putRouting first).putRouting second = message.putRouting second := by
  have same : (message.headers.put (.routing first)).put (.routing second) =
      message.headers.put (.routing second) := by
    apply HeaderSet.put_put
    rfl
  unfold putRouting put
  dsimp only
  rw [same]

/-- A message with the routing header that names the group and member of a fork. -/
def Fork.tag (fork : Fork) (message : Message) : Message :=
  message.putRouting (.between fork.group fork.member)

/-- Whatever routing header a message had, it leaves the stack of the group of a fork with
the one that names the group and member of the fork. -/
theorem Delivery.nameGroup_address (fork : Fork) (isPassthrough : Bool) (message : Message) :
    nameGroup fork.group (.message (address fork isPassthrough message)) =
      .message (fork.tag message) := by
  unfold address Fork.tag
  cases message.routing? with
  | none =>
      dsimp only
      unfold nameGroup
      dsimp only
      rw [Message.routing?_putRouting]
      dsimp only
      rw [Message.putRouting_putRouting]
      cases isPassthrough <;> rfl
  | some header =>
      dsimp only
      unfold nameGroup
      dsimp only
      rw [Message.routing?_putRouting]
      dsimp only
      rw [Message.putRouting_putRouting]
      rfl

/-- A message that has a routing header has no foreign one in its place. -/
theorem Encoding.hasNoForeignRouting_of_routed
    {message : Message}
    {header : RoutingHeader}
    (routed : message.headers.get? RoutingHeader.id = some (.routing header)) :
    HasNoForeignRouting message := by
  intro data member
  have same : Header.foreign RoutingHeader.id data = .routing header :=
    HeaderSet.eq_of_get?_eq_some routed member rfl
  cases same

theorem Encoding.hasNoForeignRouting_putRouting (message : Message) (header : RoutingHeader) :
    HasNoForeignRouting (message.putRouting header) :=
  hasNoForeignRouting_of_routed (HeaderSet.get?_put_self message.headers (.routing header))

namespace Store

/-- A message as the members of a cluster get it from a node. -/
def stamped (store : Store) (node : Ref .node) (message : Message) : Message :=
  { message with source? := some (store.nodes.get node).address }

/-- The copy of a message that a node's cluster is given: there is one if the node is
connected and the message can be written and read. -/
def copy? (store : Store) (node : Ref .node) (message : Message) : Option Message :=
  if (store.nodes.get node).status = .connected then
    match Encoding.writeMessage (store.stamped node message) with
    | .error _ => none
    | .ok written => (Encoding.messageOfOctets written).toOption
  else none

/-- The nodes that a message of a node goes to. -/
def targetsOf (store : Store) (node : Ref .node) (message : Message) : List (Ref .node) :=
  Delivery.targets store (store.nodes.get node) message.destination?

/-- Who is told what when a node sends a message. -/
def carried (store : Store) (node : Ref .node) (message : Message) : Told :=
  match store.copy? node message with
  | none => []
  | some copy => (store.targetsOf node message).flatMap fun target =>
      Yields.handed (store.recipient? target copy) (.single (.message copy))

section Copies

variable {store : Store} {node : Ref .node} {message : Message}

theorem copy?_of_not_connected (notConnected : (store.nodes.get node).status ≠ .connected) :
    store.copy? node message = none := if_neg notConnected

theorem copy?_of_unwritten
    {refusal : Encoding.Error}
    (connected : (store.nodes.get node).status = .connected)
    (fails : Encoding.writeMessage (store.stamped node message) = .error refusal) :
    store.copy? node message = none := by
  unfold copy?
  rw [if_pos connected, fails]

theorem copy?_of_writes
    {written : Octets}
    (connected : (store.nodes.get node).status = .connected)
    (writes : Encoding.writeMessage (store.stamped node message) = .ok written) :
    store.copy? node message = (Encoding.messageOfOctets written).toOption := by
  unfold copy?
  rw [if_pos connected, writes]

/-- A message with a routing header that can be written is given as it is. -/
theorem copy?_of_written
    {written : Octets}
    (connected : (store.nodes.get node).status = .connected)
    (writes : Encoding.writeMessage (store.stamped node message) = .ok written)
    (noForeign : Encoding.HasNoForeignRouting message) :
    store.copy? node message = some (store.stamped node message) := by
  have reads := (Encoding.messageOfOctets_writeMessage_iff writes).mpr noForeign
  rw [copy?_of_writes connected writes, reads]
  rfl

theorem isNodeAlive_of_mem_targetsOf
    {target : Ref .node}
    (member : target ∈ store.targetsOf node message) :
    store.isNodeAlive target = true := by
  obtain ⟨entry, kept, same⟩ := List.mem_map.mp member
  rw [← same]
  exact (Bool.and_eq_true_iff.mp (List.mem_filter.mp kept).2).2

end Copies

section Shape

variable {before after : Store}

theorem stamped_eq (same : after.shape = before.shape) (node : Ref .node)
    (message : Message) :
    after.stamped node message = before.stamped node message := by
  unfold stamped
  rw [nodeAddress_eq same]

theorem targets_eq
    {left right : Node}
    (same : after.shape = before.shape)
    (sameNode : left.bare = right.bare)
    (destination? : Option Address) :
    Delivery.targets after left destination? = Delivery.targets before right destination? := by
  have sameNetwork := congrArg Node.network sameNode
  have sameCluster := congrArg Node.cluster? sameNode
  change left.network = right.network at sameNetwork
  change left.cluster? = right.cluster? at sameCluster
  unfold Delivery.targets cluster
  simp only [networks_eq same, sameNetwork, sameCluster,
    isNodeAlive_eq (skeleton_eq_of_shape_eq same)]

end Shape

end Store

namespace Yields

variable {base : Store}

/-! ### From a node to its cluster -/

/-- Every target is told of its copy. -/
theorem deliverCopies
    {written : Octets}
    {copy : Message}
    {targets : List (Ref .node)}
    (calm : Calm base)
    (wired : base.Wired)
    (issued : ∀ target ∈ targets, base.nodes.Issued target)
    (reads : Encoding.messageOfOctets written = .ok copy)
    (depth : Nat) :
    Yields base (Delivery.deliverCopies (Entrances.within (depth + 2)) written targets) (.ok ())
      (targets.flatMap fun target =>
        handed (base.recipient? target copy) (.single (.message copy))) := by
  cases targets with
  | nil => exact pure _
  | cons first others =>
      unfold Delivery.deliverCopies
      rw [reads]
      have each : ∀ target ∈ first :: others,
          Yields base (Delivery.receive (Entrances.within (depth + 2)) target
            (.single (.message copy))).ignore ()
            (handed (base.recipient? target copy) (.single (.message copy))) := by
        intro target member
        obtain ⟨outcome, receives⟩ := receive calm wired (issued target member) depth copy
        exact receives.ignore
      exact before (forM each) (pure _)

theorem deliverCopies_of_unread
    {written : Octets}
    {refusal : Encoding.Error}
    (fails : Encoding.messageOfOctets written = .error refusal)
    (inner : Entrances)
    (targets : List (Ref .node)) :
    ∃ outcome, Yields base (Delivery.deliverCopies inner written targets) outcome [] := by
  cases targets with
  | nil => exact ⟨_, pure _⟩
  | cons first others =>
      unfold Delivery.deliverCopies
      rw [fails]
      exact ⟨_, pure _⟩

section Transmission

variable {node : Ref .node} {message : Message}

theorem transmit_of_not_connected
    (notConnected : (base.nodes.get node).status ≠ .connected)
    (inner : Entrances) :
    ∃ outcome, Yields base (Delivery.transmit inner node message) outcome [] := by
  refine ⟨.error (.transport (.inStatus (base.nodes.get node).name
    (base.nodes.get node).status)), look fun store same => ?_⟩
  rw [Store.nodeStatus_eq same, if_neg notConnected, Store.nodeName_eq same]
  exact pure _

theorem transmit_of_unwritten
    {refusal : Encoding.Error}
    (connected : (base.nodes.get node).status = .connected)
    (fails : Encoding.writeMessage (base.stamped node message) = .error refusal)
    (inner : Entrances) :
    ∃ outcome, Yields base (Delivery.transmit inner node message) outcome [] := by
  refine ⟨.error (.transport (.encoding refusal)), look fun store same => ?_⟩
  rw [← Store.stamped_eq same] at fails
  unfold Store.stamped at fails
  rw [if_pos ((Store.nodeStatus_eq same node).trans connected), fails]
  exact pure _

/-- What is written goes to the targets that there were when it was counted. -/
theorem transmit_of_writes
    {written : Octets}
    {outcome : Outcome}
    {told : Told}
    {inner : Entrances}
    (connected : (base.nodes.get node).status = .connected)
    (writes : Encoding.writeMessage (base.stamped node message) = .ok written)
    (delivers : Yields base
      (Delivery.deliverCopies inner written (base.targetsOf node message)) outcome told) :
    Yields base (Delivery.transmit inner node message) outcome told := by
  refine look fun store same => ?_
  rw [← Store.stamped_eq same] at writes
  unfold Store.stamped at writes
  rw [if_pos ((Store.nodeStatus_eq same node).trans connected), writes]
  refine after (modifyNode ?_ node) (get fun counted sameCounted => ?_)
  · intro record
    rfl
  · rw [Store.targets_eq sameCounted (Store.bare_node_eq same node)]
    exact delivers

end Transmission

/-- A node that is left by a message gives its copies to the targets. -/
theorem transmit
    (calm : Calm base)
    (wired : base.Wired)
    (depth : Nat)
    (node : Ref .node)
    (message : Message) :
    ∃ outcome, Yields base
      (Delivery.transmit (Entrances.within (depth + 2)) node message) outcome
      (base.carried node message) ∧
      ((base.copy? node message).isSome → outcome = .ok ()) := by
  -- Where there is no copy nobody is told of anything, whatever the refusal is.
  have withoutCopy (noCopy : base.copy? node message = none)
      (sends : ∃ outcome, Yields base
        (Delivery.transmit (Entrances.within (depth + 2)) node message) outcome []) :
      ∃ outcome, Yields base
        (Delivery.transmit (Entrances.within (depth + 2)) node message) outcome
        (base.carried node message) ∧
        ((base.copy? node message).isSome → outcome = .ok ()) := by
    unfold Store.carried
    rw [noCopy]
    obtain ⟨outcome, yields⟩ := sends
    exact ⟨outcome, yields, fun impossible => nomatch impossible⟩
  by_cases connected : (base.nodes.get node).status = .connected
  · cases writes : Encoding.writeMessage (base.stamped node message) with
    | error refusal =>
        exact withoutCopy (Store.copy?_of_unwritten connected writes)
          (transmit_of_unwritten connected writes _)
    | ok written =>
        have copyIs := Store.copy?_of_writes connected writes
        cases reads : Encoding.messageOfOctets written with
        | error refusal =>
            rw [reads] at copyIs
            obtain ⟨outcome, delivers⟩ := deliverCopies_of_unread reads
              (Entrances.within (depth + 2)) (base.targetsOf node message)
            exact withoutCopy copyIs ⟨outcome, transmit_of_writes connected writes delivers⟩
        | ok copy =>
            rw [reads] at copyIs
            have issued (target : Ref .node) (member : target ∈ base.targetsOf node message) :
                base.nodes.Issued target :=
              wired.issued_of_isNodeAlive (Store.isNodeAlive_of_mem_targetsOf member)
            have delivers := deliverCopies calm wired issued reads depth
            refine ⟨.ok (), ?_, fun _ => rfl⟩
            unfold Store.carried
            rw [copyIs]
            exact transmit_of_writes connected writes delivers
  · exact withoutCopy (Store.copy?_of_not_connected connected)
      (transmit_of_not_connected connected _)

/-! ### Down the pipeline of a node -/

theorem descendStage_demultiplexer
    {stage : Ref .stage}
    {passDown : Event → Run Outcome}
    {event : Event}
    {outcome : Outcome}
    {told : Told}
    (isDemultiplexer : (base.demultiplexer? stage).isSome)
    (passes : Yields base (passDown event) outcome told) :
    Yields base (Delivery.descendStage stage passDown event) outcome told := by
  refine look fun store same => ?_
  have skeleton := Store.skeleton_eq_of_shape_eq same
  rw [← Store.isSome_demultiplexer?_of_bare_eq (Store.bare_role_eq skeleton stage)]
    at isDemultiplexer
  obtain ⟨state, found⟩ := Option.isSome_iff_exists.mp isDemultiplexer
  rw [Store.demultiplexer?_eq_some.mp found]
  exact passes

theorem descend_layers
    {inner : Entrances}
    {pipeline : Ref .pipeline}
    {layers rest : List (Ref .stage)}
    {event : Event}
    {outcome : Outcome}
    {told : Told}
    (calm : Calm base)
    (known : ∀ stage ∈ layers, base.IsCustom stage ∨ (base.demultiplexer? stage).isSome)
    (passes : Yields base (Delivery.descend inner pipeline rest event) outcome told) :
    Yields base (Delivery.descend inner pipeline (layers ++ rest) event) outcome told := by
  induction layers with
  | nil => exact passes
  | cons stage below inductionHypothesis =>
      have onward := inductionHypothesis fun other member =>
        known other (List.mem_cons_of_mem _ member)
      rcases known stage List.mem_cons_self with custom | isDemultiplexer
      · exact descendStage_custom calm custom onward
      · exact descendStage_demultiplexer isDemultiplexer onward

/-- A message that leaves the pipeline of a node that lasts is sent by the node. -/
theorem leaveBottom_node
    {inner : Entrances}
    {node : Ref .node}
    {message : Message}
    {outcome : Outcome}
    {told : Told}
    (wired : base.Wired)
    (alive : base.isNodeAlive node = true)
    (sends : Yields base (Delivery.transmit inner node message) outcome told) :
    Yields base (Delivery.leaveBottom inner (base.nodes.get node).pipeline (.message message))
      outcome told := by
  refine look fun store same => ?_
  rw [Store.pipelines_eq (Store.skeleton_eq_of_shape_eq same),
    (wired.nodes node (wired.issued_of_isNodeAlive alive)).outlet]
  refine get fun left sameLeft => ?_
  rw [Store.isNodeAlive_eq (Store.skeleton_eq_of_shape_eq sameLeft), alive]
  exact sends

/-- A message that a node that lasts sends goes to its cluster. -/
theorem sendNode
    {node : Ref .node}
    (calm : Calm base)
    (wired : base.Wired)
    (alive : base.isNodeAlive node = true)
    (depth : Nat)
    (message : Message) :
    ∃ reply, Yields base (Delivery.sendNode (Entrances.within (depth + 3)) node message) reply
      (base.carried node message) := by
  have layers := (wired.nodes node (wired.issued_of_isNodeAlive alive)).layers
  obtain ⟨outcome, sends, _⟩ := transmit calm wired depth node message
  refine ⟨Delivery.reply outcome, look fun store same => before (look fun entered same => ?_)
    (pure _)⟩
  rename_i sameStart
  have skeleton := Store.skeleton_eq_of_shape_eq same
  rw [Store.nodePipeline_eq (Store.skeleton_eq_of_shape_eq sameStart),
    Store.stagesOf_eq skeleton, ← List.append_nil (List.reverse _)]
  refine descend_layers calm ?_ (leaveBottom_node wired alive sends)
  intro stage member
  exact layers stage (List.mem_reverse.mp member)

/-! ### Down the stack of a group -/

/-- A message that leaves the stack of a group goes on down from the demultiplexer. -/
theorem leaveBottom_stack
    {node : Ref .node}
    {hub : Ref .stage}
    {group : String}
    {stack : Ref .stack}
    {depth : Nat}
    {message : Message}
    {outcome : Outcome}
    {told : Told}
    (calm : Calm base)
    (wired : base.Wired)
    (alive : base.isNodeAlive node = true)
    (found : base.hub? node = some hub)
    (registered : Delivery.stackOf? base hub group = some stack)
    (sends : Yields base (Delivery.transmit (Entrances.within depth) node message) outcome
      told) :
    Yields base (Delivery.leaveBottom (Entrances.within (depth + 1))
      (base.groups.get stack).pipeline (.message message)) outcome told := by
  have issued := wired.issued_of_isNodeAlive alive
  have nodeWired := wired.nodes node issued
  obtain ⟨isLayer, _⟩ := Store.mem_of_hub? found
  obtain ⟨kept, upTo, listed⟩ := Delivery.upTo?_of_mem isLayer
  refine look fun store same => ?_
  rw [Store.pipelines_eq (Store.skeleton_eq_of_shape_eq same),
    (nodeWired.stackWired hub group stack found registered).outlet]
  refine get fun left sameLeft => ?_
  have skeleton := Store.skeleton_eq_of_shape_eq sameLeft
  have anchored : left.isAnchorAlive (base.nodes.get node).pipeline hub = true := by
    have lasts : left.isPipelineAlive (left.nodes.get node).pipeline = true :=
      Store.isPipelineAlive_of_isNodeAlive ((Store.issued_node_iff skeleton node).mpr issued)
        ((Store.isNodeAlive_eq skeleton node).trans alive)
    rw [Store.nodePipeline_eq skeleton] at lasts
    unfold Store.isAnchorAlive
    rw [lasts, Store.stagesOf_eq skeleton, List.contains_iff_mem.mpr isLayer]
    rfl
  rw [if_pos anchored]
  refine get fun entered sameEntered => ?_
  rw [Store.stagesOf_eq (Store.skeleton_eq_of_shape_eq sameEntered), upTo]
  dsimp only
  rw [← List.append_nil (List.reverse _)]
  refine descend_layers calm ?_ (leaveBottom_node wired alive sends)
  intro stage member
  exact nodeWired.layers stage (listed stage (List.mem_reverse.mp member))

theorem descendStage_groupTop
    {stage : Ref .stage}
    {stack : Ref .stack}
    {passDown : Event → Run Outcome}
    {event : Event}
    {outcome : Outcome}
    {told : Told}
    (role : (base.stages.get stage).role = .groupTop stack)
    (passes : Yields base (passDown event) outcome told) :
    Yields base (Delivery.descendStage stage passDown event) outcome told := by
  refine look fun store same => ?_
  rw [(Store.role_groupTop_iff (Store.skeleton_eq_of_shape_eq same) stage stack).mpr role]
  exact passes

theorem descendStage_groupBottom
    {stage : Ref .stage}
    {group : String}
    {passDown : Event → Run Outcome}
    {event : Event}
    {outcome : Outcome}
    {told : Told}
    (role : (base.stages.get stage).role = .groupBottom group)
    (passes : Yields base (passDown (Delivery.nameGroup group event)) outcome told) :
    Yields base (Delivery.descendStage stage passDown event) outcome told := by
  refine look fun store same => ?_
  rw [(Store.role_groupBottom_iff (Store.skeleton_eq_of_shape_eq same) stage group).mpr role]
  exact passes

/-- A message that goes down the stack of a group leaves it with the group named. -/
theorem travel_down_stack
    {inner : Entrances}
    {shared : Ref .pipeline}
    {hub : Ref .stage}
    {group : String}
    {stack : Ref .stack}
    {event : Event}
    {outcome : Outcome}
    {told : Told}
    (calm : Calm base)
    (wired : base.StackWired shared hub group stack)
    (leaves : Yields base (Delivery.leaveBottom inner (base.groups.get stack).pipeline
      (Delivery.nameGroup group event)) outcome told) :
    Yields base (Delivery.travel inner (.down (base.groups.get stack).pipeline event)) outcome
      told := by
  obtain ⟨bottom, customs, top, stages, _, bottomRole, allCustom, _, topRole⟩ := wired.layers
  have reversed : (bottom :: customs ++ [top]).reverse = top :: (customs.reverse ++ [bottom]) := by
    simp
  refine look fun store same => ?_
  rw [Store.stagesOf_eq (Store.skeleton_eq_of_shape_eq same), stages, reversed]
  refine descendStage_groupTop topRole (descend_layers calm ?_ ?_)
  · intro stage member
    exact Or.inl (allCustom stage (List.mem_reverse.mp member))
  · exact descendStage_groupBottom bottomRole leaves

/-- A message that a fork that lasts sends is sent by its node, with a routing header that
names the group and member of the fork. -/
theorem sendFork
    {fork : Ref .fork}
    (calm : Calm base)
    (wired : base.Wired)
    (alive : base.isForkAlive fork = true)
    (mirrors : (base.forks.get fork).status =
      (base.nodes.get (base.forks.get fork).node).status)
    (depth : Nat)
    (message : Message) :
    ∃ reply, Yields base (Delivery.sendFork (Entrances.within (depth + 4)) fork message) reply
      (base.carried (base.forks.get fork).node ((base.forks.get fork).tag message)) ∧
      ((base.copy? (base.forks.get fork).node ((base.forks.get fork).tag message)).isSome →
        reply = .ok ()) := by
  by_cases connected : (base.forks.get fork).status = .connected
  · obtain ⟨hub, found, registered⟩ :=
      (wired.forks fork (Table.issued_of_isNamed alive)).stack
    have nodeAlive := Store.isNodeAlive_of_isForkAlive alive
    have nodeWired := wired.nodes _ (wired.issued_of_isNodeAlive nodeAlive)
    have stackWired := nodeWired.stackWired hub _ _ found registered
    obtain ⟨outcome, sends, well⟩ := transmit calm wired depth (base.forks.get fork).node
      ((base.forks.get fork).tag message)
    refine ⟨Delivery.reply outcome, look fun store same => ?_, ?_⟩
    · rw [Store.forks_eq same, if_pos connected]
      refine look fun entered sameEntered => before ?_ (pure _)
      rw [Store.groups_eq (Store.skeleton_eq_of_shape_eq sameEntered)]
      refine travel_down_stack calm stackWired ?_
      rw [Delivery.nameGroup_address]
      exact leaveBottom_stack calm wired nodeAlive found registered sends
    · intro copied
      rw [well copied]
      rfl
  · have notConnected := connected
    rw [mirrors] at notConnected
    have noCopy : base.copy? (base.forks.get fork).node ((base.forks.get fork).tag message) =
        none :=
      Store.copy?_of_not_connected notConnected
    refine ⟨.error (.notConnected (base.forks.get fork).status), look fun store same => ?_, ?_⟩
    · unfold Store.carried
      rw [noCopy, Store.forks_eq same, if_neg connected]
      exact pure _
    · rw [noCopy]
      intro impossible
      cases impossible

end Yields

end ChannelMux
