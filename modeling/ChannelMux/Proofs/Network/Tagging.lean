import ChannelMux.Proofs.Delivery.HandingOn
import ChannelMux.Proofs.Delivery.Sending
import ChannelMux.Proofs.Network.Passthrough

/-!
Contract: how a message of a fork comes to be tagged on its way to the network.

Owns that a message of a fork goes through the custom stages of its group and then through
the stages below the demultiplexer, each of them once, that its routing header names the
member before and the group as well behind the bottom of the group's stack, and that it is
sent by the node as it leaves the last stage, whatever becomes of it then.

Does not own what the cluster makes of the message, nor what stages above the demultiplexer
do, which are not on its way.
-/

namespace ChannelMux

/-! ### Routing headers -/

namespace Message

theorem member?_putRouting (message : Message) (header : RoutingHeader) :
    (message.putRouting header).member? = header.member? := by
  unfold member?
  rw [routing?_putRouting]
  rfl

theorem headers_putRouting (message : Message) (header : RoutingHeader) :
    (message.putRouting header).headers.get? RoutingHeader.id = some (.routing header) :=
  HeaderSet.get?_put_self _ _

/-- Two messages with the same under the number of the routing header are routed alike. -/
theorem routing?_congr
    {left right : Message}
    (same : left.headers.get? RoutingHeader.id = right.headers.get? RoutingHeader.id) :
    left.routing? = right.routing? := by
  unfold routing?
  rw [same]

end Message

namespace Delivery

/-- What a fork sends names its member. -/
theorem member?_address (fork : Fork) (isPassthrough : Bool) (message : Message) :
    (address fork isPassthrough message).member? = some fork.member := by
  unfold address
  split
  · exact Message.member?_putRouting _ _
  · rw [Message.member?_putRouting]
    cases isPassthrough <;> rfl

/-- What a fork sends names the group that it was given with, if a stage of the group can
see that. -/
theorem group?_address (fork : Fork) (message : Message) :
    (address fork false message).group? = message.group? := by
  unfold address Message.group?
  cases message.routing? with
  | some header =>
      dsimp only
      rw [Message.routing?_putRouting]
      rfl
  | none =>
      dsimp only
      rw [Message.routing?_putRouting]
      rfl

/-- At the bottom of the stack of its group a message that names the member of a fork comes
to name both. -/
theorem nameGroup_of_member
    {fork : Fork}
    {message : Message}
    (member : message.member? = some fork.member) :
    nameGroup fork.group (.message message) = .message (fork.tag message) := by
  obtain ⟨⟨group?, member?⟩, routed, names⟩ := Option.bind_eq_some_iff.mp member
  cases names
  unfold nameGroup Fork.tag
  dsimp only
  rw [routed]
  rfl

/-- What a fork has addressed gets the tag that the message would get. -/
theorem tag_address (fork : Fork) (isPassthrough : Bool) (message : Message) :
    fork.tag (address fork isPassthrough message) = fork.tag message := by
  unfold address Fork.tag
  split <;> exact Message.putRouting_putRouting _ _ _

/-- Whatever does not read the routing header reads what a fork sends as the message. -/
theorem view_address
    {Aspect : Type}
    {view : Message → Aspect}
    (unrouted : ∀ given header, view (given.putRouting header) = view given)
    (fork : Fork)
    (isPassthrough : Bool)
    (message : Message) :
    view (address fork isPassthrough message) = view message := by
  unfold address
  split <;> exact unrouted _ _

end Delivery

/-! ### Which stages are on the way -/

namespace Store

/-- The custom stages of a stack, bottom first. -/
def ownStages (store : Store) (stack : Ref .stack) : List (Ref .stage) :=
  (store.stagesOf (store.groups.get stack).pipeline).filter store.isCustom

/-- The stages of a node's pipeline below its demultiplexer, bottom first. -/
def stagesBelow (store : Store) (node : Ref .node) : List (Ref .stage) :=
  (store.stagesOf (store.nodes.get node).pipeline).takeWhile fun stage =>
    !(store.demultiplexer? stage).isSome

variable {store : Store}

theorem isCustom_of_mem_ownStages
    {stack : Ref .stack}
    {stage : Ref .stage}
    (own : stage ∈ store.ownStages stack) :
    store.IsCustom stage := isCustom_iff.mp (List.mem_filter.mp own).2

theorem ownStages_eq
    {stack : Ref .stack}
    {group : String}
    {bottom top : Ref .stage}
    {customs : List (Ref .stage)}
    (stages : store.stagesOf (store.groups.get stack).pipeline = bottom :: customs ++ [top])
    (bottomRole : (store.stages.get bottom).role = .groupBottom group)
    (allCustom : ∀ stage ∈ customs, store.IsCustom stage)
    (topRole : (store.stages.get top).role = .groupTop stack) :
    store.ownStages stack = customs := by
  have bottomNot : store.isCustom bottom = false := by
    unfold isCustom
    rw [bottomRole]
  have topNot : store.isCustom top = false := by
    unfold isCustom
    rw [topRole]
  have allOwn : customs.filter store.isCustom = customs :=
    List.filter_eq_self.mpr fun stage member => isCustom_iff.mpr (allCustom stage member)
  unfold ownStages
  rw [stages, List.cons_append, List.filter_cons_of_neg (by rw [bottomNot]; simp),
    List.filter_append, allOwn, List.filter_singleton, topNot]
  simp

/-- A stack that lets everything pass has no stages of its own. -/
theorem ownStages_eq_nil
    {shared : Ref .pipeline}
    {hub : Ref .stage}
    {group : String}
    {stack : Ref .stack}
    (wired : store.StackWired shared hub group stack)
    (candid : store.Candid)
    (passthrough : (store.groups.get stack).isPassthrough = true) :
    store.ownStages stack = [] := by
  obtain ⟨bottom, customs, top, stages, _, bottomRole, allCustom, _, topRole⟩ := wired.layers
  have two := (candid stack wired.issued).marked.mp passthrough
  rw [ownStages_eq stages bottomRole allCustom topRole]
  rw [stages] at two
  simpa using two

/-- Below the demultiplexer of a node there are only custom stages. -/
theorem isCustom_of_mem_stagesBelow
    {node : Ref .node}
    {stage : Ref .stage}
    (wired : store.Wired)
    (issued : store.nodes.Issued node)
    (below : stage ∈ store.stagesBelow node) :
    store.IsCustom stage := by
  have layer := (List.takeWhile_sublist _).subset below
  have notHub := List.mem_takeWhile_imp below
  refine ((wired.nodes node issued).layers stage layer).resolve_right fun isHub => ?_
  rw [isHub] at notHub
  cases notHub

end Store

/-- Up to the first one with a property there are those without it, and that one. -/
theorem Delivery.upTo?_eq_some
    {property : Ref .stage → Bool}
    {stage : Ref .stage}
    {stages : List (Ref .stage)}
    (found : stages.find? property = some stage) :
    upTo? stage stages = some (stages.takeWhile (fun other => !property other) ++ [stage]) := by
  induction stages with
  | nil => cases found
  | cons head tail inductionHypothesis =>
      unfold upTo?
      cases having : property head with
      | true =>
          rw [List.find?_cons_of_pos having] at found
          cases found
          rw [if_pos rfl, List.takeWhile_cons_of_neg (by simp [having])]
          rfl
      | false =>
          have apart : head ≠ stage := by
            rintro rfl
            rw [List.find?_some found] at having
            cases having
          rw [List.find?_cons_of_neg (by simp [having])] at found
          rw [if_neg apart, inductionHypothesis found,
            List.takeWhile_cons_of_pos (by simp [having])]
          rfl

/-! ### Down both pipelines -/

namespace Delivery

theorem descendStage_apply_groupTop
    {stage : Ref .stage}
    {stack : Ref .stack}
    {store : Store}
    (role : (store.stages.get stage).role = .groupTop stack)
    (passDown : Event → Run Outcome)
    (event : Event) :
    descendStage stage passDown event store = passDown event store := by
  unfold descendStage
  rw [Rule.look_apply, role]

theorem descendStage_apply_groupBottom
    {stage : Ref .stage}
    {group : String}
    {store : Store}
    (role : (store.stages.get stage).role = .groupBottom group)
    (passDown : Event → Run Outcome)
    (event : Event) :
    descendStage stage passDown event store = passDown (nameGroup group event) store := by
  unfold descendStage
  rw [Rule.look_apply, role]

theorem descendStage_apply_hub
    {stage : Ref .stage}
    {store : Store}
    (isHub : (store.demultiplexer? stage).isSome)
    (passDown : Event → Run Outcome)
    (event : Event) :
    descendStage stage passDown event store = passDown event store := by
  obtain ⟨state, found⟩ := Option.isSome_iff_exists.mp isHub
  unfold descendStage
  rw [Rule.look_apply, Store.demultiplexer?_eq_some.mp found]

variable {base : Store} {edits : Ref .stage → Message → Message → Prop}

/-- A message that names the member of a fork goes down the stack of the group, where each
custom stage has it once, and leaves it with the fork's tag. -/
theorem travel_downStack
    {shared : Ref .pipeline}
    {hub : Ref .stage}
    {fork : Fork}
    {visits : List (Ref .stage × Message)}
    {entering leaving : Message}
    {between : Store}
    {back : Outcome × Store → Outcome × Store}
    (wired : base.StackWired shared hub fork.group fork.stack)
    (listed : visits.map Prod.fst = (base.ownStages fork.stack).reverse)
    (descent : Descent edits visits entering leaving base between back)
    (member : leaving.member? = some fork.member)
    (inner : Entrances) :
    travel inner (.down (base.groups.get fork.stack).pipeline (.message entering)) base =
      (leaveBottom inner (base.groups.get fork.stack).pipeline (.message (fork.tag leaving))
        between).map back := by
  obtain ⟨bottom, customs, top, stages, _, bottomRole, allCustom, _, topRole⟩ := wired.layers
  have reversed : (bottom :: customs ++ [top]).reverse =
      top :: (visits.map Prod.fst ++ [bottom]) := by
    rw [listed, Store.ownStages_eq stages bottomRole allCustom topRole]
    simp
  have bottomStill : (between.stages.get bottom).role = .groupBottom fork.group := by
    rw [Store.role_eq_of_unrecorded descent.recorded]
    exact bottomRole
  unfold travel
  dsimp only
  rw [Rule.look_apply, stages, reversed, descend,
    descendStage_apply_groupTop topRole, descent.runs]
  congr 1
  rw [descend, descendStage_apply_groupBottom bottomStill, nameGroup_of_member member]
  rfl

section Node

variable {node : Ref .node} {hub : Ref .stage} {visits : List (Ref .stage × Message)}
  {message last : Message} {between : Store} {back : Outcome × Store → Outcome × Store}
  (wired : base.Wired) (alive : base.isNodeAlive node = true)

include wired alive

/-- A message that leaves the bottom of a node's pipeline is sent by the node. -/
theorem leaveBottom_apply_node
    {store : Store}
    (same : store.skeleton = base.skeleton)
    (inner : Entrances) :
    leaveBottom inner (base.nodes.get node).pipeline (.message message) store =
      transmit inner node message store := by
  have outlet := (wired.nodes node (wired.issued_of_isNodeAlive alive)).outlet
  unfold leaveBottom
  rw [Rule.look_apply, Store.pipelines_eq same, outlet]
  dsimp only
  unfold leaveNode
  rw [Rule.get_apply, Store.isNodeAlive_eq same, alive]
  rfl

/-- A message that goes down from the demultiplexer of a node has each stage below it once,
and is sent as it leaves the last one. -/
theorem travel_downFrom
    (found : base.hub? node = some hub)
    (listed : visits.map Prod.fst = (base.stagesBelow node).reverse)
    {before : Store}
    (same : before.unrecorded = base.unrecorded)
    (descent : Descent edits visits message last before between back)
    (inner : Entrances) :
    travel inner (.downFrom (base.nodes.get node).pipeline hub (.message message)) before =
      (transmit inner node last between).map back := by
  have isHub := (Store.mem_of_hub? found).2
  have skeleton := Store.skeleton_eq_of_unrecorded same
  have isHubStill : (before.demultiplexer? hub).isSome := by
    rw [Store.isSome_demultiplexer?, Store.role_eq_of_unrecorded same,
      ← Store.isSome_demultiplexer?]
    exact isHub
  have reversed : (base.stagesBelow node ++ [hub]).reverse =
      hub :: (visits.map Prod.fst ++ []) := by
    rw [listed]
    simp
  unfold travel
  dsimp only
  unfold descendFrom
  rw [Rule.get_apply, Store.stagesOf_eq skeleton, upTo?_eq_some found]
  change descend inner _ (base.stagesBelow node ++ [hub]).reverse _ before = _
  rw [reversed, descend, descendStage_apply_hub isHubStill, descent.runs]
  congr 1
  exact leaveBottom_apply_node wired alive
    ((Store.skeleton_eq_of_unrecorded descent.recorded).trans skeleton) inner

/-- A message that leaves the stack of a group goes on down from the demultiplexer. -/
theorem leaveBottom_apply_stack
    {group : String}
    {stack : Ref .stack}
    (found : base.hub? node = some hub)
    (stackWired : base.StackWired (base.nodes.get node).pipeline hub group stack)
    {before : Store}
    (same : before.unrecorded = base.unrecorded)
    (inner : Entrances) :
    leaveBottom inner (base.groups.get stack).pipeline (.message message) before =
      inner.travel (.downFrom (base.nodes.get node).pipeline hub (.message message)) before := by
  have skeleton := Store.skeleton_eq_of_unrecorded same
  have anchored : before.isAnchorAlive (base.nodes.get node).pipeline hub = true := by
    have issued := (Store.issued_node_iff skeleton node).mpr (wired.issued_of_isNodeAlive alive)
    have lasts : before.isPipelineAlive (before.nodes.get node).pipeline = true :=
      Store.isPipelineAlive_of_isNodeAlive issued
        ((Store.isNodeAlive_eq skeleton node).trans alive)
    rw [Store.nodePipeline_eq skeleton] at lasts
    unfold Store.isAnchorAlive
    rw [lasts, Store.stagesOf_eq skeleton,
      List.contains_iff_mem.mpr (Store.mem_of_hub? found).1]
    rfl
  unfold leaveBottom
  rw [Rule.look_apply, Store.pipelines_eq skeleton, stackWired.outlet]
  dsimp only
  rw [Rule.get_apply, if_pos anchored]

end Node

end Delivery

/-! ### What a fork sends -/

/-- How a message that a fork sends comes to be sent by its node: what the stages of the
fork's group are given, what the stages below the demultiplexer are given, and what is sent. -/
structure Store.Tags (store : Store) (fork : Ref .fork)
    (edits : Ref .stage → Message → Message → Prop) (message : Message)
    (inside outside : List (Ref .stage × Message)) (sent : Message) : Prop where
  /-- It goes through the custom stages of the group, top first, once each. -/
  throughGroup : inside.map Prod.fst = (store.ownStages (store.forks.get fork).stack).reverse
  /-- It goes through the stages of the node's pipeline below the demultiplexer, top first,
  once each. -/
  throughNode : outside.map Prod.fst = (store.stagesBelow (store.forks.get fork).node).reverse
  /-- The stages of the group see the member of the fork, and the group that the message was
  given with. -/
  addressed : ∀ visit ∈ inside, visit.2.member? = some (store.forks.get fork).member ∧
    visit.2.group? = message.group?
  /-- The stages below the demultiplexer see the group and member of the fork. -/
  tagged : ∀ visit ∈ outside, visit.2.headers.get? RoutingHeader.id = some (.routing
    (.between (store.forks.get fork).group (store.forks.get fork).member))
  /-- What is sent names the group and member of the fork in its routing header. -/
  header : sent.headers.get? RoutingHeader.id = some (.routing
    (.between (store.forks.get fork).group (store.forks.get fork).member))
  /-- Whatever does not depend on the routing header and is changed by no stage is as it was. -/
  aspect : ∀ (Aspect : Type) (view : Message → Aspect),
    (∀ given header, view (given.putRouting header) = view given) →
    (∀ stage given edited, edits stage given edited → view edited = view given) →
      view sent = view message
  /-- If no stage changes anything, what is sent is the message with the fork's tag. -/
  unedited : (∀ stage given edited, edits stage given edited → edited = given) →
    sent = (store.forks.get fork).tag message
  /-- Each stage hands on what the next one is given, and what leaves the last one is sent by
  the node, whatever comes of it; the stages record things before and after that. -/
  runs : ∃ entering leaving middle between, ∃ back onward : Outcome × Store → Outcome × Store,
    Delivery.Descent edits inside entering leaving store middle back ∧
    Delivery.Descent edits outside ((store.forks.get fork).tag leaving) sent middle between
      onward ∧
    ∀ depth, (Entrances.within (depth + 3)).call (.sendFork fork message) store =
      (Delivery.transmit (Entrances.within depth) (store.forks.get fork).node sent
        between).map fun result =>
          (Delivery.reply (back (onward result)).1, (back (onward result)).2)

namespace Delivery

theorem travel_within (depth : Nat) (journey : Journey) :
    (Entrances.within (depth + 1)).travel journey = travel (Entrances.within depth) journey := rfl

/-- What a fork sends goes into the stack of its group as it is addressed. -/
theorem sendFork_apply
    {store : Store}
    {fork : Ref .fork}
    (connected : (store.forks.get fork).status = .connected)
    (inner : Entrances)
    (message : Message) :
    sendFork inner fork message store =
      (inner.travel (.down (store.groups.get (store.forks.get fork).stack).pipeline
        (.message (address (store.forks.get fork)
          (store.groups.get (store.forks.get fork).stack).isPassthrough message))) store).map
        fun result => (reply result.1, result.2) := by
  unfold sendFork
  rw [Rule.look_apply, if_pos connected, Rule.look_apply, Run.bind_apply]
  rw [Option.map_eq_bind]
  rfl

end Delivery

namespace Store

/-- What a fork sends that is connected comes to be tagged, where everything is wired. -/
theorem Wired.exists_tags
    {store : Store}
    {fork : Ref .fork}
    {edits : Ref .stage → Message → Message → Prop}
    (wired : store.Wired)
    (candid : store.Candid)
    (alive : store.isForkAlive fork = true)
    (connected : (store.forks.get fork).status = .connected)
    (handOn : ∀ stage ∈ store.ownStages (store.forks.get fork).stack ++
        store.stagesBelow (store.forks.get fork).node,
      ∀ conduct, (store.stages.get stage).role = .custom conduct → conduct.HandsOn (edits stage))
    (unrouted : ∀ stage given edited, edits stage given edited →
      edited.headers.get? RoutingHeader.id = given.headers.get? RoutingHeader.id)
    (message : Message) :
    ∃ inside outside sent, store.Tags fork edits message inside outside sent := by
  have forkWired := wired.forks fork (Table.issued_of_isNamed alive)
  obtain ⟨hub, found, registered⟩ := forkWired.stack
  have stackWired := (wired.nodes _ forkWired.node).stackWired hub _ _ found registered
  have nodeAlive := isNodeAlive_of_isForkAlive alive
  have ownHandOn : ∀ stage ∈ (store.ownStages (store.forks.get fork).stack).reverse,
      ∃ conduct, (store.stages.get stage).role = .custom conduct ∧
        conduct.HandsOn (edits stage) := by
    intro stage member
    have own := List.mem_reverse.mp member
    obtain ⟨conduct, role⟩ := isCustom_of_mem_ownStages own
    exact ⟨conduct, role, handOn stage (List.mem_append_left _ own) conduct role⟩
  have belowHandOn : ∀ stage ∈ (store.stagesBelow (store.forks.get fork).node).reverse,
      ∃ conduct, (store.stages.get stage).role = .custom conduct ∧
        conduct.HandsOn (edits stage) := by
    intro stage member
    have below := List.mem_reverse.mp member
    obtain ⟨conduct, role⟩ := isCustom_of_mem_stagesBelow wired forkWired.node below
    exact ⟨conduct, role, handOn stage (List.mem_append_right _ below) conduct role⟩
  -- What the fork makes of the message goes down its stack.
  have addressed := Delivery.member?_address (store.forks.get fork)
    (store.groups.get (store.forks.get fork).stack).isPassthrough message
  obtain ⟨inside, leaving, middle, back, throughGroup, descent⟩ :=
    Delivery.exists_descent ownHandOn rfl (Delivery.address (store.forks.get fork)
      (store.groups.get (store.forks.get fork).stack).isPassthrough message)
  have keepsRouting {property : Option RoutingHeader → Prop} :
      ∀ stage given edited, edits stage given edited → property given.routing? →
        property edited.routing? := by
    intro stage given edited edit holds
    rw [Message.routing?_congr (unrouted stage given edited edit)]
    exact holds
  obtain ⟨members, leavingMember⟩ := descent.keeps
    (@keepsRouting fun routing? => routing?.bind RoutingHeader.member? =
      some (store.forks.get fork).member) addressed
  -- What leaves the stack goes down from the demultiplexer.
  obtain ⟨outside, sent, between, onward, throughNode, descentOn⟩ :=
    Delivery.exists_descent belowHandOn descent.recorded ((store.forks.get fork).tag leaving)
  obtain ⟨tagged, header⟩ := descentOn.keeps
    (fun stage given edited edit same => (unrouted stage given edited edit).trans same)
    (Message.headers_putRouting leaving _)
  refine ⟨inside, outside, sent, throughGroup, throughNode, ?_, tagged, header, ?_, ?_, _,
    leaving, middle, between, back, onward, descent, descentOn, ?_⟩
  · intro visit member
    refine ⟨members visit member, ?_⟩
    cases passthrough : (store.groups.get (store.forks.get fork).stack).isPassthrough with
    | true =>
        -- Where the fork names the group itself, no stage could see that.
        have noStages := ownStages_eq_nil stackWired candid passthrough
        rw [noStages, List.reverse_nil, List.map_eq_nil_iff] at throughGroup
        rw [throughGroup] at member
        cases member
    | false =>
        rw [passthrough] at descent
        exact (descent.keeps (@keepsRouting fun routing? =>
          routing?.bind RoutingHeader.group? = message.group?)
            (Delivery.group?_address _ message)).1 visit member
  · intro Aspect view unseen kept
    rw [descentOn.view_eq kept, Fork.tag, unseen, descent.view_eq kept,
      Delivery.view_address unseen]
  · intro unedited
    rw [descentOn.eq_of_unedited unedited, descent.eq_of_unedited unedited,
      Delivery.tag_address]
  · intro depth
    change Delivery.sendFork (Entrances.within (depth + 2)) fork message store = _
    rw [Delivery.sendFork_apply connected, Delivery.travel_within,
      Delivery.travel_downStack stackWired throughGroup descent leavingMember,
      Delivery.leaveBottom_apply_stack wired nodeAlive found stackWired descent.recorded,
      Delivery.travel_within,
      Delivery.travel_downFrom wired nodeAlive found throughNode descent.recorded descentOn,
      Option.map_map, Option.map_map]
    rfl

/-- Under another number than that of the routing header the message that is sent has what
was there, if no stage puts or takes off anything there. -/
theorem Tags.other_header
    {store : Store}
    {fork : Ref .fork}
    {edits : Ref .stage → Message → Message → Prop}
    {message sent : Message}
    {inside outside : List (Ref .stage × Message)}
    (tags : store.Tags fork edits message inside outside sent)
    {number : UInt16}
    (other : number ≠ RoutingHeader.id)
    (kept : ∀ stage given edited, edits stage given edited →
      edited.headers.get? number = given.headers.get? number) :
    sent.headers.get? number = message.headers.get? number :=
  tags.aspect _ (fun given => given.headers.get? number)
    (fun given _ => HeaderSet.get?_put_of_ne other given.headers) kept

/-- A fork that is connected tags what it sends. Its message, whatever headers it has, goes
through the custom stages of its group, where it names the member, and the group only if it
was given with one; then through the stages below the demultiplexer, where it names both; and
so it is sent by the node. It is the same message for every stack if no stage edits it. -/
theorem sendFork_tags
    {permits : Action → Prop}
    {store : Store}
    {fork : Ref .fork}
    {edits : Ref .stage → Message → Message → Prop}
    (reachable : Reachable permits store)
    (alive : store.isForkAlive fork = true)
    (connected : (store.forks.get fork).status = .connected)
    (handOn : ∀ stage ∈ store.ownStages (store.forks.get fork).stack ++
        store.stagesBelow (store.forks.get fork).node,
      ∀ conduct, (store.stages.get stage).role = .custom conduct → conduct.HandsOn (edits stage))
    (unrouted : ∀ stage given edited, edits stage given edited →
      edited.headers.get? RoutingHeader.id = given.headers.get? RoutingHeader.id)
    (message : Message) :
    ∃ inside outside sent, store.Tags fork edits message inside outside sent :=
  (wired_of_reachable reachable).exists_tags (candid_of_reachable reachable) alive connected
    handOn unrouted message

/-! ### A fork behind stages of its own -/

/-- A node with a stage below its demultiplexer and one above it, and a fork whose group has
two stages: all of them put their mark on what goes down but the one above the demultiplexer,
which refuses it. -/
def furnishing : List Action :=
  [.addStage "x" (.marking "x"), .addStage "y" (.marking "y"), .addStage "z" (.marking "z"),
    .addStage "lid" (.refusingDown "lid"), .addNode "a" "a" (.filled 1) "net" [⟨2⟩, ⟨3⟩],
    .ensureDemultiplexer ⟨0⟩ true (.above "z"),
    .buildFork { node? := some ⟨0⟩, group? := some "g", member? := some "m",
                 stages := [⟨0⟩, ⟨1⟩] } "first"]

def furnished : Store := (run? {} furnishing).getD {}

/-- The node when it has joined a cluster. -/
def tenanted : Store := (furnished.run? ([Operation.connect ⟨0⟩ "c"].map .call)).getD {}

/-- A message to the node itself, with two foreign headers, one of them in the place of the
routing header. -/
def parcel : Message where
  destination? := some (.filled 1)
  payload := [120]
  headers := .ofList [.foreign 4 [1], .foreign RoutingHeader.id [2]]

/-- A stage puts a mark on a message. -/
def Marks (_stage : Ref .stage) (given edited : Message) : Prop :=
  ∃ octets, edited = given.mark octets

theorem marking_handsOn (name : String) (stage : Ref .stage) :
    (Conduct.marking name).HandsOn (Marks stage) := by
  intro message
  exact ⟨⟨_, rfl, _, rfl⟩, fun _ => trivial⟩

theorem marks_unrouted
    (stage : Ref .stage)
    (given edited : Message)
    (marks : Marks stage given edited) :
    edited.headers.get? RoutingHeader.id = given.headers.get? RoutingHeader.id := by
  obtain ⟨octets, rfl⟩ := marks
  rfl

theorem tenanted_joined :
    furnished.run? ([Operation.connect ⟨0⟩ "c"].map .call) = some tenanted := by
  obtain ⟨after, ran⟩ := Option.isSome_iff_exists.mp
    (by decide +kernel :
      (furnished.run? ([Operation.connect ⟨0⟩ "c"].map .call)).isSome = true)
  unfold tenanted
  rw [ran]
  rfl

/-- The stages of the group and the one below the demultiplexer put their marks on messages. -/
theorem handsOn_tenanted
    (stage : Ref .stage)
    (onWay : stage ∈ [(⟨0⟩ : Ref .stage), ⟨1⟩, ⟨2⟩])
    (conduct : Conduct)
    (role : (tenanted.stages.get stage).role = .custom conduct) :
    conduct.HandsOn (Marks stage) := by
  rw [role_custom_iff (skeleton_eq_of_calls tenanted_joined)] at role
  have marking : ∃ name, (furnished.stages.get stage).role = .custom (.marking name) := by
    simp only [List.mem_cons, List.not_mem_nil, or_false] at onWay
    rcases onWay with rfl | rfl | rfl
    · exact ⟨"x", by with_unfolding_all rfl⟩
    · exact ⟨"y", by with_unfolding_all rfl⟩
    · exact ⟨"z", by with_unfolding_all rfl⟩
  obtain ⟨name, isMarking⟩ := marking
  rw [isMarking] at role
  cases role
  exact marking_handsOn name stage

/-- The foreign header gives way to the tag, and the other one and the destination stay, while
the message gets a mark from the upper and the lower stage of the group and from the one below
the demultiplexer, in this order, and is not refused above. -/
theorem sendFork_tags_tenanted :
    ∃ inside outside sent, tenanted.Tags ⟨0⟩ Marks parcel inside outside sent ∧
      inside.map Prod.fst = [⟨1⟩, ⟨0⟩] ∧ outside.map Prod.fst = [⟨2⟩] ∧
      sent.routing? = some (.between "g" "m") ∧ sent.destination? = some (.filled 1) := by
  have reachable : Reachable (fun _ => True) tenanted := by
    refine reachable_of_run? (reachable_made fun _ _ => trivial) (fun _ _ => trivial)
      tenanted_joined
  have own : tenanted.ownStages (tenanted.forks.get ⟨0⟩).stack = [⟨0⟩, ⟨1⟩] := by decide +kernel
  have below : tenanted.stagesBelow (tenanted.forks.get ⟨0⟩).node = [⟨2⟩] := by decide +kernel
  obtain ⟨inside, outside, sent, tags⟩ := sendFork_tags reachable
    (by decide +kernel : tenanted.isForkAlive ⟨0⟩ = true) (by decide +kernel)
    (fun stage onWay => handsOn_tenanted stage (by rwa [own, below] at onWay)) marks_unrouted
    parcel
  refine ⟨inside, outside, sent, tags, ?_, ?_, ?_, ?_⟩
  · rw [tags.throughGroup, own]
    rfl
  · rw [tags.throughNode, below]
    rfl
  · unfold Message.routing?
    rw [tags.header]
    decide +kernel
  · refine tags.aspect _ Message.destination? (fun _ _ => rfl) ?_
    rintro stage given edited ⟨octets, rfl⟩
    rfl

end Store

end ChannelMux
