import ChannelMux.Proofs.Batch.Shares
import ChannelMux.Proofs.Delivery.Forwarding
import ChannelMux.Proofs.Network.Makings

/-!
Contract: the routing of a single message at a demultiplexer.

Owns that a message which comes up to a demultiplexer is consumed in one place at most: above
it if the message has no routing header, and else by the channel that the header names, if
there is one. Owns that a failure is that of whoever consumes it, unless the header names no
group.

Does not own the routing of batches and views.
-/

namespace ChannelMux

namespace Delivery

/-- Hands a message to a channel, if there is one. -/
def handChannel (inner : Entrances) (channel? : Option (Ref .fork)) (message : Message) :
    Run Outcome :=
  match channel? with
  | some fork => handFork inner fork (.single (.message message))
  | none => pure (.ok ())

/-- What is done by whoever consumes a message at a demultiplexer: the stages above it if the
message has no routing header, and else the channel that the header names, if there is one. -/
def consumption? (store : Store) (hub : Ref .stage) (depth : Nat)
    (passUp : Traffic → Run Outcome) (message : Message) : Option (Run Outcome) :=
  match message.routing? with
  | none => some (passUp (.single (.message message)))
  | some _ =>
      (message.group?.bind fun group => message.member?.bind (store.channel? hub group)).map
        fun fork => handFork (Entrances.within depth) fork (.single (.message message))

end Delivery

namespace Store

/-- The stages of the stacks at a demultiplexer pass everything on as it is. -/
def PassesAt (store : Store) (hub : Ref .stage) : Prop :=
  ∀ group stack, Delivery.stackOf? store hub group = some stack →
    ∀ stage ∈ store.stagesOf (store.groups.get stack).pipeline,
      ∀ conduct, (store.stages.get stage).role = .custom conduct → conduct.Transparent

end Store

/-- Stages have recorded things and counted nothing. -/
theorem Bookkept.of_unrecorded
    {before after : Store}
    (same : after.unrecorded = before.unrecorded) :
    Bookkept [] before after where
  shape := Store.shape_eq_of_unrecorded same
  agents := Store.agents_eq_of_unrecorded same
  nodes := Store.nodes_eq_of_unrecorded same
  counted stage mark _ := by
    have counted : after.demultiplexer? stage = before.demultiplexer? stage := by
      unfold Store.demultiplexer? Stage.demultiplexer?
      rw [Store.role_eq_of_unrecorded same]
    unfold Store.counted
    rw [counted]
    simp

namespace Forwards

variable {base : Store} {depth : Nat} {shared : Ref .pipeline} {hub : Ref .stage}
  {group : String} {stack : Ref .stack}

theorem ascendStage_groupBottom
    {inner : Entrances}
    {stage : Ref .stage}
    (role : (base.stages.get stage).role = .groupBottom group)
    (passUp : Traffic → Run Outcome)
    (traffic : Traffic) :
    Forwards base (Delivery.ascendStage inner stage passUp traffic) (passUp traffic) := by
  refine look fun store same => ?_
  rw [(Store.role_groupBottom_iff same stage group).mpr role]
  exact refl _

theorem ascendStage_groupTop
    {inner : Entrances}
    {stage : Ref .stage}
    (role : (base.stages.get stage).role = .groupTop stack)
    (passUp : Traffic → Run Outcome)
    (traffic : Traffic) :
    Forwards base (Delivery.ascendStage inner stage passUp traffic)
      (Delivery.takeAtGroupTop inner stack traffic) := by
  refine look fun store same => ?_
  rw [(Store.role_groupTop_iff same stage stack).mpr role]
  exact refl _

/-- What enters a stack of transparent stages comes to its top as it is. -/
theorem enterStack
    (wired : base.StackWired shared hub group stack)
    (transparent : ∀ stage ∈ base.stagesOf (base.groups.get stack).pipeline,
      ∀ conduct, (base.stages.get stage).role = .custom conduct → conduct.Transparent)
    (traffic : Traffic) :
    Forwards base (Delivery.enterStack (Entrances.within (depth + 1)) stack traffic)
      (Delivery.takeAtGroupTop (Entrances.within depth) stack traffic) := by
  obtain ⟨bottom, customs, top, stages, _, bottomRole, allCustom, _, topRole⟩ := wired.layers
  have passes (stage : Ref .stage) (member : stage ∈ customs) : base.IsTransparent stage := by
    obtain ⟨conduct, role⟩ := allCustom stage member
    refine ⟨conduct, role, transparent stage ?_ conduct role⟩
    rw [stages]
    exact List.mem_append_left _ (List.mem_cons_of_mem _ member)
  refine look fun store same => look fun later sameLater => ?_
  rw [Store.groups_eq same, Store.stagesOf_eq sameLater, stages]
  refine (ascendStage_groupBottom bottomRole _ traffic).trans
    ((ascend passes [top] traffic).trans ?_)
  exact ascendStage_groupTop topRole _ traffic

theorem handMember (inner : Entrances) (stack : Ref .stack) (message : Message) :
    Forwards base (Delivery.handMember inner stack message)
      (Delivery.handChannel inner (message.member?.bind (base.liveMember? stack)) message) := by
  unfold Delivery.handMember
  cases message.member? with
  | none => exact refl _
  | some member =>
      refine get fun store same => ?_
      rw [Store.liveMember?_eq same, Option.bind_some]
      cases base.liveMember? stack member <;> exact refl _

end Forwards

namespace Store

variable {store : Store} {shared : Ref .pipeline} {hub : Ref .stage} {message : Message}
  {depth : Nat} {inner : Entrances} {passUp : Traffic → Run Outcome}

theorem ascendStage_of_hub
    (isHub : (store.demultiplexer? hub).isSome)
    (traffic : Traffic) :
    Delivery.ascendStage inner hub passUp traffic store =
      Delivery.demultiplex inner hub passUp traffic store := by
  obtain ⟨state, found⟩ := Option.isSome_iff_exists.mp isHub
  unfold Delivery.ascendStage
  rw [Rule.look_apply, demultiplexer?_eq_some.mp found]

/-! ### By the routing header -/

/-- A step that counts, and what follows it. -/
theorem count_bind
    (store : Store)
    (hub : Ref .stage)
    (mark : Mark)
    (change : DemultiplexerCounters → DemultiplexerCounters)
    (counts : ∀ counters other,
      (change counters).of other = counters.of other + UInt64.ofNat ([mark].count other))
    (next : Unit → Run Outcome) :
    ∃ counted, Bookkept [(hub, mark)] store counted ∧
      (Run.count hub change >>= next) store = next () counted := by
  obtain ⟨counted, runs, books⟩ := Bookkept.count counts store hub
  refine ⟨counted, books, ?_⟩
  rw [Run.bind_apply, runs, Option.bind_some]

theorem route_unrouted (unrouted : message.routing? = none) :
    ∃ counted, Bookkept [(hub, .passedThrough)] store counted ∧
      Delivery.route inner hub passUp message store =
        passUp (.single (.message message)) counted := by
  obtain ⟨counted, books, goesOn⟩ := count_bind store hub .passedThrough
    (fun counters => { counters with passedThrough := counters.passedThrough + 1 })
    (fun _ mark => by cases mark <;> simp [DemultiplexerCounters.of])
    fun _ => passUp (.single (.message message))
  refine ⟨counted, books, Eq.trans ?_ goesOn⟩
  unfold Delivery.route
  rw [unrouted]

theorem route_groupless
    {header : RoutingHeader}
    (routed : message.routing? = some header)
    (groupless : header.group? = none) :
    Delivery.route inner hub passUp message store =
      some (.error (.groupMissing header), store) := by
  unfold Delivery.route
  rw [routed]
  dsimp only
  rw [groupless]
  rfl

section Grouped

variable {group : String} (named : message.group? = some group)

include named

theorem route_unregistered (unregistered : Delivery.stackOf? store hub group = none) :
    ∃ counted, Bookkept [(hub, .missed)] store counted ∧
      Delivery.route inner hub passUp message store = some (.ok (), counted) := by
  obtain ⟨header, routed, ofHeader⟩ := Option.bind_eq_some_iff.mp named
  obtain ⟨counted, books, goesOn⟩ := count_bind store hub .missed
    (fun counters => { counters with misses := counters.misses + 1 })
    (fun _ mark => by cases mark <;> simp [DemultiplexerCounters.of])
    fun _ => pure (.ok ())
  refine ⟨counted, books, Eq.trans ?_ goesOn⟩
  unfold Delivery.route
  rw [routed]
  dsimp only
  rw [ofHeader]
  dsimp only
  rw [Rule.get_apply, unregistered]

theorem route_registered
    {stack : Ref .stack}
    (registered : Delivery.stackOf? store hub group = some stack) :
    ∃ counted, Bookkept [(hub, .routed)] store counted ∧
      Delivery.route inner hub passUp message store =
        Delivery.enterStack inner stack (.single (.message message)) counted := by
  obtain ⟨header, routed, ofHeader⟩ := Option.bind_eq_some_iff.mp named
  obtain ⟨counted, books, goesOn⟩ := count_bind store hub .routed
    (fun counters => { counters with routed := counters.routed + 1 })
    (fun _ mark => by cases mark <;> simp [DemultiplexerCounters.of])
    fun _ => Delivery.enterStack inner stack (.single (.message message))
  refine ⟨counted, books, Eq.trans ?_ goesOn⟩
  unfold Delivery.route
  rw [routed]
  dsimp only
  rw [ofHeader]
  dsimp only
  rw [Rule.get_apply, registered]

end Grouped

/-- What becomes of a message that comes up to a demultiplexer. -/
structure RoutesExclusively (store : Store) (hub : Ref .stage) (message : Message) (depth : Nat)
    (passUp : Traffic → Run Outcome) (result : Option (Outcome × Store)) : Prop where
  /-- Without a routing header it passes, and the outcome is that of the stages above. -/
  unrouted : message.routing? = none →
    ∃ counted, Bookkept [(hub, .passedThrough)] store counted ∧
      result = passUp (.single (.message message)) counted
  /-- A header that names no group is refused, and nothing at all is done. -/
  groupless : ∀ header, message.routing? = some header → header.group? = none →
    result = some (.error (.groupMissing header), store)
  /-- For a group that there is not it is dropped. -/
  unregistered : ∀ group, message.group? = some group →
    Delivery.stackOf? store hub group = none →
      ∃ counted, Bookkept [(hub, .missed)] store counted ∧ result = some (.ok (), counted)
  /-- It enters the stack of its group, and the channel that it names is handed it. -/
  registered : ∀ group stack, message.group? = some group →
    Delivery.stackOf? store hub group = some stack →
      (∃ counted, Bookkept [(hub, .routed)] store counted ∧
        result = Delivery.enterStack (Entrances.within (depth + 1)) stack
          (.single (.message message)) counted) ∧
      Forwards store
        (Delivery.enterStack (Entrances.within (depth + 1)) stack (.single (.message message)))
        (Delivery.handChannel (Entrances.within depth)
          (message.member?.bind (store.channel? hub group)) message)
  /-- One at most consumes it, once, and what comes of that is the outcome. -/
  consumed : (∀ header, message.routing? = some header → header.group? ≠ none) →
    ∃ mark between, Bookkept [(hub, mark)] store between ∧
      EndAlike result
        (((Delivery.consumption? store hub depth passUp message).getD (pure (.ok ()))) between)
  /-- Only a header without a group and the one who consumes it can fail it. -/
  failed : ∀ refusal after, result = some (.error refusal, after) →
    (∃ header, message.routing? = some header ∧ header.group? = none ∧
      refusal = .groupMissing header ∧ after = store) ∨
    ∃ consumption between left,
      Delivery.consumption? store hub depth passUp message = some consumption ∧
        consumption between = some (.error refusal, left)

/-- What consumes a message for a registered group is the handing to its channel. -/
theorem getD_consumption?_of_registered
    {group : String}
    (named : message.group? = some group) :
    (Delivery.consumption? store hub depth passUp message).getD (pure (.ok ())) =
      Delivery.handChannel (Entrances.within depth)
        (message.member?.bind (store.channel? hub group)) message := by
  obtain ⟨header, routed, _⟩ := Option.bind_eq_some_iff.mp named
  unfold Delivery.consumption? Delivery.handChannel
  rw [routed]
  dsimp only
  rw [named, Option.bind_some]
  cases message.member?.bind (store.channel? hub group) <;> rfl

theorem channel?_of_registered
    {group : String}
    {stack : Ref .stack}
    (registered : Delivery.stackOf? store hub group = some stack) :
    store.channel? hub group = store.liveMember? stack := by
  funext member
  unfold channel?
  rw [registered, Option.bind_some]

theorem channel?_of_unregistered
    {group : String}
    (unregistered : Delivery.stackOf? store hub group = none) :
    store.channel? hub group = fun _ => none := by
  funext member
  unfold channel?
  rw [unregistered, Option.bind_none]

section Passing

variable (wired : store.HubWired shared hub) (passes : store.PassesAt hub)

include wired passes

/-- What enters the stack of a group comes to the channel that it names, if there is one. -/
theorem enterStack_handsChannel
    {group : String}
    {stack : Ref .stack}
    (registered : Delivery.stackOf? store hub group = some stack)
    (message : Message)
    (depth : Nat) :
    Forwards store
      (Delivery.enterStack (Entrances.within (depth + 1)) stack (.single (.message message)))
      (Delivery.handChannel (Entrances.within depth)
        (message.member?.bind (store.channel? hub group)) message) := by
  rw [channel?_of_registered registered]
  exact (Forwards.enterStack (wired.layout group stack registered) (passes group stack registered)
    _).trans (Forwards.handMember _ stack message)

/-- A message with no header, or one that names a group, is left to whoever consumes it. -/
theorem route_consumed
    (groups : ∀ header, message.routing? = some header → header.group? ≠ none) :
    ∃ mark between, Bookkept [(hub, mark)] store between ∧
      EndAlike (Delivery.route (Entrances.within (depth + 1)) hub passUp message store)
        (((Delivery.consumption? store hub depth passUp message).getD (pure (.ok ())))
          between) := by
  cases isRouted : message.routing? with
  | none =>
      obtain ⟨counted, books, same⟩ := route_unrouted isRouted
      refine ⟨_, counted, books, ?_⟩
      unfold Delivery.consumption?
      rw [same, isRouted]
      exact EndAlike.refl _
  | some header =>
      obtain ⟨group, isGroup⟩ := Option.ne_none_iff_exists'.mp (groups header isRouted)
      have named : message.group? = some group := by
        unfold Message.group?
        rw [isRouted, Option.bind_some, isGroup]
      rw [getD_consumption?_of_registered named]
      cases isStack : Delivery.stackOf? store hub group with
      | none =>
          obtain ⟨counted, books, same⟩ := route_unregistered named isStack
          refine ⟨_, counted, books, ?_⟩
          rw [same, channel?_of_unregistered isStack, Option.bind_fun_none]
          exact EndAlike.refl _
      | some stack =>
          obtain ⟨counted, books, same⟩ := route_registered named isStack
          obtain ⟨between, recorded, alike⟩ :=
            enterStack_handsChannel wired passes isStack message depth counted books.skeleton
          rw [same]
          exact ⟨_, between, books.trans (Bookkept.of_unrecorded recorded), alike⟩

/-- A message that is refused has a header without a group, or whoever consumes it has refused
it. -/
theorem route_failed
    {refusal : Refusal}
    {after : Store}
    (fails : Delivery.route (Entrances.within (depth + 1)) hub passUp message store =
      some (.error refusal, after)) :
    (∃ header, message.routing? = some header ∧ header.group? = none ∧
      refusal = .groupMissing header ∧ after = store) ∨
    ∃ consumption between left,
      Delivery.consumption? store hub depth passUp message = some consumption ∧
        consumption between = some (.error refusal, left) := by
  by_cases groups : ∀ header, message.routing? = some header → header.group? ≠ none
  · obtain ⟨mark, between, _, alike⟩ := route_consumed wired passes groups
    obtain ⟨left, consumes, _⟩ := alike.finished fails
    cases isConsumed : Delivery.consumption? store hub depth passUp message with
    | none =>
        rw [isConsumed] at consumes
        cases consumes
    | some consumption =>
        rw [isConsumed] at consumes
        exact Or.inr ⟨consumption, between, left, rfl, consumes⟩
  · push Not at groups
    obtain ⟨header, isRouted, groupless⟩ := groups
    have refused := (route_groupless isRouted groupless).symm.trans fails
    cases refused
    exact Or.inl ⟨header, isRouted, groupless, rfl, rfl⟩

end Passing

/-- A message that comes up to a demultiplexer with transparent stages in its stacks is
consumed in one place at most, by the stages above or by the channel of the group and member
that its routing header names, and nobody but that one can fail it; only a header without a
group is refused, before anything is done. -/
theorem ascendStage_routesExclusively
    (wired : store.HubWired shared hub)
    (passes : store.PassesAt hub)
    (message : Message)
    (depth : Nat)
    (passUp : Traffic → Run Outcome) :
    store.RoutesExclusively hub message depth passUp
      (Delivery.ascendStage (Entrances.within (depth + 1)) hub passUp
        (.single (.message message)) store) := by
  rw [ascendStage_of_hub wired.isHub]
  constructor
  · exact route_unrouted
  · intro header routed groupless
    exact route_groupless routed groupless
  · intro group named unregistered
    exact route_unregistered named unregistered
  · intro group stack named registered
    exact ⟨route_registered named registered,
      enterStack_handsChannel wired passes registered message depth⟩
  · exact route_consumed wired passes
  · intro refusal after fails
    exact route_failed wired passes fails

/-! ### A node with two channels -/

/-- A node with a transparent stage in the stack of a group, and in the group a fork that
records and one that refuses everything. -/
def switching : List Action :=
  let plan (member : String) (agent : Ref .agent) : ForkPlan :=
    { node? := some ⟨0⟩, group? := some "g", member? := some member, receiver? := some agent }
  [.addAgent .recording, .addAgent .closedQueue, .addStage "pane" .transparent,
    .addNode "a" "a" (.filled 1) "net" [],
    .buildFork { plan "m" ⟨0⟩ with stages := [⟨0⟩] } "first", .buildFork (plan "n" ⟨1⟩) "second"]

/-- The node with its forks. -/
def switched : Store := (Store.run? {} switching).getD {}

/-- The fork that refuses everything fails what is for it, and the other one takes what is for
it; a member or group that there is not fails nothing, and a header without a group does. -/
theorem ascendStage_routesExclusively_switched :
    (∀ message, switched.RoutesExclusively ⟨1⟩ message 0 (fun _ => pure (.ok ()))
      (Delivery.ascendStage (Entrances.within 1) ⟨1⟩ (fun _ => pure (.ok ()))
        (.single (.message message)) switched)) ∧
    ([.between "g" "m", .between "g" "n", .between "g" "o", .between "h" "m",
        .forMember "m"].map fun header =>
      (Delivery.ascendStage (Entrances.within 1) ⟨1⟩ (fun _ => pure (.ok ()))
        (.single (.message (({ payload := [7] } : Message).putRouting header))) switched).map
          fun result => (result.1.isOk, (result.2.agents.get ⟨0⟩).entries.length)) =
      [some (true, 1), some (false, 0), some (true, 0), some (true, 0), some (false, 0)] := by
  have reachable : Reachable (Action.Makes Conduct.Transparent fun _ => True) switched := by
    apply reachable_made
    simp [switching, Action.Makes, Conduct.transparent_transparent]
  have atNode : switched.hub? ⟨0⟩ = some ⟨1⟩ := by decide +kernel
  have wired := (wired_of_reachable reachable).hubWired (by decide +kernel) atNode
  have peopled := peopled_of_reachable reachable trivial
  have passes : switched.PassesAt ⟨1⟩ :=
    fun _ _ _ stage _ conduct custom => peopled.stages stage conduct custom
  exact ⟨fun message => ascendStage_routesExclusively wired passes message 0 _,
    by decide +kernel⟩

end Store

end ChannelMux
