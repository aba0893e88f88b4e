import ChannelMux.Proofs.Batch.Splitting
import ChannelMux.Proofs.Delivery.Seclusion
import ChannelMux.Proofs.Interleaving

/-!
Contract: what a group is given does not depend on the others.

Owns what of the traffic that comes up to a demultiplexer concerns a group: the messages for
the group, what batches hold for it, and the views. Owns that just this enters the group's
stack, in order, whatever else comes up and whatever is refused elsewhere, and that therefore
two runs in which the same concerns the group are the same to it.
-/

namespace ChannelMux

/-- What of traffic concerns a group at a demultiplexer. -/
def Traffic.concern? (group : String) : Traffic → Option Traffic
  | .single (.message message) =>
      if message.group? = some group then some (.single (.message message)) else none
  | .single event => if event.isBroadcast then some (.single event) else none
  | .batch whole =>
      if whole.groupShare group = [] then none
      else some (.batch (whole.derive (whole.groupShare group)))

/-- Every routing header in the traffic names a group. -/
def Traffic.NamesGroups : Traffic → Prop
  | .single (.message message) => message.routing?.isSome → message.group?.isSome
  | .single _ => True
  | .batch whole => whole.NamesGroups

instance (batch : Batch) : Decidable batch.NamesGroups :=
  inferInstanceAs (Decidable (∀ message ∈ batch.messages,
    message.routing?.isSome → message.group?.isSome))

instance : DecidablePred Traffic.NamesGroups
  | .single (.message message) =>
      inferInstanceAs (Decidable (message.routing?.isSome → message.group?.isSome))
  | .single (.viewChange _) => isTrue trivial
  | .single (.localAddress _) => isTrue trivial
  | .single (.suspect _) => isTrue trivial
  | .batch whole => inferInstanceAs (Decidable whole.NamesGroups)

namespace Batch

/-- The parts of a batch hold for a group what the batch holds for it, once. -/
theorem flatMap_parts
    {β : Type}
    {batch : Batch}
    (named : batch.NamesGroups)
    (group : String)
    (make : List Message → List β) :
    (batch.parts.flatMap fun part => if part.1 = group then make part.2 else []) =
      if batch.groupShare group = [] then [] else make (batch.groupShare group) := by
  have share (part : List Message) : (group, part) ∈ batch.parts ↔
      part = batch.groupShare group ∧ part ≠ [] := mem_parts_iff named
  unfold parts Delivery.byGroup at share ⊢
  rw [Registry.flatMap_entries_under]
  split
  · rename_i nothing
    cases found : Registry.get? _ group with
    | none => rfl
    | some part =>
        obtain ⟨isShare, something⟩ := (share part).mp (Registry.get?_eq_some_iff.mp found)
        exact absurd (isShare.trans nothing) something
  · rename_i something
    rw [Registry.get?_eq_some_iff.mpr ((share _).mpr ⟨rfl, something⟩)]
    rfl

end Batch

namespace Tenant

variable {tenant : Tenant} {around : Neighborhood} {depth : Nat}

/-- Something enters the tenant's stack, whatever comes of it. -/
def Enters (tenant : Tenant) (depth : Nat) (traffic : Traffic) (before after : Store) : Prop :=
  ∃ outcome, Delivery.enterStack (Entrances.within depth) tenant.stack traffic before =
    some (outcome, after)

/-- In the course of a run these enter the tenant's stack, one after the other; apart from
that, what belongs to the tenant is left as it is. -/
def Admits {α : Type} (tenant : Tenant) (around : Neighborhood) (depth : Nat) (run : Run α)
    (entering : List Traffic) : Prop :=
  ∀ before value after, tenant.SecludedIn around before → run before = some (value, after) →
    after.skeleton = before.skeleton ∧
      Interleaved (tenant.Enters depth) tenant.own.SameIn entering before after

/-! ### Runs step by step -/

section Steps

variable {α β : Type}

namespace Admits

theorem nothing {run : Run α} (governed : (tenant.rule around).Governs run) :
    tenant.Admits around depth run [] := by
  intro before value after secluded finished
  obtain ⟨same, spared⟩ := governed before value after secluded finished
  exact ⟨same, .rest spared⟩

theorem enterStack (traffic : Traffic) :
    tenant.Admits around depth
      (Delivery.enterStack (Entrances.within depth) tenant.stack traffic) [traffic] := by
  intro before outcome after _ finished
  have surrounds := Skeleton.surrounds_within depth
  exact ⟨surrounds.conveys.enterStack (Or.inl trivial) tenant.stack before outcome after
    trivial finished, .single (.refl _) ⟨outcome, finished⟩⟩

theorem bind
    {run : Run α}
    {next : α → Run β}
    {first second : List Traffic}
    (earlier : tenant.Admits around depth run first)
    (later : ∀ value, tenant.Admits around depth (next value) second) :
    tenant.Admits around depth (run >>= next) (first ++ second) := by
  intro before value after secluded finished
  obtain ⟨passed, between, ran, onward⟩ := Rule.bind_eq_some finished
  obtain ⟨same, entered⟩ := earlier before passed between secluded ran
  obtain ⟨sameLater, enteredLater⟩ :=
    later passed between value after (secluded.of_skeleton_eq same) onward
  exact ⟨sameLater.trans same,
    entered.append (fun _ _ _ left right => left.trans right) enteredLater⟩

/-- What is done first does nothing to the tenant. -/
theorem after_rest
    {run : Run α}
    {next : α → Run β}
    {entering : List Traffic}
    (governed : (tenant.rule around).Governs run)
    (later : ∀ value, tenant.Admits around depth (next value) entering) :
    tenant.Admits around depth (run >>= next) entering :=
  bind (nothing governed) later

/-- What is done last does nothing to the tenant. -/
theorem before_rest
    {run : Run α}
    {next : α → Run β}
    {entering : List Traffic}
    (earlier : tenant.Admits around depth run entering)
    (governed : ∀ value, (tenant.rule around).Governs (next value)) :
    tenant.Admits around depth (run >>= next) entering := by
  have whole := bind earlier fun value => nothing (governed value)
  rwa [List.append_nil] at whole

theorem look
    {view : Store → α}
    {next : α → Run β}
    {entering : List Traffic}
    (each : ∀ store, tenant.SecludedIn around store →
      tenant.Admits around depth (next (view store)) entering) :
    tenant.Admits around depth (Run.look view >>= next) entering := by
  intro before value after secluded finished
  exact each before secluded before value after secluded finished

theorem get
    {next : Store → Run β}
    {entering : List Traffic}
    (each : ∀ store, tenant.SecludedIn around store →
      tenant.Admits around depth (next store) entering) :
    tenant.Admits around depth (MonadState.get >>= next) entering := by
  intro before value after secluded finished
  exact each before secluded before value after secluded finished

theorem forM
    {items : List α}
    {action : α → Run Unit}
    {entering : α → List Traffic}
    (each : ∀ item ∈ items, tenant.Admits around depth (action item) (entering item)) :
    tenant.Admits around depth (items.forM action) (items.flatMap entering) := by
  induction items with
  | nil => exact nothing (Rule.pure _)
  | cons head tail inductionHypothesis =>
      change tenant.Admits around depth (action head >>= fun _ => tail.forM action) _
      rw [List.flatMap_cons]
      refine bind (each head List.mem_cons_self) fun _ => inductionHypothesis ?_
      intro item member
      exact each item (List.mem_cons_of_mem _ member)

end Admits

end Steps

/-! ### At the demultiplexer -/

theorem governs_countHub (change : DemultiplexerCounters → DemultiplexerCounters) :
    (tenant.rule around).Governs (Run.count around.hub change) :=
  governs_count (fun _ secluded => secluded.hubApart) change

theorem SecludedIn.ne_of_unregistered
    {store : Store}
    (secluded : tenant.SecludedIn around store)
    {group : String}
    (unregistered : Delivery.stackOf? store around.hub group = none) :
    group ≠ tenant.group := by
  intro isTenant
  rw [isTenant, secluded.registered] at unregistered
  cases unregistered

/-- What enters the stack of a group concerns the tenant if the group is the tenant's. -/
theorem SecludedIn.admits_enterStack
    {store : Store}
    (secluded : tenant.SecludedIn around store)
    {group : String}
    {stack : Ref .stack}
    (registered : Delivery.stackOf? store around.hub group = some stack)
    (depth : Nat)
    (traffic : Traffic) :
    tenant.Admits around depth (Delivery.enterStack (Entrances.within depth) stack traffic)
      (if group = tenant.group then [traffic] else []) := by
  split
  · rename_i isTenant
    rw [isTenant, secluded.registered] at registered
    cases registered
    exact .enterStack traffic
  · rename_i isOther
    exact .nothing (governs_enterStack depth (secluded.others group stack registered isOther) _)

section Demultiplexer

variable {passUp : Traffic → Run Outcome}

theorem admits_route
    (passes : ∀ traffic, (tenant.rule around).Governs (passUp traffic))
    (message : Message) :
    tenant.Admits around depth
      (Delivery.route (Entrances.within depth) around.hub passUp message)
      (Traffic.concern? tenant.group (.single (.message message))).toList := by
  have concerns : (Traffic.concern? tenant.group (.single (.message message))).toList =
      if message.group? = some tenant.group then [.single (.message message)] else [] := by
    change (if message.group? = some tenant.group then _ else _ : Option Traffic).toList = _
    split <;> rfl
  rw [concerns]
  unfold Delivery.route Message.group?
  split
  · rename_i unrouted
    rw [unrouted]
    exact .nothing (Rule.bind (governs_countHub _) fun _ => passes _)
  · rename_i header routed
    rw [routed, Option.bind_some]
    split
    · rename_i unnamed
      rw [unnamed]
      exact .nothing (Rule.pure _)
    · rename_i group named
      simp only [named, Option.some.injEq]
      refine .get fun store secluded => ?_
      split
      · rename_i stack registered
        exact .after_rest (governs_countHub _) fun _ =>
          secluded.admits_enterStack registered depth _
      · rename_i unregistered
        rw [if_neg (secluded.ne_of_unregistered unregistered)]
        exact .nothing (Rule.bind (governs_countHub _) fun _ => Rule.pure _)

theorem admits_broadcast
    (passes : ∀ traffic, (tenant.rule around).Governs (passUp traffic))
    (event : Event) :
    tenant.Admits around depth
      (Delivery.broadcast (Entrances.within depth) around.hub passUp event)
      [.single event] := by
  refine .look fun store secluded => .after_rest (governs_countHub _) fun _ => ?_
  refine .before_rest ?_ fun _ => passes _
  obtain ⟨state, found, isTenant⟩ := Option.bind_eq_some_iff.mp secluded.registered
  have listed : Delivery.stacksOf store around.hub = state.groups.entries.map Prod.snd := by
    unfold Delivery.stacksOf
    rw [found]
    rfl
  -- The tenant's stack is listed under the tenant's group, and the others under other groups.
  have once : (state.groups.entries.flatMap fun entry =>
      if entry.1 = tenant.group then [Traffic.single event] else []) = [.single event] := by
    rw [Registry.flatMap_entries_under state.groups tenant.group fun _ => [Traffic.single event],
      isTenant]
    rfl
  rw [listed, ← once, List.forM_eq_forM, List.forM_map]
  refine .forM fun entry member => .before_rest ?_ fun _ => Rule.pure _
  have registered : Delivery.stackOf? store around.hub entry.1 = some entry.2 :=
    Option.bind_eq_some_iff.mpr ⟨state, found, Registry.get?_eq_some_iff.mpr member⟩
  exact secluded.admits_enterStack registered depth _

theorem admits_routePart
    (batch : Batch)
    (part : String × List Message) :
    tenant.Admits around depth
      (Delivery.routePart (Entrances.within depth) around.hub batch part)
      (if part.1 = tenant.group then [.batch (batch.derive part.2)] else []) := by
  refine .get fun store secluded => ?_
  cases registered : Delivery.stackOf? store around.hub part.1 with
  | none =>
      rw [if_neg (secluded.ne_of_unregistered registered)]
      exact .nothing (governs_countHub _)
  | some stack =>
      refine .after_rest (governs_countHub _) fun _ => ?_
      refine .before_rest (secluded.admits_enterStack registered depth _) fun outcome => ?_
      cases outcome with
      | ok _ => exact Rule.pure _
      | error _ => exact governs_countHub _

theorem admits_routeBatch
    (passes : ∀ traffic, (tenant.rule around).Governs (passUp traffic))
    {batch : Batch}
    (named : batch.NamesGroups) :
    tenant.Admits around depth
      (Delivery.routeBatch (Entrances.within depth) around.hub passUp batch)
      (Traffic.concern? tenant.group (.batch batch)).toList := by
  have concerns : (Traffic.concern? tenant.group (.batch batch)).toList =
      batch.parts.flatMap fun part =>
        if part.1 = tenant.group then [.batch (batch.derive part.2)] else [] := by
    rw [Batch.flatMap_parts named tenant.group fun part => [Traffic.batch (batch.derive part)]]
    change (if batch.groupShare tenant.group = [] then _ else _ : Option Traffic).toList = _
    split <;> rfl
  rw [Delivery.routeBatch_eq named, concerns]
  refine .before_rest (.before_rest (.forM fun part _ => admits_routePart batch part) ?_) ?_
  · intro _
    unfold Delivery.countUnrouted
    split
    · exact Rule.pure _
    · exact governs_countHub _
  · intro _
    split
    · exact Rule.pure _
    · exact passes _

theorem admits_demultiplex
    (passes : ∀ traffic, (tenant.rule around).Governs (passUp traffic))
    {traffic : Traffic}
    (named : traffic.NamesGroups) :
    tenant.Admits around depth
      (Delivery.demultiplex (Entrances.within depth) around.hub passUp traffic)
      (traffic.concern? tenant.group).toList := by
  cases traffic with
  | single event =>
      cases event with
      | message message => exact admits_route passes message
      | viewChange view => exact admits_broadcast passes (.viewChange view)
      | localAddress address => exact .nothing (passes _)
      | suspect address => exact .nothing (passes _)
  | batch whole => exact admits_routeBatch passes named

end Demultiplexer

theorem SecludedIn.role_hub
    {store : Store}
    (secluded : tenant.SecludedIn around store) :
    ∃ state, (store.stages.get around.hub).role = .demultiplexer state := by
  obtain ⟨state, found, _⟩ := Option.bind_eq_some_iff.mp secluded.registered
  exact ⟨state, Store.demultiplexer?_eq_some.mp found⟩

/-- Just what concerns the tenant enters its stack. -/
theorem admits_take
    {traffic : Traffic}
    (named : traffic.NamesGroups)
    (depth : Nat) :
    tenant.Admits around depth (around.take depth traffic)
      (traffic.concern? tenant.group).toList := by
  refine .look fun store secluded => .look fun later secludedThen => ?_
  obtain ⟨state, isHub⟩ := secludedThen.role_hub
  rw [isHub]
  exact admits_demultiplex (governs_passing secluded.above depth) named

/-! ### Whole runs -/

/-- Nothing is done to what belongs to the tenant, and the tenant is secluded afterwards. -/
def Undisturbed (tenant : Tenant) (around : Neighborhood) (before after : Store) : Prop :=
  tenant.own.SameIn before after ∧ tenant.SecludedIn around after

/-- Traffic comes up to the demultiplexer, one after the other. In between anything may
happen that does not disturb the tenant: groups may be registered, and stages spliced in. -/
def Passes (tenant : Tenant) (around : Neighborhood) (depth : Nat) :
    List Traffic → Store → Store → Prop :=
  Interleaved (fun traffic before after =>
      ∃ outcome, around.take depth traffic before = some (outcome, after))
    (tenant.Undisturbed around)

/-- So it is if traffic just comes up the pipeline at the bottom of which the demultiplexer
is. -/
theorem passes_of_run?
    {arriving : List Traffic}
    {above : List (Ref .stage)}
    {before after : Store}
    (secluded : tenant.SecludedIn around before)
    (lowest : before.stagesOf around.shared = around.hub :: above)
    (ran : before.run? (arriving.map fun traffic => .travel (.up around.shared traffic)) =
      some after) :
    tenant.Passes around (depthLimit - 1) arriving before after := by
  induction arriving generalizing before with
  | nil =>
      cases ran
      exact .rest ⟨.refl _ _, secluded⟩
  | cons traffic rest inductionHypothesis =>
      obtain ⟨between, acted, onward⟩ := Option.bind_eq_some_iff.mp ran
      obtain ⟨⟨outcome, left⟩, finished, isBetween⟩ := Option.map_eq_some_iff.mp acted
      cases isBetween
      have same := Store.skeleton_eq_of_travel finished
      have taken := (around.travel_eq_take lowest (depthLimit - 1) traffic).symm.trans finished
      refine .deal ⟨.refl _ _, secluded⟩ ⟨outcome, taken⟩ ?_
      exact inductionHypothesis (secluded.of_skeleton_eq same)
        ((Store.stagesOf_eq same around.shared).trans lowest) onward

theorem Passes.entered
    {arriving : List Traffic}
    {before after : Store}
    (passes : tenant.Passes around depth arriving before after)
    (named : ∀ traffic ∈ arriving, traffic.NamesGroups) :
    Interleaved (tenant.Enters depth) tenant.own.SameIn
      (arriving.filterMap (Traffic.concern? tenant.group)) before after := by
  induction passes with
  | rest rested => exact .rest rested.1
  | @deal before ready dealt after traffic rest rested dealing _ inductionHypothesis =>
      obtain ⟨outcome, taken⟩ := dealing
      obtain ⟨_, entered⟩ := admits_take (named traffic List.mem_cons_self) depth ready outcome
        dealt rested.2 taken
      have onward := inductionHypothesis fun other member =>
        named other (List.mem_cons_of_mem _ member)
      have trans : ∀ first second third, tenant.own.SameIn first second →
          tenant.own.SameIn second third → tenant.own.SameIn first third :=
        fun _ _ _ left right => left.trans right
      have concerns : (traffic :: rest).filterMap (Traffic.concern? tenant.group) =
          (traffic.concern? tenant.group).toList ++
            rest.filterMap (Traffic.concern? tenant.group) := by
        rw [List.filterMap_cons]
        cases traffic.concern? tenant.group <;> rfl
      rw [concerns]
      exact (Interleaved.rest_left trans rested.1 entered).append trans onward

/-- The stack is among what belongs to the tenant, from which nothing leads away, and what
the tenant's agents do depends on what belongs to the tenant alone. -/
structure KeepsToItself (tenant : Tenant) (store : Store) : Prop where
  stack : tenant.stack ∈ tenant.own.groups
  closed : tenant.own.Closed store
  insular : tenant.own.Insular store

/-- A tenant that keeps to itself makes the same of what enters its stack in any two runs. -/
theorem sameIn_of_entered
    {base : Store}
    (stack : tenant.stack ∈ tenant.own.groups)
    (insular : tenant.own.Insular base)
    {entering : List Traffic}
    {left leftAfter right rightAfter : Store}
    (inLeft : Interleaved (tenant.Enters depth) tenant.own.SameIn entering left leftAfter)
    (inRight : Interleaved (tenant.Enters depth) tenant.own.SameIn entering right rightAfter)
    (persists : tenant.own.Persists base left)
    (same : tenant.own.SameIn left right) :
    tenant.own.SameIn leftAfter rightAfter := by
  -- The same is entered in turn, so that what is done in the left run takes the right one along.
  induction inLeft generalizing right with
  | rest rested =>
      cases inRight with
      | rest restedRight => exact (rested.symm.trans same).trans restedRight
  | deal rested dealing _ inductionHypothesis =>
      cases inRight with
      | deal restedRight dealingRight onwardRight =>
          obtain ⟨outcome, entered⟩ := dealing
          obtain ⟨outcomeRight, enteredRight⟩ := dealingRight
          obtain ⟨persistsDealt, dealtRight, ran, sameDealt⟩ :=
            insular.judges_enterStack depth stack _ _ _ outcome _ (persists.of_sameIn rested)
              ((rested.symm.trans same).trans restedRight) entered
          rw [enteredRight] at ran
          cases ran
          exact inductionHypothesis onwardRight persistsDealt sameDealt

/-- In two runs in which the same concerns a group, whatever else comes up to the
demultiplexers, whatever other groups there are, and whatever is refused elsewhere, the same
enters the group's stack, and between that nothing is done to what belongs to the group. If
the group keeps to itself, all that it has is the same in the end, and so is all that those
have recorded who receive what is for its forks. -/
theorem groups_isolated
    {left right : Neighborhood}
    {leftArriving rightArriving : List Traffic}
    {leftBefore leftAfter rightBefore rightAfter : Store}
    (inLeft : tenant.Passes left depth leftArriving leftBefore leftAfter)
    (inRight : tenant.Passes right depth rightArriving rightBefore rightAfter)
    (leftNamed : ∀ traffic ∈ leftArriving, traffic.NamesGroups)
    (rightNamed : ∀ traffic ∈ rightArriving, traffic.NamesGroups)
    (concerns : leftArriving.filterMap (Traffic.concern? tenant.group) =
      rightArriving.filterMap (Traffic.concern? tenant.group))
    (same : tenant.own.SameIn leftBefore rightBefore) :
    (∃ entering, entering = leftArriving.filterMap (Traffic.concern? tenant.group) ∧
      Interleaved (tenant.Enters depth) tenant.own.SameIn entering leftBefore leftAfter ∧
      Interleaved (tenant.Enters depth) tenant.own.SameIn entering rightBefore rightAfter) ∧
    (tenant.KeepsToItself leftBefore →
      tenant.own.SameIn leftAfter rightAfter ∧
      ∀ member fork agent, leftBefore.liveMember? tenant.stack member = some fork →
        (leftBefore.forks.get fork).receiver? = some agent →
          (rightAfter.agents.get agent).entries = (leftAfter.agents.get agent).entries) := by
  have leftEntered := inLeft.entered leftNamed
  have rightEntered := inRight.entered rightNamed
  rw [← concerns] at rightEntered
  refine ⟨⟨_, rfl, leftEntered, rightEntered⟩, fun keeps => ?_⟩
  have persists : tenant.own.Persists leftBefore leftBefore :=
    { keeps.closed with manners := fun _ _ => rfl }
  have sameAfter := sameIn_of_entered keeps.stack keeps.insular leftEntered rightEntered
    persists same
  refine ⟨sameAfter, fun member fork agent bound receives => ?_⟩
  have listed : fork ∈ (leftBefore.groups.get tenant.stack).members.values :=
    Registry.mem_values_iff.mpr ⟨member, (Option.filter_eq_some_iff.mp bound).1⟩
  have isFork := keeps.closed.forks tenant.stack keeps.stack fork listed
  rw [(sameAfter.agents agent (keeps.closed.takers fork isFork agent receives)).content]

/-! ### A group with and without others -/

/-- A fork over the first node, for the one member of a group. -/
def planFor (group : String) (receiver : Ref .agent) : ForkPlan where
  node? := some ⟨0⟩
  group? := some group
  member? := some "m"
  receiver? := some receiver

/-- A node with one fork. -/
def settling : List Action :=
  [.addAgent .recording, .addAgent (.whole "small" (some 0)), .addStage "gate" .refusingUp,
    .addNode "a" "a" (.filled 1) "net" [], .buildFork (planFor "g" ⟨0⟩) "first"]

/-- The group of the fork. -/
def settled : Tenant where
  group := "g"
  stack := ⟨0⟩
  own := ⟨[⟨0⟩], [⟨1⟩], [⟨2⟩, ⟨3⟩], [⟨0⟩], [⟨0⟩]⟩

/-- There is another group, whose stack refuses everything, and whoever takes what leaves the
top of the node's pipeline refuses batches. -/
def crowded : Store :=
  (Store.run? {} (settling ++ [.buildFork { planFor "e" ⟨1⟩ with stages := [⟨0⟩] } "second",
    .setReceiver ⟨0⟩ ⟨1⟩])).getD {}

def crowd : Neighborhood where
  hub := ⟨1⟩
  shared := ⟨0⟩
  others := ⟨[⟨1⟩], [⟨2⟩], [⟨0⟩, ⟨4⟩, ⟨5⟩], [⟨1⟩], [⟨1⟩]⟩

/-- There is no other group, but above the demultiplexer everything is refused. -/
def gated : Store :=
  (Store.run? {} (settling ++ [.insertStage ⟨0⟩ ⟨0⟩ .top])).getD {}

def gate : Neighborhood where
  hub := ⟨1⟩
  shared := ⟨0⟩
  others := ⟨[], [], [⟨0⟩], [], []⟩

/-- A message of one octet. -/
def letter (content : Nat) : Message := { payload := [UInt8.ofNat content] }

/-- What comes for both groups and for nobody in particular. -/
def crowdArriving : List Traffic :=
  [.batch
      { sender := .filled 2
        cluster := "k"
        messages := [letter 1, (letter 2).putRouting (.between "e" "m"),
          (letter 3).putRouting (.between "g" "m"), (letter 4).putRouting (.between "e" "m")] },
    .single (.message ((letter 5).putRouting (.between "e" "m"))),
    .single (.viewChange { creator := .filled 1, id := 1, members := [.filled 1] }),
    .single (.message (letter 6)), .single (.message ((letter 7).putRouting (.between "g" "m")))]

/-- What comes for the one group is the same, and the rest is different. -/
def gateArriving : List Traffic :=
  [.single (.message (letter 8)),
    .batch
      { sender := .filled 2
        cluster := "k"
        messages := [(letter 3).putRouting (.between "g" "m"),
          (letter 9).putRouting (.between "x" "m")] },
    .single (.viewChange { creator := .filled 1, id := 1, members := [.filled 1] }),
    .single (.message ((letter 7).putRouting (.between "g" "m")))]

theorem sameIn_settled : settled.own.SameIn crowded gated where
  groups stack inside := by
    rw [List.mem_singleton.mp inside]
    with_unfolding_all rfl
  pipelines := by decide +kernel
  receivers := by decide +kernel
  stages stage inside := by
    simp only [settled, List.mem_cons, List.not_mem_nil, or_false] at inside
    rcases inside with rfl | rfl
    · exact ⟨by with_unfolding_all rfl, by decide +kernel⟩
    · exact ⟨by with_unfolding_all rfl, by decide +kernel⟩
  living := by decide +kernel
  takers := by decide +kernel
  agents agent inside := by
    rw [List.mem_singleton.mp inside]
    exact ⟨by with_unfolding_all rfl, by decide +kernel⟩

theorem keepsToItself_settled : settled.KeepsToItself crowded where
  stack := by decide
  closed := by decide +kernel
  insular := by
    apply Region.insular_of_passive
    intro agent inside
    have isRecording : (crowded.agents.get ⟨0⟩).manner = .recording := by
      with_unfolding_all rfl
    rw [List.mem_singleton.mp inside, isRecording]
    exact Manner.recording_quiet.contained.passive

theorem secluded_crowd : settled.SecludedIn crowd crowded where
  registered := by decide +kernel
  others := Store.of_stackOf? (by decide +kernel)
  above := by decide +kernel
  receiver := by decide +kernel
  closed := by decide +kernel
  spares := by
    refine Region.spares_of_passive (fun agent inside => ?_) (by decide)
    have isSmall : (crowded.agents.get ⟨1⟩).manner = .whole "small" (some 0) := by
      with_unfolding_all rfl
    rw [List.mem_singleton.mp inside, isSmall]
    exact (Manner.whole_contained "small" (some 0)).passive
  hubApart := by decide
  apart := by decide

theorem secluded_gate : settled.SecludedIn gate gated where
  registered := by decide +kernel
  others := Store.of_stackOf? (by decide +kernel)
  above := by decide +kernel
  receiver := by decide +kernel
  closed := by decide +kernel
  spares := Region.spares_of_passive (fun _ nobody => absurd nobody List.not_mem_nil) (by decide)
  hubApart := by decide
  apart := by decide

/-- The fork receives the same batch, view and message, although in one of the runs another
group and whoever is at the top refuse theirs, and in the other one whatever passes the
demultiplexer is refused. -/
theorem groups_isolated_settled :
    ∃ leftAfter rightAfter entering,
      crowded.run? (crowdArriving.map fun traffic => .travel (.up ⟨0⟩ traffic)) =
        some leftAfter ∧
      gated.run? (gateArriving.map fun traffic => .travel (.up ⟨0⟩ traffic)) =
        some rightAfter ∧
      Interleaved (settled.Enters (depthLimit - 1)) settled.own.SameIn entering crowded
        leftAfter ∧
      Interleaved (settled.Enters (depthLimit - 1)) settled.own.SameIn entering gated
        rightAfter ∧
      entering.length = 3 ∧ (leftAfter.agents.get ⟨0⟩).entries.length = 3 ∧
      (rightAfter.agents.get ⟨0⟩).entries = (leftAfter.agents.get ⟨0⟩).entries := by
  obtain ⟨leftAfter, ranLeft⟩ := Option.isSome_iff_exists.mp
    (by decide +kernel : (crowded.run? (crowdArriving.map fun traffic =>
      .travel (.up ⟨0⟩ traffic))).isSome = true)
  obtain ⟨rightAfter, ranRight⟩ := Option.isSome_iff_exists.mp
    (by decide +kernel : (gated.run? (gateArriving.map fun traffic =>
      .travel (.up ⟨0⟩ traffic))).isSome = true)
  have recorded : ((crowded.run? (crowdArriving.map fun traffic =>
      .travel (.up ⟨0⟩ traffic))).map fun after => (after.agents.get ⟨0⟩).entries.length) =
      some 3 := by decide +kernel
  rw [ranLeft] at recorded
  have lowestLeft : crowded.stagesOf crowd.shared = crowd.hub :: [] := by decide +kernel
  have lowestRight : gated.stagesOf gate.shared = gate.hub :: [⟨0⟩] := by decide +kernel
  obtain ⟨⟨entering, isEntering, inLeft, inRight⟩, keeps⟩ := groups_isolated
    (passes_of_run? secluded_crowd lowestLeft ranLeft)
    (passes_of_run? secluded_gate lowestRight ranRight)
    (by decide +kernel) (by decide +kernel) (by decide +kernel) sameIn_settled
  have same := (keeps keepsToItself_settled).2 "m" ⟨0⟩ ⟨0⟩ (by decide +kernel)
    (by decide +kernel)
  refine ⟨leftAfter, rightAfter, entering, ranLeft, ranRight, inLeft, inRight, ?_,
    Option.some.inj recorded, same⟩
  rw [isEntering]
  decide +kernel

end Tenant

end ChannelMux
