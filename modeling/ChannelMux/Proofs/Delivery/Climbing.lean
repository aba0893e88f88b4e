import ChannelMux.Delivery.Enter
import ChannelMux.Proofs.Delivery.Discipline
import ChannelMux.Proofs.Registry
import ChannelMux.Proofs.Store.Shape

/-!
Contract: what has to be known of stages so that the way up through them can be judged.

Owns what a discipline has to judge at the stages of a pipeline, which is what they record and
count and what becomes of what they hand to forks and let into stacks, and that this is all
there is to the way up through them. Owns the kinds of traffic that matter to it: everything,
or only what carries no message.
-/

namespace ChannelMux

/-! ### Traffic -/

/-- Whether traffic carries a message. -/
def Traffic.carriesMessage : Traffic → Bool
  | .single (.message _) => true
  | .single _ => false
  | .batch _ => true

/-- Whether a stack hands traffic of this kind to forks. -/
def Traffic.reachesForks : Traffic → Bool
  | .single (.message _) => true
  | .single (.viewChange _) => true
  | .single _ => false
  | .batch _ => true

/-- Whether somebody is told of a message. -/
def Notice.carriesMessage : Notice → Bool
  | .up traffic => traffic.carriesMessage
  | .down event => (Traffic.single event).carriesMessage
  | .status _ _ => false

/-- What makes a journey. -/
def Journey.traffic : Journey → Traffic
  | .up _ traffic => traffic
  | .down _ event => .single event
  | .downFrom _ _ event => .single event

/-- What is dealt with: everything, or what carries no message. -/
def Traffic.Matters (forMessages : Prop) (traffic : Traffic) : Prop :=
  forMessages ∨ traffic.carriesMessage = false

namespace Traffic

variable {forMessages : Prop}

theorem Matters.of_message
    {message : Message}
    (matters : Matters forMessages (.single (.message message))) :
    forMessages := by
  rcases matters with given | silent
  · exact given
  · cases silent

theorem Matters.of_batch {batch : Batch} (matters : Matters forMessages (.batch batch)) :
    forMessages := by
  rcases matters with given | silent
  · exact given
  · cases silent

/-- The name of a group goes on messages alone. -/
theorem Matters.nameGroup
    {event : Event}
    (matters : Matters forMessages (.single event))
    (group : String) :
    Matters forMessages (.single (Delivery.nameGroup group event)) := by
  cases event with
  | message content => exact Or.inl matters.of_message
  | viewChange view => exact matters
  | localAddress address => exact matters
  | suspect address => exact matters

end Traffic

/-! ### What is registered and bound -/

namespace Store

variable {store : Store}

theorem mem_stacksOf_of_stackOf?
    {stage : Ref .stage}
    {group : String}
    {stack : Ref .stack}
    (registered : Delivery.stackOf? store stage group = some stack) :
    stack ∈ Delivery.stacksOf store stage := by
  obtain ⟨state, found, held⟩ := Option.bind_eq_some_iff.mp registered
  unfold Delivery.stacksOf
  rw [found]
  exact Registry.mem_values_iff.mpr ⟨group, held⟩

theorem mem_liveForks_iff {stack : Ref .stack} {fork : Ref .fork} :
    fork ∈ store.liveForks stack ↔ ∃ member, store.liveMember? stack member = some fork := by
  unfold liveForks liveMember?
  simp only [List.mem_filter, Registry.mem_values_iff, Option.filter_eq_some_iff,
    exists_and_right]

end Store

/-- What is listed at a stage is registered there for a group. -/
theorem Store.mem_stacksOf_iff {store : Store} {hub : Ref .stage} {stack : Ref .stack} :
    stack ∈ Delivery.stacksOf store hub ↔
      ∃ group, Delivery.stackOf? store hub group = some stack := by
  unfold Delivery.stacksOf Delivery.stackOf?
  cases store.demultiplexer? hub with
  | none => simp
  | some state => simpa using Registry.mem_values_iff

theorem Store.stacksOf_eq_getD (store : Store) (stage : Ref .stage) :
    Delivery.stacksOf store stage =
      ((store.stages.get stage).role.groups?.map Registry.values).getD [] := by
  unfold Delivery.stacksOf demultiplexer? Stage.demultiplexer?
  cases (store.stages.get stage).role <;> rfl

theorem Store.stacksOf_of_bare_eq
    {before after : Store}
    {stage : Ref .stage}
    (same : (after.stages.get stage).role.bare = (before.stages.get stage).role.bare) :
    Delivery.stacksOf after stage = Delivery.stacksOf before stage := by
  rw [stacksOf_eq_getD, stacksOf_eq_getD, ← Role.groups?_bare, same, Role.groups?_bare]

namespace Discipline

/-- What becomes of traffic at stages of a kind on its way up can be judged. -/
structure Lifts (discipline : Discipline) (inner other : Entrances) (forMessages : Prop)
    (stages : Ref .stage → Prop) : Prop where
  roles : ∀ {left right stage}, stages stage → discipline.holds left →
    discipline.agrees left right →
      (right.stages.get stage).role = (left.stages.get stage).role
  entries : ∀ {left right stage}, stages stage → discipline.holds left →
    discipline.agrees left right →
      (right.stages.get stage).entries = (left.stages.get stage).entries
  conducts : ∀ {store stage conduct traffic}, stages stage → discipline.holds store →
    (store.stages.get stage).role = .custom conduct → traffic.Matters forMessages →
      (conduct.up traffic).Admits
        (fun entry =>
          discipline.judges (Run.recordStage stage entry) (Run.recordStage stage entry)) Eq
        fun passed => passed.Matters forMessages
  counts : ∀ {store stage} change, stages stage → discipline.holds store →
    (store.demultiplexer? stage).isSome →
      discipline.judges (Run.count stage change) (Run.count stage change)
  enters : ∀ {store stage stack traffic}, stages stage → discipline.holds store →
    stack ∈ Delivery.stacksOf store stage → traffic.Matters forMessages →
      discipline.judges (Delivery.enterStack inner stack traffic)
        (Delivery.enterStack other stack traffic)
  members : ∀ {store left right stage stack}, stages stage → discipline.holds store →
    (store.stages.get stage).role = .groupTop stack → discipline.holds left →
    discipline.agrees left right →
      right.liveMember? stack = left.liveMember? stack ∧
        right.liveForks stack = left.liveForks stack
  /-- The fork is bound to the stack whose top the traffic has come to. -/
  hands : ∀ {store later stage stack fork traffic}, stages stage → discipline.holds store →
    (store.stages.get stage).role = .groupTop stack → discipline.holds later →
    fork ∈ later.liveForks stack → traffic.Matters forMessages → traffic.reachesForks = true →
      discipline.judges (Delivery.handFork inner fork traffic)
        (Delivery.handFork other fork traffic)

/-- What can be judged at the top of a stack, when the traffic has got there. -/
structure Hands (discipline : Discipline) (inner other : Entrances) (forMessages : Prop)
    (stack : Ref .stack) : Prop where
  members : ∀ {left right}, discipline.holds left → discipline.agrees left right →
    right.liveMember? stack = left.liveMember? stack ∧
      right.liveForks stack = left.liveForks stack
  judged : ∀ {store fork traffic}, discipline.holds store → fork ∈ store.liveForks stack →
    Traffic.Matters forMessages traffic → traffic.reachesForks = true →
      discipline.judges (Delivery.handFork inner fork traffic)
        (Delivery.handFork other fork traffic)

variable {discipline : Discipline} {inner other : Entrances} {forMessages : Prop}

/-! ### At the top of a stack -/

namespace Hands

variable {stack : Ref .stack} (hands : discipline.Hands inner other forMessages stack)

include hands

theorem handMember
    {message : Message}
    (matters : Traffic.Matters forMessages (.single (.message message))) :
    discipline.judges (Delivery.handMember inner stack message)
      (Delivery.handMember other stack message) := by
  unfold Delivery.handMember
  split
  · exact discipline.pure _
  · rename_i member _
    refine discipline.get (fun holds agrees => by rw [(hands.members holds agrees).1])
      fun holds => ?_
    split
    · exact discipline.pure _
    · rename_i fork found
      exact hands.judged holds (Store.mem_liveForks_iff.mpr ⟨member, found⟩) matters rfl

theorem handMembers
    {batch : Batch}
    (matters : Traffic.Matters forMessages (.batch batch)) :
    discipline.judges (Delivery.handMembers inner stack batch)
      (Delivery.handMembers other stack batch) := by
  refine discipline.forM fun part _ => discipline.get
    (fun holds agrees => by rw [(hands.members holds agrees).1]) fun holds => ?_
  split
  · exact discipline.pure _
  · rename_i fork found
    refine discipline.ignore (hands.judged holds ?_ (Or.inl matters.of_batch) rfl)
    exact Store.mem_liveForks_iff.mpr ⟨part.1, found⟩

theorem handEveryMember
    {event : Event}
    (matters : Traffic.Matters forMessages (.single event))
    (reaches : (Traffic.single event).reachesForks = true) :
    discipline.judges (Delivery.handEveryMember inner stack event)
      (Delivery.handEveryMember other stack event) := by
  refine discipline.look (fun holds agrees => (hands.members holds agrees).2) fun holds => ?_
  refine discipline.forM fun fork alive => discipline.ignore ?_
  exact hands.judged holds alive matters reaches

theorem takeAtGroupTop
    {traffic : Traffic}
    (matters : traffic.Matters forMessages) :
    discipline.judges (Delivery.takeAtGroupTop inner stack traffic)
      (Delivery.takeAtGroupTop other stack traffic) := by
  unfold Delivery.takeAtGroupTop
  split
  · exact hands.handMember matters
  · exact discipline.bind (hands.handEveryMember matters rfl) fun _ => discipline.pure _
  · exact discipline.pure _
  · exact discipline.bind (hands.handMembers matters) fun _ => discipline.pure _

end Hands

/-! ### At a demultiplexer -/

namespace Lifts

variable {stages : Ref .stage → Prop} (lifts : discipline.Lifts inner other forMessages stages)

include lifts

section Demultiplexer

variable {stage : Ref .stage} (allowed : stages stage)
  (counts : ∀ change, discipline.judges (Run.count stage change) (Run.count stage change))
  {passUp passOther : Traffic → Run Outcome}

include allowed counts

theorem route
    {message : Message}
    (passes : discipline.judges (passUp (.single (.message message)))
      (passOther (.single (.message message))))
    (matters : Traffic.Matters forMessages (.single (.message message))) :
    discipline.judges (Delivery.route inner stage passUp message)
      (Delivery.route other stage passOther message) := by
  unfold Delivery.route
  split
  · exact discipline.bind (counts _) fun _ => passes
  · split
    · exact discipline.pure _
    · refine discipline.get (fun holds agrees => ?_) fun holds => ?_
      · rw [Store.stackOf?_of_bare_eq (congrArg Role.bare (lifts.roles allowed holds agrees))]
      split
      · rename_i stack registered
        refine discipline.bind (counts _) fun _ => ?_
        exact lifts.enters allowed holds (Store.mem_stacksOf_of_stackOf? registered) matters
      · exact discipline.bind (counts _) fun _ => discipline.pure _

theorem broadcast
    {event : Event}
    (passes : discipline.judges (passUp (.single event)) (passOther (.single event)))
    (matters : Traffic.Matters forMessages (.single event)) :
    discipline.judges (Delivery.broadcast inner stage passUp event)
      (Delivery.broadcast other stage passOther event) := by
  refine discipline.look
    (fun holds agrees =>
      Store.stacksOf_of_bare_eq (congrArg Role.bare (lifts.roles allowed holds agrees)))
    fun holds => discipline.bind (counts _) fun _ => ?_
  refine discipline.bind (discipline.forM fun stack member => ?_) fun _ => passes
  exact discipline.ignore (lifts.enters allowed holds member matters)

theorem routePart
    {batch : Batch}
    (matters : Traffic.Matters forMessages (.batch batch))
    (part : String × List Message) :
    discipline.judges (Delivery.routePart inner stage batch part)
      (Delivery.routePart other stage batch part) := by
  refine discipline.get (fun holds agrees => ?_) fun holds => ?_
  · rw [Store.stackOf?_of_bare_eq (congrArg Role.bare (lifts.roles allowed holds agrees))]
  split
  · exact counts _
  · rename_i stack registered
    refine discipline.bind (counts _) fun _ => discipline.bind ?_ fun outcome => ?_
    · exact lifts.enters allowed holds (Store.mem_stacksOf_of_stackOf? registered)
        (Or.inl matters.of_batch)
    · split
      · exact discipline.pure _
      · exact counts _

theorem routeBatch
    {batch : Batch}
    (passes : ∀ whole, discipline.judges (passUp (.batch whole)) (passOther (.batch whole)))
    (matters : Traffic.Matters forMessages (.batch batch)) :
    discipline.judges (Delivery.routeBatch inner stage passUp batch)
      (Delivery.routeBatch other stage passOther batch) := by
  unfold Delivery.routeBatch
  dsimp only
  split
  · exact discipline.pure _
  · refine discipline.bind (discipline.forM fun part _ => ?_) fun _ => ?_
    · exact lifts.routePart allowed counts matters part
    · split
      · exact discipline.pure _
      · exact discipline.bind (counts _) fun _ => passes _

theorem demultiplex
    {traffic : Traffic}
    (passes : ∀ traffic : Traffic, traffic.Matters forMessages →
      discipline.judges (passUp traffic) (passOther traffic))
    (matters : traffic.Matters forMessages) :
    discipline.judges (Delivery.demultiplex inner stage passUp traffic)
      (Delivery.demultiplex other stage passOther traffic) := by
  unfold Delivery.demultiplex
  split
  · exact lifts.route allowed counts (passes _ matters) matters
  · split
    · exact lifts.broadcast allowed counts (passes _ matters) matters
    · exact passes _ matters
  · refine lifts.routeBatch allowed counts (fun whole => ?_) matters
    exact passes _ (Or.inl matters.of_batch)

end Demultiplexer

/-! ### Stage by stage -/

theorem ascendStage
    {stage : Ref .stage}
    (allowed : stages stage)
    {passUp passOther : Traffic → Run Outcome}
    {traffic : Traffic}
    (passes : ∀ traffic : Traffic, traffic.Matters forMessages →
      discipline.judges (passUp traffic) (passOther traffic))
    (matters : traffic.Matters forMessages) :
    discipline.judges (Delivery.ascendStage inner stage passUp traffic)
      (Delivery.ascendStage other stage passOther traffic) := by
  refine discipline.look (fun holds agrees => lifts.roles allowed holds agrees) fun holds => ?_
  split
  · rename_i conduct custom
    exact discipline.perform (lifts.conducts allowed holds custom matters)
      (fun holds agrees => (lifts.entries allowed holds agrees).symm) passes
  · rename_i state isHub
    refine lifts.demultiplex allowed (fun change => lifts.counts change allowed holds ?_) passes
      matters
    rw [Store.demultiplexer?_eq_some.mpr isHub]
    rfl
  · exact passes traffic matters
  · rename_i stack isTop
    have hands : discipline.Hands inner other forMessages stack :=
      ⟨lifts.members allowed holds isTop, lifts.hands allowed holds isTop⟩
    exact hands.takeAtGroupTop matters

/-- The way up through stages can be judged if what leaves them at the top can be. -/
theorem ascend_append
    {pipeline : Ref .pipeline}
    {layers : List (Ref .stage)}
    (rest : List (Ref .stage))
    (leaves : ∀ traffic : Traffic, traffic.Matters forMessages →
      discipline.judges (Delivery.ascend inner pipeline rest traffic)
        (Delivery.ascend other pipeline rest traffic))
    (allowed : ∀ stage ∈ layers, stages stage)
    {traffic : Traffic}
    (matters : traffic.Matters forMessages) :
    discipline.judges (Delivery.ascend inner pipeline (layers ++ rest) traffic)
      (Delivery.ascend other pipeline (layers ++ rest) traffic) := by
  induction layers generalizing traffic with
  | nil => exact leaves traffic matters
  | cons stage above inductionHypothesis =>
      refine lifts.ascendStage (allowed stage List.mem_cons_self) ?_ matters
      intro passed passedMatters
      apply inductionHypothesis _ passedMatters
      intro other member
      exact allowed other (List.mem_cons_of_mem _ member)

theorem ascend
    {pipeline : Ref .pipeline}
    (leaves : ∀ traffic : Traffic, traffic.Matters forMessages →
      discipline.judges (Delivery.leaveTop inner pipeline traffic)
        (Delivery.leaveTop other pipeline traffic))
    {layers : List (Ref .stage)}
    (allowed : ∀ stage ∈ layers, stages stage)
    {traffic : Traffic}
    (matters : traffic.Matters forMessages) :
    discipline.judges (Delivery.ascend inner pipeline layers traffic)
      (Delivery.ascend other pipeline layers traffic) := by
  have whole := lifts.ascend_append [] leaves allowed matters
  rwa [List.append_nil] at whole

end Lifts

end Discipline

end ChannelMux
