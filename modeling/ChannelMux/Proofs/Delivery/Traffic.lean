import ChannelMux.Proofs.Delivery.Conveyance

/-!
Contract: rules for traffic that allow for whatever is recorded and counted.

Owns the rules that look at nothing that stages record, demultiplexers and nodes count and
views say. Such a rule governs every journey, provided that it governs the telling of agents
and the journeys that lead on into other pipelines.
-/

namespace ChannelMux

/-- A rule for traffic: it allows for what is recorded and counted on the way, and if it is
not for messages then no stage makes a message of anything else. -/
structure TrafficRule extends Rule where
  /-- Whether the rule is for traffic that carries messages, too. -/
  forMessages : Prop
  conducts : ∀ {store stage conduct}, holds store →
    (store.stages.get stage).role = .custom conduct → forMessages ∨ conduct.Transparent
  bookkeeping : ∀ {before after}, holds before → after.shape = before.shape →
    after.agents = before.agents → relates before after

namespace TrafficRule

/-- The rule is for this traffic. -/
def Admits (rule : TrafficRule) (traffic : Traffic) : Prop := traffic.Matters rule.forMessages

/-- The rule governs what lies beyond a pipeline: agents, and the pipelines led on into. -/
structure Surrounds (rule : TrafficRule) (inner : Entrances) : Prop where
  tells : ∀ agent notice, rule.forMessages ∨ notice.carriesMessage = false →
    rule.Governs (Delivery.tell inner agent notice)
  leads : ∀ journey, rule.Admits journey.traffic → rule.Governs (inner.travel journey)

variable {rule : TrafficRule}

/-! ### What is recorded and counted -/

theorem governs_recordStage (stage : Ref .stage) (entry : StageEntry) :
    rule.Governs (Run.recordStage stage entry) :=
  Rule.modify fun store holds =>
    rule.bookkeeping holds (Store.shape_recordStage store stage entry) rfl

theorem governs_count (stage : Ref .stage)
    (change : DemultiplexerCounters → DemultiplexerCounters) :
    rule.Governs (Run.count stage change) :=
  Rule.modify fun store holds => rule.bookkeeping holds (Store.shape_count store stage change) rfl

theorem governs_modifyNode
    {change : Node → Node}
    (unseen : ∀ record, (change record).bare = record.bare)
    (node : Ref .node) :
    rule.Governs (modify fun store : Store => store.modifyNode node change) :=
  Rule.modify fun store holds =>
    rule.bookkeeping holds (Store.shape_modifyNode unseen store node) rfl

/-! ### Journeys -/

section Surroundings

variable {inner : Entrances}

theorem governs_hand (surrounds : rule.Surrounds inner) {traffic : Traffic}
    (admits : rule.Admits traffic) (receiver? : Option (Ref .agent)) :
    rule.Governs (Delivery.hand inner receiver? traffic) := by
  cases receiver? with
  | none => exact Rule.pure _
  | some agent => exact surrounds.tells agent (.up traffic) admits

theorem governs_handFork (surrounds : rule.Surrounds inner) {traffic : Traffic}
    (admits : rule.Admits traffic) (fork : Ref .fork) :
    rule.Governs (Delivery.handFork inner fork traffic) :=
  Rule.look fun _ _ => governs_hand surrounds admits _

/-- What surrounds pipelines is all that is left to allow for. -/
theorem Surrounds.conveys (surrounds : rule.Surrounds inner) :
    rule.discipline.Conveys inner inner rule.forMessages where
  same agrees := agrees
  conducts := rule.conducts
  records := governs_recordStage
  counts := governs_count
  carries node change unseen := by
    refine governs_modifyNode (fun record => ?_) node
    have same := congrArg Node.bare (unseen record)
    exact same
  hands _ _ matters _ := governs_handFork surrounds matters _
  leavesTop _ _ matters := Rule.look fun _ _ => governs_hand surrounds matters _
  leavesBottom _ _ matters := surrounds.tells _ _ matters
  leads := surrounds.leads

theorem governs_receive (surrounds : rule.Surrounds inner) {traffic : Traffic}
    (admits : rule.Admits traffic) (node : Ref .node) :
    rule.Governs (Delivery.receive inner node traffic) :=
  surrounds.conveys.receive admits node

/-- A rule that surrounds a journey governs it. -/
theorem governs_travel (surrounds : rule.Surrounds inner) (journey : Journey)
    (admits : rule.Admits journey.traffic) :
    rule.Governs (Delivery.travel inner journey) :=
  surrounds.conveys.travel journey admits

end Surroundings

end TrafficRule

end ChannelMux
