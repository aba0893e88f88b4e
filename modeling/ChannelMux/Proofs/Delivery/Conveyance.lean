import ChannelMux.Proofs.Delivery.Descending
import ChannelMux.Proofs.Delivery.Dispatching

/-!
Contract: what a discipline has to allow for so that it judges journeys.

Owns the pieces of which every journey is made: what stages record and demultiplexers count,
what forks, receivers and outlets are handed, what nodes count, and the entering of other
pipelines. A discipline that allows for each of these pieces judges what is made of them, if
stores agree only when they are the same. What demultiplexers count may be left out: then what
they do with traffic has to be judged as a whole.

A discipline may be for everything that travels or only for what carries no message.
-/

namespace ChannelMux

/-- A node without what it has counted. -/
def Node.uncounted (node : Node) : Node := { node with counters := {} }

namespace Discipline

/-- The discipline allows for everything that journeys are made of, but for what demultiplexers
count. -/
structure Carries (discipline : Discipline) (inner other : Entrances) (forMessages : Prop) :
    Prop where
  same : ∀ {left right}, discipline.agrees left right → left = right
  conducts : ∀ {store stage conduct}, discipline.holds store →
    (store.stages.get stage).role = .custom conduct → forMessages ∨ conduct.Transparent
  records : ∀ stage entry,
    discipline.judges (Run.recordStage stage entry) (Run.recordStage stage entry)
  carries : ∀ node change, (∀ record, Node.uncounted (change record) = record.uncounted) →
    discipline.judges
      (MonadState.modifyGet fun store : Store => ((), store.modifyNode node change))
      (MonadState.modifyGet fun store : Store => ((), store.modifyNode node change))
  hands : ∀ {store stack fork traffic}, discipline.holds store → fork ∈ store.liveForks stack →
    traffic.Matters forMessages → traffic.reachesForks = true →
      discipline.judges (Delivery.handFork inner fork traffic)
        (Delivery.handFork other fork traffic)
  leavesTop : ∀ pipeline traffic, traffic.Matters forMessages →
    discipline.judges (Delivery.leaveTop inner pipeline traffic)
      (Delivery.leaveTop other pipeline traffic)
  leavesBottom : ∀ {store pipeline agent event}, discipline.holds store →
    (store.pipelines.get pipeline).outlet? = some (.agent agent) →
    Traffic.Matters forMessages (.single event) →
      discipline.judges (Delivery.tell inner agent (.down event))
        (Delivery.tell other agent (.down event))
  leads : ∀ journey, journey.traffic.Matters forMessages →
    discipline.judges (inner.travel journey) (other.travel journey)

/-- The discipline allows for everything that journeys are made of. -/
structure Conveys (discipline : Discipline) (inner other : Entrances) (forMessages : Prop) : Prop
    extends Carries discipline inner other forMessages where
  counts : ∀ stage change, discipline.judges (Run.count stage change) (Run.count stage change)

variable {discipline : Discipline} {inner other : Entrances} {forMessages : Prop}

namespace Carries

variable (carries : discipline.Carries inner other forMessages)

include carries

/-! ### At stages -/

theorem enterStack
    {traffic : Traffic}
    (matters : traffic.Matters forMessages)
    (stack : Ref .stack) :
    discipline.judges (Delivery.enterStack inner stack traffic)
      (Delivery.enterStack other stack traffic) :=
  discipline.look (fun _ agrees => by rw [carries.same agrees]) fun _ => carries.leads _ matters

/-- Custom stages record things, and what they pass on matters if what they are given does. -/
theorem admitsUp
    {store : Store}
    {stage : Ref .stage}
    {conduct : Conduct}
    {traffic : Traffic}
    (holds : discipline.holds store)
    (custom : (store.stages.get stage).role = .custom conduct)
    (matters : traffic.Matters forMessages) :
    (conduct.up traffic).Admits
      (fun entry =>
        discipline.judges (Run.recordStage stage entry) (Run.recordStage stage entry)) Eq
      fun passed => passed.Matters forMessages := by
  have recordable (entry : StageEntry) :
      discipline.judges (Run.recordStage stage entry) (Run.recordStage stage entry) :=
    carries.records stage entry
  rcases carries.conducts holds custom with given | transparent
  · exact (Script.asks_of_all (fun _ => Or.inl given) _).admits recordable
  · exact ((transparent.up traffic).asks matters).admits recordable

/-- The way up through stages can be judged if what they count can be. -/
theorem lifts
    {stages : Ref .stage → Prop}
    (counts : ∀ stage change, stages stage →
      discipline.judges (Run.count stage change) (Run.count stage change)) :
    discipline.Lifts inner other forMessages stages where
  roles _ _ agrees := by rw [carries.same agrees]
  entries _ _ agrees := by rw [carries.same agrees]
  conducts _ holds custom matters := carries.admitsUp holds custom matters
  counts change counted _ _ := counts _ change counted
  enters _ _ _ matters := carries.enterStack matters _
  members _ _ _ _ agrees := by
    rw [carries.same agrees]
    exact ⟨rfl, rfl⟩
  hands _ _ _ := carries.hands

/-! ### Through a node -/

theorem receive
    {traffic : Traffic}
    (matters : traffic.Matters forMessages)
    (node : Ref .node) :
    discipline.judges (Delivery.receive inner node traffic)
      (Delivery.receive other node traffic) := by
  unfold Delivery.receive
  refine discipline.bind (carries.carries node _ fun _ => rfl) fun _ =>
    discipline.look (fun _ agrees => by rw [carries.same agrees]) fun _ => carries.leads _ matters

theorem delivers (given : forMessages) : discipline.Delivers inner other where
  tables _ agrees := .of_eq (carries.same agrees)
  counts node change unseen := by
    refine carries.carries node change fun record => ?_
    have same := congrArg Node.uncounted (unseen record)
    exact same
  receives target _ _ _ := discipline.ignore (carries.receive (Or.inl given) target)

theorem leaveNode
    {event : Event}
    (matters : Traffic.Matters forMessages (.single event))
    (node : Ref .node) :
    discipline.judges (Delivery.leaveNode inner node event)
      (Delivery.leaveNode other node event) := by
  refine discipline.get (fun _ agrees => by rw [carries.same agrees]) fun _ => ?_
  split
  · split
    · exact (carries.delivers matters.of_message).transmit node _
    · exact discipline.pure _
  · exact discipline.pure _

/-! ### Down a pipeline -/

theorem lowers : discipline.Lowers forMessages (fun _ => True) fun _ => Eq where
  ways _ _ agrees := by rw [carries.same agrees]
  entries _ _ agrees := by rw [carries.same agrees]
  conducts := by
    intro store stage conduct event _ holds custom matters
    have recordable (entry : StageEntry) :
        discipline.judges (Run.recordStage stage entry) (Run.recordStage stage entry) :=
      carries.records stage entry
    rcases carries.conducts holds custom with given | transparent
    · exact (Script.asks_of_all (fun _ => Or.inl given) _).admits recordable
    · exact ((transparent.down event).asks matters).admits recordable

theorem leaveBottom
    {event : Event}
    (matters : Traffic.Matters forMessages (.single event))
    (pipeline : Ref .pipeline) :
    discipline.judges (Delivery.leaveBottom inner pipeline event)
      (Delivery.leaveBottom other pipeline event) := by
  refine discipline.look (fun _ agrees => by rw [carries.same agrees]) fun holds => ?_
  split
  · exact discipline.pure _
  · rename_i agent isOutlet
    exact carries.leavesBottom holds isOutlet matters
  · refine discipline.get (fun _ agrees => by rw [carries.same agrees]) fun _ => ?_
    split
    · exact carries.leads _ matters
    · exact discipline.pure _
  · exact carries.leaveNode matters _
  · refine discipline.get (fun _ agrees => by rw [carries.same agrees]) fun _ => ?_
    split
    · exact carries.leads _ matters
    · exact discipline.pure _

theorem descend
    (pipeline : Ref .pipeline)
    (layers : List (Ref .stage))
    {event : Event}
    (matters : Traffic.Matters forMessages (.single event)) :
    discipline.judges (Delivery.descend inner pipeline layers event)
      (Delivery.descend other pipeline layers event) :=
  carries.lowers.descend (fun _ passed => carries.leaveBottom passed pipeline)
    (fun _ _ => trivial) matters

/-! ### Past demultiplexers -/

section Demultiplexers

variable (demultiplexes : ∀ stage {passUp passOther : Traffic → Run Outcome} {traffic : Traffic},
  (∀ traffic : Traffic, traffic.Matters forMessages →
    discipline.judges (passUp traffic) (passOther traffic)) →
  traffic.Matters forMessages →
    discipline.judges (Delivery.demultiplex inner stage passUp traffic)
      (Delivery.demultiplex other stage passOther traffic))

include demultiplexes

/-- The way up through stages can be judged if what demultiplexers do can be. -/
theorem climbs
    (pipeline : Ref .pipeline)
    (layers : List (Ref .stage))
    {traffic : Traffic}
    (matters : traffic.Matters forMessages) :
    discipline.judges (Delivery.ascend inner pipeline layers traffic)
      (Delivery.ascend other pipeline layers traffic) := by
  induction layers generalizing traffic with
  | nil => exact carries.leavesTop pipeline traffic matters
  | cons stage above inductionHypothesis =>
      have passes (passed : Traffic) (passedMatters : passed.Matters forMessages) :=
        inductionHypothesis passedMatters
      refine discipline.look (fun _ agrees => by rw [carries.same agrees]) fun holds => ?_
      split
      · rename_i conduct custom
        exact discipline.perform (carries.admitsUp holds custom matters)
          (fun _ agrees => by rw [carries.same agrees]) passes
      · exact demultiplexes stage passes matters
      · exact passes traffic matters
      · rename_i stack _
        have hands : discipline.Hands inner other forMessages stack :=
          ⟨fun _ agrees => by rw [carries.same agrees]; exact ⟨rfl, rfl⟩, carries.hands⟩
        exact hands.takeAtGroupTop matters

/-- Journeys can be judged if what demultiplexers do can be. -/
theorem travel
    (journey : Journey)
    (matters : journey.traffic.Matters forMessages) :
    discipline.judges (Delivery.travel inner journey) (Delivery.travel other journey) := by
  cases journey with
  | up pipeline traffic =>
      exact discipline.look (fun _ agrees => by rw [carries.same agrees])
        fun _ => carries.climbs demultiplexes pipeline _ matters
  | down pipeline event =>
      exact discipline.look (fun _ agrees => by rw [carries.same agrees])
        fun _ => carries.descend pipeline _ matters
  | downFrom pipeline stage event =>
      refine discipline.get (fun _ agrees => by rw [carries.same agrees]) fun _ => ?_
      split
      · exact carries.descend pipeline _ matters
      · exact discipline.pure _

end Demultiplexers

end Carries

/-! ### Everything -/

/-- A discipline that allows for what journeys are made of judges them. -/
theorem Conveys.travel
    (conveys : discipline.Conveys inner other forMessages)
    (journey : Journey)
    (matters : journey.traffic.Matters forMessages) :
    discipline.judges (Delivery.travel inner journey) (Delivery.travel other journey) := by
  have lifts : discipline.Lifts inner other forMessages fun _ => True :=
    conveys.lifts fun stage change _ => conveys.counts stage change
  exact conveys.toCarries.travel
    (fun stage _ _ _ => lifts.demultiplex trivial (conveys.counts stage)) journey matters

end Discipline

end ChannelMux
