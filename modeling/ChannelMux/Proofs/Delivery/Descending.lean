import ChannelMux.Proofs.Delivery.Climbing

/-!
Contract: what has to be known of stages so that the way down through them can be judged.

Owns what a stage does on the way down, whatever it does on the way up, and that what it
records and asks for there is all that there is to the way down through stages. Two stages may
differ on the way up, and in what they remember of it.
-/

namespace ChannelMux

/-- What is done on the way down. -/
inductive Downward where
  | does (down : Event → Script StageEntry Event Outcome)
  | names (group : String)
  | passes

/-- What a role makes a stage do on the way down. -/
def Role.downward : Role → Downward
  | .custom conduct => .does conduct.down
  | .groupBottom group => .names group
  | .demultiplexer _ | .groupTop _ => .passes

namespace Downward

/-- Takes an event at a stage that does this on the way down. -/
def take (stage : Ref .stage) (passDown : Event → Run Outcome) (event : Event) :
    Downward → Run Outcome
  | .does down =>
      (down event).perform (Run.recordStage stage)
        (Run.look fun store => (store.stages.get stage).entries) passDown
  | .names group => passDown (Delivery.nameGroup group event)
  | .passes => passDown event

end Downward

theorem Delivery.descendStage_eq (stage : Ref .stage) (passDown : Event → Run Outcome)
    (event : Event) :
    Delivery.descendStage stage passDown event =
      (Run.look fun store => (store.stages.get stage).role.downward) >>=
        Downward.take stage passDown event := by
  funext store
  rw [Rule.look_apply]
  unfold Delivery.descendStage
  rw [Rule.look_apply]
  cases (store.stages.get stage).role <;> rfl

theorem Delivery.upTo?_of_mem
    {stage : Ref .stage}
    {stages : List (Ref .stage)}
    (member : stage ∈ stages) :
    ∃ kept, Delivery.upTo? stage stages = some kept ∧ ∀ other ∈ kept, other ∈ stages := by
  induction stages with
  | nil => cases member
  | cons head tail inductionHypothesis =>
      unfold upTo?
      by_cases same : head = stage
      · rw [if_pos same]
        refine ⟨[head], rfl, ?_⟩
        intro other isHead
        rw [List.mem_singleton.mp isHead]
        exact List.mem_cons_self
      · rw [if_neg same]
        rcases List.mem_cons.mp member with isHead | inTail
        · exact absurd isHead.symm same
        · obtain ⟨kept, found, listed⟩ := inductionHypothesis inTail
          refine ⟨head :: kept, by rw [found]; rfl, ?_⟩
          intro other isKept
          rcases List.mem_cons.mp isKept with isHead | isLater
          · rw [isHead]
            exact List.mem_cons_self
          · exact List.mem_cons_of_mem _ (listed other isLater)

namespace Discipline

/-- What becomes of events at stages of a kind on their way down can be judged. -/
structure Lowers (discipline : Discipline) (forMessages : Prop) (stages : Ref .stage → Prop)
    (alike : Ref .stage → List StageEntry → List StageEntry → Prop) : Prop where
  ways : ∀ {left right stage}, stages stage → discipline.holds left →
    discipline.agrees left right →
      (right.stages.get stage).role.downward = (left.stages.get stage).role.downward
  /-- Stages remember things that are alike, as far as it matters on the way down. -/
  entries : ∀ {left right stage}, stages stage → discipline.holds left →
    discipline.agrees left right →
      alike stage (left.stages.get stage).entries (right.stages.get stage).entries
  conducts : ∀ {store stage conduct event}, stages stage → discipline.holds store →
    (store.stages.get stage).role = .custom conduct →
    Traffic.Matters forMessages (.single event) →
      (conduct.down event).Admits
        (fun entry =>
          discipline.judges (Run.recordStage stage entry) (Run.recordStage stage entry))
        (alike stage)
        fun passed => Traffic.Matters forMessages (.single passed)

variable {discipline : Discipline} {inner other : Entrances} {forMessages : Prop}
  {stages : Ref .stage → Prop} {alike : Ref .stage → List StageEntry → List StageEntry → Prop}

namespace Lowers

variable (lowers : discipline.Lowers forMessages stages alike)

include lowers

theorem descendStage
    {stage : Ref .stage}
    (allowed : stages stage)
    {passDown passOther : Event → Run Outcome}
    {event : Event}
    (passes : ∀ event, Traffic.Matters forMessages (.single event) →
      discipline.judges (passDown event) (passOther event))
    (matters : Traffic.Matters forMessages (.single event)) :
    discipline.judges (Delivery.descendStage stage passDown event)
      (Delivery.descendStage stage passOther event) := by
  rw [Delivery.descendStage_eq, Delivery.descendStage_eq]
  refine discipline.look (fun holds agrees => lowers.ways allowed holds agrees)
    fun {store} holds => ?_
  cases role : (store.stages.get stage).role with
  | custom conduct =>
      exact discipline.perform (lowers.conducts allowed holds role matters)
        (fun holds agrees => lowers.entries allowed holds agrees) passes
  | groupBottom group => exact passes _ (matters.nameGroup group)
  | demultiplexer state => exact passes event matters
  | groupTop stack => exact passes event matters

/-- The way down through stages can be judged if what leaves it at the bottom can be. -/
theorem descend
    {pipeline : Ref .pipeline}
    (leaves : ∀ event, Traffic.Matters forMessages (.single event) →
      discipline.judges (Delivery.leaveBottom inner pipeline event)
        (Delivery.leaveBottom other pipeline event))
    {layers : List (Ref .stage)}
    (allowed : ∀ stage ∈ layers, stages stage)
    {event : Event}
    (matters : Traffic.Matters forMessages (.single event)) :
    discipline.judges (Delivery.descend inner pipeline layers event)
      (Delivery.descend other pipeline layers event) := by
  induction layers generalizing event with
  | nil => exact leaves event matters
  | cons stage below inductionHypothesis =>
      refine lowers.descendStage (allowed stage List.mem_cons_self) ?_ matters
      intro passed passedMatters
      apply inductionHypothesis _ passedMatters
      intro other member
      exact allowed other (List.mem_cons_of_mem _ member)

end Lowers

end Discipline

end ChannelMux
