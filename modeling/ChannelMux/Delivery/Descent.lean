import ChannelMux.Delivery.Group
import ChannelMux.Delivery.Transport

/-!
Contract: the way down a pipeline.

Owns the passing of events from stage to stage and on to the outlet at the bottom. The
stages are those that the pipeline has when the event enters; the outlet is the one that
it has when the event gets there.
-/

namespace ChannelMux.Delivery

/-- Takes an event at a stage; `passDown` is the way on. -/
def descendStage (stage : Ref .stage) (passDown : Event → Run Outcome) (event : Event) :
    Run Outcome := do
  match (← Run.look fun store => (store.stages.get stage).role) with
  | .custom conduct =>
      (conduct.down event).perform (Run.recordStage stage)
        (Run.look fun store => (store.stages.get stage).entries) passDown
  | .groupBottom group => passDown (nameGroup group event)
  | .demultiplexer _ | .groupTop _ => passDown event

/-- Hands an event to the outlet at the bottom of a pipeline. -/
def leaveBottom (inner : Entrances) (pipeline : Ref .pipeline) (event : Event) :
    Run Outcome := do
  let record ← Run.look fun store => store.pipelines.get pipeline
  match record.outlet? with
  | none => return .error (.noOutlet record.name)
  | some (.agent agent) => tell inner agent (.down event)
  | some (.loop target) =>
      if (← get).isPipelineAlive target then inner.travel (.up target (.single event))
      else return .error (.transport .loopGone)
  | some (.transport node) => leaveNode inner node event
  | some (.anchor shared stage) =>
      if (← get).isAnchorAlive shared stage then inner.travel (.downFrom shared stage event)
      else return .error (.transport .sharedPipelineGone)

/-- Takes an event down through the listed stages, top first, and out at the bottom. -/
def descend (inner : Entrances) (pipeline : Ref .pipeline) :
    List (Ref .stage) → Event → Run Outcome
  | [], event => leaveBottom inner pipeline event
  | stage :: below, event => descendStage stage (descend inner pipeline below) event

/-- The stages of a list up to and including the first occurrence of one. -/
def upTo? (stage : Ref .stage) : List (Ref .stage) → Option (List (Ref .stage))
  | [] => none
  | head :: tail =>
      if head = stage then some [head] else (upTo? stage tail).map (head :: ·)

def descendFrom (inner : Entrances) (pipeline : Ref .pipeline) (stage : Ref .stage)
    (event : Event) : Run Outcome := do
  let store ← get
  match upTo? stage (store.stagesOf pipeline) with
  | some stages => descend inner pipeline stages.reverse event
  | none =>
      return .error (.detached (store.pipelines.get pipeline).name (store.stages.get stage).name)

end ChannelMux.Delivery
