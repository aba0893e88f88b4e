import ChannelMux.Delivery.Group
import ChannelMux.Delivery.Demultiplexer

/-!
Contract: the way up a pipeline.

Owns the passing of traffic from stage to stage and on to the receiver at the top. The
stages are those that the pipeline has when the traffic enters; the receiver is the one
that it has when the traffic gets there.
-/

namespace ChannelMux.Delivery

/-- Takes traffic at a stage; `passUp` is the way on. -/
def ascendStage (inner : Entrances) (stage : Ref .stage) (passUp : Traffic → Run Outcome)
    (traffic : Traffic) : Run Outcome := do
  match (← Run.look fun store => (store.stages.get stage).role) with
  | .custom conduct =>
      (conduct.up traffic).perform (Run.recordStage stage)
        (Run.look fun store => (store.stages.get stage).entries) passUp
  | .demultiplexer _ => demultiplex inner stage passUp traffic
  | .groupBottom _ => passUp traffic
  | .groupTop stack => takeAtGroupTop inner stack traffic

def leaveTop (inner : Entrances) (pipeline : Ref .pipeline) (traffic : Traffic) :
    Run Outcome := do
  hand inner (← Run.look fun store => (store.pipelines.get pipeline).receiver?) traffic

/-- Takes traffic up through the listed stages, bottom first, and out at the top. -/
def ascend (inner : Entrances) (pipeline : Ref .pipeline) :
    List (Ref .stage) → Traffic → Run Outcome
  | [], traffic => leaveTop inner pipeline traffic
  | stage :: above, traffic =>
      ascendStage inner stage (ascend inner pipeline above) traffic

end ChannelMux.Delivery
