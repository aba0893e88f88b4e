import ChannelMux.Placement
import ChannelMux.Store.Basic

/-!
Contract: pipelines and the stages in them.

Owns the search for a stage and the insertion of stages. An insertion that fails changes
nothing, and a search that finds a stage inserts nothing whatever the placement says.
-/

namespace ChannelMux.Store

/-- The first stage from the bottom with a property. -/
def findStage? (store : Store) (pipeline : Ref .pipeline) (property : Stage → Bool) :
    Option (Ref .stage) :=
  (store.stagesOf pipeline).find? (fun stage => property (store.stages.get stage))

def findDemultiplexer? (store : Store) (pipeline : Ref .pipeline) : Option (Ref .stage) :=
  store.findStage? pipeline (fun stage => stage.demultiplexer?.isSome)

/-- Where a placement puts a stage in a pipeline. -/
def insertionIndex (store : Store) (pipeline : Ref .pipeline) (placement : Placement) :
    Except Refusal Nat :=
  match placement.index? (store.stageNames pipeline) with
  | some index => .ok index
  | none => .error (.neighborMissing (placement.neighbor?.getD ""))

def insertAt (store : Store) (pipeline : Ref .pipeline) (index : Nat) (stage : Ref .stage) :
    Store :=
  store.modifyPipeline pipeline fun record =>
    { record with stages := record.stages.insertIdx index stage }

def insertStage (store : Store) (pipeline : Ref .pipeline) (stage : Ref .stage)
    (placement : Placement) : Except Refusal Store := do
  return store.insertAt pipeline (← store.insertionIndex pipeline placement) stage

/-- The first stage from the bottom with a property, or else a new stage, which is made
and inserted where a placement puts it. Says whether it was inserted. -/
def findOrInsert (store : Store) (pipeline : Ref .pipeline) (property : Stage → Bool)
    (make : Store → Ref .stage × Store) (placement : Placement) :
    Except Refusal (Ref .stage × Bool × Store) :=
  match store.findStage? pipeline property with
  | some stage => .ok (stage, false, store)
  | none => do
      let index ← store.insertionIndex pipeline placement
      let (stage, made) := make store
      return (stage, true, made.insertAt pipeline index stage)

end ChannelMux.Store
