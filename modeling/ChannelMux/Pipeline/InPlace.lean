import ChannelMux.Pipeline.Edit

/-!
Contract: editing a pipeline in the one store there is.

Owns the two ways of putting a stage into a pipeline, change by change: where it goes is known
before anything is changed, and a stage is made before it is put there. Owns the performing
of any number of such edits, whatever comes of each.
-/

namespace ChannelMux

/-- Work on the one store there is, until a stage cannot be placed. -/
abbrev Editing := ExceptT Refusal (StateM Store)

namespace Editing

/-- Puts a stage into a pipeline. -/
def insertStage (pipeline : Ref .pipeline) (stage : Ref .stage) (placement : Placement) :
    Editing Unit := do
  let index ← (← get).insertionIndex pipeline placement
  modify (·.insertAt pipeline index stage)

/-- The first stage from the bottom with a property, or else a new stage, which is made and
put into the pipeline. Says whether it was. -/
def findOrInsert (pipeline : Ref .pipeline) (property : Stage → Bool)
    (make : Store → Ref .stage × Store) (placement : Placement) :
    Editing (Ref .stage × Bool) := do
  match (← get).findStage? pipeline property with
  | some stage => return (stage, false)
  | none =>
      let index ← (← get).insertionIndex pipeline placement
      let stage ← modifyGet make
      modify (·.insertAt pipeline index stage)
      return (stage, true)

/-- What comes of an edit that is made all at once or not at all. -/
def settle {α : Type} (store : Store) : Except Refusal (α × Store) → Except Refusal α × Store
  | .ok (value, after) => (.ok value, after)
  | .error refusal => (.error refusal, store)

end Editing

/-- An edit of a pipeline: a stage is put into it, or one with a property is looked for and
put into it if there is none. -/
inductive Edit where
  | insert (stage : Ref .stage) (placement : Placement)
  | ensure (property : Stage → Bool) (make : Store → Ref .stage × Store) (placement : Placement)

namespace Edit

/-- The stage that an edit is about in the end, and whether it was put into the pipeline. -/
def perform (pipeline : Ref .pipeline) : Edit → Editing (Ref .stage × Bool)
  | insert stage placement => do
      Editing.insertStage pipeline stage placement
      return (stage, true)
  | ensure property make placement => Editing.findOrInsert pipeline property make placement

/-- The store after edits, each made whatever came of those before it. -/
def performAll (pipeline : Ref .pipeline) : List Edit → Store → Store
  | [], store => store
  | edit :: edits, store => performAll pipeline edits (edit.perform pipeline store).2

end Edit

end ChannelMux
