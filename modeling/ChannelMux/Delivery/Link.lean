import ChannelMux.Delivery.Ascent
import ChannelMux.Delivery.Descent

/-!
Contract: dispatch link by link.

Owns chains of stages between a handler at the top and a sink at the bottom, whatever these
are, the ways into a chain, and the links by which a stage passes things on to its neighbors.
A link is the index of its stage; no list is taken apart.
-/

namespace ChannelMux.Delivery

/-- Stages, bottom first, with what takes what leaves them at the top and at the bottom. -/
structure Chain where
  name : String
  stages : List (Ref .stage)
  top : Traffic → Run Outcome
  bottom : Event → Run Outcome

namespace Chain

/-- Passes traffic on from the stage at an index: to the stage above, or to the handler. -/
def passUp (inner : Entrances) (chain : Chain) (index : Nat) (traffic : Traffic) :
    Run Outcome :=
  match _ : chain.stages[index + 1]? with
  | some stage => ascendStage inner stage (passUp inner chain (index + 1)) traffic
  | none => chain.top traffic
termination_by chain.stages.length - index
decreasing_by
  have below := (List.getElem?_eq_some_iff.mp ‹_›).1
  omega

/-- Takes traffic at the bottom stage. -/
def up (inner : Entrances) (chain : Chain) (traffic : Traffic) : Run Outcome :=
  match chain.stages.head? with
  | some first => ascendStage inner first (passUp inner chain 0) traffic
  | none => chain.top traffic

/-- Takes an event at the stage at an index; there is no other than those of the chain. -/
def takeDown (chain : Chain) (index : Nat) (passDown : Event → Run Outcome) (event : Event) :
    Run Outcome :=
  match chain.stages[index]? with
  | some stage => descendStage stage passDown event
  | none => fun _ => none

/-- Passes an event on from the stage at an index: to the stage below, or to the sink. -/
def passDown (chain : Chain) : (index : Nat) → Event → Run Outcome
  | 0, event => chain.bottom event
  | previous + 1, event => chain.takeDown previous (passDown chain previous) event

/-- Takes an event at the top stage. -/
def down (chain : Chain) (event : Event) : Run Outcome :=
  match chain.stages.length with
  | 0 => chain.bottom event
  | top + 1 => chain.takeDown top (chain.passDown top) event

/-- Takes an event at a stage of the chain, the lowest one if it is there more than once. -/
def downAt (chain : Chain) (stage : Ref .stage) (event : Event) : Run Outcome :=
  match chain.stages.findIdx? (fun other => other == stage) with
  | some index => chain.takeDown index (chain.passDown index) event
  | none => do
      return .error (.detached chain.name
        (← Run.look fun store => (store.stages.get stage).name))

/-- A pipeline as it is: its stages, its receiver and its outlet. -/
def ofPipeline (inner : Entrances) (store : Store) (pipeline : Ref .pipeline) : Chain where
  name := (store.pipelines.get pipeline).name
  stages := store.stagesOf pipeline
  top := leaveTop inner pipeline
  bottom := leaveBottom inner pipeline

end Chain

end ChannelMux.Delivery
