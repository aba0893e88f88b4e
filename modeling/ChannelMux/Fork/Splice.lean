import ChannelMux.Pipeline.Edit
import ChannelMux.Stage.Stock

/-!
Contract: splicing groups into a shared pipeline.

Owns the finding or creating of a pipeline's demultiplexer and of a group's stack. The
stack of a group is the private pipeline of its own bottom, the given stages and its own
top; it hangs on the demultiplexer's place in the shared pipeline. Stages given for a group
that has a stack already are not used.
-/

namespace ChannelMux.Store

/-- The demultiplexer of a pipeline. If there is none it is created where the placement
says, or missed if it is not to be created. -/
def ensureDemultiplexer (store : Store) (pipeline : Ref .pipeline) (create : Bool)
    (placement : Placement) : Except ForkRefusal (Ref .stage × Store) :=
  if create then
    match store.findOrInsert pipeline (fun stage => stage.demultiplexer?.isSome)
        (fun store => store.addStage .freshDemultiplexer) placement with
    | .ok (stage, _, spliced) => .ok (stage, spliced)
    | .error refusal => .error (.delivery refusal)
  else
    match store.findDemultiplexer? pipeline with
    | some stage => .ok (stage, store)
    | none => .error .demultiplexerMissing

def makeStack (store : Store) (shared : Ref .pipeline) (demultiplexer : Ref .stage)
    (group : String) (stages : List (Ref .stage)) : Ref .stack × Store :=
  let stack := store.groups.next
  let (bottom, withBottom) :=
    store.addStage { name := "fork-bottom", role := .groupBottom group }
  let (top, withTop) :=
    withBottom.addStage { name := "fork-top", role := .groupTop stack }
  let (pipeline, withPipeline) := withTop.addPipeline {
    name := "fork:" ++ group
    stages := bottom :: stages ++ [top]
    outlet? := some (.anchor shared demultiplexer) }
  (stack, { withPipeline with
    groups := withPipeline.groups.add
      { group := group, pipeline := pipeline, isPassthrough := stages.isEmpty } })

def registerStack (store : Store) (demultiplexer : Ref .stage) (group : String)
    (stack : Ref .stack) : Store :=
  store.modifyStage demultiplexer fun stage =>
    match stage.role with
    | .demultiplexer state =>
        { stage with role := .demultiplexer { state with groups := state.groups.put group stack } }
    | _ => stage

/-- The stack that a demultiplexer has for a group. If there is none it is made; if there
is one though a fresh one is asked for, that is refused. -/
def ensureStack (store : Store) (demultiplexer : Ref .stage) (shared : Ref .pipeline)
    (group : String) (stages : List (Ref .stage)) (requireFresh : Bool) :
    Except ForkRefusal (Ref .stack × Store) :=
  match store.demultiplexer? demultiplexer with
  | none => .error .demultiplexerMissing
  | some state =>
      match state.groups.get? group with
      | some stack => if requireFresh then .error (.groupTaken group) else .ok (stack, store)
      | none =>
          let (stack, made) := store.makeStack shared demultiplexer group stages
          .ok (stack, made.registerStack demultiplexer group stack)

end ChannelMux.Store
