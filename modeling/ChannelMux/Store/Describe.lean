import ChannelMux.Store.Liveness
import ChannelMux.Text.Quoted

/-!
Contract: one-line descriptions of things, for people who debug.

Owns the form of a description: the kind of the thing, then some of its fields in braces,
two dots standing for the fields that are left out.
-/

namespace ChannelMux.Store

/-- Quoted texts in brackets. -/
def describeTexts (texts : List String) : String :=
  "[" ++ ", ".intercalate (texts.map Text.quote) ++ "]"

/-- A kind and its fields in braces. -/
def describeRecord (kind : String) (fields : List String) : String :=
  kind ++ " \x7b " ++ ", ".intercalate fields ++ " \x7d"

/-- The word for a status. -/
def describeStatus : Status → String
  | .opened => "Open"
  | .connecting => "Connecting"
  | .connected => "Connected"
  | .closed => "Closed"

/-- Describes a pipeline by its name and stages. -/
def describePipeline (store : Store) (pipeline : Ref .pipeline) : String :=
  describeRecord "Pipeline"
    ["name: " ++ Text.quote (store.pipelines.get pipeline).name,
      "stages: " ++ describeTexts (store.stageNames pipeline), ".."]

/-- Describes the stack of a group by its group, stages and lasting members. -/
def describeStack (store : Store) (stack : Ref .stack) : String :=
  let record := store.groups.get stack
  describeRecord "ForkStack"
    ["group_id: " ++ Text.quote record.group,
      "stages: " ++ describeTexts (store.stageNames record.pipeline),
      "members: " ++ describeTexts (store.liveMembers stack)]

/-- Describes a fork by its group, member and status. -/
def describeFork (store : Store) (fork : Ref .fork) : String :=
  let record := store.forks.get fork
  describeRecord "ForkChannel"
    ["group_id: " ++ Text.quote record.group, "member_id: " ++ Text.quote record.member,
      "status: " ++ describeStatus record.status, ".."]

/-- Describes a stage by its name. -/
def describeStage (store : Store) (stage : Ref .stage) : String :=
  "Stage(" ++ Text.quote (store.stages.get stage).name ++ ")"

end ChannelMux.Store
