import ChannelMux.Address
import ChannelMux.RoutingHeader
import ChannelMux.Encoding.Error
import ChannelMux.Status

/-!
Contract: why something is not delivered, and why a fork is not built or used.

Owns the causes, one constructor each, and their wording.
-/

namespace ChannelMux

/-- Why a node does not carry something. -/
inductive TransportRefusal where
  /-- The shared pipeline that a group hangs on is gone, or its demultiplexer is. -/
  | sharedPipelineGone
  | nodeGone
  /-- The pipeline that another one leads into is gone. -/
  | loopGone
  /-- The node is not in the status that the call needs. -/
  | inStatus (node : String) (status : Status)
  | otherCluster (node cluster : String)
  | encoding (error : Encoding.Error)
deriving DecidableEq, Repr

def TransportRefusal.message : TransportRefusal → String
  | .sharedPipelineGone => "shared pipeline is gone"
  | .nodeGone => "channel dropped"
  | .loopGone => "loop target gone"
  | .inStatus node status => "channel " ++ node ++ " is " ++ status.name
  | .otherCluster node cluster =>
      "channel " ++ node ++ " is already connected to " ++ cluster
  | .encoding error => error.message

/-- Why something is not delivered. -/
inductive Refusal where
  /-- A message has a routing header without a group. -/
  | groupMissing (header : RoutingHeader)
  /-- A message of a batch has a routing header without a group. -/
  | groupMissingInBatch (sender : Address)
  /-- Nothing takes what leaves the bottom of a pipeline. -/
  | noOutlet (pipeline : String)
  /-- A stage is not part of the pipeline that it is to send down from. -/
  | detached (pipeline stage : String)
  /-- No stage of the pipeline bears the name of the neighbor. -/
  | neighborMissing (name : String)
  | transport (cause : TransportRefusal)
  /-- A stage or handler does not accept it. -/
  | rejected (stage reason : String)
deriving DecidableEq, Repr

def Refusal.message : Refusal → String
  | .groupMissing header =>
      "Malformed routing header: routing header " ++ header.display ++ " has no group id"
  | .groupMissingInBatch sender =>
      "Malformed routing header: batched message from " ++ sender.short ++ " has no group id"
  | .noOutlet pipeline => "Pipeline " ++ pipeline ++ " has nothing below its bottom stage"
  | .detached pipeline stage =>
      "Stage " ++ stage ++ " is no longer attached to pipeline " ++ pipeline
  | .neighborMissing name => "No stage named " ++ name ++ " in pipeline"
  | .transport cause => "Transport error: " ++ cause.message
  | .rejected stage reason => "Stage " ++ stage ++ " failed: " ++ reason

/-- What comes of delivering something: success, or the refusal. -/
abbrev Outcome := Except Refusal Unit

/-- The operations of a node that a fork does not offer. -/
inductive NodeOperation where
  | connect
  | connectWithState
  | disconnect
  | close
  | startFlush
  | stopFlush
  | fetchState
  | stages
  | setName
  | sendBytes
  | sendTo
deriving DecidableEq, Repr

namespace NodeOperation

def name : NodeOperation → String
  | .connect => "connect"
  | .connectWithState => "connect_with_state"
  | .disconnect => "disconnect"
  | .close => "close"
  | .startFlush => "start_flush"
  | .stopFlush => "stop_flush"
  | .fetchState => "fetch_state"
  | .stages => "protocol_stack"
  | .setName => "set_name"
  | .sendBytes => "send_bytes"
  | .sendTo => "send_to"

def all : List NodeOperation :=
  [.connect, .connectWithState, .disconnect, .close, .startFlush, .stopFlush, .fetchState,
    .stages, .setName, .sendBytes, .sendTo]

def ofName? (text : String) : Option NodeOperation :=
  all.find? (fun operation => operation.name == text)

end NodeOperation

/-- Why a fork is not built, or does not do what it is asked. -/
inductive ForkRefusal where
  | nodeMissing
  /-- An identifier is missing or empty. -/
  | emptyIdentifier (field : String)
  /-- The pipeline has no demultiplexer, and none is to be created. -/
  | demultiplexerMissing
  /-- A living fork is bound to the same group and member. -/
  | memberTaken (group member : String)
  /-- The group exists, and a fresh one is asked for. -/
  | groupTaken (group : String)
  | notConnected (status : Status)
  /-- The operation is one of the node alone. -/
  | unsupported (operation : NodeOperation)
  /-- Something is not delivered, or a stage cannot be placed. -/
  | delivery (refusal : Refusal)
deriving DecidableEq, Repr

def ForkRefusal.message : ForkRefusal → String
  | .nodeMissing => "A shared channel is required"
  | .emptyIdentifier field => field ++ " must be a non-empty identifier"
  | .demultiplexerMissing =>
      "No demultiplexer in the shared pipeline and auto-creation is disabled"
  | .memberTaken group member => "Fork channel " ++ group ++ ":" ++ member ++ " is already present"
  | .groupTaken group => "Fork stack " ++ group ++ " already exists"
  | .notConnected status => "Fork channel is not connected (status: " ++ status.name ++ ")"
  | .unsupported operation => "Operation not supported by fork channels: " ++ operation.name
  | .delivery refusal => refusal.message

/-- What comes of asking a fork: success, or the refusal. -/
abbrev Reply := Except ForkRefusal Unit

end ChannelMux
