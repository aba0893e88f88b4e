import ChannelMux.Message
import ChannelMux.View

/-!
Contract: what travels through a pipeline singly.

Owns the four kinds of event, their names, and which of them concern every group.
-/

namespace ChannelMux

/-- Something that travels through a pipeline. -/
inductive Event where
  | message (message : Message)
  | viewChange (view : View)
  | localAddress (address : Address)
  | suspect (address : Address)
deriving DecidableEq, Repr

namespace Event

def kind : Event → String
  | .message _ => "message"
  | .viewChange _ => "view_change"
  | .localAddress _ => "set_local_address"
  | .suspect _ => "suspect"

/-- Whether every group is told of the event; so it is with view changes alone. -/
def isBroadcast : Event → Bool
  | .viewChange _ => true
  | _ => false

def message? : Event → Option Message
  | .message content => some content
  | _ => none

end Event

end ChannelMux
