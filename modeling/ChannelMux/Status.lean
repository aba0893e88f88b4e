/-!
Contract: the connection status of a node.
-/

namespace ChannelMux

/-- How a node stands to its cluster. -/
inductive Status where
  | opened
  | connecting
  | connected
  | closed
deriving DecidableEq, Repr, Inhabited

def Status.name : Status → String
  | .opened => "open"
  | .connecting => "connecting"
  | .connected => "connected"
  | .closed => "closed"

end ChannelMux
