import ChannelMux.Octets
import ChannelMux.Settings.Basic

/-!
Contract: what a demonstration is to show.

Owns its size, the names of what takes part, and the limits on its size.
-/

namespace ChannelMux.Demo

/-- The size of a demonstration, the cluster that its nodes join, and where it puts
demultiplexers if not where the settings say. -/
structure Plan where
  nodes : Nat := 2
  groups : Nat := 2
  members : Nat := 2
  messages : Nat := 3
  cluster : String := "forkline-demo"
  neighbor? : Option String := none
  side? : Option Side := none
deriving DecidableEq, Repr, Inhabited

namespace Plan

def isPositive (plan : Plan) : Bool :=
  0 < plan.nodes && 0 < plan.groups && 0 < plan.members

/-- Whether a list of the nodes, at forty octets a node, can be addressed. -/
def isAddressable (plan : Plan) : Bool := plan.nodes * 40 < Octets.capacity 8 / 2

def override (plan : Plan) (settings : ForkSettings) : ForkSettings :=
  { settings with placement := {
      side := plan.side?.getD settings.placement.side
      neighbor? := plan.neighbor?.or settings.placement.neighbor? } }

end Plan

/-- The stages that every shared pipeline has from the start, bottom first. -/
def layers : List String := ["transport", "reliability", "membership"]

def nodeName (node : Nat) : String := s!"node-{node}"

def groupName (group : Nat) : String := s!"group-{group}"

def memberName (member : Nat) : String := s!"member-{member}"

/-- The name by which a fork is known and reported. -/
def channelName (node group member : Nat) : String :=
  nodeName node ++ "/" ++ groupName group ++ ":" ++ memberName member

/-- What a fork says in its message of a number. -/
def forkPayload (group member number : Nat) : Octets :=
  Octets.ofString (groupName group ++ ":" ++ memberName member ++ s!" #{number}")

def nodePayload (node : Nat) : Octets := Octets.ofString ("plain from " ++ nodeName node)

end ChannelMux.Demo
