import ChannelMux.RoutingHeader
import ChannelMux.Encoding.Field
import ChannelMux.Text.Blank
import ChannelMux.Text.Hex

/-!
Contract: the octet form of routing headers, and its hexadecimal text.

Owns the order of the two optional texts, group before member, and the reading of
octets that hold a routing header and nothing else.

Owns the writing of a routing header as the hexadecimal text of its octets, and the reading
of such a text, which may have white space around it, and the causes for which it fails.
-/

namespace ChannelMux.Encoding

def routingSize (header : RoutingHeader) : Nat :=
  textSize header.group? + textSize header.member?

/-- The group, then the member. -/
def writeRouting (header : RoutingHeader) : Except Error Octets := do
  return (← writeText header.group?) ++ (← writeText header.member?)

def readRouting : Reader RoutingHeader := do
  let group? ← readText
  let member? ← readText
  return ⟨group?, member?⟩

/-- The routing header that octets hold, nothing being left behind it. -/
def routingOfOctets (octets : Octets) : Except Error RoutingHeader := do
  let (header, rest) ← readRouting.run octets
  if rest.isEmpty then return header else throw (.trailing rest.length)

/-! ### Hexadecimal text -/

/-- Why a text is not read as a routing header. -/
inductive TextFault where
  | digits (fault : Hex.Fault)
  /-- Its octets do not begin with a routing header. -/
  | header (error : Error)
  /-- Octets are left over behind the routing header. -/
  | leftOver (count : Nat)
deriving DecidableEq, Repr

def TextFault.message : TextFault → String
  | .digits fault => fault.message
  | .header error => error.message
  | .leftOver count => s!"{count} trailing bytes after routing header"

def routingToText (header : RoutingHeader) : Except Error String :=
  (writeRouting header).map Hex.encode

def routingOfText (text : String) : Except TextFault RoutingHeader :=
  match Hex.decode (Text.trim text) with
  | .error fault => .error (.digits fault)
  | .ok octets =>
      match readRouting.run octets with
      | .error error => .error (.header error)
      | .ok (header, rest) =>
          if rest.isEmpty then .ok header else .error (.leftOver rest.length)

end ChannelMux.Encoding
