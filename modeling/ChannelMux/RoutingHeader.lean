/-!
Contract: the routing header of a message.

Owns the pair of optional identifiers, the group and the member, and its display form.

Does not own where the header is kept in a message or how it is written in octets.
-/

namespace ChannelMux

/-- Which group a message belongs to and which member of the group it is for; either may
be absent, and an empty identifier is not absent. -/
structure RoutingHeader where
  group? : Option String := none
  member? : Option String := none
deriving DecidableEq, Repr, Inhabited

namespace RoutingHeader

/-- The header number that routing headers are kept under. -/
def id : UInt16 := 57

def between (group member : String) : RoutingHeader := ⟨some group, some member⟩

def forGroup (group : String) : RoutingHeader := ⟨some group, none⟩

def forMember (member : String) : RoutingHeader := ⟨none, some member⟩

def withGroup (header : RoutingHeader) (group : String) : RoutingHeader :=
  { header with group? := some group }

def withMember (header : RoutingHeader) (member : String) : RoutingHeader :=
  { header with member? := some member }

/-- Group and member around a colon, an absent one written `null`. -/
def display (header : RoutingHeader) : String :=
  header.group?.getD "null" ++ ":" ++ header.member?.getD "null"

end RoutingHeader

end ChannelMux
