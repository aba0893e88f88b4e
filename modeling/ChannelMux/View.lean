import ChannelMux.Address

/-!
Contract: cluster views.

Owns the numbered list of members that a cluster hands to each of them, and its display form.
-/

namespace ChannelMux

/-- Who is in a cluster: its members in the order in which they joined, the one that
created the view, and the number of the view. -/
structure View where
  creator : Address
  id : UInt64
  members : List Address
deriving DecidableEq, Repr, Inhabited

namespace View

def size (view : View) : Nat := view.members.length

def contains (view : View) (address : Address) : Bool := view.members.contains address

/-- Creator and number in brackets, then the members in parentheses. -/
def display (view : View) : String :=
  "[" ++ view.creator.short ++ "|" ++ toString view.id ++ "] (" ++
    ", ".intercalate (view.members.map Address.short) ++ ")"

end View

end ChannelMux
