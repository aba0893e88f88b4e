import ChannelMux.View
import ChannelMux.Json.Reading
import ChannelMux.Json.Printing

/-!
Contract: views and addresses as JSON documents.

Owns the form of an address, its hyphenated identifier as a string, and the form of a
view, an object of creator, number and members in this order.

Reading takes every written form of an identifier, and a view also as an array of its
three fields; all three must be there.
-/

namespace ChannelMux

def Address.toJson (address : Address) : Json := .text address.hyphenated

def Address.ofJson? (document : Json) : Option Address :=
  document.text?.bind Address.ofIdentifier?

namespace View

def toJson (view : View) : Json :=
  .ofMembers
    [("creator", view.creator.toJson), ("id", .count view.id.toNat),
      ("members", .array (view.members.map Address.toJson))]

def ofJson? (document : Json) : Option View := do
  match ← document.fields? ["creator", "id", "members"] with
  | [some creator, some id, some (.array members)] =>
      return {
        creator := ← Address.ofJson? creator
        id := UInt64.ofNat (← id.natBelow? (Octets.capacity 8))
        members := ← members.mapM Address.ofJson? }
  | _ => none

end View

end ChannelMux
