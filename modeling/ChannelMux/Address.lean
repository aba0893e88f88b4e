import ChannelMux.Octets
import ChannelMux.Text.Hex

/-!
Contract: addresses of nodes.

Owns the sixteen-octet address, its order, its short display form, and the written
forms of an identifier that are read as an address.

Does not own how addresses are chosen: whoever creates a node supplies its address.
-/

namespace ChannelMux

/-- The address of a node: sixteen octets. -/
structure Address where
  octets : Octets
  size : octets.length = 16
deriving DecidableEq

namespace Address

/-- The address with these octets, if there are sixteen of them. -/
def ofOctets? (octets : Octets) : Option Address :=
  if size : octets.length = 16 then some ⟨octets, size⟩ else none

/-- The address that spells a number, taken modulo 2 to the 128th. -/
def ofNat (number : Nat) : Address := ⟨Octets.ofNat 16 number, Octets.ofNat_length 16 number⟩

def filled (octet : UInt8) : Address :=
  ⟨List.replicate 16 octet, List.length_replicate⟩

instance : Inhabited Address := ⟨filled 0⟩

instance : Repr Address := ⟨fun address _ => Hex.encode address.octets⟩

/-- Addresses are ordered as the big-endian numbers they spell. -/
instance : Ord Address := ⟨fun left right => compare left.octets.value right.octets.value⟩

/-- The first eight hexadecimal digits, by which an address is named in messages. -/
def short (address : Address) : String :=
  Hex.encode (address.octets.take 4)

/-- The octet groups of the hyphenated form: 8, 4, 4, 4 and 12 digits. -/
private def groupSizes : List Nat := [4, 2, 2, 2, 6]

private def groups : List Nat → Octets → List Octets
  | [], _ => []
  | size :: sizes, octets => octets.take size :: groups sizes (octets.drop size)

def hyphenated (address : Address) : String :=
  "-".intercalate ((groups groupSizes address.octets).map Hex.encode)

/-- The digits of a hyphenated form without its hyphens, if they stand where they should. -/
private def unhyphenate? (text : List Char) : Option (List Char) :=
  if text.length = 36 ∧ [8, 13, 18, 23].all (fun place => text[place]? == some '-') then
    let digits := text.filter (· ≠ '-')
    if digits.length = 32 then some digits else none
  else none

/-- The thirty-two digits that a written form holds: plain, hyphenated, hyphenated in
braces, or hyphenated after `urn:uuid:` in letters of either case. -/
private def digits? (text : List Char) : Option (List Char) :=
  if text.length = 32 then some text
  else if text.length = 36 then unhyphenate? text
  else if text.length = 38 ∧ text.head? = some '\x7b' ∧ text.getLast? = some '\x7d' then
    unhyphenate? (text.drop 1).dropLast
  else if (text.take 9).map Char.toLower = "urn:uuid:".toList then unhyphenate? (text.drop 9)
  else none

/-- The address that a written identifier names; digits may be of either case. -/
def ofIdentifier? (text : String) : Option Address :=
  match digits? text.toList with
  | none => none
  | some digits =>
      match Hex.decode (String.ofList digits) with
      | .error _ => none
      | .ok octets => ofOctets? octets

end Address

end ChannelMux
