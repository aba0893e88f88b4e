import ChannelMux.Octets
import ChannelMux.Text.Quoted

/-!
Contract: hexadecimal text of octet strings.

Owns lower-case writing, reading in either case, and the two causes for which a
text is refused: an odd number of octets, found first, or a character that is
no digit.

Does not own any grouping of digits; hyphenated identifiers are read elsewhere.
-/

namespace ChannelMux.Hex

def digit (value : Nat) : Char :=
  if value < 10 then Char.ofNat ('0'.toNat + value) else Char.ofNat ('a'.toNat + (value - 10))

def digits (octet : UInt8) : List Char :=
  [digit (octet.toNat / 16), digit (octet.toNat % 16)]

/-- The lower-case hexadecimal text of octets, two digits an octet. -/
def encode (octets : Octets) : String :=
  String.ofList (octets.flatMap digits)

/-- The value of a hexadecimal digit in either case, given as an octet of ASCII text. -/
def digitValue? (octet : UInt8) : Option Nat :=
  if 0x30 ≤ octet ∧ octet ≤ 0x39 then some (octet.toNat - 0x30)
  else if 0x61 ≤ octet ∧ octet ≤ 0x66 then some (octet.toNat - 0x61 + 10)
  else if 0x41 ≤ octet ∧ octet ≤ 0x46 then some (octet.toNat - 0x41 + 10)
  else none

/-- Why a text is not hexadecimal. -/
inductive Fault where
  | oddLength
  /-- The octet at `index` is no digit. -/
  | notADigit (octet : UInt8) (index : Nat)
deriving DecidableEq, Repr

/-- The wording of a fault; an octet is shown as the character of its number, in quotes. -/
def Fault.message : Fault → String
  | .oddLength => "Odd number of digits"
  | .notADigit octet index =>
      "Invalid character " ++ Text.quoteCharacter (Char.ofNat octet.toNat) ++
        s!" at position {index}"

/-- Reads digit pairs from octet `index` on, in front of octets already read, which are
kept last first. -/
def decodeFrom : (index : Nat) → (read : Octets) → Octets → Except Fault Octets
  | _, read, [] => .ok read.reverse
  | _, _, [_] => .error .oddLength
  | index, read, high :: low :: rest =>
      match digitValue? high with
      | none => .error (.notADigit high index)
      | some highValue =>
          match digitValue? low with
          | none => .error (.notADigit low (index + 1))
          | some lowValue =>
              decodeFrom (index + 2) (UInt8.ofNat (highValue * 16 + lowValue) :: read) rest

def decode (text : String) : Except Fault Octets :=
  let octets := Octets.ofString text
  if octets.length % 2 = 1 then .error .oddLength else decodeFrom 0 [] octets

end ChannelMux.Hex
