import ChannelMux.Text.Utf8

/-!
Contract: why octets cannot be read as a message, or a message cannot be written.

Owns the causes, one constructor each, and their wording.
-/

namespace ChannelMux.Encoding

/-- The parts of an encoding that can be cut short. -/
inductive Part where
  | flags
  | address
  | headerCount
  | headerStart
  | headerBody
  | payloadLength
  | payload
  | textPresence
  | textLength
  | textOctets
deriving DecidableEq, Repr

def Part.name : Part → String
  | .flags => "flags"
  | .address => "address"
  | .headerCount => "header count"
  | .headerStart => "header prefix"
  | .headerBody => "header body"
  | .payloadLength => "payload length"
  | .payload => "payload"
  | .textPresence => "string presence"
  | .textLength => "string length"
  | .textOctets => "string bytes"

/-- Why reading or writing an encoding fails. -/
inductive Error where
  /-- The octets end inside a part. -/
  | truncated (part : Part) (needed available : Nat)
  /-- The octet that says whether a text is present says neither. -/
  | badPresence (octet : UInt8)
  /-- A present text is not UTF-8. -/
  | badText (fault : Utf8.Fault)
  | trailing (count : Nat)
  /-- A text has more octets than its length field can say. -/
  | textTooLong (count : Nat)
  /-- There are more headers than their count field can say. -/
  | tooManyHeaders (count : Nat)
  /-- A header body or payload has more octets than its length field can say. -/
  | bodyTooLong (count : Nat)
deriving DecidableEq, Repr

/-- What is wrong, without the words that introduce it. -/
def Error.reason : Error → String
  | .truncated part needed available =>
      "truncated " ++ part.name ++ s!": need {needed} bytes, have {available}"
  | .badPresence octet => s!"invalid string presence byte {octet}"
  | .badText fault => "invalid UTF-8 in string: " ++ fault.message
  | .trailing count => s!"{count} trailing bytes after routing header"
  | .textTooLong count => s!"string too long: {count} bytes"
  | .tooManyHeaders count => s!"too many headers: {count}"
  | .bodyTooLong count => s!"length {count} exceeds u32"

/-- The wording of an error, the same for reading and for writing. -/
def Error.message (error : Error) : String :=
  "Failed to decode: " ++ error.reason

end ChannelMux.Encoding
