import ChannelMux.Octets
import ChannelMux.Encoding.Error

/-!
Contract: the fields that encodings are made of.

Owns reading a given number of octets, big-endian words and optional texts from the
front of an octet string, and writing words and optional texts. Owns the writing of optional
texts at the end of a buffer, part by part, and of several in turn.

Every reader checks that enough octets are there before it looks at any of them, so
that a cut is reported as a cut. The length of a text is checked before any of its octets
goes into a buffer; what was written when something is refused stays there.
-/

namespace ChannelMux.Encoding

/-- Reads a value from the front of an octet string and leaves the rest. -/
abbrev Reader (α : Type) := StateT Octets (Except Error) α

/-- Reads the next `count` octets, which belong to `part`. -/
def readOctets (part : Part) (count : Nat) : Reader Octets := fun octets =>
  let taken := octets.take count
  if taken.length = count then .ok (taken, octets.drop count)
  else .error (.truncated part count taken.length)

def readNat (part : Part) (width : Nat) : Reader Nat := do
  return (← readOctets part width).value

/-- The greatest length of a present text. -/
def maxTextLength : Nat := 65535

def maxHeaderCount : Nat := 65535

/-- The greatest length of a header body or a payload. -/
def maxBodyLength : Nat := 4294967295

def textSize : Option String → Nat
  | none => 1
  | some text => 1 + 2 + text.utf8ByteSize

/-- An optional text: `0` if it is absent, else `1`, the length in two octets, and the
octets of the text. -/
def writeText : Option String → Except Error Octets
  | none => .ok [0]
  | some text =>
      if text.utf8ByteSize ≤ maxTextLength then
        .ok (1 :: (Octets.ofNat 2 text.utf8ByteSize ++ Octets.ofString text))
      else .error (.textTooLong text.utf8ByteSize)

def readText : Reader (Option String) := do
  match ← readOctets .textPresence 1 with
  | [0] => return none
  | [1] =>
      let length ← readNat .textLength 2
      match Utf8.decode (← readOctets .textOctets length) with
      | .ok text => return some text
      | .error fault => throw (.badText fault)
  | octets => throw (.badPresence (octets.headD 0))

/-- Reads as many optional texts as are asked for. -/
def readTexts : (count : Nat) → Reader (List (Option String))
  | 0 => return []
  | count + 1 => do
      let text? ← readText
      return text? :: (← readTexts count)

/-- Writing at the end of the one buffer there is, until something cannot be written. -/
abbrev Writing := ExceptT Error (StateM Octets)

def appendOctets (octets : Octets) : Writing Unit := modify (· ++ octets)

/-- Writes an optional text: its presence, its length and its octets, each at the end of what
the buffer holds by then. -/
def appendText : Option String → Writing Unit
  | none => appendOctets [0]
  | some text => do
      if maxTextLength < text.utf8ByteSize then throw (.textTooLong text.utf8ByteSize)
      appendOctets [1]
      appendOctets (Octets.ofNat 2 text.utf8ByteSize)
      appendOctets (Octets.ofString text)

/-- Writes optional texts in turn, as far as they can be written. -/
def appendTexts (texts : List (Option String)) : Writing Unit := texts.forM appendText

/-- The length field of a header body or a payload. -/
def writeBodyLength (length : Nat) : Except Error Octets :=
  if length ≤ maxBodyLength then .ok (Octets.ofNat 4 length) else .error (.bodyTooLong length)

end ChannelMux.Encoding
