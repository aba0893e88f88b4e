import ChannelMux.Octets

/-!
Contract: reading octets as UTF-8, with the exact place and extent of the first fault.

Owns `Utf8.decode`, which accepts exactly the octets of some text, and the
description of the first fault of octets that are no text.

Does not own the meaning of UTF-8 itself, which is that of `String`.
-/

namespace ChannelMux.Utf8

/-- The first fault of an octet string that is not UTF-8. -/
inductive Fault where
  /-- The octets from `start` on are a proper beginning of a character that never ends. -/
  | incomplete (start : Nat)
  /-- The `extent` octets from `start` on begin a character that the next octet cannot continue. -/
  | invalid (start extent : Nat)
deriving DecidableEq, Repr

def Fault.message : Fault → String
  | .incomplete start => s!"incomplete utf-8 byte sequence from index {start}"
  | .invalid start extent => s!"invalid utf-8 sequence of {extent} bytes from index {start}"

/-- What may follow a leading octet: how many octets, and the range of the first of them. -/
structure Continuation where
  remaining : Nat
  lowest : UInt8
  highest : UInt8
deriving DecidableEq, Repr

/-- The shape that a leading octet of a longer character announces; an octet that leads
none has no continuation. -/
def Continuation.ofLeading? (octet : UInt8) : Option Continuation :=
  if octet < 0xC2 then none
  else if octet < 0xE0 then some ⟨1, 0x80, 0xBF⟩
  else if octet = 0xE0 then some ⟨2, 0xA0, 0xBF⟩
  else if octet = 0xED then some ⟨2, 0x80, 0x9F⟩
  else if octet < 0xF0 then some ⟨2, 0x80, 0xBF⟩
  else if octet = 0xF0 then some ⟨3, 0x90, 0xBF⟩
  else if octet < 0xF4 then some ⟨3, 0x80, 0xBF⟩
  else if octet = 0xF4 then some ⟨3, 0x80, 0x8F⟩
  else none

/-- Where a scan stands: between characters, or inside one that began `seen` octets ago. -/
inductive Position where
  | between
  | inside (seen : Nat) (next : Continuation)
deriving DecidableEq, Repr

/-- The first fault from octet `index` on. Octets without a fault are reported as ending
in an incomplete character, which `decode` never asks about. -/
def firstFault : (index : Nat) → Position → Octets → Fault
  | index, .between, [] => .incomplete index
  | index, .inside seen _, [] => .incomplete (index - seen)
  | index, .between, octet :: rest =>
      if octet < 0x80 then firstFault (index + 1) .between rest
      else
        match Continuation.ofLeading? octet with
        | none => .invalid index 1
        | some next => firstFault (index + 1) (.inside 1 next) rest
  | index, .inside seen next, octet :: rest =>
      if next.lowest ≤ octet ∧ octet ≤ next.highest then
        if next.remaining ≤ 1 then firstFault (index + 1) .between rest
        else firstFault (index + 1) (.inside (seen + 1) ⟨next.remaining - 1, 0x80, 0xBF⟩) rest
      else .invalid (index - seen) seen

/-- The text whose UTF-8 form the octets are, if there is one. -/
def decode? (octets : Octets) : Option String :=
  String.fromUTF8? ⟨octets.toArray⟩

/-- The text whose UTF-8 form the octets are, or the first fault. -/
def decode (octets : Octets) : Except Fault String :=
  match decode? octets with
  | some text => .ok text
  | none => .error (firstFault 0 .between octets)

/-- The octets of a text read back as that text. -/
theorem decode?_ofString (text : String) : decode? (Octets.ofString text) = some text := by
  simp only [decode?, Octets.ofString, Array.toArray_toList, String.fromUTF8?]
  exact dif_pos text.isValidUTF8

/-- Octets that read as a text are the octets of that text. -/
theorem eq_ofString_of_decode?
    {octets : Octets}
    {text : String}
    (decoded : decode? octets = some text) :
    octets = Octets.ofString text := by
  unfold decode? String.fromUTF8? at decoded
  split at decoded
  · cases decoded
    rfl
  · simp at decoded

end ChannelMux.Utf8
