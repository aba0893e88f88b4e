import ChannelMux.Json.Value
import ChannelMux.Text.Hex

/-!
Contract: writing a JSON document as text.

Owns the escapes of strings, the compact form without any white space, and the form in
which every item and member stands on a line of its own, indented by two blanks a level.
-/

namespace ChannelMux.Json

/-- A character inside a string: quotes, backslashes and control characters escaped. -/
def escape (character : Char) : String :=
  match character with
  | '"' => "\\\""
  | '\\' => "\\\\"
  | '\n' => "\\n"
  | '\r' => "\\r"
  | '\t' => "\\t"
  | '\x08' => "\\b"
  | '\x0c' => "\\f"
  | _ =>
      if character.toNat < 0x20 then "\\u00" ++ Hex.encode [UInt8.ofNat character.toNat]
      else String.singleton character

def quote (text : String) : String :=
  "\"" ++ String.join (text.toList.map escape) ++ "\""

/-- The line break in front of an item at a level, or nothing in the compact form. -/
def lineBreak (level? : Option Nat) : String :=
  match level? with
  | none => ""
  | some level => "\n" ++ "".pushn ' ' (2 * level)

/-- Items between brackets, each at the start of a line one level in. -/
def enclose (opening closing : String) (level? : Option Nat) (items : List String) : String :=
  if items.isEmpty then opening ++ closing
  else
    let inner := lineBreak (level?.map (· + 1))
    opening ++ inner ++ ("," ++ inner).intercalate items ++ lineBreak level? ++ closing

mutual

/-- A document, written compactly or from a level of indentation on. -/
def render (level? : Option Nat) : Json → String
  | .null => "null"
  | .boolean value => toString value
  | .number spelling => spelling
  | .string text? => quote (text?.getD "")
  | .array items => enclose "[" "]" level? (renderItems (level?.map (· + 1)) items)
  | .object members =>
      enclose "\x7b" "\x7d" level? (renderMembers (level?.map (· + 1)) members)

def renderItems (level? : Option Nat) : List Json → List String
  | [] => []
  | item :: rest => render level? item :: renderItems level? rest

def renderMembers (level? : Option Nat) : List (Option String × Json) → List String
  | [] => []
  | (key?, value) :: rest =>
      (quote (key?.getD "") ++ (if level?.isSome then ": " else ":") ++ render level? value) ::
        renderMembers level? rest

end

def compact (document : Json) : String := render none document

def indented (document : Json) : String := render (some 0) document

end ChannelMux.Json
