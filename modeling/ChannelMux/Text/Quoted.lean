import ChannelMux.Text.Unprintable

/-!
Contract: texts between quotes, for people who debug.

Owns the escapes: the quote in use and backslashes behind a backslash, the four common
control characters by a letter or digit behind one, and every other character that does not
show by itself by its code in braces. A text stands between double quotes, a character
between single ones.
-/

namespace ChannelMux.Text

/-- A character between two of a quote. -/
def escape (quote character : Char) : String :=
  match character with
  | '\\' => "\\\\"
  | '\n' => "\\n"
  | '\r' => "\\r"
  | '\t' => "\\t"
  | '\x00' => "\\0"
  | _ =>
      if character = quote then "\\" ++ String.singleton character
      else if isUnprintable character then
        "\\u\x7b" ++ String.ofList (Nat.toDigits 16 character.toNat) ++ "\x7d"
      else String.singleton character

def quote (text : String) : String :=
  "\"" ++ String.join (text.toList.map (escape '"')) ++ "\""

/-- A character between single quotes. -/
def quoteCharacter (character : Char) : String :=
  "'" ++ escape '\x27' character ++ "'"

end ChannelMux.Text
