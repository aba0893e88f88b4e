/-!
Contract: white space around a text.

Owns the characters with the Unicode property White_Space and the trimming of them
from both ends of a text.
-/

namespace ChannelMux.Text

/-- Whether a character has the Unicode property White_Space. -/
def isBlank (character : Char) : Bool :=
  let code := character.toNat
  (9 ≤ code && code ≤ 13) || code == 0x20 || code == 0x85 || code == 0xA0 || code == 0x1680 ||
    (0x2000 ≤ code && code ≤ 0x200A) || code == 0x2028 || code == 0x2029 || code == 0x202F ||
    code == 0x205F || code == 0x3000

/-- A text without the white space at its two ends. -/
def trim (text : String) : String :=
  String.ofList (((text.toList.dropWhile isBlank).reverse.dropWhile isBlank).reverse)

/-- A text without the white space at its end. -/
def trimEnd (text : String) : String :=
  String.ofList ((text.toList.reverse.dropWhile isBlank).reverse)

end ChannelMux.Text
