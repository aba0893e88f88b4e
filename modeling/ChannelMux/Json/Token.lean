/-!
Contract: the tokens of a JSON document.

Owns the scanner, a machine that reads one character at a time: white space between
tokens, the brackets, commas and colons, the three words, numbers in the exact grammar,
and strings with their escapes.

A string that spells a lone half of a surrogate pair is a token without a text.
-/

namespace ChannelMux.Json

/-- A token of a JSON document. -/
inductive Token where
  | openArray
  | closeArray
  | openObject
  | closeObject
  | comma
  | colon
  | null
  | boolean (value : Bool)
  | number (spelling : String)
  | string (text? : Option String)
deriving DecidableEq, Repr

/-- How much of a number has been read. -/
inductive NumberPart where
  | minus
  | zero
  | integer
  | point
  | fraction
  | exponentMark
  | exponentSign
  | exponent
deriving DecidableEq, Repr

namespace NumberPart

/-- Whether a number may end here. -/
def mayEnd : NumberPart → Bool
  | .zero | .integer | .fraction | .exponent => true
  | _ => false

/-- How a number goes on with a character, if it can. -/
def next? (part : NumberPart) (character : Char) : Option NumberPart :=
  let digit := character.isDigit
  let mark := character == 'e' || character == 'E'
  match part with
  | .minus => if character == '0' then some .zero else if digit then some .integer else none
  | .zero =>
      if character == '.' then some .point else if mark then some .exponentMark else none
  | .integer =>
      if digit then some .integer
      else if character == '.' then some .point
      else if mark then some .exponentMark
      else none
  | .point => if digit then some .fraction else none
  | .fraction => if digit then some .fraction else if mark then some .exponentMark else none
  | .exponentMark =>
      if digit then some .exponent
      else if character == '+' || character == '-' then some .exponentSign
      else none
  | .exponentSign | .exponent => if digit then some .exponent else none

end NumberPart

/-- A string that is being read: its characters, last first, the first half of a
surrogate pair that waits for the second, and whether a half stayed alone. -/
structure Fragment where
  reversed : List Char := []
  half? : Option Nat := none
  broken : Bool := false
deriving DecidableEq, Repr

namespace Fragment

/-- The fragment after anything but a second half: a waiting first half stays alone. -/
def settle (fragment : Fragment) : Fragment :=
  match fragment.half? with
  | none => fragment
  | some _ => { fragment with half? := none, broken := true }

/-- The fragment with a character added. -/
def push (fragment : Fragment) (character : Char) : Fragment :=
  let settled := fragment.settle
  { settled with reversed := character :: settled.reversed }

/-- The fragment with a sixteen-bit code unit added. -/
def pushUnit (fragment : Fragment) (unit : Nat) : Fragment :=
  if 0xD800 ≤ unit ∧ unit < 0xDC00 then { fragment.settle with half? := some unit }
  else if 0xDC00 ≤ unit ∧ unit < 0xE000 then
    match fragment.half? with
    | some first =>
        let code := 0x10000 + (first - 0xD800) * 0x400 + (unit - 0xDC00)
        { fragment with half? := none, reversed := Char.ofNat code :: fragment.reversed }
    | none => { fragment with broken := true }
  else fragment.push (Char.ofNat unit)

/-- The text of a finished string, if it denotes one. -/
def text? (fragment : Fragment) : Option String :=
  let settled := fragment.settle
  if settled.broken then none else some (String.ofList settled.reversed.reverse)

end Fragment

/-- What the scanner is inside of. -/
inductive Mode where
  | between
  | number (part : NumberPart) (reversed : List Char)
  | word (rest : List Char) (token : Token)
  | string (fragment : Fragment)
  | escape (fragment : Fragment)
  | unit (fragment : Fragment) (digitsLeft value : Nat)
deriving DecidableEq, Repr

/-- A scanner: what it is inside of, and the tokens read, last first. -/
structure Scanner where
  mode : Mode := .between
  reversed : List Token := []
deriving DecidableEq, Repr

namespace Scanner

def emit (scanner : Scanner) (token : Token) : Scanner :=
  ⟨.between, token :: scanner.reversed⟩

def hexValue? (character : Char) : Option Nat :=
  if character.isDigit then some (character.toNat - 48)
  else if 'a' ≤ character ∧ character ≤ 'f' then some (character.toNat - 87)
  else if 'A' ≤ character ∧ character ≤ 'F' then some (character.toNat - 55)
  else none

/-- Reads a character between tokens. -/
def start (scanner : Scanner) (character : Char) : Option Scanner :=
  match character with
  | ' ' | '\n' | '\t' | '\r' => some { scanner with mode := .between }
  | '[' => some (scanner.emit .openArray)
  | ']' => some (scanner.emit .closeArray)
  | '\x7b' => some (scanner.emit .openObject)
  | '\x7d' => some (scanner.emit .closeObject)
  | ',' => some (scanner.emit .comma)
  | ':' => some (scanner.emit .colon)
  | '"' => some { scanner with mode := .string {} }
  | '-' => some { scanner with mode := .number .minus ['-'] }
  | '0' => some { scanner with mode := .number .zero ['0'] }
  | 'n' => some { scanner with mode := .word ['u', 'l', 'l'] .null }
  | 't' => some { scanner with mode := .word ['r', 'u', 'e'] (.boolean true) }
  | 'f' => some { scanner with mode := .word ['a', 'l', 's', 'e'] (.boolean false) }
  | _ =>
      if character.isDigit then some { scanner with mode := .number .integer [character] }
      else none

/-- Reads the character behind a backslash. -/
def unescape (fragment : Fragment) (character : Char) : Option Mode :=
  match character with
  | '"' => some (.string (fragment.push '"'))
  | '\\' => some (.string (fragment.push '\\'))
  | '/' => some (.string (fragment.push '/'))
  | 'b' => some (.string (fragment.push '\x08'))
  | 'f' => some (.string (fragment.push '\x0c'))
  | 'n' => some (.string (fragment.push '\n'))
  | 'r' => some (.string (fragment.push '\r'))
  | 't' => some (.string (fragment.push '\t'))
  | 'u' => some (.unit fragment 4 0)
  | _ => none

/-- Reads one character. -/
def step (scanner : Scanner) (character : Char) : Option Scanner :=
  match scanner.mode with
  | .between => scanner.start character
  | .number part reversed =>
      match part.next? character with
      | some next => some { scanner with mode := .number next (character :: reversed) }
      | none =>
          if part.mayEnd then
            (scanner.emit (.number (String.ofList reversed.reverse))).start character
          else none
  | .word [] token => (scanner.emit token).start character
  | .word (expected :: rest) token =>
      if character = expected then
        if rest.isEmpty then some (scanner.emit token)
        else some { scanner with mode := .word rest token }
      else none
  | .string fragment =>
      if character = '"' then some (scanner.emit (.string fragment.text?))
      else if character = '\\' then some { scanner with mode := .escape fragment }
      else if character.toNat < 0x20 then none
      else some { scanner with mode := .string (fragment.push character) }
  | .escape fragment =>
      (unescape fragment character).map fun mode => { scanner with mode := mode }
  | .unit fragment digitsLeft value =>
      (hexValue? character).map fun digit =>
        let total := value * 16 + digit
        if digitsLeft ≤ 1 then { scanner with mode := .string (fragment.pushUnit total) }
        else { scanner with mode := .unit fragment (digitsLeft - 1) total }

def finish? (scanner : Scanner) : Option (List Token) :=
  match scanner.mode with
  | .between => some scanner.reversed.reverse
  | .number part reversed =>
      if part.mayEnd then
        some (.number (String.ofList reversed.reverse) :: scanner.reversed).reverse
      else none
  | _ => none

end Scanner

/-- The tokens of a text, if it is a sequence of tokens. -/
def tokens? (text : String) : Option (List Token) := do
  (← text.toList.foldlM Scanner.step {}).finish?

end ChannelMux.Json
