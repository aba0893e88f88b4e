import ChannelMux.Json.Value
import ChannelMux.Octets
import ChannelMux.Text.Decimal

/-!
Contract: documents that every receiver takes alike.

Owns what such a document needs: every string and key denotes a text, arrays and objects
are nested at most 127 deep, and no number is beyond the range of double precision. A
number that fits no eight-octet integer goes out as a fractional one.

Does not own the precision of numbers; a receiver rounds them as it pleases.
-/

namespace ChannelMux.Json

/-- A number as it is spelled: the digits in front of the point and behind it, and the
power of ten. -/
structure Scientific where
  negative : Bool
  whole : List Char
  fraction : List Char
  exponent : Int
deriving DecidableEq, Repr

namespace Scientific

/-- No exponent is taken to be farther from zero than this. -/
def exponentLimit : Nat := 1000000000

def exponentOf : List Char → Int
  | [] => 0
  | _ :: '-' :: digits => -(Text.decimalUpTo exponentLimit digits : Int)
  | _ :: '+' :: digits => Text.decimalUpTo exponentLimit digits
  | _ :: digits => Text.decimalUpTo exponentLimit digits

/-- The parts of a spelling that has the form of a number. -/
def ofSpelling (spelling : String) : Scientific :=
  let characters := spelling.toList
  let unsigned := characters.dropWhile (· == '-')
  let behindWhole := unsigned.dropWhile Char.isDigit
  let (fraction, behindFraction) := match behindWhole with
    | '.' :: rest => (rest.takeWhile Char.isDigit, rest.dropWhile Char.isDigit)
    | rest => ([], rest)
  { negative := characters.head? == some '-'
    whole := unsigned.takeWhile Char.isDigit
    fraction
    exponent := exponentOf behindFraction }

def largestPower : Nat := 308

/-- The least number that rounds to no double: half a step above the largest of them, which
is 2 to the 1024th, less 2 to the 970th. -/
def beyondDoubles : Nat := Octets.capacity 128 - 4 * Octets.capacity 121

/-- Whether a number rounds to a double. Only one whose first digit stands at the largest
power has to be compared digit by digit. -/
def roundsToDouble (number : Scientific) : Bool :=
  let digits := number.whole ++ number.fraction
  let significant := digits.dropWhile (· == '0')
  let zeros := digits.length - significant.length
  let power : Int := number.whole.length - 1 - zeros + number.exponent
  significant.isEmpty || power < largestPower ||
    (power = largestPower &&
      Text.decimalValue ((significant.take (largestPower + 1)).rightpad (largestPower + 1) '0') <
        beyondDoubles)

/-- Whether a number without point and exponent is an eight-octet integer, with or without
a sign; zero has no sign. -/
def isInteger (number : Scientific) : Bool :=
  let value := Text.decimalUpTo (Octets.capacity 8) number.whole
  if number.negative then 0 < value && value ≤ Octets.capacity 8 / 2
  else value < Octets.capacity 8

end Scientific

/-- The spelling of a number that every receiver takes alike, if there is one. -/
def portableNumber? (spelling : String) : Option String :=
  let number := Scientific.ofSpelling spelling
  if !number.roundsToDouble then none
  else if spelling.any (fun character => character == '.' || character == 'e' || character == 'E')
      || number.isInteger then some spelling
  else some (spelling ++ ".0")

mutual

/-- A document that may be nested `room` deep, as every receiver takes it. -/
def portableWithin? (room : Nat) : Json → Option Json
  | .null => some .null
  | .boolean value => some (.boolean value)
  | .number spelling => (portableNumber? spelling).map .number
  | .string text? => text?.map .text
  | .array items =>
      if room = 0 then none else (portableItems? (room - 1) items).map .array
  | .object members =>
      if room = 0 then none else (portableMembers? (room - 1) members).map .object

def portableItems? (room : Nat) : List Json → Option (List Json)
  | [] => some []
  | item :: rest => do return (← portableWithin? room item) :: (← portableItems? room rest)

def portableMembers? (room : Nat) :
    List (Option String × Json) → Option (List (Option String × Json))
  | [] => some []
  | (key?, value) :: rest => do
      return (some (← key?), ← portableWithin? room value) :: (← portableMembers? room rest)

end

/-- How deep the arrays and objects of a document may be nested. -/
def portableDepth : Nat := 127

def portable? (document : Json) : Option Json := portableWithin? portableDepth document

end ChannelMux.Json
