import ChannelMux.Text.Decimal

/-!
Contract: JSON documents as they were written.

Owns the document tree. It keeps repeated keys and the spelling of numbers, since
readers decide what they make of either, and it marks strings that spell a lone half
of a surrogate pair, which denote no text.

Does not own reading a document from text or writing one.
-/

namespace ChannelMux

/-- A JSON document. A string without text is one that spells a lone surrogate. -/
inductive Json where
  | null
  | boolean (value : Bool)
  | number (spelling : String)
  | string (text? : Option String)
  | array (items : List Json)
  | object (members : List (Option String × Json))
deriving Inhabited

namespace Json

def text (value : String) : Json := .string (some value)

/-- The number that counts something. -/
def count (value : Nat) : Json := .number (toString value)

def ofMembers (members : List (String × Json)) : Json :=
  .object (members.map (fun member => (some member.1, member.2)))

def get? (document : Json) (key : String) : Option Json :=
  match document with
  | .object members => (members.find? (fun member => member.1 == some key)).map Prod.snd
  | _ => none

def get (document : Json) (key : String) : Json := (document.get? key).getD .null

instance : GetElem Json String Json (fun _ _ => True) where
  getElem document key _ := document.get key

def boolean? : Json → Option Bool
  | .boolean value => some value
  | _ => none

/-- The text of a string that denotes one. -/
def text? : Json → Option String
  | .string text? => text?
  | _ => none

/-- The value of a number spelled by digits alone, below a bound. -/
def natBelow? (bound : Nat) : Json → Option Nat
  | .number spelling => Text.decimalBelow? bound spelling.toList
  | _ => none

/-- The values that a document gives for declared fields, in the order of declaration,
a field without a value being absent. A document gives them as an object, in which other
keys are passed over but no declared key may come twice and every key must denote a
text, or as an array of at most as many items as there are fields. -/
def fields? (names : List String) : Json → Option (List (Option Json))
  | .object members =>
      if members.any (fun member => member.1.isNone) then none
      else
        names.mapM fun name =>
          match members.filter (fun member => member.1 == some name) with
          | [] => some none
          | [member] => some (some member.2)
          | _ => none
  | .array items =>
      if items.length ≤ names.length then
        some (items.map some ++ List.replicate (names.length - items.length) none)
      else none
  | _ => none

/-- The values of declared fields as by `fields?`, where an array must give all of them. -/
def fieldsInFull? (names : List String) (document : Json) : Option (List (Option Json)) :=
  match document with
  | .array items => if items.length = names.length then some (items.map some) else none
  | _ => document.fields? names

end Json

end ChannelMux
