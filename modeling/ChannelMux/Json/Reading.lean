import ChannelMux.Json.Value
import ChannelMux.Json.Token

/-!
Contract: reading a JSON document from text.

Owns the machine that builds a document from tokens. It keeps the unfinished arrays and
objects on a stack of its own, so that documents may be nested to any depth.

Nothing may stand behind the document but white space.
-/

namespace ChannelMux.Json

/-- An unfinished array or object, what it holds listed last first. -/
inductive Frame where
  | array (reversed : List Json)
  | object (reversed : List (Option String × Json)) (key? : Option String)

/-- What the machine expects next. -/
inductive Expectation where
  | value
  /-- The first item of an array, or its end. -/
  | itemOrEnd
  | keyOrEnd
  | key
  | colon
  /-- A comma, or the end of the array or object. -/
  | commaOrEnd
  | nothing (document : Json)

/-- A machine: what it expects, and the unfinished arrays and objects, innermost first. -/
structure Builder where
  expectation : Expectation := .value
  frames : List Frame := []

namespace Builder

/-- A value is finished: it goes into the innermost unfinished array or object, or is
the document. -/
def complete (frames : List Frame) (value : Json) : Builder :=
  match frames with
  | [] => ⟨.nothing value, []⟩
  | .array reversed :: outer => ⟨.commaOrEnd, .array (value :: reversed) :: outer⟩
  | .object reversed key? :: outer =>
      ⟨.commaOrEnd, .object ((key?, value) :: reversed) none :: outer⟩

/-- Begins a value. -/
def open? (frames : List Frame) (token : Token) : Option Builder :=
  match token with
  | .openArray => some ⟨.itemOrEnd, .array [] :: frames⟩
  | .openObject => some ⟨.keyOrEnd, .object [] none :: frames⟩
  | .null => some (complete frames .null)
  | .boolean value => some (complete frames (.boolean value))
  | .number spelling => some (complete frames (.number spelling))
  | .string text? => some (complete frames (.string text?))
  | _ => none

/-- Ends the innermost array or object. -/
def close? (frames : List Frame) (token : Token) : Option Builder :=
  match token, frames with
  | .closeArray, .array reversed :: outer => some (complete outer (.array reversed.reverse))
  | .closeObject, .object reversed _ :: outer =>
      some (complete outer (.object reversed.reverse))
  | _, _ => none

/-- Takes a key. -/
def key? (frames : List Frame) (token : Token) : Option Builder :=
  match token, frames with
  | .string text?, .object reversed _ :: outer =>
      some ⟨.colon, .object reversed text? :: outer⟩
  | _, _ => none

/-- Reads one token. -/
def step (builder : Builder) (token : Token) : Option Builder :=
  match builder.expectation with
  | .value => open? builder.frames token
  | .itemOrEnd =>
      if token = .closeArray then close? builder.frames token else open? builder.frames token
  | .keyOrEnd =>
      if token = .closeObject then close? builder.frames token else key? builder.frames token
  | .key => key? builder.frames token
  | .colon => if token = .colon then some { builder with expectation := .value } else none
  | .commaOrEnd =>
      if token = .comma then
        match builder.frames with
        | .object _ _ :: _ => some { builder with expectation := .key }
        | _ => some { builder with expectation := .value }
      else close? builder.frames token
  | .nothing _ => none

end Builder

/-- The document that a text writes. -/
def ofString? (text : String) : Option Json := do
  let tokens ← tokens? text
  match (← tokens.foldlM Builder.step {}).expectation with
  | .nothing document => some document
  | _ => none

end ChannelMux.Json
