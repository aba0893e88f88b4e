import ChannelMux.Settings.Basic
import ChannelMux.Json.Reading

/-!
Contract: settings as JSON documents.

Owns the document that describes complete settings, and the two ways of reading one. As
complete settings, a field that is missing has its built-in value, and a null is a value of
the neighbor alone. As an overlay, a field that is missing or null is not set, and a section
written as an array must have all its fields.
-/

namespace ChannelMux

namespace Side

/-- The side that a document names: its name, or an object of its name and a null. -/
def ofJson? : Json → Option Side
  | .string (some text) => ofName? text
  | .object [(some name, .null)] => ofName? name
  | _ => none

end Side

/-- The fields of one layer of settings; an absent one is left to the layers below. -/
structure Overlay where
  createIfAbsent? : Option Bool := none
  side? : Option Side := none
  neighbor? : Option String := none
  requireFreshGroup? : Option Bool := none
  level? : Option String := none
  json? : Option Bool := none
deriving DecidableEq, Repr, Inhabited

namespace Settings

def sectionNames : List String := ["mux", "log"]

def forkNames : List String := ["create_if_absent", "position", "neighbor", "require_fresh_group"]

def logNames : List String := ["level", "json"]

/-- A field that has a default. -/
def fieldOr {α : Type} (default : α) (read : Json → Option α) : Option Json → Option α
  | none => some default
  | some document => read document

/-- A null, or what else is read. -/
def nullable {α : Type} (read : Json → Option α) : Json → Option (Option α)
  | .null => some none
  | document => (read document).map some

def forkOfJson? (document : Json) : Option ForkSettings := do
  match ← document.fields? forkNames with
  | [create?, side?, neighbor?, fresh?] =>
      return {
        createIfAbsent := ← fieldOr true Json.boolean? create?
        placement := {
          side := ← fieldOr .above Side.ofJson? side?
          neighbor? := ← fieldOr none (nullable Json.text?) neighbor? }
        requireFreshGroup := ← fieldOr false Json.boolean? fresh? }
  | _ => none

def logOfJson? (document : Json) : Option LogSettings := do
  match ← document.fields? logNames with
  | [level?, json?] =>
      return {
        level := ← fieldOr "info" Json.text? level?
        json := ← fieldOr false Json.boolean? json? }
  | _ => none

/-- The complete settings that a document describes. -/
def ofJson? (document : Json) : Option Settings := do
  match ← document.fields? sectionNames with
  | [fork?, log?] =>
      return {
        fork := ← fieldOr {} forkOfJson? fork?
        log := ← fieldOr {} logOfJson? log? }
  | _ => none

end Settings

/-- Settings as a document, in the form in which complete settings are read. -/
def Settings.toJson (settings : Settings) : Json :=
  .ofMembers
    [("mux", .ofMembers
      [("create_if_absent", .boolean settings.fork.createIfAbsent),
        ("position", .text settings.fork.placement.side.name),
        ("neighbor", (settings.fork.placement.neighbor?.map Json.text).getD .null),
        ("require_fresh_group", .boolean settings.fork.requireFreshGroup)]),
      ("log", .ofMembers
        [("level", .text settings.log.level), ("json", .boolean settings.log.json)])]

namespace Overlay

open Settings

/-- An overlay with the section on forks set from a document. -/
def readFork? (overlay : Overlay) (document : Json) : Option Overlay := do
  match ← document.fieldsInFull? forkNames with
  | [create?, side?, neighbor?, fresh?] =>
      return { overlay with
        createIfAbsent? := ← fieldOr none (nullable Json.boolean?) create?
        side? := ← fieldOr none (nullable Side.ofJson?) side?
        neighbor? := ← fieldOr none (nullable Json.text?) neighbor?
        requireFreshGroup? := ← fieldOr none (nullable Json.boolean?) fresh? }
  | _ => none

/-- An overlay with the section on logging set from a document. -/
def readLog? (overlay : Overlay) (document : Json) : Option Overlay := do
  match ← document.fieldsInFull? logNames with
  | [level?, json?] =>
      return { overlay with
        level? := ← fieldOr none (nullable Json.text?) level?
        json? := ← fieldOr none (nullable Json.boolean?) json? }
  | _ => none

/-- The overlay that a document describes. -/
def ofJson? (document : Json) : Option Overlay := do
  match ← document.fields? sectionNames with
  | [fork?, log?] =>
      let withFork ← fieldOr {} (readFork? {}) fork?
      fieldOr withFork (readLog? withFork) log?
  | _ => none

/-- Settings with the fields of an overlay put on top. -/
def apply (overlay : Overlay) (settings : Settings) : Settings where
  fork := {
    createIfAbsent := overlay.createIfAbsent?.getD settings.fork.createIfAbsent
    placement := {
      side := overlay.side?.getD settings.fork.placement.side
      neighbor? := overlay.neighbor?.or settings.fork.placement.neighbor? }
    requireFreshGroup := overlay.requireFreshGroup?.getD settings.fork.requireFreshGroup }
  log := {
    level := overlay.level?.getD settings.log.level
    json := overlay.json?.getD settings.log.json }

end Overlay

end ChannelMux
