import ChannelMux.Settings.Document
import ChannelMux.Text.Utf8

/-!
Contract: settings resolved from their layers.

Owns the order of the layers, the built-in defaults under the global file under the
project file under the environment, and the first cause for which resolution fails.

Does not own the file system: what is found at a path is given.
-/

namespace ChannelMux

/-- What is found where a settings file is looked for. -/
inductive StoredFile where
  | missing
  /-- Something that cannot be read, such as a directory. -/
  | unreadable
  | octets (octets : Octets)
deriving DecidableEq, Repr

/-- A settings file: its path and what is found there. -/
structure SettingsFile where
  path : String
  found : StoredFile
deriving DecidableEq, Repr

namespace SettingsFile

/-- The document that a file holds, read in the given way. -/
def read {α : Type} (file : SettingsFile) (interpret : Json → Option α) :
    Except Settings.Error α :=
  match file.found with
  | .missing | .unreadable => .error (.unreadable file.path)
  | .octets octets =>
      match Utf8.decode? octets with
      | none => .error (.unreadable file.path)
      | some text =>
          match (Json.ofString? text).bind interpret with
          | none => .error (.malformed file.path)
          | some value => .ok value

def settings (file : SettingsFile) : Except Settings.Error Settings :=
  file.read Settings.ofJson?

/-- The overlay that a file holds; a missing file sets nothing. -/
def overlay (file : SettingsFile) : Except Settings.Error Overlay :=
  match file.found with
  | .missing => .ok {}
  | _ => file.read Overlay.ofJson?

end SettingsFile

/-- The values of environment variables; one that is not text counts as not set. -/
abbrev Environment := String → Option String

namespace Settings

/-- Settings with the variables of an environment put on top. -/
def applyEnvironment (environment : Environment) (settings : Settings) :
    Except Error Settings := do
  let createIfAbsent ← match environment "FORKLINE_CREATE_IF_ABSENT" with
    | some value => parseBoolean "FORKLINE_CREATE_IF_ABSENT" value
    | none => pure settings.fork.createIfAbsent
  let side ← match environment "FORKLINE_POSITION" with
    | some value => parseSide value
    | none => pure settings.fork.placement.side
  let neighbor? := match environment "FORKLINE_NEIGHBOR" with
    | some value => if value.isEmpty then none else some value
    | none => settings.fork.placement.neighbor?
  let level := (environment "FORKLINE_LOG_LEVEL").getD settings.log.level
  let json ← match environment "FORKLINE_LOG_JSON" with
    | some value => parseBoolean "FORKLINE_LOG_JSON" value
    | none => pure settings.log.json
  return {
    fork := { settings.fork with
      createIfAbsent := createIfAbsent
      placement := { side := side, neighbor? := neighbor? } }
    log := { level := level, json := json } }

def resolve (files : List SettingsFile) (environment : Environment) : Except Error Settings := do
  let settings ← files.foldlM (fun (settings : Settings) file => do
    return (← file.overlay).apply settings) {}
  applyEnvironment environment settings

end Settings

end ChannelMux
