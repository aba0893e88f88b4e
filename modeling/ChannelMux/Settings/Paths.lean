import ChannelMux.Settings.Resolve

/-!
Contract: where settings files are looked for.

Owns the joining of paths, what a path leads to, and the paths of the global and of the
project file.
-/

namespace ChannelMux

namespace Settings

/-- A relative path taken from a directory. -/
def join (directory relative : String) : String :=
  if directory.isEmpty || directory.endsWith "/" then directory ++ relative
  else directory ++ "/" ++ relative

/-- The file that holds a user's settings, if the environment says where the user keeps
such files. -/
def globalPath? (environment : Environment) : Option String :=
  let base? := (environment "XDG_CONFIG_HOME").or
    ((environment "HOME").map (fun home => join home ".config"))
  base?.map (fun base => join (join base "forkline") "settings.json")

def projectPath (directory : String) : String :=
  join (join directory ".forkline") "settings.json"

/-- A path of so many octets or more is too long to lead anywhere. -/
def pathLimit : Nat := 4096

/-- The segments of a path, without those that stay where they are. -/
def segments (path : String) : List String :=
  (path.splitOn "/").filter fun part => part ≠ "" ∧ part ≠ "."

/-- Where segments lead from a place. A place is given by the segments that lead to it, last
first; a step back is possible from a directory alone. -/
def follow? (isDirectory : List String → Bool) : (place segments : List String) →
    Option (List String)
  | place, [] => some place
  | place, part :: rest =>
      if part = ".." then
        if isDirectory place then follow? isDirectory place.tail rest else none
      else follow? isDirectory (part :: place) rest

end Settings

/-- Whether a settings file is what a path leads to. What lies on the way to the file is a
directory, and so may be what cannot be read itself. A path that is too long leads nowhere,
wherever its segments go. -/
def SettingsFile.isAt (file : SettingsFile) (path : String) : Bool :=
  let place := (Settings.segments file.path).reverse
  let isDirectory := fun other : List String =>
    other.isSuffixOf place && (other ≠ place || file.found = .unreadable)
  path.startsWith "/" && path.utf8ByteSize < Settings.pathLimit &&
    Settings.follow? isDirectory [] (Settings.segments path) == some place

end ChannelMux
