import ChannelMux.CommandLine.Response

/-!
Contract: the program.

Owns its dealings with the outside: its words, its environment, files, what it writes, and
its exit code. What it answers is decided elsewhere.
-/

namespace ChannelMux

def environmentVariables : List String :=
  ["XDG_CONFIG_HOME", "HOME", CommandLine.projectVariable, "FORKLINE_CREATE_IF_ABSENT",
    "FORKLINE_POSITION", "FORKLINE_NEIGHBOR", "FORKLINE_LOG_LEVEL", "FORKLINE_LOG_JSON"]

def readEnvironment : IO Environment := do
  let entries ← environmentVariables.mapM fun name => return (name, ← IO.getEnv name)
  return fun name => (entries.find? (fun entry => entry.1 == name)).bind Prod.snd

/-- What is found at a path. -/
def lookUpFile (path : String) : IO StoredFile := do
  try
    return .octets (← IO.FS.readBinFile path).toList
  catch
    | .noFileOrDirectory .. => return .missing
    | _ => return .unreadable

end ChannelMux

open ChannelMux in
/-- Answers the words of a command line. -/
def main (words : List String) : IO UInt32 := do
  let response ← CommandLine.respond (← readEnvironment) lookUpFile words
  (← IO.getStdout).putStr response.output
  (← IO.getStderr).putStr response.complaint
  return UInt32.ofNat response.code
