import ChannelMux.CommandLine.Level
import ChannelMux.Demo.Plan
import ChannelMux.Settings.Paths
import ChannelMux.Text.Decimal

/-!
Contract: what the program is asked to do.

Owns the commands, their options, and the reading of a whole command line. Some options are
allowed at every level; where one of them is given at several, the innermost counts. The
directory of the project can also come from the environment.
-/

namespace ChannelMux.CommandLine

/-- What the program can be asked to do. -/
inductive Command where
  | demo (plan : Demo.Plan)
  | encode (group member : String)
  | decode (text : String)
deriving DecidableEq, Repr

/-- A command line that is understood. -/
structure Invocation where
  logLevel? : Option String := none
  logJson : Bool := false
  projectDirectory? : Option String := none
  command : Command
deriving DecidableEq, Repr

/-- The number that a text writes in decimal digits, perhaps behind a plus sign, if it
fits in eight octets. -/
def countOfText? (text : String) : Option Nat :=
  Text.decimalBelow? (Octets.capacity 8) (match text.toList with
    | '+' :: digits => digits
    | digits => digits)

def sideOfText? (text : String) : Option Side := Side.ofName? text.toLower

/-- The options allowed at every level. -/
def commonOptions : List (String × Argument) :=
  [("log-level", .value (fun _ => true)), ("log-json", .nothing),
    ("project-dir", .value (fun directory => !directory.isEmpty))]

def programLevel : Level where
  options := commonOptions
  commands := ["demo", "header", "help"]
  hasVersion := true

def demoLevel : Level where
  options := commonOptions ++
    ["nodes", "groups", "members", "messages"].map
      (fun name => (name, .value (fun text => (countOfText? text).isSome))) ++
    [("cluster", .value (fun _ => true)), ("neighbor", .value (fun _ => true)),
      ("position", .value (fun text => (sideOfText? text).isSome))]

def headerLevel : Level where
  options := commonOptions
  commands := ["encode", "decode", "help"]

def encodeLevel : Level where
  options := commonOptions
  operands := 2

def decodeLevel : Level where
  options := commonOptions
  operands := 1

def planOf (found : Found) : Demo.Plan :=
  let count := fun name default => ((found.value? name).bind countOfText?).getD default
  let standard : Demo.Plan := {}
  { nodes := count "nodes" standard.nodes
    groups := count "groups" standard.groups
    members := count "members" standard.members
    messages := count "messages" standard.messages
    cluster := (found.value? "cluster").getD standard.cluster
    neighbor? := found.value? "neighbor"
    side? := (found.value? "position").bind sideOfText? }

/-- The variable that can give the directory of the project. -/
def projectVariable : String := "FORKLINE_PROJECT_DIR"

/-- The invocation of a command, given what was found at all levels, outermost first. An
empty variable is no directory, and is refused at every level at which it would count. -/
def invoke (environment : Environment) (levels : List Found) (command : Command) :
    Except Stop Invocation :=
  let innermost? := fun name => (levels.filterMap (·.value? name)).getLast?
  let fromEnvironment? := environment projectVariable
  if fromEnvironment? = some "" ∧ levels.any (fun found => (found.value? "project-dir").isNone) then
    .error .misuse
  else
    .ok {
      logLevel? := innermost? "log-level"
      logJson := (innermost? "log-json").isSome
      projectDirectory? := (innermost? "project-dir").or fromEnvironment?
      command := command }

/-- What asking for help on a command line comes to: the words must name a command. -/
def helpOn : List String → Stop
  | [] | ["help"] | ["demo"] | ["header"] | ["header", "encode"] | ["header", "decode"]
  | ["header", "help"] => .help
  | _ => .misuse

/-- Reads the words behind the name of a command on routing headers. -/
def parseHeader (environment : Environment) (program : Found) (words : List String) :
    Except Stop Invocation := do
  let header ← headerLevel.read .open {} words
  match header.command? with
  | some ("encode", rest) =>
      let found ← encodeLevel.read .open {} rest
      match found.operands with
      | [group, member] => invoke environment [program, header, found] (.encode group member)
      | _ => throw .misuse
  | some ("decode", rest) =>
      let found ← decodeLevel.read .open {} rest
      match found.operands with
      | [text] => invoke environment [program, header, found] (.decode text)
      | _ => throw .misuse
  | some (_, rest) => throw (helpOn ("header" :: rest))
  | none => throw .misuse

def parse (environment : Environment) (words : List String) : Except Stop Invocation := do
  let program ← programLevel.read .open {} words
  match program.command? with
  | some ("demo", rest) =>
      let demo ← demoLevel.read .open {} rest
      invoke environment [program, demo] (.demo (planOf demo))
  | some ("header", rest) => parseHeader environment program rest
  | some (_, rest) => throw (helpOn rest)
  | none => throw .misuse

namespace Invocation

/-- The settings files that count, in increasing precedence. -/
def settingsPaths (invocation : Invocation) (environment : Environment) : List String :=
  (Settings.globalPath? environment).toList ++
    (invocation.projectDirectory?.map Settings.projectPath).toList

/-- The settings with what the command line says of logging put on top. -/
def override (invocation : Invocation) (settings : Settings) : Settings :=
  { settings with log := {
      level := invocation.logLevel?.getD settings.log.level
      json := invocation.logJson || settings.log.json } }

end Invocation

end ChannelMux.CommandLine
