import ChannelMux.Placement

/-!
Contract: the settings of the program.

Owns the settings, their built-in defaults, the causes for which settings are refused,
and the filter that a log level stands for.

Does not own where settings come from.
-/

namespace ChannelMux

/-- How a fork is spliced into a shared pipeline. -/
structure ForkSettings where
  /-- Whether a missing demultiplexer is created. -/
  createIfAbsent : Bool := true
  placement : Placement := {}
  /-- Whether a group that exists already is refused. -/
  requireFreshGroup : Bool := false
deriving DecidableEq, Repr, Inhabited

structure LogSettings where
  level : String := "info"
  json : Bool := false
deriving DecidableEq, Repr, Inhabited

structure Settings where
  fork : ForkSettings := {}
  log : LogSettings := {}
deriving DecidableEq, Repr, Inhabited

namespace Settings

/-- Why settings are refused. -/
inductive Error where
  | unreadable (path : String)
  /-- The text of a file is not a document of settings. -/
  | malformed (path : String)
  /-- A text names no side, in upper or lower case. -/
  | badSide (text : String)
  /-- The value of a variable is no truth value. -/
  | badBoolean (name value : String)
deriving DecidableEq, Repr

def Error.message (error : Error) : String :=
  "Configuration error: " ++
    match error with
    | .unreadable path => "Failed to read config file " ++ path
    | .malformed path => "Failed to parse config file " ++ path
    | .badSide text => "invalid position '" ++ text.toLower ++ "', expected 'above' or 'below'"
    | .badBoolean name value => name ++ ": expected a boolean, got '" ++ value ++ "'"

/-- The side that a text names in upper or lower case. -/
def parseSide (text : String) : Except Error Side :=
  match Side.ofName? text.toLower with
  | some side => .ok side
  | none => .error (.badSide text)

/-- The truth value that the value of a variable names in upper or lower case. -/
def parseBoolean (name value : String) : Except Error Bool :=
  let word := value.toLower
  if ["1", "true", "yes", "on"].contains word then .ok true
  else if ["0", "false", "no", "off"].contains word then .ok false
  else .error (.badBoolean name value)

end Settings

/-- The log filter that gives every part of the program one level. -/
def LogSettings.filter (level : String) : String :=
  ",".intercalate
    (["forkline_core", "forkline_mux", "forkline"].map (fun part => part ++ "=" ++ level))

end ChannelMux
