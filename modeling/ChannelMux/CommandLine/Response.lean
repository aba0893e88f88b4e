import ChannelMux.CommandLine.Invocation
import ChannelMux.Demo.Run
import ChannelMux.Encoding.Routing
import ChannelMux.Json.Printing

/-!
Contract: what the program answers.

Owns the exit codes, what is written for each command and each failure, and the order in
which things are looked at: first the command line, then the settings, then the command.
-/

namespace ChannelMux.CommandLine

/-- What the program answers: its exit code, what it says, and what it complains of. -/
structure Response where
  code : Nat := 0
  output : String := ""
  complaint : String := ""
deriving DecidableEq, Repr, Inhabited

def usage : String :=
  "Usage: forkline [OPTIONS] <COMMAND>\n\n" ++
  "Commands:\n" ++
  "  demo                            Hold a demonstration with nodes in memory\n" ++
  "  header encode <GROUP> <MEMBER>  Write a routing header in hexadecimal\n" ++
  "  header decode <HEX>             Read a routing header\n\n" ++
  "Options:\n" ++
  "      --log-level <LOG_LEVEL>\n" ++
  "      --log-json\n" ++
  "      --project-dir <PROJECT_DIR>  [env: FORKLINE_PROJECT_DIR]\n" ++
  "  -h, --help\n" ++
  "  -V, --version\n\n" ++
  "Options of demo:\n" ++
  "      --nodes <NODES>              [default: 2]\n" ++
  "      --groups <GROUPS>            [default: 2]\n" ++
  "      --members <MEMBERS>          [default: 2]\n" ++
  "      --messages <MESSAGES>        [default: 3]\n" ++
  "      --cluster <CLUSTER>          [default: forkline-demo]\n" ++
  "      --neighbor <NEIGHBOR>\n" ++
  "      --position <POSITION>\n"

def version : String := "forkline 0.1.0-alpha.1\n"

namespace Response

def say (output : String) : Response := { output := output }

/-- The answer to what fails for a reason. -/
def fail (reason : String) : Response :=
  { code := 1, complaint := "Error: " ++ reason ++ "\n" }

def ofStop : Stop → Response
  | .misuse => { code := 2, complaint := usage }
  | .help => say usage
  | .version => say version

/-- The answer to a demonstration. A report in which something is missing is given, and
complained of. -/
def ofReport (report : Demo.Report) : Response :=
  let output := report.toJson.indented ++ "\n"
  if report.short = 0 then say output
  else
    { fail s!"{report.short} fork channel(s) received an unexpected message count" with
      output := output }

def ofFailure : Demo.Failure → Response
  | .refused refusal => fail refusal.message
  | .tooDeep => { code := 101, complaint := "pipelines nested too deep\n" }

end Response

def demonstrate (plan : Demo.Plan) (settings : ForkSettings) : Response :=
  if !plan.isPositive then .fail "--nodes, --groups and --members must be positive"
  else if !plan.isAddressable then { code := 101, complaint := "capacity overflow\n" }
  else
    match Demo.run plan settings with
    | .ok report => .ofReport report
    | .error failure => .ofFailure failure

def encodeHeader (group member : String) : Response :=
  match Encoding.routingToText (.between group member) with
  | .ok text => .say (text ++ "\n")
  | .error error => .fail error.message

def decodeHeader (text : String) : Response :=
  match Encoding.routingOfText text with
  | .ok header => .say (header.display ++ "\n")
  | .error fault => .fail fault.message

def carryOut (settings : Settings) : Command → Response
  | .demo plan => demonstrate plan settings.fork
  | .encode group member => encodeHeader group member
  | .decode text => decodeHeader text

/-- The answer to an invocation, given its settings files. -/
def answer (environment : Environment) (invocation : Invocation) (files : List SettingsFile) :
    Response :=
  match Settings.resolve files environment with
  | .ok settings => carryOut (invocation.override settings) invocation.command
  | .error error => .fail error.message

/-- The answer to a command line, given a way of looking for files. -/
def respond {m : Type → Type} [Monad m] (environment : Environment)
    (lookUp : String → m StoredFile) (words : List String) : m Response := do
  match parse environment words with
  | .error stop => return .ofStop stop
  | .ok invocation =>
      let files ← (invocation.settingsPaths environment).mapM fun path =>
        return ⟨path, ← lookUp path⟩
      return answer environment invocation files

end ChannelMux.CommandLine
