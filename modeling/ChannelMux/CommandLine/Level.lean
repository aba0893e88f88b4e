/-!
Contract: the words of a command line, read level by level.

Owns the forms that a word may have, the options, commands and operands that a level of a
command line allows, and the reading of one level up to the word that names the next one.

A word after two dashes alone is an operand whatever it looks like. An option that takes a
value takes it from the same word, behind an equals sign, or else from the next word, which
then must not look like an option. No option is given twice at one level.

Does not own what commands there are.
-/

namespace ChannelMux.CommandLine

/-- How a word may be read. -/
inductive Word where
  /-- Two dashes alone. -/
  | escape
  /-- Two dashes and a name, and perhaps a value behind an equals sign. -/
  | long (name : String) (value? : Option String)
  /-- A dash and letters. -/
  | short (letter : Char)
  /-- Anything else, such as a dash alone. -/
  | plain
deriving DecidableEq, Repr

def Word.ofString (text : String) : Word :=
  match text.toList with
  | ['-', '-'] => .escape
  | '-' :: '-' :: rest =>
      .long (String.ofList (rest.takeWhile (· ≠ '=')))
        (match rest.dropWhile (· ≠ '=') with
          | [] => none
          | _ :: value => some (String.ofList value))
  | '-' :: letter :: _ => .short letter
  | _ => .plain

/-- Why a command line is not carried out. -/
inductive Stop where
  | misuse
  | help
  | version
deriving DecidableEq, Repr

/-- What an option takes. -/
inductive Argument where
  | nothing
  /-- A value, if it is acceptable. -/
  | value (accepts : String → Bool)

/-- What a level allows: options by name, and either commands, one of which must come, or a
number of operands, all of which must come. -/
structure Level where
  options : List (String × Argument)
  commands : List String := []
  operands : Nat := 0
  /-- Whether the version can be asked for. -/
  hasVersion : Bool := false

/-- What is found at a level. -/
structure Found where
  /-- Options and their values, those that take none with an empty one. -/
  options : List (String × String) := []
  operands : List String := []
  /-- The command, and the words behind it. -/
  command? : Option (String × List String) := none
deriving DecidableEq, Repr

namespace Found

def value? (found : Found) (name : String) : Option String :=
  (found.options.find? (fun option => option.1 == name)).map Prod.snd

/-- Adds an option, which must not have been given before. -/
def addOption (found : Found) (name value : String) : Except Stop Found :=
  if (found.value? name).isSome then .error .misuse
  else .ok { found with options := found.options ++ [(name, value)] }

end Found

/-- How the next word of a level is taken. -/
inductive Stance where
  /-- By its form. -/
  | open
  /-- As the value of an option. -/
  | value (name : String) (accepts : String → Bool)
  | operand

namespace Level

def argument? (level : Level) (name : String) : Option Argument :=
  (level.options.find? (fun option => option.1 == name)).map Prod.snd

/-- Adds an operand, if the level has room for it. -/
def addOperand (level : Level) (found : Found) (text : String) : Except Stop Found :=
  if found.operands.length < level.operands then
    .ok { found with operands := found.operands ++ [text] }
  else .error .misuse

/-- Adds an option and its value, if the value is acceptable. -/
def addValue (found : Found) (name : String) (accepts : String → Bool) (value : String) :
    Except Stop Found :=
  if accepts value then found.addOption name value else .error .misuse

/-- Takes an option in its long form; says how the next word is taken. -/
def takeLong (level : Level) (found : Found) (name : String) (value? : Option String) :
    Except Stop (Stance × Found) :=
  match level.argument? name, value? with
  | some .nothing, none => do return (.open, ← found.addOption name "")
  | some (.value accepts), some value => do
      return (.open, ← addValue found name accepts value)
  | some (.value accepts), none => .ok (.value name accepts, found)
  | some .nothing, some _ => .error .misuse
  | none, none =>
      if name = "help" then .error .help
      else if level.hasVersion && name = "version" then .error .version
      else .error .misuse
  | none, some _ => .error .misuse

/-- Why an option in its short form stops the reading. -/
def shortStop (level : Level) (letter : Char) : Stop :=
  if letter = 'h' then .help
  else if level.hasVersion && letter = 'V' then .version
  else .misuse

/-- What is found, once there are no more words. -/
def finish (level : Level) (found : Found) : Except Stop Found :=
  if level.commands.isEmpty && found.operands.length = level.operands then .ok found
  else .error .misuse

def read (level : Level) : Stance → Found → List String → Except Stop Found
  | .value .., _, [] => .error .misuse
  | _, found, [] => level.finish found
  | .operand, found, word :: rest => do
      level.read .operand (← level.addOperand found word) rest
  | .value name accepts, found, word :: rest =>
      match Word.ofString word with
      | .plain => do level.read .open (← addValue found name accepts word) rest
      | _ => .error .misuse
  | .open, found, word :: rest =>
      match Word.ofString word with
      | .escape => level.read .operand found rest
      | .short letter => .error (level.shortStop letter)
      | .long name value? => do
          let (stance, found) ← level.takeLong found name value?
          level.read stance found rest
      | .plain =>
          if level.commands.contains word then
            .ok { found with command? := some (word, rest) }
          else do level.read .open (← level.addOperand found word) rest

end Level

end ChannelMux.CommandLine
