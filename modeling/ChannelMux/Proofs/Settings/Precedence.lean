import ChannelMux.Settings.Resolve
import ChannelMux.Proofs.Settings.Documents

/-!
Contract: which layer decides each field of the resolved settings, and which offending input
decides the error.

Owns what a settings file and an environment set and what is wrong with them, each said of
one file or one variable alone, and the proof that resolution takes each field from the
highest layer that sets it and fails with the first offending input.

Does not own the reading of documents.
-/

namespace ChannelMux

/-- A computation fails with a fault if there is one, and else gives a value with a
property. -/
inductive Judged {ε α : Type} (property : α → Prop) : Option ε → Except ε α → Prop where
  | fails (error : ε) : Judged property (some error) (.error error)
  | gives {value : α} (holds : property value) : Judged property none (.ok value)

namespace Judged

variable {ε α β : Type} {property : α → Prop} {fault? : Option ε} {result : Except ε α}

/-- Of computations one after another, the first fault is the fault. -/
theorem bind
    {next : α → Except ε β}
    {laterFault? : Option ε}
    {laterProperty : β → Prop}
    (judged : Judged property fault? result)
    (later : ∀ value, property value → Judged laterProperty laterFault? (next value)) :
    Judged laterProperty (fault?.or laterFault?) (result >>= next) := by
  cases judged with
  | fails error => exact .fails error
  | gives holds => exact later _ holds

/-- What follows without fail adds no fault. -/
theorem finish
    {next : α → Except ε β}
    {laterProperty : β → Prop}
    (judged : Judged property fault? result)
    (later : ∀ value, property value → Judged laterProperty none (next value)) :
    Judged laterProperty fault? (result >>= next) := by
  have bound := judged.bind later
  rwa [Option.or_none] at bound

theorem mono
    {weaker : α → Prop}
    (judged : Judged property fault? result)
    (weaken : ∀ value, property value → weaker value) :
    Judged weaker fault? result := by
  cases judged with
  | fails error => exact .fails error
  | gives holds => exact .gives (weaken _ holds)

theorem ok_iff
    (judged : Judged property fault? result) :
    (∃ value, result = .ok value) ↔ fault? = none := by
  cases judged with
  | fails known => simp
  | gives holds => simp

theorem holds_of_ok
    (judged : Judged property fault? result)
    {value : α}
    (given : result = .ok value) :
    property value := by
  cases judged with
  | fails known => cases given
  | gives holds =>
      cases given
      exact holds

end Judged

namespace SettingsFile

open Settings

/-- The text of a file that is there and can be read. -/
def text? (file : SettingsFile) : Option String :=
  match file.found with
  | .octets octets => Utf8.decode? octets
  | _ => none

/-- The document that a file holds. -/
def document? (file : SettingsFile) : Option Json := file.text?.bind Json.ofString?

/-- What is wrong with a file: nothing if it is missing. -/
def fault? (file : SettingsFile) : Option Settings.Error :=
  if file.found = .missing then none
  else
    match file.text? with
    | none => some (.unreadable file.path)
    | some text =>
        if ((Json.ofString? text).bind Overlay.ofJson?).isSome then none
        else some (.malformed file.path)

/-- What a file sets. -/
def layer (file : SettingsFile) : Layer := fun field =>
  file.document?.bind fun document => layerOf document field

/-- A file fails by what is wrong with it, and else gives an overlay that sets what the file
sets. -/
theorem overlay_judged
    (file : SettingsFile) :
    Judged (fun overlay : Overlay => overlay.layer = file.layer) file.fault? file.overlay := by
  obtain ⟨path, found⟩ := file
  cases found with
  | missing =>
      refine .gives ?_
      funext field
      cases field <;> rfl
  | unreadable => exact .fails _
  | octets octets =>
      cases decoded : Utf8.decode? octets with
      | none =>
          simp only [fault?, text?, overlay, read, decoded]
          exact .fails _
      | some text =>
          cases described : (Json.ofString? text).bind Overlay.ofJson? with
          | none =>
              simp only [fault?, text?, overlay, read, decoded, described]
              exact .fails _
          | some given =>
              simp only [fault?, text?, overlay, read, decoded, described]
              refine .gives ?_
              obtain ⟨document, written, isOverlay⟩ := Option.bind_eq_some_iff.mp described
              funext field
              simp only [layer, document?, text?, decoded, Option.bind_some, written]
              rw [Overlay.layer_of_ofJson isOverlay]

end SettingsFile

namespace Settings

/-- The truth value that a word names in upper or lower case. -/
def truth? (word : String) : Option Bool :=
  if word.toLower ∈ ["1", "true", "yes", "on"] then some true
  else if word.toLower ∈ ["0", "false", "no", "off"] then some false
  else none

theorem parseBoolean_eq
    (name value : String) :
    parseBoolean name value = (truth? value).elim (.error (.badBoolean name value)) .ok := by
  simp only [parseBoolean, truth?, List.contains_iff_mem]
  split
  · rfl
  · split <;> rfl

theorem parseSide_eq
    (text : String) :
    parseSide text = (Side.ofName? text.toLower).elim (.error (.badSide text)) .ok := by
  unfold parseSide
  cases Side.ofName? text.toLower <;> rfl

/-- Settings with a layer put on top. -/
def Under (settings : Settings) (layer : Layer) (after : Settings) : Prop :=
  ∀ field, after.value field = (layer field).getD (settings.value field)

/-- The search for a first value looks at the head of a list first. -/
private theorem findSome_cons
    {α β : Type}
    (find : α → Option β)
    (head : α)
    (rest : List α) :
    (head :: rest).findSome? find = (find head).or (rest.findSome? find) := by
  rw [List.findSome?_cons]
  cases find head <;> rfl

/-- Files put on top one after another fail with the first that is at fault, and else the last
that sets a field decides it. -/
theorem files_judged
    (files : List SettingsFile)
    (settings : Settings) :
    Judged (settings.Under fun field => files.reverse.findSome? fun file => file.layer field)
      (files.findSome? SettingsFile.fault?)
      (files.foldlM (fun (settings : Settings) file => do
        return (← file.overlay).apply settings) settings) := by
  induction files generalizing settings with
  | nil => exact .gives fun field => rfl
  | cons file rest inductionHypothesis =>
      rw [List.foldlM_cons, findSome_cons, bind_assoc]
      refine file.overlay_judged.bind fun overlay sets => ?_
      rw [pure_bind]
      refine (inductionHypothesis _).mono fun after under field => ?_
      rw [under field, overlay.value_apply, sets, List.reverse_cons]
      simp only [List.findSome?_append, findSome_cons, List.findSome?_nil, Option.or_none]
      cases rest.reverse.findSome? fun file => file.layer field <;> rfl

end Settings

namespace Environment

open Settings

/-- What an environment sets. An empty neighbor sets that there is none; no variable is about
a fresh group. -/
def layer (environment : Environment) : Layer
  | .createIfAbsent => (environment "FORKLINE_CREATE_IF_ABSENT").bind truth?
  | .side => (environment "FORKLINE_POSITION").bind fun text => Side.ofName? text.toLower
  | .neighbor =>
      (environment "FORKLINE_NEIGHBOR").map fun name => if name = "" then none else some name
  | .requireFreshGroup => none
  | .level => environment "FORKLINE_LOG_LEVEL"
  | .json => (environment "FORKLINE_LOG_JSON").bind truth?

/-- What is wrong with a variable that is to name a truth value. -/
def truthFault? (environment : Environment) (name : String) : Option Settings.Error :=
  (environment name).bind fun value =>
    if truth? value = none then some (.badBoolean name value) else none

/-- What is wrong with the variable that is to name a side. -/
def sideFault? (environment : Environment) : Option Settings.Error :=
  (environment "FORKLINE_POSITION").bind fun text =>
    if Side.ofName? text.toLower = none then some (.badSide text) else none

/-- What is wrong with an environment, first of all. -/
def fault? (environment : Environment) : Option Settings.Error :=
  (environment.truthFault? "FORKLINE_CREATE_IF_ABSENT").or
    (environment.sideFault?.or (environment.truthFault? "FORKLINE_LOG_JSON"))

/-- A variable that is to be read fails if it names nothing, and else decides in place of what
was there. -/
private theorem variable_judged
    {α : Type}
    {parse : String → Except Settings.Error α}
    {named? : String → Option α}
    {fault : String → Settings.Error}
    (parsed : ∀ word, parse word = (named? word).elim (.error (fault word)) .ok)
    (word? : Option String)
    (old : α) :
    Judged (fun value => value = (word?.bind named?).getD old)
      (word?.bind fun word => if named? word = none then some (fault word) else none)
      (word?.elim (.ok old) parse) := by
  cases word? with
  | none => exact .gives rfl
  | some word =>
      simp only [Option.bind_some, Option.elim_some, parsed]
      cases named? word with
      | none => exact .fails _
      | some value => exact .gives rfl

/-- The variables that can be wrong are read in turn, the others as they are. -/
theorem applyEnvironment_eq
    (environment : Environment)
    (settings : Settings) :
    applyEnvironment environment settings = do
      let createIfAbsent ← (environment "FORKLINE_CREATE_IF_ABSENT").elim
        (.ok settings.fork.createIfAbsent) (parseBoolean "FORKLINE_CREATE_IF_ABSENT")
      let side ← (environment "FORKLINE_POSITION").elim
        (.ok settings.fork.placement.side) parseSide
      let json ← (environment "FORKLINE_LOG_JSON").elim
        (.ok settings.log.json) (parseBoolean "FORKLINE_LOG_JSON")
      return {
        fork := { settings.fork with
          createIfAbsent := createIfAbsent
          placement := {
            side := side
            neighbor? := (environment.layer .neighbor).getD settings.fork.placement.neighbor? } }
        log := { level := (environment "FORKLINE_LOG_LEVEL").getD settings.log.level
                 json := json } } := by
  have neighbor :
      (environment.layer .neighbor).getD settings.fork.placement.neighbor? =
        (environment "FORKLINE_NEIGHBOR").elim settings.fork.placement.neighbor? fun value =>
          if value.isEmpty then none else some value := by
    simp only [layer]
    cases environment "FORKLINE_NEIGHBOR" with
    | none => rfl
    | some value =>
        simp only [String.isEmpty_iff]
        rfl
  unfold applyEnvironment
  rw [neighbor]
  cases environment "FORKLINE_CREATE_IF_ABSENT" <;> cases environment "FORKLINE_POSITION" <;>
    cases environment "FORKLINE_NEIGHBOR" <;> cases environment "FORKLINE_LOG_JSON" <;> rfl

/-- The environment put on top fails with the first variable that is at fault, and else each
variable decides its field. -/
theorem environment_judged
    (environment : Environment)
    (settings : Settings) :
    Judged (settings.Under environment.layer) environment.fault?
      (applyEnvironment environment settings) := by
  rw [applyEnvironment_eq]
  refine (variable_judged (parseBoolean_eq _) _ _).bind fun create created => ?_
  refine (variable_judged parseSide_eq _ _).bind fun side sided => ?_
  refine (variable_judged (parseBoolean_eq _) _ _).finish fun json jsoned => .gives fun field => ?_
  cases field with
  | createIfAbsent => exact created
  | side => exact sided
  | json => exact jsoned
  | _ => rfl

end Environment

namespace Settings

/-- What is wrong with what settings are resolved from, first of all. -/
def firstFault? (files : List SettingsFile) (environment : Environment) : Option Error :=
  (files.findSome? SettingsFile.fault?).or environment.fault?

/-- Files and an environment resolve unless one of them is at fault. Each field is then what the
environment sets it to, or else the last file that sets it, or else what it is by default. -/
theorem resolve_judged
    (files : List SettingsFile)
    (environment : Environment) :
    Judged
      (fun settings => ∀ field, settings.value field =
        ((environment.layer field).or
          (files.reverse.findSome? fun file => file.layer field)).getD
            (({} : Settings).value field))
      (firstFault? files environment) (resolve files environment) := by
  refine (files_judged files {}).bind fun settings filed => ?_
  refine (environment.environment_judged settings).mono fun after under field => ?_
  rw [under field, filed field]
  cases environment.layer field <;> rfl

/-- The files that settings are resolved from, the global one below the project's. -/
def layered (global? project? : Option SettingsFile) : List SettingsFile :=
  global?.toList ++ project?.toList

/-- A file that is there can be read, and what it holds is an overlay. -/
def Sound (file : SettingsFile) : Prop :=
  file.found ≠ .missing →
    ∃ text, file.text? = some text ∧ ((Json.ofString? text).bind Overlay.ofJson?).isSome = true

/-- A variable, if it is set, is one of some words in upper or lower case. -/
def OneOf (words : List String) (value? : Option String) : Prop :=
  ∀ value, value? = some value → value.toLower ∈ words

theorem fault_eq_none_iff
    (file : SettingsFile) :
    file.fault? = none ↔ Sound file := by
  simp only [SettingsFile.fault?, Sound]
  by_cases missing : file.found = .missing
  · simp [missing]
  · cases file.text? with
    | none => simp [missing]
    | some text =>
        simp only [Option.some.injEq, exists_eq_left']
        generalize ((Json.ofString? text).bind Overlay.ofJson?).isSome = described
        cases described <;> simp [missing]

/-- A word names a truth value exactly if it is one of eight. -/
theorem truth_isSome_iff
    (word : String) :
    (truth? word).isSome = true ↔
      word.toLower ∈ ["1", "true", "yes", "on", "0", "false", "no", "off"] := by
  rw [show ["1", "true", "yes", "on", "0", "false", "no", "off"] =
    ["1", "true", "yes", "on"] ++ ["0", "false", "no", "off"] from rfl, List.mem_append]
  unfold truth?
  split
  · simp_all only [Option.isSome_some, true_or]
  · split <;> simp_all only [Option.isSome_some, Option.isSome_none, false_or, reduceCtorEq]

/-- A text names a side exactly if it is one of two. -/
theorem ofName_isSome_iff
    (text : String) :
    (Side.ofName? text).isSome = true ↔ text ∈ ["above", "below"] := by
  unfold Side.ofName?
  split
  · simp_all
  · split <;> simp_all

/-- A variable is at fault exactly if it is set and names nothing. -/
private theorem named_eq_none_iff
    {α : Type}
    {named? : String → Option α}
    {words : List String}
    {fault : String → Error}
    (names : ∀ word, (named? word).isSome = true ↔ word.toLower ∈ words)
    (value? : Option String)
    [∀ word, Decidable (named? word = none)] :
    (value?.bind fun word => if named? word = none then some (fault word) else none) = none ↔
      OneOf words value? := by
  cases value? with
  | none => simp [OneOf]
  | some word => simp [OneOf, ← names, Option.isSome_iff_ne_none]

theorem truthFault_eq_none_iff
    (environment : Environment)
    (name : String) :
    environment.truthFault? name = none ↔
      OneOf ["1", "true", "yes", "on", "0", "false", "no", "off"] (environment name) :=
  named_eq_none_iff truth_isSome_iff (environment name)

theorem sideFault_eq_none_iff
    (environment : Environment) :
    environment.sideFault? = none ↔
      OneOf ["above", "below"] (environment "FORKLINE_POSITION") :=
  named_eq_none_iff (fun text => ofName_isSome_iff text.toLower)
    (environment "FORKLINE_POSITION")

/-- Nothing is at fault exactly if no file and no variable is. -/
theorem firstFault_eq_none_iff
    (files : List SettingsFile)
    (environment : Environment) :
    firstFault? files environment = none ↔
      (∀ file ∈ files, Sound file) ∧
        OneOf ["1", "true", "yes", "on", "0", "false", "no", "off"]
          (environment "FORKLINE_CREATE_IF_ABSENT") ∧
        OneOf ["above", "below"] (environment "FORKLINE_POSITION") ∧
        OneOf ["1", "true", "yes", "on", "0", "false", "no", "off"]
          (environment "FORKLINE_LOG_JSON") := by
  simp only [firstFault?, Environment.fault?, Option.or_eq_none_iff, List.findSome?_eq_none_iff,
    fault_eq_none_iff, truthFault_eq_none_iff, sideFault_eq_none_iff]

end Settings

end ChannelMux
