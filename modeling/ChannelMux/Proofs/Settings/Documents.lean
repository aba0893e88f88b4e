import ChannelMux.Settings.Document

/-!
Contract: the fields of the settings, and what a document says of each of them.

Owns the six fields as data, with the value that settings have in each; a layer, which
sets some of the fields; and the place where a document holds each field, with the proof
that the overlay of a document sets every field by what stands in that place and by
nothing else.

Does not own where documents come from or in what order layers lie.
-/

namespace ChannelMux

namespace Json

/-- What a document holds for one of the declared fields of a section: under its key in an
object, at its place among the declared fields in an array. -/
def entry? (names : List String) (name : String) : Json → Option Json
  | .object members => (members.find? (fun member => member.1 == some name)).map Prod.snd
  | .array items => items[names.idxOf name]?
  | _ => none

/-- One member of that key, or none, is what the search for the key finds. -/
private theorem entry_of_filter
    {members : List (Option String × Json)}
    {name : String}
    {value : Option Json}
    (read :
      (match members.filter (fun member => member.1 == some name) with
        | [] => some none
        | [member] => some (some member.2)
        | _ => none) = some value) :
    value = (members.find? (fun member => member.1 == some name)).map Prod.snd := by
  rw [← List.head?_filter]
  split at read
  · rename_i nothing
    rw [nothing]
    exact (Option.some.inj read).symm
  · rename_i member single
    rw [single]
    exact (Option.some.inj read).symm
  · simp at read

/-- The values read by position, filled up with absent ones, by their indices. -/
private theorem padded_eq
    (names : List String)
    (distinct : names.Nodup)
    (items : List Json)
    (fits : items.length ≤ names.length) :
    items.map some ++ List.replicate (names.length - items.length) none =
      names.map fun name => items[names.idxOf name]? := by
  refine List.ext_getElem (by simp; omega) ?_
  intro index padded listed
  have named : index < names.length := by simpa using listed
  have place : names.idxOf names[index] = index := distinct.idxOf_getElem index named
  rw [List.getElem_map, place]
  by_cases given : index < items.length
  · rw [List.getElem_append_left (by simpa using given)]
    simp [given]
  · rw [List.getElem_append_right (by simpa using given)]
    simp [given]

/-- Values read name by name are those that each name has. -/
private theorem mapM_reads
    {read : String → Option (Option Json)}
    {held : String → Option Json}
    (reads : ∀ name value, read name = some value → value = held name) :
    ∀ (names : List String) (values : List (Option Json)),
      names.mapM read = some values → values = names.map held := by
  intro names
  induction names with
  | nil =>
      intro values all
      simpa using all.symm
  | cons name rest inductionHypothesis =>
      intro values all
      simp only [List.mapM_cons, Option.bind_eq_bind, Option.bind_eq_some_iff] at all
      obtain ⟨value, first, others, remaining, joined⟩ := all
      rw [← Option.some.inj joined, reads name value first, inductionHypothesis others remaining]
      rfl

/-- The values of declared fields are what the document holds for each of them. -/
theorem fields_eq
    {names : List String}
    (distinct : names.Nodup)
    {document : Json}
    {values : List (Option Json)}
    (read : document.fields? names = some values) :
    values = names.map fun name => document.entry? names name := by
  cases document with
  | null => simp [fields?] at read
  | boolean _ => simp [fields?] at read
  | number _ => simp [fields?] at read
  | string _ => simp [fields?] at read
  | array items =>
      by_cases fits : items.length ≤ names.length
      · rw [fields?, if_pos fits] at read
        rw [← Option.some.inj read]
        exact padded_eq names distinct items fits
      · rw [fields?, if_neg fits] at read
        simp at read
  | object members =>
      simp only [fields?] at read
      split at read
      · simp at read
      · exact mapM_reads (fun _ _ known => entry_of_filter known) names values read

/-- An array that gives all declared fields gives them as one that may leave some out. -/
theorem fields_of_fieldsInFull
    {names : List String}
    {document : Json}
    {values : List (Option Json)}
    (read : document.fieldsInFull? names = some values) :
    document.fields? names = some values := by
  cases document with
  | array items =>
      simp only [fieldsInFull?] at read
      split at read
      · rename_i full
        simpa [fields?, full] using read
      · simp at read
  | null => exact read
  | boolean _ => exact read
  | number _ => exact read
  | string _ => exact read
  | object _ => exact read

end Json

namespace Settings

/-- The fields of the settings. -/
inductive Field where
  | createIfAbsent
  | side
  | neighbor
  | requireFreshGroup
  | level
  | json
deriving DecidableEq, Repr

namespace Field

/-- What a field holds; a neighbor may be no stage at all. -/
def Value : Field → Type
  | .createIfAbsent | .requireFreshGroup | .json => Bool
  | .side => Side
  | .neighbor => Option String
  | .level => String

/-- The section of a document in which a field stands. -/
def sectionName : Field → String
  | .createIfAbsent | .side | .neighbor | .requireFreshGroup => "mux"
  | .level | .json => "log"

/-- The declared fields of that section. -/
def siblings : Field → List String
  | .createIfAbsent | .side | .neighbor | .requireFreshGroup => forkNames
  | .level | .json => logNames

/-- The name of a field in its section. -/
def name : Field → String
  | .createIfAbsent => "create_if_absent"
  | .side => "position"
  | .neighbor => "neighbor"
  | .requireFreshGroup => "require_fresh_group"
  | .level => "level"
  | .json => "json"

/-- The value that a document, standing alone for a field, gives it. -/
def read? : (field : Field) → Json → Option field.Value
  | .createIfAbsent, document => document.boolean?
  | .side, document => Side.ofJson? document
  | .neighbor, document => document.text?.map some
  | .requireFreshGroup, document => document.boolean?
  | .level, document => document.text?
  | .json, document => document.boolean?

/-- What a document holds for a field. -/
def leaf? (field : Field) (document : Json) : Option Json :=
  (document.entry? sectionNames field.sectionName).bind fun part =>
    part.entry? field.siblings field.name

end Field

/-- The value of settings in a field. -/
def value (settings : Settings) : (field : Field) → field.Value
  | .createIfAbsent => settings.fork.createIfAbsent
  | .side => settings.fork.placement.side
  | .neighbor => settings.fork.placement.neighbor?
  | .requireFreshGroup => settings.fork.requireFreshGroup
  | .level => settings.log.level
  | .json => settings.log.json

/-- What one layer sets each field to, if it sets it. -/
abbrev Layer := (field : Field) → Option field.Value

/-- The layer that a document makes: a field is set by its leaf alone, and by none that is
missing or null. -/
def layerOf (document : Json) : Layer := fun field =>
  (field.leaf? document).bind field.read?

/-- What is set stands for a leaf: it is what the leaf is read as, and a leaf that is there
and is not null is read. -/
structure Reflects {α : Type} (set : Option α) (leaf? : Option Json) (read : Json → Option α) :
    Prop where
  isRead : set = leaf?.bind read
  full : ∀ leaf, leaf? = some leaf → leaf ≠ .null → set.isSome = true

namespace Reflects

variable {α : Type} {set : Option α} {leaf? : Option Json} {read : Json → Option α}

/-- Where there is no leaf, nothing is set. -/
theorem missing :
    Reflects none none read :=
  ⟨rfl, fun _ absurd => nomatch absurd⟩

/-- A field that may be missing or null reflects its leaf. -/
theorem of_fieldOr
    (readNull : read .null = none)
    (known : fieldOr none (nullable read) leaf? = some set) :
    Reflects set leaf? read := by
  cases leaf? with
  | none =>
      cases known
      exact missing
  | some leaf =>
      simp only [fieldOr] at known
      cases leaf with
      | null =>
          cases known
          exact ⟨readNull.symm, fun _ same apart => absurd (Option.some.inj same).symm apart⟩
      | _ =>
          obtain ⟨_, isRead, rfl⟩ := Option.map_eq_some_iff.mp known
          exact ⟨isRead.symm, fun _ _ _ => rfl⟩

/-- What is set may be written otherwise. -/
theorem map
    {β : Type}
    (reflects : Reflects set leaf? read)
    (change : α → β) :
    Reflects (set.map change) leaf? (fun leaf => (read leaf).map change) where
  isRead := by rw [reflects.isRead, Option.map_bind]; rfl
  full leaf there apart := by simpa using reflects.full leaf there apart

end Reflects

end Settings

namespace Overlay

open Settings

/-- An overlay as a layer. -/
def layer (overlay : Overlay) : Layer
  | .createIfAbsent => overlay.createIfAbsent?
  | .side => overlay.side?
  | .neighbor => overlay.neighbor?.map some
  | .requireFreshGroup => overlay.requireFreshGroup?
  | .level => overlay.level?
  | .json => overlay.json?

/-- Each field of settings under an overlay is what the overlay sets it to, and else what it
was. -/
theorem value_apply
    (overlay : Overlay)
    (settings : Settings)
    (field : Field) :
    (overlay.apply settings).value field =
      (overlay.layer field).getD (settings.value field) := by
  cases field with
  | neighbor =>
      simp only [value, apply, layer]
      cases overlay.neighbor? <;> rfl
  | _ => rfl

/-- The section on forks, if it is there, sets its four fields from their leaves and no
other. -/
theorem readFork_reflects
    {after : Overlay}
    {part? : Option Json}
    (read : fieldOr {} (readFork? {}) part? = some after) :
    Reflects after.createIfAbsent?
        (part?.bind fun part => part.entry? forkNames "create_if_absent") Json.boolean? ∧
      Reflects after.side? (part?.bind fun part => part.entry? forkNames "position")
        Side.ofJson? ∧
      Reflects after.neighbor? (part?.bind fun part => part.entry? forkNames "neighbor")
        Json.text? ∧
      Reflects after.requireFreshGroup?
        (part?.bind fun part => part.entry? forkNames "require_fresh_group") Json.boolean? ∧
      after.level? = none ∧ after.json? = none := by
  cases part? with
  | none =>
      cases read
      exact ⟨.missing, .missing, .missing, .missing, rfl, rfl⟩
  | some part =>
      simp only [fieldOr, readFork?, Option.bind_eq_bind, Option.bind_eq_some_iff] at read
      obtain ⟨values, readFields, rest⟩ := read
      cases Json.fields_eq (by decide) (Json.fields_of_fieldsInFull readFields)
      simp only [forkNames, List.map_cons, List.map_nil, Option.bind_eq_some_iff] at rest
      obtain
        ⟨create, readCreate, side, readSide, neighbor, readNeighbor, fresh, readFresh, built⟩ :=
        rest
      cases built
      exact ⟨.of_fieldOr rfl readCreate, .of_fieldOr rfl readSide, .of_fieldOr rfl readNeighbor,
        .of_fieldOr rfl readFresh, rfl, rfl⟩

/-- The section on logging, if it is there, sets its two fields from their leaves and leaves
the others. -/
theorem readLog_reflects
    {overlay after : Overlay}
    {part? : Option Json}
    (noLevel : overlay.level? = none)
    (noJson : overlay.json? = none)
    (read : fieldOr overlay overlay.readLog? part? = some after) :
    Reflects after.level? (part?.bind fun part => part.entry? logNames "level") Json.text? ∧
      Reflects after.json? (part?.bind fun part => part.entry? logNames "json") Json.boolean? ∧
      after = { overlay with level? := after.level?, json? := after.json? } := by
  cases part? with
  | none =>
      cases read
      rw [noLevel, noJson]
      exact ⟨.missing, .missing, by rw [← noLevel, ← noJson]⟩
  | some part =>
      simp only [fieldOr, readLog?, Option.bind_eq_bind, Option.bind_eq_some_iff] at read
      obtain ⟨values, readFields, rest⟩ := read
      cases Json.fields_eq (by decide) (Json.fields_of_fieldsInFull readFields)
      simp only [logNames, List.map_cons, List.map_nil, Option.bind_eq_some_iff] at rest
      obtain ⟨level, readLevel, json, readJson, built⟩ := rest
      cases built
      exact ⟨.of_fieldOr rfl readLevel, .of_fieldOr rfl readJson, rfl⟩

/-- The overlay of a document says of every field what the document holds for that field. -/
theorem ofJson_reflects
    {document : Json}
    {overlay : Overlay}
    (read : Overlay.ofJson? document = some overlay)
    (field : Field) :
    Reflects (overlay.layer field) (field.leaf? document) field.read? := by
  simp only [Overlay.ofJson?, Option.bind_eq_bind, Option.bind_eq_some_iff] at read
  obtain ⟨values, readFields, rest⟩ := read
  cases Json.fields_eq (by decide) readFields
  simp only [sectionNames, List.map_cons, List.map_nil, Option.bind_eq_some_iff] at rest
  obtain ⟨withFork, readFork, readLog⟩ := rest
  obtain ⟨create, side, neighbor, fresh, noLevel, noJson⟩ := readFork_reflects readFork
  obtain ⟨level, json, kept⟩ := readLog_reflects noLevel noJson readLog
  cases field with
  | createIfAbsent => rw [kept]; exact create
  | side => rw [kept]; exact side
  | neighbor => rw [kept]; exact neighbor.map some
  | requireFreshGroup => rw [kept]; exact fresh
  | level => exact level
  | json => exact json

/-- The overlay of a document is the layer that the document makes. -/
theorem layer_of_ofJson
    {document : Json}
    {overlay : Overlay}
    (read : Overlay.ofJson? document = some overlay) :
    overlay.layer = layerOf document := by
  funext field
  exact (ofJson_reflects read field).isRead

end Overlay

end ChannelMux
