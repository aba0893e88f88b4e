import ChannelMux.Proofs.Settings.Precedence

/-!
Contract: the two ways of reading a settings file agree.

Owns what each way of reading asks of a document: the same shape where the sections are
objects, and of each leaf that it is read, where an overlay lets every leaf be null and
complete settings the neighbor alone. Owns the value that complete settings have in each
field, which is the one that the leaf sets, and the proof that a file read as complete
settings and the same file resolved as the only layer give the same settings.

Does not own the order of several layers.
-/

namespace ChannelMux

namespace Json

/-- A document is written as an object. -/
def IsObject (document : Json) : Prop := ∃ members, document = .object members

/-- An object may leave out fields, also where an array must give all of them. -/
theorem fieldsInFull_of_isObject
    {document : Json}
    (isObject : document.IsObject)
    (names : List String) :
    document.fieldsInFull? names = document.fields? names := by
  obtain ⟨members, rfl⟩ := isObject
  rfl

end Json

namespace Settings

/-! ### Leaves -/

section Leaves

variable {α : Type} {read : Json → Option α} {leaf? : Option Json}

/-- A leaf is read if it is there. -/
def Legible (read : Json → Option α) (leaf? : Option Json) : Prop :=
  ∀ leaf, leaf? = some leaf → (read leaf).isSome = true

/-- A field that has a default can be read if its leaf is read or missing. -/
theorem exists_fieldOr_iff
    (default : α) :
    (∃ value, fieldOr default read leaf? = some value) ↔ Legible read leaf? := by
  cases leaf? with
  | none => simp [fieldOr, Legible]
  | some leaf => simp [fieldOr, Legible, Option.isSome_iff_exists]

/-- What is read is read also where it might be null. -/
theorem Legible.nullable
    (legible : Legible read leaf?) :
    Legible (Settings.nullable read) leaf? := by
  intro leaf there
  have isRead := legible leaf there
  cases leaf with
  | null => rfl
  | _ => simpa [Settings.nullable] using isRead

/-- What might be null and is not is read. -/
theorem Legible.of_nullable
    (legible : Legible (Settings.nullable read) leaf?)
    (apart : leaf? ≠ some .null) :
    Legible read leaf? := by
  intro leaf there
  have isRead := legible leaf there
  cases leaf with
  | null => exact absurd there apart
  | _ => simpa [Settings.nullable] using isRead

/-- A field that has a default gets what its leaf is read as. -/
theorem value_of_fieldOr
    {default value : α}
    (known : fieldOr default read leaf? = some value) :
    value = (leaf?.bind read).getD default := by
  cases leaf? with
  | none => exact (Option.some.inj known).symm
  | some leaf =>
      simp only [fieldOr] at known
      simp [known]

end Leaves

/-! ### Sections -/

section Sections

variable {part : Json}

/-- The section on forks is read field by field, each from its own leaf. -/
theorem forkOfJson_eq_some_iff
    {fork : ForkSettings} :
    forkOfJson? part = some fork ↔
      (part.fields? forkNames).isSome = true ∧
        fieldOr true Json.boolean? (part.entry? forkNames "create_if_absent") =
          some fork.createIfAbsent ∧
        fieldOr .above Side.ofJson? (part.entry? forkNames "position") =
          some fork.placement.side ∧
        fieldOr none (nullable Json.text?) (part.entry? forkNames "neighbor") =
          some fork.placement.neighbor? ∧
        fieldOr false Json.boolean? (part.entry? forkNames "require_fresh_group") =
          some fork.requireFreshGroup := by
  simp only [forkOfJson?, Option.bind_eq_bind]
  cases shaped : part.fields? forkNames with
  | none => simp
  | some values =>
      cases Json.fields_eq (by decide) shaped
      simp only [forkNames, List.map_cons, List.map_nil, Option.bind_some,
        Option.bind_eq_some_iff, Option.isSome_some, true_and]
      constructor
      · rintro ⟨create, readCreate, side, readSide, neighbor, readNeighbor, fresh, readFresh, built⟩
        cases built
        exact ⟨readCreate, readSide, readNeighbor, readFresh⟩
      · rintro ⟨readCreate, readSide, readNeighbor, readFresh⟩
        exact ⟨_, readCreate, _, readSide, _, readNeighbor, _, readFresh, rfl⟩

/-- The section on logging is read field by field, each from its own leaf. -/
theorem logOfJson_eq_some_iff
    {log : LogSettings} :
    logOfJson? part = some log ↔
      (part.fields? logNames).isSome = true ∧
        fieldOr "info" Json.text? (part.entry? logNames "level") = some log.level ∧
        fieldOr false Json.boolean? (part.entry? logNames "json") = some log.json := by
  simp only [logOfJson?, Option.bind_eq_bind]
  cases shaped : part.fields? logNames with
  | none => simp
  | some values =>
      cases Json.fields_eq (by decide) shaped
      simp only [logNames, List.map_cons, List.map_nil, Option.bind_some,
        Option.bind_eq_some_iff, Option.isSome_some, true_and]
      constructor
      · rintro ⟨level, readLevel, json, readJson, built⟩
        cases built
        exact ⟨readLevel, readJson⟩
      · rintro ⟨readLevel, readJson⟩
        exact ⟨_, readLevel, _, readJson, rfl⟩

/-- An overlay takes a section on forks of the right shape whose leaves can be read or are
null. -/
theorem exists_readFork_iff
    (isObject : part.IsObject)
    (overlay : Overlay) :
    (∃ after, overlay.readFork? part = some after) ↔
      (part.fields? forkNames).isSome = true ∧
        Legible (nullable Json.boolean?) (part.entry? forkNames "create_if_absent") ∧
        Legible (nullable Side.ofJson?) (part.entry? forkNames "position") ∧
        Legible (nullable Json.text?) (part.entry? forkNames "neighbor") ∧
        Legible (nullable Json.boolean?) (part.entry? forkNames "require_fresh_group") := by
  simp only [Overlay.readFork?, Option.bind_eq_bind, part.fieldsInFull_of_isObject isObject]
  cases shaped : part.fields? forkNames with
  | none => simp
  | some values =>
      cases Json.fields_eq (by decide) shaped
      simp only [forkNames, List.map_cons, List.map_nil, Option.bind_some,
        Option.bind_eq_some_iff, Option.isSome_some, true_and, ← exists_fieldOr_iff none]
      constructor
      · rintro ⟨_, create, readCreate, side, readSide, neighbor, readNeighbor, fresh, readFresh, _⟩
        exact ⟨⟨create, readCreate⟩, ⟨side, readSide⟩, ⟨neighbor, readNeighbor⟩,
          ⟨fresh, readFresh⟩⟩
      · rintro ⟨⟨create, readCreate⟩, ⟨side, readSide⟩, ⟨neighbor, readNeighbor⟩,
          ⟨fresh, readFresh⟩⟩
        exact ⟨_, create, readCreate, side, readSide, neighbor, readNeighbor, fresh, readFresh,
          rfl⟩

/-- An overlay takes a section on logging of the right shape whose leaves can be read or are
null. -/
theorem exists_readLog_iff
    (isObject : part.IsObject)
    (overlay : Overlay) :
    (∃ after, overlay.readLog? part = some after) ↔
      (part.fields? logNames).isSome = true ∧
        Legible (nullable Json.text?) (part.entry? logNames "level") ∧
        Legible (nullable Json.boolean?) (part.entry? logNames "json") := by
  simp only [Overlay.readLog?, Option.bind_eq_bind, part.fieldsInFull_of_isObject isObject]
  cases shaped : part.fields? logNames with
  | none => simp
  | some values =>
      cases Json.fields_eq (by decide) shaped
      simp only [logNames, List.map_cons, List.map_nil, Option.bind_some,
        Option.bind_eq_some_iff, Option.isSome_some, true_and, ← exists_fieldOr_iff none]
      constructor
      · rintro ⟨_, level, readLevel, json, readJson, _⟩
        exact ⟨⟨level, readLevel⟩, ⟨json, readJson⟩⟩
      · rintro ⟨⟨level, readLevel⟩, ⟨json, readJson⟩⟩
        exact ⟨_, level, readLevel, json, readJson, rfl⟩

/-- A section on forks that is read as complete settings is one that an overlay takes. -/
theorem readFork_of_forkOfJson
    {fork : ForkSettings}
    (isObject : part.IsObject)
    (read : forkOfJson? part = some fork)
    (overlay : Overlay) :
    ∃ after, overlay.readFork? part = some after := by
  obtain ⟨shaped, create, side, neighbor, fresh⟩ := forkOfJson_eq_some_iff.mp read
  rw [exists_readFork_iff isObject overlay]
  exact ⟨shaped, ((exists_fieldOr_iff _).mp ⟨_, create⟩).nullable,
    ((exists_fieldOr_iff _).mp ⟨_, side⟩).nullable, (exists_fieldOr_iff _).mp ⟨_, neighbor⟩,
    ((exists_fieldOr_iff _).mp ⟨_, fresh⟩).nullable⟩

/-- A section on forks that an overlay takes, with no null but for the neighbor, is read as
complete settings. -/
theorem forkOfJson_of_readFork
    {overlay after : Overlay}
    (isObject : part.IsObject)
    (full : ∀ field : Field, field.sectionName = "mux" → field ≠ .neighbor →
      part.entry? field.siblings field.name ≠ some .null)
    (read : overlay.readFork? part = some after) :
    ∃ fork, forkOfJson? part = some fork := by
  obtain ⟨shaped, create, side, neighbor, fresh⟩ :=
    (exists_readFork_iff isObject overlay).mp ⟨after, read⟩
  obtain ⟨createValue, readCreate⟩ :=
    (exists_fieldOr_iff true).mpr (create.of_nullable (full .createIfAbsent rfl (by simp)))
  obtain ⟨sideValue, readSide⟩ :=
    (exists_fieldOr_iff .above).mpr (side.of_nullable (full .side rfl (by simp)))
  obtain ⟨neighborValue, readNeighbor⟩ := (exists_fieldOr_iff none).mpr neighbor
  obtain ⟨freshValue, readFresh⟩ :=
    (exists_fieldOr_iff false).mpr (fresh.of_nullable (full .requireFreshGroup rfl (by simp)))
  exact ⟨⟨createValue, ⟨sideValue, neighborValue⟩, freshValue⟩,
    forkOfJson_eq_some_iff.mpr ⟨shaped, readCreate, readSide, readNeighbor, readFresh⟩⟩

/-- A section on logging that is read as complete settings is one that an overlay takes. -/
theorem readLog_of_logOfJson
    {log : LogSettings}
    (isObject : part.IsObject)
    (read : logOfJson? part = some log)
    (overlay : Overlay) :
    ∃ after, overlay.readLog? part = some after := by
  obtain ⟨shaped, level, json⟩ := logOfJson_eq_some_iff.mp read
  rw [exists_readLog_iff isObject overlay]
  exact ⟨shaped, ((exists_fieldOr_iff _).mp ⟨_, level⟩).nullable,
    ((exists_fieldOr_iff _).mp ⟨_, json⟩).nullable⟩

/-- A section on logging that an overlay takes, with no null, is read as complete settings. -/
theorem logOfJson_of_readLog
    {overlay after : Overlay}
    (isObject : part.IsObject)
    (full : ∀ field : Field, field.sectionName = "log" →
      part.entry? field.siblings field.name ≠ some .null)
    (read : overlay.readLog? part = some after) :
    ∃ log, logOfJson? part = some log := by
  obtain ⟨shaped, level, json⟩ := (exists_readLog_iff isObject overlay).mp ⟨after, read⟩
  obtain ⟨levelValue, readLevel⟩ :=
    (exists_fieldOr_iff "info").mpr (level.of_nullable (full .level rfl))
  obtain ⟨jsonValue, readJson⟩ :=
    (exists_fieldOr_iff false).mpr (json.of_nullable (full .json rfl))
  exact ⟨⟨levelValue, jsonValue⟩, logOfJson_eq_some_iff.mpr ⟨shaped, readLevel, readJson⟩⟩

end Sections

/-! ### Documents -/

section Documents

variable {document : Json}

/-- Complete settings are read section by section. -/
theorem ofJson_eq_some_iff
    {settings : Settings} :
    Settings.ofJson? document = some settings ↔
      (document.fields? sectionNames).isSome = true ∧
        fieldOr {} forkOfJson? (document.entry? sectionNames "mux") = some settings.fork ∧
        fieldOr {} logOfJson? (document.entry? sectionNames "log") = some settings.log := by
  simp only [Settings.ofJson?, Option.bind_eq_bind]
  cases shaped : document.fields? sectionNames with
  | none => simp
  | some values =>
      cases Json.fields_eq (by decide) shaped
      simp only [sectionNames, List.map_cons, List.map_nil, Option.bind_some,
        Option.bind_eq_some_iff, Option.isSome_some, true_and]
      constructor
      · rintro ⟨fork, readFork, log, readLog, built⟩
        cases built
        exact ⟨readFork, readLog⟩
      · rintro ⟨readFork, readLog⟩
        exact ⟨_, readFork, _, readLog, rfl⟩

/-- An overlay is read section by section. -/
theorem overlayOfJson_eq_some_iff
    {overlay : Overlay} :
    Overlay.ofJson? document = some overlay ↔
      (document.fields? sectionNames).isSome = true ∧
        ∃ withFork,
          fieldOr {} (Overlay.readFork? {}) (document.entry? sectionNames "mux") =
            some withFork ∧
          fieldOr withFork withFork.readLog? (document.entry? sectionNames "log") =
            some overlay := by
  simp only [Overlay.ofJson?, Option.bind_eq_bind]
  cases shaped : document.fields? sectionNames with
  | none => simp
  | some values =>
      cases Json.fields_eq (by decide) shaped
      simp only [sectionNames, List.map_cons, List.map_nil, Option.bind_some,
        Option.bind_eq_some_iff, Option.isSome_some, true_and]

/-- A null is no neighbor, as if there were no leaf. -/
theorem neighbor_of_nullable (leaf? : Option Json) :
    (leaf?.bind (nullable Json.text?)).getD none =
      (leaf?.bind (Field.read? .neighbor)).getD none := by
  cases leaf? with
  | none => rfl
  | some leaf => cases leaf <;> rfl

/-- The section on forks gives each of its fields what the leaf sets, or else the built-in
value. -/
theorem value_of_readFork
    {part? : Option Json}
    {settings : Settings}
    (read : fieldOr {} forkOfJson? part? = some settings.fork)
    (field : Field)
    (inFork : field.sectionName = "mux") :
    settings.value field =
      ((part?.bind fun part => part.entry? field.siblings field.name).bind field.read?).getD
        (({} : Settings).value field) := by
  cases part? with
  | none =>
      obtain ⟨fork, log⟩ := settings
      cases read
      cases field with
      | level => exact absurd inFork (by decide)
      | json => exact absurd inFork (by decide)
      | _ => rfl
  | some part =>
      obtain ⟨_, create, side, neighbor, fresh⟩ := forkOfJson_eq_some_iff.mp read
      cases field with
      | createIfAbsent => exact value_of_fieldOr create
      | side => exact value_of_fieldOr side
      | neighbor => exact (value_of_fieldOr neighbor).trans (neighbor_of_nullable _)
      | requireFreshGroup => exact value_of_fieldOr fresh
      | level => exact absurd inFork (by decide)
      | json => exact absurd inFork (by decide)

/-- The section on logging gives each of its fields what the leaf sets, or else the built-in
value. -/
theorem value_of_readLog
    {part? : Option Json}
    {settings : Settings}
    (read : fieldOr {} logOfJson? part? = some settings.log)
    (field : Field)
    (inLog : field.sectionName = "log") :
    settings.value field =
      ((part?.bind fun part => part.entry? field.siblings field.name).bind field.read?).getD
        (({} : Settings).value field) := by
  cases part? with
  | none =>
      obtain ⟨fork, log⟩ := settings
      cases read
      cases field with
      | level => rfl
      | json => rfl
      | _ => exact absurd inLog (by decide)
  | some part =>
      obtain ⟨_, level, json⟩ := logOfJson_eq_some_iff.mp read
      cases field with
      | level => exact value_of_fieldOr level
      | json => exact value_of_fieldOr json
      | _ => exact absurd inLog (by decide)

/-- Complete settings have in each field what the leaf of the field sets, or else its built-in
value. -/
theorem value_of_ofJson
    {settings : Settings}
    (read : Settings.ofJson? document = some settings)
    (field : Field) :
    settings.value field = (layerOf document field).getD (({} : Settings).value field) := by
  obtain ⟨_, readFork, readLog⟩ := ofJson_eq_some_iff.mp read
  cases field with
  | level => exact value_of_readLog readLog .level rfl
  | json => exact value_of_readLog readLog .json rfl
  | createIfAbsent => exact value_of_readFork readFork .createIfAbsent rfl
  | side => exact value_of_readFork readFork .side rfl
  | neighbor => exact value_of_readFork readFork .neighbor rfl
  | requireFreshGroup => exact value_of_readFork readFork .requireFreshGroup rfl

/-- A document whose sections, where they are there, are objects. -/
def HasObjectSections (document : Json) : Prop :=
  ∀ name ∈ sectionNames, ∀ part, document.entry? sectionNames name = some part → part.IsObject

/-- A document with sections that are objects is an overlay if it is read as complete
settings. -/
theorem overlay_of_ofJson
    {settings : Settings}
    (sections : HasObjectSections document)
    (read : Settings.ofJson? document = some settings) :
    ∃ overlay, Overlay.ofJson? document = some overlay := by
  obtain ⟨shaped, readFork, readLog⟩ := ofJson_eq_some_iff.mp read
  have takesFork : Legible (Overlay.readFork? {}) (document.entry? sectionNames "mux") := by
    intro part there
    obtain ⟨fork, isFork⟩ := Option.isSome_iff_exists.mp
      ((exists_fieldOr_iff _).mp ⟨_, readFork⟩ part there)
    rw [Option.isSome_iff_exists]
    exact readFork_of_forkOfJson (sections "mux" (by simp [sectionNames]) part there) isFork {}
  obtain ⟨withFork, readsFork⟩ := (exists_fieldOr_iff ({} : Overlay)).mpr takesFork
  have takesLog : Legible withFork.readLog? (document.entry? sectionNames "log") := by
    intro part there
    obtain ⟨log, isLog⟩ := Option.isSome_iff_exists.mp
      ((exists_fieldOr_iff _).mp ⟨_, readLog⟩ part there)
    rw [Option.isSome_iff_exists]
    exact readLog_of_logOfJson (sections "log" (by simp [sectionNames]) part there) isLog withFork
  obtain ⟨overlay, readsLog⟩ := (exists_fieldOr_iff withFork).mpr takesLog
  exact ⟨overlay, overlayOfJson_eq_some_iff.mpr ⟨shaped, withFork, readsFork, readsLog⟩⟩

/-- No leaf of a document is null, but for that of the neighbor. -/
def HasFullLeaves (document : Json) : Prop :=
  ∀ field, field ≠ .neighbor → Field.leaf? field document ≠ some .null

/-- An overlay with sections that are objects and no null but for the neighbor is read as
complete settings. -/
theorem ofJson_of_overlay
    {overlay : Overlay}
    (sections : HasObjectSections document)
    (full : HasFullLeaves document)
    (read : Overlay.ofJson? document = some overlay) :
    ∃ settings, Settings.ofJson? document = some settings := by
  obtain ⟨shaped, withFork, takesFork, takesLog⟩ := overlayOfJson_eq_some_iff.mp read
  have readsFork : Legible forkOfJson? (document.entry? sectionNames "mux") := by
    intro part there
    obtain ⟨after, isTaken⟩ := Option.isSome_iff_exists.mp
      ((exists_fieldOr_iff _).mp ⟨_, takesFork⟩ part there)
    rw [Option.isSome_iff_exists]
    refine forkOfJson_of_readFork (sections "mux" (by simp [sectionNames]) part there)
      (fun field inFork apart isNull => full field apart ?_) isTaken
    rw [Field.leaf?, inFork, there]
    exact isNull
  have readsLog : Legible logOfJson? (document.entry? sectionNames "log") := by
    intro part there
    obtain ⟨after, isTaken⟩ := Option.isSome_iff_exists.mp
      ((exists_fieldOr_iff _).mp ⟨_, takesLog⟩ part there)
    rw [Option.isSome_iff_exists]
    refine logOfJson_of_readLog (sections "log" (by simp [sectionNames]) part there)
      (fun field inLog isNull => full field ?_ ?_) isTaken
    · rintro rfl
      exact absurd inLog (by decide)
    · rw [Field.leaf?, inLog, there]
      exact isNull
  obtain ⟨fork, readFork⟩ := (exists_fieldOr_iff ({} : ForkSettings)).mpr readsFork
  obtain ⟨log, readLog⟩ := (exists_fieldOr_iff ({} : LogSettings)).mpr readsLog
  exact ⟨⟨fork, log⟩, ofJson_eq_some_iff.mpr ⟨shaped, readFork, readLog⟩⟩

end Documents

/-! ### Files -/

/-- Settings with the same value in every field are the same. -/
theorem eq_of_values
    {left right : Settings}
    (same : ∀ field, left.value field = right.value field) :
    left = right := by
  obtain ⟨⟨leftCreate, ⟨leftSide, leftNeighbor⟩, leftFresh⟩, ⟨leftLevel, leftJson⟩⟩ := left
  obtain ⟨⟨create, ⟨side, neighbor⟩, fresh⟩, ⟨level, json⟩⟩ := right
  have sameCreate : leftCreate = create := same .createIfAbsent
  have sameSide : leftSide = side := same .side
  have sameNeighbor : leftNeighbor = neighbor := same .neighbor
  have sameFresh : leftFresh = fresh := same .requireFreshGroup
  have sameLevel : leftLevel = level := same .level
  have sameJson : leftJson = json := same .json
  rw [sameCreate, sameSide, sameNeighbor, sameFresh, sameLevel, sameJson]

/-- A file gives complete settings if its document is read as such. -/
theorem settings_eq_ok_iff
    {file : SettingsFile}
    {settings : Settings} :
    file.settings = .ok settings ↔
      ∃ document, file.document? = some document ∧
        Settings.ofJson? document = some settings := by
  obtain ⟨path, found⟩ := file
  cases found with
  | missing => simp [SettingsFile.settings, SettingsFile.read, SettingsFile.document?,
      SettingsFile.text?]
  | unreadable => simp [SettingsFile.settings, SettingsFile.read, SettingsFile.document?,
      SettingsFile.text?]
  | octets octets =>
      simp only [SettingsFile.settings, SettingsFile.read, SettingsFile.document?,
        SettingsFile.text?]
      cases Utf8.decode? octets with
      | none => simp
      | some text =>
          rw [Option.bind_some, ← Option.bind_eq_some_iff]
          dsimp only
          cases (Json.ofString? text).bind Settings.ofJson? with
          | none => simp
          | some given => simp

/-- A file is resolved as the only layer if its document is an overlay. -/
theorem exists_resolve_iff
    {file : SettingsFile}
    {document : Json}
    (held : file.document? = some document) :
    (∃ settings, resolve (layered (some file) none) (fun _ => none) = .ok settings) ↔
      ∃ overlay, Overlay.ofJson? document = some overlay := by
  have unset (words : List String) : OneOf words none := by simp [OneOf]
  have there : file.found ≠ .missing := by
    intro missing
    simp [SettingsFile.document?, SettingsFile.text?, missing] at held
  obtain ⟨text, legible, written⟩ := Option.bind_eq_some_iff.mp held
  rw [(resolve_judged _ _).ok_iff, firstFault_eq_none_iff, ← Option.isSome_iff_exists]
  simp [layered, Sound, there, legible, written, unset]

/-- A file that is read as complete settings and resolved as the only layer, with no variable
set, gives the same settings both times. If its sections, where they are there, are objects, a
file that is read as complete settings is resolved as well, and a file that is resolved is read
as complete settings if no leaf but that of the neighbor is null. -/
theorem readings_agree (file : SettingsFile) :
    (∀ complete resolved, file.settings = .ok complete →
      resolve (layered (some file) none) (fun _ => none) = .ok resolved →
        complete = resolved) ∧
    ∀ document, file.document? = some document → HasObjectSections document →
      ((∃ complete, file.settings = .ok complete) →
        ∃ resolved, resolve (layered (some file) none) (fun _ => none) = .ok resolved) ∧
      (HasFullLeaves document →
        (∃ resolved, resolve (layered (some file) none) (fun _ => none) = .ok resolved) →
          ∃ complete, file.settings = .ok complete) := by
  refine ⟨fun complete resolved isComplete isResolved => eq_of_values fun field => ?_,
    fun document held sections => ⟨?_, ?_⟩⟩
  · obtain ⟨document, held, read⟩ := settings_eq_ok_iff.mp isComplete
    have unset : Environment.layer (fun _ => none) field = none := by cases field <;> rfl
    have single : (layered (some file) none).reverse.findSome? (fun file => file.layer field) =
        layerOf document field := by
      simp [layered, SettingsFile.layer, held]
    rw [value_of_ofJson read, (resolve_judged _ _).holds_of_ok isResolved field, unset, single]
    rfl
  · rintro ⟨complete, isComplete⟩
    obtain ⟨other, heldToo, read⟩ := settings_eq_ok_iff.mp isComplete
    cases held.symm.trans heldToo
    exact (exists_resolve_iff held).mpr (overlay_of_ofJson sections read)
  · rintro full isResolved
    obtain ⟨overlay, read⟩ := (exists_resolve_iff held).mp isResolved
    obtain ⟨complete, readFull⟩ := ofJson_of_overlay sections full read
    exact ⟨complete, settings_eq_ok_iff.mpr ⟨document, held, readFull⟩⟩

/-- A document with a null for the neighbor, a side written as an object, a field that is
missing and a key that is unknown. -/
def sparseText : String :=
  "\x7b\"mux\": \x7b\"neighbor\": null, \"position\": \x7b\"below\": null\x7d, \"x\": [null]\x7d, " ++
    "\"log\": \x7b\"level\": \"warn\"\x7d\x7d"

def sparseFile : SettingsFile := ⟨"settings.json", .octets (Octets.ofString sparseText)⟩

def sparseSettings : Settings where
  fork := { placement := { side := .below } }
  log := { level := "warn" }

def sparseDocument : Json :=
  .ofMembers
    [("mux", .ofMembers
      [("neighbor", .null), ("position", .ofMembers [("below", .null)]), ("x", .array [.null])]),
      ("log", .ofMembers [("level", .text "warn")])]

/-- The sparse file is read as complete settings and resolved to them, each because the other
way of reading takes it. -/
theorem readings_agree_sparse :
    sparseFile.document? = some sparseDocument ∧ HasObjectSections sparseDocument ∧
      HasFullLeaves sparseDocument ∧ sparseFile.settings = .ok sparseSettings ∧
      resolve (layered (some sparseFile) none) (fun _ => none) = .ok sparseSettings := by
  have held : sparseFile.document? = some sparseDocument := by
    simp only [SettingsFile.document?, SettingsFile.text?, sparseFile, Utf8.decode?_ofString]
    rfl
  have sections : HasObjectSections sparseDocument := by
    intro name listed part there
    simp only [sectionNames, List.mem_cons, List.not_mem_nil, or_false] at listed
    rcases listed with rfl | rfl <;> cases there <;> exact ⟨_, rfl⟩
  have full : HasFullLeaves sparseDocument := by
    intro field apart isNull
    cases field with
    | neighbor => exact apart rfl
    | _ => cases isNull
  have isComplete : sparseFile.settings = .ok sparseSettings :=
    settings_eq_ok_iff.mpr ⟨sparseDocument, held, rfl⟩
  obtain ⟨same, accepts⟩ := readings_agree sparseFile
  obtain ⟨resolves, completes⟩ := accepts sparseDocument held sections
  obtain ⟨resolved, isResolved⟩ := resolves ⟨_, isComplete⟩
  obtain ⟨complete, again⟩ := completes full ⟨resolved, isResolved⟩
  rw [← same complete resolved again isResolved, ← Except.ok.inj (isComplete.symm.trans again)]
    at isResolved
  exact ⟨held, sections, full, isComplete, isResolved⟩

end Settings

end ChannelMux
