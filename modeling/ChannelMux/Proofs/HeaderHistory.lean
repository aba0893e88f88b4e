import Mathlib.Data.List.Sort
import ChannelMux.Message
import ChannelMux.Proofs.HeaderSet

/-!
Contract: what is left of a history of header changes.

Owns the table in which headers are entered under numbers, a number being known apart from the
header under it, and the changes made to it: a header is entered under its number, and a
routing header is written into where it stands, without being entered again. Along any changes
the table holds the headers that the set holds, each under its own number.

Owns what each change decides about the number it is about, what the later ones set in a
routing header that is kept, and `headers_recallChanges`: after any changes of any message the
headers stand under their own numbers, once each and in order; under each number is what the
last change that decides about it left there, with the identifiers that were set since; and
nothing but the headers has changed.

Three changes decide that a header is kept under its number and one that none is. Setting an
identifier decides nothing: it is lost unless a routing header is kept at the time.
-/

namespace ChannelMux

/-! ### Routing headers, edited where they are kept -/

/-- What an edit of routing headers makes of a header. -/
def Header.editRouting (edit : RoutingHeader → RoutingHeader) : Header → Header
  | .routing header => .routing (edit header)
  | .foreign number data => .foreign number data

/-- No routing header is kept under another number than theirs. -/
theorem HeaderSet.map_editRouting_of_ne
    {number : UInt16}
    (different : number ≠ RoutingHeader.id)
    (headers : HeaderSet)
    (edit : RoutingHeader → RoutingHeader) :
    (headers.get? number).map (Header.editRouting edit) = headers.get? number := by
  cases found : headers.get? number with
  | none => rfl
  | some header =>
      cases header with
      | foreign number data => rfl
      | routing header => exact absurd (id_of_get?_eq_some found).symm different

namespace Message

/-- A message has the routing header that is kept under the number of routing headers. -/
theorem routing?_eq_some_iff {message : Message} {header : RoutingHeader} :
    message.routing? = some header ↔
      message.headers.get? RoutingHeader.id = some (.routing header) := by
  unfold routing?
  cases message.headers.get? RoutingHeader.id with
  | none => simp
  | some kept => cases kept <;> simp

theorem editRouting_of_unrouted
    {message : Message}
    (unrouted : message.routing? = none)
    (edit : RoutingHeader → RoutingHeader) :
    message.editRouting edit = message := by
  rw [editRouting, unrouted]

/-- Under every number there is afterwards what the edit makes of what there was. -/
theorem get?_editRouting
    (message : Message)
    (edit : RoutingHeader → RoutingHeader)
    (number : UInt16) :
    (message.editRouting edit).headers.get? number =
      (message.headers.get? number).map (Header.editRouting edit) := by
  cases routed : message.routing? with
  | some header =>
      have edited : message.editRouting edit = message.putRouting (edit header) := by
        rw [editRouting, routed]
      rw [edited]
      by_cases same : number = RoutingHeader.id
      · subst same
        rw [routing?_eq_some_iff.mp routed]
        exact HeaderSet.get?_put_self message.headers (.routing (edit header))
      · have different : number ≠ (Header.routing (edit header)).id := same
        rw [HeaderSet.map_editRouting_of_ne same]
        exact HeaderSet.get?_put_of_ne different message.headers
  | none =>
      -- Nothing is edited, and no routing header is kept that the edit would change.
      rw [editRouting_of_unrouted routed]
      cases found : message.headers.get? number with
      | none => rfl
      | some header =>
          cases header with
          | foreign number data => rfl
          | routing header =>
              obtain rfl : RoutingHeader.id = number := HeaderSet.id_of_get?_eq_some found
              rw [routing?_eq_some_iff.mpr found] at routed
              cases routed

theorem routing?_editRouting
    {message : Message}
    {header : RoutingHeader}
    (routed : message.routing? = some header)
    (edit : RoutingHeader → RoutingHeader) :
    (message.editRouting edit).routing? = some (edit header) := by
  rw [routing?_eq_some_iff, get?_editRouting, routing?_eq_some_iff.mp routed]
  rfl

end Message

/-! ### Headers in a table -/

/-- Headers entered under numbers. -/
abbrev HeaderTable := Std.TreeMap UInt16 Header

namespace HeaderTable

def put (table : HeaderTable) (header : Header) : HeaderTable := table.insert header.id header

/-- The table with a routing header edited where it stands. -/
def editRouting (table : HeaderTable) (edit : RoutingHeader → RoutingHeader) : HeaderTable :=
  table.modify RoutingHeader.id (Header.editRouting edit)

def change (table : HeaderTable) : HeaderChange → HeaderTable
  | .put header | .give header => table.put header
  | .erase number => table.erase number
  | .putRouting header => table.put (.routing header)
  | .setGroup group => table.editRouting (·.withGroup group)
  | .setMember member => table.editRouting (·.withMember member)

def changeAll (table : HeaderTable) (changes : List HeaderChange) : HeaderTable :=
  changes.foldl change table

/-- The table that the headers of a set are entered into one by one. -/
def ofSet (headers : HeaderSet) : HeaderTable := headers.toList.foldl put ∅

/-- A table holds under every number what a set holds there. -/
def Holds (table : HeaderTable) (headers : HeaderSet) : Prop :=
  ∀ number : UInt16, table[number]? = headers.get? number

variable {table : HeaderTable} {headers : HeaderSet}

theorem Holds.put (holds : table.Holds headers) (header : Header) :
    (table.put header).Holds (headers.put header) := by
  intro number
  unfold HeaderTable.put
  rw [Std.TreeMap.getElem?_insert]
  by_cases same : number = header.id
  · subst same
    simp [HeaderSet.get?_put_self]
  · rw [HeaderSet.get?_put_of_ne same, ← holds number]
    simp [Ne.symm same]

theorem Holds.erase (holds : table.Holds headers) (number : UInt16) :
    Holds (table.erase number) (headers.erase number) := by
  intro other
  rw [Std.TreeMap.getElem?_erase]
  by_cases same : other = number
  · subst same
    simp [HeaderSet.get?_erase_self]
  · rw [HeaderSet.get?_erase_of_ne same, ← holds other]
    simp [Ne.symm same]

theorem Holds.editRouting
    {message : Message}
    (holds : table.Holds message.headers)
    (edit : RoutingHeader → RoutingHeader) :
    (table.editRouting edit).Holds (message.editRouting edit).headers := by
  intro number
  unfold HeaderTable.editRouting
  rw [Std.TreeMap.getElem?_modify, Message.get?_editRouting]
  by_cases same : number = RoutingHeader.id
  · subst same
    simp [holds RoutingHeader.id]
  · rw [HeaderSet.map_editRouting_of_ne same, ← holds number]
    simp [Ne.symm same]

theorem Holds.change
    {message : Message}
    (holds : table.Holds message.headers)
    (change : HeaderChange) :
    (table.change change).Holds (message.change change).headers := by
  cases change with
  | put header => exact holds.put header
  | give header => exact holds.put header
  | erase number => exact holds.erase number
  | putRouting header => exact holds.put (.routing header)
  | setGroup group => exact holds.editRouting _
  | setMember member => exact holds.editRouting _

theorem Holds.changeAll
    {message : Message}
    (holds : table.Holds message.headers)
    (changes : List HeaderChange) :
    (table.changeAll changes).Holds (message.changeAll changes).headers := by
  induction changes generalizing table message with
  | nil => exact holds
  | cons change changes inductionHypothesis => exact inductionHypothesis (holds.change change)

theorem Holds.foldl_put (holds : table.Holds headers) (listed : List Header) :
    (listed.foldl HeaderTable.put table).Holds (listed.foldl HeaderSet.put headers) := by
  induction listed generalizing table headers with
  | nil => exact holds
  | cons header listed inductionHypothesis => exact inductionHypothesis (holds.put header)

theorem holds_ofSet (headers : HeaderSet) : (ofSet headers).Holds headers := by
  have empty : (∅ : HeaderTable).Holds .empty := by
    intro number
    simp [HeaderSet.get?, HeaderSet.empty]
  have whole := empty.foldl_put headers.toList
  rwa [show headers.toList.foldl HeaderSet.put .empty = headers from
    HeaderSet.ofList_toList headers] at whole

/-- One entry stands under a lower number than another. -/
def Precedes (before after : UInt16 × Header) : Prop := before.1 < after.1

instance : Std.Irrefl Precedes := ⟨fun entry => UInt16.lt_irrefl entry.1⟩

instance : Std.Antisymm Precedes :=
  ⟨fun _ _ before after => absurd after (UInt16.lt_asymm before)⟩

/-- A table that holds what a set holds lists its headers in the same order, each under its
own number. -/
theorem Holds.toList_eq (holds : table.Holds headers) :
    table.toList = headers.toList.map (fun header => (header.id, header)) := by
  have tableOrdered : table.toList.Pairwise Precedes :=
    Std.TreeMap.ordered_keys_toList.imp fun before => Std.compare_eq_lt.mp before
  have setOrdered : (headers.toList.map (fun header => (header.id, header))).Pairwise Precedes :=
    List.pairwise_map.mpr headers.toList_increasing
  apply tableOrdered.eq_of_mem_iff setOrdered
  rintro ⟨number, header⟩
  rw [Std.TreeMap.mem_toList_iff_getElem?_eq_some, holds number, HeaderSet.get?_eq_some_iff]
  simp

/-- Along any changes the table that the headers of a message were entered into lists the
headers of the message, each under its own number. -/
theorem toList_changeAll (message : Message) (changes : List HeaderChange) :
    ((ofSet message.headers).changeAll changes).toList =
      (message.changeAll changes).headers.toList.map (fun header => (header.id, header)) :=
  ((holds_ofSet message.headers).changeAll changes).toList_eq

end HeaderTable

/-! ### What changes decide and what they set -/

namespace HeaderChange

/-- What a change decides to keep under its number, if it decides about it: a header, or
nothing. -/
def decision? : HeaderChange → Option (Option Header)
  | put header | give header => some (some header)
  | erase _ => some none
  | putRouting header => some (some (.routing header))
  | setGroup _ | setMember _ => none

/-- A change decides that this is kept under a number. -/
def Decides (change : HeaderChange) (number : UInt16) (kept? : Option Header) : Prop :=
  change.number = number ∧ change.decision? = some kept?

/-- A change decides nothing about a number. -/
def Spares (change : HeaderChange) (number : UInt16) : Prop :=
  change.number = number → change.decision? = none

instance (change : HeaderChange) (number : UInt16) (kept? : Option Header) :
    Decidable (change.Decides number kept?) :=
  inferInstanceAs (Decidable (_ ∧ _))

instance (change : HeaderChange) (number : UInt16) : Decidable (change.Spares number) :=
  inferInstanceAs (Decidable (_ → _))

/-- Changes decide nothing about a number, or one of them is the last that does. -/
theorem spare_or_decided (changes : List HeaderChange) (number : UInt16) :
    (∀ change ∈ changes, change.Spares number) ∨
      ∃ before change later kept?,
        changes = before ++ change :: later ∧ change.Decides number kept? ∧
          ∀ next ∈ later, next.Spares number := by
  induction changes with
  | nil => exact .inl (by simp)
  | cons change changes inductionHypothesis =>
      -- The change in front matters only if none behind it decides.
      rcases inductionHypothesis with spare | ⟨before, last, later, kept?, rfl, decides, spare⟩
      · by_cases spares : change.Spares number
        · exact .inl (List.forall_mem_cons.mpr ⟨spares, spare⟩)
        · obtain ⟨same, decision⟩ := Classical.not_imp.mp spares
          obtain ⟨kept?, decided⟩ := Option.ne_none_iff_exists'.mp decision
          exact .inr ⟨[], change, changes, kept?, rfl, ⟨same, decided⟩, spare⟩
      · exact .inr ⟨change :: before, last, later, kept?, rfl, decides, spare⟩

def group? : HeaderChange → Option String
  | setGroup group => some group
  | _ => none

def member? : HeaderChange → Option String
  | setMember member => some member
  | _ => none

/-- What changes set last of something that each of them may set. -/
def lastSet? (set? : HeaderChange → Option String) (changes : List HeaderChange) :
    Option String :=
  changes.reverse.findSome? set?

theorem lastSet?_cons
    (set? : HeaderChange → Option String)
    (change : HeaderChange)
    (changes : List HeaderChange) :
    lastSet? set? (change :: changes) = (lastSet? set? changes).or (lastSet? set? [change]) := by
  unfold lastSet?
  rw [List.reverse_cons, List.findSome?_append, List.reverse_singleton]

end HeaderChange

/-- A routing header that is kept along changes: each identifier is the one that was set last,
or else the one that it had. -/
def RoutingHeader.amended (changes : List HeaderChange) (header : RoutingHeader) :
    RoutingHeader where
  group? := (HeaderChange.lastSet? HeaderChange.group? changes).or header.group?
  member? := (HeaderChange.lastSet? HeaderChange.member? changes).or header.member?

theorem RoutingHeader.amended_cons
    (change : HeaderChange)
    (changes : List HeaderChange)
    (header : RoutingHeader) :
    header.amended (change :: changes) = (header.amended [change]).amended changes := by
  unfold amended
  rw [HeaderChange.lastSet?_cons _ change changes, HeaderChange.lastSet?_cons _ change changes,
    Option.or_assoc, Option.or_assoc]

namespace Header

/-- Any header that is kept along changes. -/
def amended (changes : List HeaderChange) : Header → Header :=
  editRouting (RoutingHeader.amended changes)

theorem map_amended_nil (kept? : Option Header) : kept?.map (amended []) = kept? := by
  rcases kept? with _ | header | _ <;> rfl

theorem map_amended_cons
    (change : HeaderChange)
    (changes : List HeaderChange)
    (kept? : Option Header) :
    kept?.map (amended (change :: changes)) =
      (kept?.map (amended [change])).map (amended changes) := by
  rcases kept? with _ | header | _
  · rfl
  · change some (Header.routing _) = some (Header.routing _)
    rw [RoutingHeader.amended_cons]
  · rfl

/-- A change that sets no identifier amends nothing. -/
theorem map_amended_of_still
    {change : HeaderChange}
    (noGroup : change.group? = none)
    (noMember : change.member? = none)
    (kept? : Option Header) :
    kept?.map (amended [change]) = kept? := by
  rcases kept? with _ | header | _
  · rfl
  · simp [amended, editRouting, RoutingHeader.amended, HeaderChange.lastSet?, noGroup, noMember]
  · rfl

end Header

namespace Message

/-! ### One change -/

/-- Nothing but the headers is changed. -/
theorem change_eq (message : Message) (change : HeaderChange) :
    message.change change = { message with headers := (message.change change).headers } := by
  have edited (edit : RoutingHeader → RoutingHeader) :
      message.editRouting edit =
        { message with headers := (message.editRouting edit).headers } := by
    unfold editRouting
    cases message.routing? <;> rfl
  cases change with
  | put _ | give _ | erase _ | putRouting _ => rfl
  | setGroup _ | setMember _ => exact edited _

/-- What a change decides about a number is so afterwards. -/
theorem get?_change_of_decides
    {change : HeaderChange}
    {number : UInt16}
    {kept? : Option Header}
    (decides : change.Decides number kept?)
    (message : Message) :
    (message.change change).headers.get? number = kept? := by
  obtain ⟨rfl, decision⟩ := decides
  cases change with
  | put header | give header =>
      cases decision
      exact HeaderSet.get?_put_self _ _
  | erase number =>
      cases decision
      exact HeaderSet.get?_erase_self _ _
  | putRouting header =>
      cases decision
      exact HeaderSet.get?_put_self _ (.routing header)
  | setGroup _ | setMember _ => cases decision

/-- A change that decides nothing is lost on a message without a routing header. -/
theorem change_of_unrouted
    {message : Message}
    (unrouted : message.routing? = none)
    {change : HeaderChange}
    (undecided : change.decision? = none) :
    message.change change = message := by
  cases change with
  | put _ | give _ | erase _ | putRouting _ => cases undecided
  | setGroup _ | setMember _ => exact editRouting_of_unrouted unrouted _

/-- Under a number that a change decides nothing about is what there was, with what the change
sets in it. -/
theorem get?_change_of_spares
    {change : HeaderChange}
    {number : UInt16}
    (spares : change.Spares number)
    (message : Message) :
    (message.change change).headers.get? number =
      (message.headers.get? number).map (Header.amended [change]) := by
  -- A change that decides at all does so about another number.
  have elsewhere (decides : change.decision?.isSome) : number ≠ change.number := by
    rintro rfl
    rw [spares rfl] at decides
    cases decides
  cases change with
  | put header | give header =>
      rw [Header.map_amended_of_still rfl rfl]
      exact HeaderSet.get?_put_of_ne (elsewhere rfl) _
  | erase erased =>
      rw [Header.map_amended_of_still rfl rfl]
      exact HeaderSet.get?_erase_of_ne (elsewhere rfl) _
  | putRouting header =>
      have different : number ≠ (Header.routing header).id := elsewhere rfl
      rw [Header.map_amended_of_still rfl rfl]
      exact HeaderSet.get?_put_of_ne different _
  | setGroup group =>
      have sets : RoutingHeader.amended [.setGroup group] = (·.withGroup group) := rfl
      rw [Header.amended, sets]
      exact message.get?_editRouting _ number
  | setMember member =>
      have sets : RoutingHeader.amended [.setMember member] = (·.withMember member) := rfl
      rw [Header.amended, sets]
      exact message.get?_editRouting _ number

/-- Under other numbers than the one that a change is about is what there was. -/
theorem get?_change_of_ne
    {change : HeaderChange}
    {number : UInt16}
    (different : number ≠ change.number)
    (message : Message) :
    (message.change change).headers.get? number = message.headers.get? number := by
  rw [get?_change_of_spares (fun same => absurd same.symm different)]
  cases change with
  | put _ | give _ | erase _ | putRouting _ => exact Header.map_amended_of_still rfl rfl _
  | setGroup _ | setMember _ => exact HeaderSet.map_editRouting_of_ne different _ _

/-! ### Changes in turn -/

theorem changeAll_append (message : Message) (before later : List HeaderChange) :
    message.changeAll (before ++ later) = (message.changeAll before).changeAll later :=
  List.foldl_append

theorem changeAll_eq (message : Message) (changes : List HeaderChange) :
    message.changeAll changes =
      { message with headers := (message.changeAll changes).headers } := by
  induction changes generalizing message with
  | nil => rfl
  | cons change changes inductionHypothesis =>
      have first := message.change_eq change
      change (message.change change).changeAll changes =
        { message with headers := ((message.change change).changeAll changes).headers }
      rw [inductionHypothesis (message.change change)]
      rw [first]

/-- Under a number that changes decide nothing about is what there was, with what they set
in it. -/
theorem get?_changeAll_of_spare
    {changes : List HeaderChange}
    {number : UInt16}
    (spare : ∀ change ∈ changes, change.Spares number)
    (message : Message) :
    (message.changeAll changes).headers.get? number =
      (message.headers.get? number).map (Header.amended changes) := by
  induction changes generalizing message with
  | nil => exact (Header.map_amended_nil _).symm
  | cons change changes inductionHypothesis =>
      obtain ⟨headSpares, tailSpare⟩ := List.forall_mem_cons.mp spare
      rw [Header.map_amended_cons, ← get?_change_of_spares headSpares]
      exact inductionHypothesis tailSpare (message.change change)

/-- What the last change that decides about a number decides is so afterwards, with what is
set in it since. -/
theorem get?_changeAll_of_decides
    {change : HeaderChange}
    {later : List HeaderChange}
    {number : UInt16}
    {kept? : Option Header}
    (decides : change.Decides number kept?)
    (spare : ∀ next ∈ later, next.Spares number)
    (message : Message)
    (before : List HeaderChange) :
    (message.changeAll (before ++ change :: later)).headers.get? number =
      kept?.map (Header.amended later) := by
  rw [changeAll_append, ← get?_change_of_decides decides (message.changeAll before)]
  exact get?_changeAll_of_spare spare _

/-! ### A whole history -/

/-- What is known of a message after changes of its headers. -/
structure Recalls (message : Message) (changes : List HeaderChange) (changed : Message) :
    Prop where
  /-- A table that the changes are made to, write by write, holds the same headers. -/
  held : ∀ number : UInt16,
    ((HeaderTable.ofSet message.headers).changeAll changes)[number]? =
      changed.headers.get? number
  /-- The headers come in the order of the table, in which each stands under its own number. -/
  listed :
    ((HeaderTable.ofSet message.headers).changeAll changes).toList =
      changed.headers.toList.map (fun header => (header.id, header))
  increasing : HeaderSet.Increasing changed.headers.toList
  once : (changed.headers.toList.map Header.id).Nodup
  found_iff : ∀ number header,
    changed.headers.get? number = some header ↔
      header ∈ changed.headers.toList ∧ header.id = number
  /-- Every number is decided about by a last change, or by none. -/
  settled : ∀ number,
    (∀ change ∈ changes, change.Spares number) ∨
      ∃ before change later kept?,
        changes = before ++ change :: later ∧ change.Decides number kept? ∧
          ∀ next ∈ later, next.Spares number
  decided : ∀ before change later number kept?,
    changes = before ++ change :: later → change.Decides number kept? →
      (∀ next ∈ later, next.Spares number) →
        changed.headers.get? number = kept?.map (Header.amended later)
  spared : ∀ number, (∀ change ∈ changes, change.Spares number) →
    changed.headers.get? number = (message.headers.get? number).map (Header.amended changes)
  routed_iff : ∀ routing,
    changed.routing? = some routing ↔
      changed.headers.get? RoutingHeader.id = some (.routing routing)
  headersOnly : changed = { message with headers := changed.headers }
  /-- One more change leaves alone what is kept under other numbers. -/
  others : ∀ change number, number ≠ change.number →
    (changed.change change).headers.get? number = changed.headers.get? number
  /-- Setting an identifier is lost on a message without a routing header. -/
  unrouted : changed.routing? = none →
    ∀ change, change.decision? = none → changed.change change = changed
  /-- In the routing header of a message it leaves the other identifier alone. -/
  edited : ∀ routing, changed.routing? = some routing →
    (∀ group, (changed.change (.setGroup group)).routing? =
      some { routing with group? := some group }) ∧
    (∀ member, (changed.change (.setMember member)).routing? =
      some { routing with member? := some member })

/-- After any changes of any message its headers stand under their own numbers, once each and
in order. Under each number is what the last change that decides about it put there, or
nothing if it took it away, or else what there was at first; the identifiers of a routing
header are the ones that were set last since then. The message has the routing header that is
kept there, and nothing but its headers has changed. -/
theorem headers_recallChanges (message : Message) (changes : List HeaderChange) :
    Recalls message changes (message.changeAll changes) where
  held := (HeaderTable.holds_ofSet message.headers).changeAll changes
  listed := HeaderTable.toList_changeAll message changes
  increasing := HeaderSet.toList_increasing _
  once := List.pairwise_map.mpr ((HeaderSet.toList_increasing _).imp UInt16.ne_of_lt)
  found_iff _ _ := HeaderSet.get?_eq_some_iff
  settled := HeaderChange.spare_or_decided changes
  decided := by
    rintro before change later number kept? rfl decides spare
    exact get?_changeAll_of_decides decides spare message before
  spared _ spare := get?_changeAll_of_spare spare message
  routed_iff _ := routing?_eq_some_iff
  headersOnly := message.changeAll_eq changes
  others _ _ different := get?_change_of_ne different _
  unrouted missing _ undecided := change_of_unrouted missing undecided
  edited _ routed :=
    ⟨fun _ => routing?_editRouting routed _, fun _ => routing?_editRouting routed _⟩

/-- A routing header and a foreign one under its number take each other's place, and
identifiers are set before, between and after. -/
def contest : List HeaderChange :=
  [.setGroup "lost", .putRouting (.forMember "m1"), .setGroup "g1",
    .put (.foreign RoutingHeader.id [2]), .setMember "lost", .give (.foreign 12 [3]), .erase 12,
    .putRouting (.between "g2" "m2"), .setMember "m3"]

/-- The last routing header wins the contest, with the member that was set in it. What was
given in between is gone, and what was there at first is kept. -/
theorem headers_recallChanges_contest :
    let changed := Message.changeAll { headers := .ofList [.foreign 3 [1]] } contest
    changed.headers.get? RoutingHeader.id = some (.routing (.between "g2" "m3")) ∧
      changed.headers.get? 12 = none ∧ changed.headers.get? 3 = some (.foreign 3 [1]) := by
  have recalls := headers_recallChanges { headers := .ofList [.foreign 3 [1]] } contest
  refine ⟨?_, ?_, ?_⟩
  · exact recalls.decided (contest.take 7) (.putRouting (.between "g2" "m2")) [.setMember "m3"]
      _ _ rfl ⟨rfl, rfl⟩ (by decide)
  · exact recalls.decided (contest.take 6) (.erase 12)
      [.putRouting (.between "g2" "m2"), .setMember "m3"] _ _ rfl ⟨rfl, rfl⟩ (by decide)
  · exact recalls.spared 3 (by decide)

end Message

end ChannelMux
