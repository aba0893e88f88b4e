import Mathlib.Tactic.ByContra
import ChannelMux.Store.Table

/-!
Contract: what tables keep.

Owns which references a table has issued, what is read through them after a change, and
whether a thing is still known by name. A change concerns the thing it is about alone,
and a reference once issued stays so.
-/

namespace ChannelMux.Table

variable {kind : Kind} {α β : Type}

/-- A reference refers to something that was added to the table. -/
def Issued (table : Table kind α) (ref : Ref kind) : Prop := ref.index < table.slots.size

instance (table : Table kind α) (ref : Ref kind) : Decidable (table.Issued ref) :=
  inferInstanceAs (Decidable (_ < _))

theorem mem_refs {table : Table kind α} {ref : Ref kind} :
    ref ∈ table.refs ↔ table.Issued ref := by
  unfold refs Issued
  rw [List.mem_map]
  constructor
  · intro found
    obtain ⟨index, inRange, same⟩ := found
    rw [← same]
    exact List.mem_range.mp inRange
  · intro inRange
    exact ⟨ref.index, List.mem_range.mpr inRange, rfl⟩

theorem nodup_refs (table : Table kind α) : table.refs.Nodup := by
  unfold refs List.Nodup
  rw [List.pairwise_map]
  refine List.nodup_range.imp fun apart same => ?_
  cases same
  exact apart rfl

/-! ### What is read through a reference -/

section Reading

variable [Inhabited α]

theorem get_eq_getD (table : Table kind α) (ref : Ref kind) :
    table.get ref = (table.slots[ref.index]?.map Slot.content).getD default := by
  unfold get
  cases table.slots[ref.index]? <;> rfl

theorem get_of_not_issued
    {table : Table kind α}
    {ref : Ref kind}
    (notIssued : ¬ table.Issued ref) :
    table.get ref = default := by
  rw [get_eq_getD, Array.getElem?_eq_none (Nat.le_of_not_lt notIssued)]
  rfl

theorem get_add_next (table : Table kind α) (content : α) :
    (table.add content).get table.next = content := by
  simp [get_eq_getD, add, next]

theorem get_add_of_issued
    {table : Table kind α}
    {ref : Ref kind}
    (issued : table.Issued ref)
    (content : α) :
    (table.add content).get ref = table.get ref := by
  have different : ref.index ≠ table.slots.size := Nat.ne_of_lt issued
  simp [get_eq_getD, add, Array.getElem?_push, different]

theorem get_add_cases (table : Table kind α) (content : α) (ref : Ref kind) :
    (table.add content).get ref = table.get ref ∨ (table.add content).get ref = content := by
  simp only [get_eq_getD, add, Array.getElem?_push]
  split
  · exact Or.inr rfl
  · exact Or.inl rfl

theorem get_modify_self
    {table : Table kind α}
    {ref : Ref kind}
    (issued : table.Issued ref)
    (change : α → α) :
    (table.modify ref change).get ref = change (table.get ref) := by
  have found : table.slots[ref.index]? = some table.slots[ref.index] :=
    Array.getElem?_eq_getElem issued
  simp [get_eq_getD, modify, Array.getElem?_modify, found]

theorem get_modify_of_ne
    {ref other : Ref kind}
    (different : other ≠ ref)
    (table : Table kind α)
    (change : α → α) :
    (table.modify ref change).get other = table.get other := by
  have apart : ¬ ref.index = other.index := by
    intro same
    exact different (congrArg Ref.mk same.symm)
  simp [get_eq_getD, modify, Array.getElem?_modify, apart]

/-- What is changed is at most one thing, and that by the change. -/
theorem get_modify_cases (table : Table kind α) (ref : Ref kind) (change : α → α)
    (other : Ref kind) :
    (table.modify ref change).get other = table.get other ∨
      other = ref ∧ (table.modify ref change).get other = change (table.get other) := by
  by_cases same : other = ref
  · subst same
    by_cases issued : table.Issued other
    · exact Or.inr ⟨rfl, get_modify_self issued change⟩
    · have notIssued : ¬ (table.modify other change).Issued other := by
        simpa [Issued, modify] using issued
      rw [get_of_not_issued issued, get_of_not_issued notIssued]
      exact Or.inl rfl
  · exact Or.inl (get_modify_of_ne same table change)

/-- What a change leaves as it is of any thing, it leaves of every thing in the table. -/
theorem read_modify
    (read : α → β)
    {change : α → α}
    (kept : ∀ content, read (change content) = read content)
    (table : Table kind α)
    (ref other : Ref kind) :
    read ((table.modify ref change).get other) = read (table.get other) := by
  rcases get_modify_cases table ref change other with same | ⟨_, changed⟩
  · rw [same]
  · rw [changed, kept]

omit [Inhabited α] in
theorem modify_modify
    (table : Table kind α)
    (ref : Ref kind)
    (first second : α → α) :
    (table.modify ref first).modify ref second = table.modify ref (second ∘ first) := by
  unfold modify
  congr 1
  apply Array.ext
  · simp
  · intro index _ _
    by_cases same : ref.index = index
    · simp [Array.getElem_modify, same]
    · simp [Array.getElem_modify, same]

/-- Several things are changed, each of them once. -/
theorem get_foldl_modify
    {table : Table kind α}
    {refs : List (Ref kind)}
    (distinct : refs.Nodup)
    (issued : ∀ ref ∈ refs, table.Issued ref)
    (change : α → α)
    (ref : Ref kind) :
    (refs.foldl (fun changed one => changed.modify one change) table).get ref =
      if ref ∈ refs then change (table.get ref) else table.get ref := by
  induction refs generalizing table with
  | nil => rfl
  | cons head tail inductionHypothesis =>
      obtain ⟨notInTail, distinctTail⟩ := List.nodup_cons.mp distinct
      have stillIssued : ∀ other ∈ tail, (table.modify head change).Issued other := by
        intro other member
        have before := issued other (List.mem_cons_of_mem _ member)
        simpa [Issued, modify] using before
      rw [List.foldl_cons, inductionHypothesis distinctTail stillIssued]
      by_cases same : ref = head
      · subst same
        rw [if_neg notInTail, if_pos List.mem_cons_self,
          get_modify_self (issued ref List.mem_cons_self)]
      · rw [get_modify_of_ne same]
        simp [same]

/-- Changes that agree on the thing that they are made to are the same change. -/
theorem modify_congr
    {table : Table kind α}
    {ref : Ref kind}
    {first second : α → α}
    (agree : table.Issued ref → first (table.get ref) = second (table.get ref)) :
    table.modify ref first = table.modify ref second := by
  obtain ⟨slots⟩ := table
  unfold modify
  congr 1
  apply Array.ext
  · simp
  · intro index inRange _
    by_cases same : ref.index = index
    · subst same
      have issued : ref.index < slots.size := by simpa using inRange
      have known := agree issued
      simp only [get_eq_getD, Array.getElem?_eq_getElem issued, Option.map_some,
        Option.getD_some] at known
      simp [Array.getElem_modify, known]
    · simp [Array.getElem_modify, same]

omit [Inhabited α] in
theorem modify_id (table : Table kind α) (ref : Ref kind) : table.modify ref id = table := by
  obtain ⟨slots⟩ := table
  unfold modify
  congr 1
  apply Array.ext
  · simp
  · intro index _ _
    by_cases same : ref.index = index
    · simp [Array.getElem_modify, same]
    · simp [Array.getElem_modify, same]

theorem get_release (table : Table kind α) (name : String) (ref : Ref kind) :
    (table.release name).get ref = table.get ref := by
  simp only [get_eq_getD, release, Array.getElem?_map, Option.map_map]
  congr 2
  funext slot
  simp only [Function.comp_apply]
  split <;> rfl

@[simp] theorem get_forget (table : Table kind α) (name : String) (ref : Ref kind) :
    (table.forget name).get ref = table.get ref := by
  simp only [get_eq_getD, forget, Array.getElem?_map, Option.map_map]
  rfl

@[simp] theorem get_name (table : Table kind α) (ref : Ref kind) (name : String)
    (other : Ref kind) :
    (table.name ref name).get other = table.get other := by
  rw [← get_release table name other]
  simp only [get_eq_getD, Table.name, Array.getElem?_modify]
  split
  · rename_i same
    cases (table.release name).slots[other.index]? <;> rfl
  · rfl

end Reading

/-! ### Which references are issued -/

theorem issued_add {table : Table kind α} {content : α} {ref : Ref kind} :
    (table.add content).Issued ref ↔ table.Issued ref ∨ ref = table.next := by
  obtain ⟨index⟩ := ref
  simp only [Issued, add, Array.size_push, next, Ref.mk.injEq]
  omega

theorem issued_add_next (table : Table kind α) (content : α) :
    (table.add content).Issued table.next := issued_add.mpr (Or.inr rfl)

theorem Issued.add {table : Table kind α} {ref : Ref kind} (issued : table.Issued ref)
    (content : α) :
    (table.add content).Issued ref := issued_add.mpr (Or.inl issued)

theorem ne_next {table : Table kind α} {ref : Ref kind} (issued : table.Issued ref) :
    ref ≠ table.next := by
  intro same
  rw [same] at issued
  exact Nat.lt_irrefl _ issued

@[simp] theorem issued_modify {table : Table kind α} {ref other : Ref kind} {change : α → α} :
    (table.modify ref change).Issued other ↔ table.Issued other := by
  simp [Issued, modify]

@[simp] theorem issued_forget {table : Table kind α} {name : String} {ref : Ref kind} :
    (table.forget name).Issued ref ↔ table.Issued ref := by
  simp [Issued, forget]

@[simp] theorem issued_name
    {table : Table kind α} {ref : Ref kind} {name : String} {other : Ref kind} :
    (table.name ref name).Issued other ↔ table.Issued other := by
  simp [Issued, Table.name, release]

/-! ### What is known by name -/

theorem namesOf_eq_getD (table : Table kind α) (ref : Ref kind) :
    table.namesOf ref = (table.slots[ref.index]?.map Slot.names).getD [] := by
  unfold namesOf
  cases table.slots[ref.index]? <;> rfl

theorem isNamed_iff {table : Table kind α} {ref : Ref kind} :
    table.isNamed ref = true ↔ ∃ name, name ∈ table.namesOf ref := by
  rw [isNamed, Bool.not_eq_true', List.isEmpty_eq_false_iff_exists_mem]

theorem issued_of_isNamed
    {table : Table kind α}
    {ref : Ref kind}
    (named : table.isNamed ref = true) :
    table.Issued ref := by
  by_contra notIssued
  rw [isNamed, namesOf_eq_getD, Array.getElem?_eq_none (Nat.le_of_not_lt notIssued)] at named
  exact Bool.false_ne_true named

theorem issued_of_named? {table : Table kind α} {name : String} {ref : Ref kind}
    (named : table.named? name = some ref) :
    table.Issued ref := by
  obtain ⟨index, found, same⟩ := Option.map_eq_some_iff.mp named
  rw [← same]
  exact (Array.findIdx?_eq_some_iff_findIdx_eq.mp found).1

@[simp] theorem isNamed_modify (table : Table kind α) (ref : Ref kind) (change : α → α)
    (other : Ref kind) :
    (table.modify ref change).isNamed other = table.isNamed other := by
  simp only [isNamed, namesOf_eq_getD, modify, Array.getElem?_modify]
  split
  · cases table.slots[other.index]? <;> rfl
  · rfl

@[simp] theorem isNamed_add (table : Table kind α) (content : α) (ref : Ref kind) :
    (table.add content).isNamed ref = table.isNamed ref := by
  simp only [isNamed, namesOf_eq_getD, add, Array.getElem?_push]
  split
  · rename_i same
    rw [same, Array.getElem?_eq_none (Nat.le_refl _)]
    rfl
  · rfl

/-- Whoever forgets a name makes nothing known. -/
theorem isNamed_of_isNamed_forget
    {table : Table kind α}
    {name : String}
    {ref : Ref kind}
    (named : (table.forget name).isNamed ref = true) :
    table.isNamed ref = true := by
  obtain ⟨kept, member⟩ := isNamed_iff.mp named
  refine isNamed_iff.mpr ⟨kept, ?_⟩
  rw [namesOf_eq_getD] at member ⊢
  simp only [forget, Array.getElem?_map] at member
  cases found : table.slots[ref.index]? with
  | none => simp [found] at member
  | some slot =>
      simp only [found, Option.map_some, Option.getD_some] at member ⊢
      exact (List.mem_filter.mp member).1

theorem mem_namesOf_release
    {table : Table kind α}
    (name : String)
    {kept : String}
    {ref : Ref kind}
    (member : kept ∈ (table.release name).namesOf ref) :
    kept ∈ table.namesOf ref := by
  rw [namesOf_eq_getD] at member ⊢
  simp only [release, Array.getElem?_map] at member
  cases found : table.slots[ref.index]? with
  | none => simp [found] at member
  | some slot =>
      simp only [found, Option.map_some, Option.getD_some] at member ⊢
      split at member
      · exact (List.mem_filter.mp member).1
      · exact member

/-- Naming a thing makes no other thing known. -/
theorem isNamed_of_isNamed_name
    {table : Table kind α}
    {ref other : Ref kind}
    {name : String}
    (named : (table.name ref name).isNamed other = true) :
    other = ref ∨ table.isNamed other = true := by
  by_cases same : other = ref
  · exact Or.inl same
  · right
    have apart : ¬ ref.index = other.index := by
      intro sameIndex
      exact same (congrArg Ref.mk sameIndex.symm)
    obtain ⟨kept, member⟩ := isNamed_iff.mp named
    refine isNamed_iff.mpr ⟨kept, mem_namesOf_release name ?_⟩
    rw [namesOf_eq_getD] at member ⊢
    simpa [Table.name, Array.getElem?_modify, apart] using member

/-! ### Things put in other words -/

/-- The table with everything in it put in other words. -/
def map (table : Table kind α) (change : α → β) : Table kind β :=
  ⟨table.slots.map (fun slot =>
    { content := change slot.content, names := slot.names, calls := slot.calls })⟩

@[simp] theorem issued_map (change : α → β) {table : Table kind α} {ref : Ref kind} :
    (table.map change).Issued ref ↔ table.Issued ref := by
  simp [Issued, map]

@[simp] theorem refs_map (table : Table kind α) (change : α → β) :
    (table.map change).refs = table.refs := by
  simp [refs, map]

@[simp] theorem isNamed_map (table : Table kind α) (change : α → β) (ref : Ref kind) :
    (table.map change).isNamed ref = table.isNamed ref := by
  simp only [isNamed, namesOf_eq_getD, map, Array.getElem?_map, Option.map_map]
  rfl

theorem get_map
    [Inhabited α]
    [Inhabited β]
    {change : α → β}
    (defaultFixed : change default = default)
    (table : Table kind α)
    (ref : Ref kind) :
    (table.map change).get ref = change (table.get ref) := by
  simp only [get_eq_getD, map, Array.getElem?_map, Option.map_map]
  cases table.slots[ref.index]? with
  | none => exact defaultFixed.symm
  | some slot => rfl

theorem map_map {γ : Type} (table : Table kind α) (first : α → β) (second : β → γ) :
    (table.map first).map second = table.map (second ∘ first) := by
  unfold map
  simp only [Array.map_map]
  rfl

/-- A change in other words. -/
theorem map_modify_of_comm
    {words : α → β}
    {change : α → α}
    {changed : β → β}
    (commutes : ∀ content, words (change content) = changed (words content))
    (table : Table kind α)
    (ref : Ref kind) :
    (table.modify ref change).map words = (table.map words).modify ref changed := by
  unfold map modify
  congr 1
  apply Array.ext
  · simp
  · intro index _ _
    by_cases same : ref.index = index
    · simp [Array.getElem_modify, same, commutes]
    · simp [Array.getElem_modify, same]

/-- A change that other words do not tell. -/
theorem map_modify
    {words : α → β}
    {change : α → α}
    (untold : ∀ content, words (change content) = words content)
    (table : Table kind α)
    (ref : Ref kind) :
    (table.modify ref change).map words = table.map words :=
  (map_modify_of_comm untold table ref).trans (modify_id _ _)

/-! ### What stays as it is of everything issued -/

section Keeps

variable [Inhabited α]

/-- Everything that one table has issued the other one has issued too, and what is read of
it is the same there. -/
def Keeps (read : α → β) (before after : Table kind α) : Prop :=
  ∀ ref, before.Issued ref → after.Issued ref ∧ read (after.get ref) = read (before.get ref)

theorem Keeps.refl (read : α → β) (table : Table kind α) : Keeps read table table := by
  intro ref issued
  exact ⟨issued, rfl⟩

theorem Keeps.trans
    {read : α → β}
    {before between after : Table kind α}
    (first : Keeps read before between)
    (second : Keeps read between after) :
    Keeps read before after := by
  intro ref issued
  obtain ⟨issuedBetween, sameBetween⟩ := first ref issued
  obtain ⟨issuedAfter, sameAfter⟩ := second ref issuedBetween
  exact ⟨issuedAfter, sameAfter.trans sameBetween⟩

theorem keeps_add (read : α → β) (table : Table kind α) (content : α) :
    Keeps read table (table.add content) := by
  intro ref issued
  exact ⟨issued.add content, by rw [get_add_of_issued issued]⟩

theorem keeps_modify
    (read : α → β)
    {change : α → α}
    (kept : ∀ content, read (change content) = read content)
    (table : Table kind α)
    (ref : Ref kind) :
    Keeps read table (table.modify ref change) := by
  intro other issued
  exact ⟨issued_modify.mpr issued, read_modify read kept table ref other⟩

theorem keeps_name (read : α → β) (table : Table kind α) (ref : Ref kind) (name : String) :
    Keeps read table (table.name ref name) := by
  intro other issued
  exact ⟨issued_name.mpr issued, by rw [get_name]⟩

theorem keeps_forget (read : α → β) (table : Table kind α) (name : String) :
    Keeps read table (table.forget name) := by
  intro other issued
  exact ⟨issued_forget.mpr issued, by rw [get_forget]⟩

end Keeps

/-! ### What stays as it is beside one thing -/

section Spares

variable [Inhabited α]

/-- Everything that one table has issued the other one has issued too, and all of it but one
thing is the same there. -/
def Spares (but : Ref kind) (before after : Table kind α) : Prop :=
  ∀ ref, before.Issued ref → after.Issued ref ∧ (ref ≠ but → after.get ref = before.get ref)

theorem Spares.refl (but : Ref kind) (table : Table kind α) : Spares but table table := by
  intro ref issued
  exact ⟨issued, fun _ => rfl⟩

theorem Spares.trans
    {but : Ref kind}
    {before between after : Table kind α}
    (first : Spares but before between)
    (second : Spares but between after) :
    Spares but before after := by
  intro ref issued
  obtain ⟨issuedBetween, sameBetween⟩ := first ref issued
  obtain ⟨issuedAfter, sameAfter⟩ := second ref issuedBetween
  exact ⟨issuedAfter, fun other => (sameAfter other).trans (sameBetween other)⟩

/-- What is the same everywhere is the same beside one thing. -/
theorem Keeps.spares
    {before after : Table kind α}
    (kept : Keeps id before after)
    (but : Ref kind) :
    Spares but before after :=
  fun ref issued => ⟨(kept ref issued).1, fun _ => (kept ref issued).2⟩

theorem spares_add (but : Ref kind) (table : Table kind α) (content : α) :
    Spares but table (table.add content) := by
  intro ref issued
  exact ⟨issued.add content, fun _ => get_add_of_issued issued content⟩

theorem spares_modify (but : Ref kind) (table : Table kind α) (change : α → α) :
    Spares but table (table.modify but change) := by
  intro ref issued
  exact ⟨issued_modify.mpr issued, fun other => get_modify_of_ne other table change⟩

end Spares

end ChannelMux.Table
