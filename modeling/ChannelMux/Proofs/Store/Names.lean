import ChannelMux.Proofs.Store.Table

/-!
Contract: who is known by which name.

Owns what becomes of the names of things when things are added, changed, named and forgotten.
Owns the tables in which no name stands for two things: naming takes the name from whatever
had it, so that tables stay so, and forgetting a name concerns one thing at most.
-/

namespace ChannelMux.Table

variable {kind : Kind} {α β : Type}

/-! ### The names of a thing -/

theorem namesOf_map (table : Table kind α) (change : α → β) (ref : Ref kind) :
    (table.map change).namesOf ref = table.namesOf ref := by
  simp only [namesOf_eq_getD, map, Array.getElem?_map, Option.map_map]
  rfl

theorem namesOf_modify (table : Table kind α) (ref : Ref kind) (change : α → α)
    (other : Ref kind) :
    (table.modify ref change).namesOf other = table.namesOf other := by
  simp only [namesOf_eq_getD, modify, Array.getElem?_modify]
  split
  · cases table.slots[other.index]? <;> rfl
  · rfl

theorem namesOf_add (table : Table kind α) (content : α) (ref : Ref kind) :
    (table.add content).namesOf ref = table.namesOf ref := by
  simp only [namesOf_eq_getD, add, Array.getElem?_push]
  split
  · rename_i same
    rw [same, Array.getElem?_eq_none (Nat.le_refl _)]
    rfl
  · rfl

theorem namesOf_forget (table : Table kind α) (name : String) (ref : Ref kind) :
    (table.forget name).namesOf ref = (table.namesOf ref).filter (· != name) := by
  simp only [namesOf_eq_getD, forget, Array.getElem?_map]
  cases table.slots[ref.index]? <;> rfl

theorem namesOf_release (table : Table kind α) (name : String) (ref : Ref kind) :
    (table.release name).namesOf ref = (table.namesOf ref).filter (· != name) := by
  simp only [namesOf_eq_getD, release, Array.getElem?_map]
  cases table.slots[ref.index]? with
  | none => rfl
  | some slot =>
      simp only [Option.map_some, Option.getD_some]
      split
      · rfl
      · -- Whoever does not have the name keeps all the names.
        rename_i unnamed
        symm
        rw [List.filter_eq_self]
        intro kept member
        rw [bne_iff_ne]
        rintro rfl
        simp [member] at unnamed

theorem namesOf_name_self
    {table : Table kind α}
    {ref : Ref kind}
    (issued : table.Issued ref)
    (name : String) :
    (table.name ref name).namesOf ref = (table.namesOf ref).filter (· != name) ++ [name] := by
  have releasedIssued : ref.index < (table.release name).slots.size := by
    simpa [release, Issued] using issued
  rw [← namesOf_release, namesOf_eq_getD, namesOf_eq_getD]
  simp [Table.name, Array.getElem?_modify, Array.getElem?_eq_getElem releasedIssued]

theorem namesOf_name_of_ne
    {ref other : Ref kind}
    (different : other ≠ ref)
    (table : Table kind α)
    (name : String) :
    (table.name ref name).namesOf other = (table.namesOf other).filter (· != name) := by
  have apart : ¬ ref.index = other.index := by
    intro sameIndex
    exact different (congrArg Ref.mk sameIndex.symm)
  rw [← namesOf_release, namesOf_eq_getD, namesOf_eq_getD]
  simp [Table.name, Array.getElem?_modify, apart]

theorem mem_namesOf_of_named?
    {table : Table kind α}
    {name : String}
    {ref : Ref kind}
    (named : table.named? name = some ref) :
    name ∈ table.namesOf ref := by
  obtain ⟨index, found, same⟩ := Option.map_eq_some_iff.mp named
  subst same
  obtain ⟨inside, has, _⟩ := Array.findIdx?_eq_some_iff_getElem.mp found
  rw [namesOf_eq_getD, Array.getElem?_eq_getElem inside]
  simpa using has

theorem not_mem_namesOf_of_named?
    {table : Table kind α}
    {name : String}
    (nobody : table.named? name = none)
    (ref : Ref kind) :
    name ∉ table.namesOf ref := by
  have noIndex := Option.map_eq_none_iff.mp nobody
  rw [Array.findIdx?_eq_none_iff] at noIndex
  intro member
  rw [namesOf_eq_getD] at member
  cases found : table.slots[ref.index]? with
  | none => simp [found] at member
  | some slot =>
      have unnamed := noIndex slot (Array.mem_of_getElem? found)
      simp [found] at member
      simp [member] at unnamed

/-! ### Names that stand for one thing alone -/

/-- No name stands for two things. -/
def Unambiguous (table : Table kind α) : Prop :=
  ∀ name left right, name ∈ table.namesOf left → name ∈ table.namesOf right → left = right

namespace Unambiguous

variable {table : Table kind α}

theorem of_namesOf_eq
    {other : Table kind β}
    (unambiguous : table.Unambiguous)
    (same : ∀ ref, other.namesOf ref = table.namesOf ref) :
    other.Unambiguous := by
  intro name left right onLeft onRight
  rw [same] at onLeft onRight
  exact unambiguous name left right onLeft onRight

theorem forget (unambiguous : table.Unambiguous) (name : String) :
    (table.forget name).Unambiguous := by
  intro kept left right onLeft onRight
  rw [namesOf_forget] at onLeft onRight
  exact unambiguous kept left right (List.mem_filter.mp onLeft).1 (List.mem_filter.mp onRight).1

theorem name (unambiguous : table.Unambiguous) (ref : Ref kind) (name : String) :
    (table.name ref name).Unambiguous := by
  -- Whoever else has a name had it before, and it is not the one that was given.
  have older {kept : String} {other : Ref kind} (different : other ≠ ref)
      (member : kept ∈ (table.name ref name).namesOf other) :
      kept ∈ table.namesOf other ∧ kept ≠ name := by
    rw [namesOf_name_of_ne different, List.mem_filter, bne_iff_ne] at member
    exact member
  have own {kept : String} (member : kept ∈ (table.name ref name).namesOf ref)
      (isOld : kept ≠ name) :
      kept ∈ table.namesOf ref := by
    by_cases issued : table.Issued ref
    · rw [namesOf_name_self issued, List.mem_append, List.mem_singleton] at member
      rcases member with old | isNew
      · exact (List.mem_filter.mp old).1
      · exact absurd isNew isOld
    · have stillNot : ¬ (table.name ref name).Issued ref := fun now => issued (issued_name.mp now)
      exact absurd (issued_of_isNamed (isNamed_iff.mpr ⟨kept, member⟩)) stillNot
  intro kept left right onLeft onRight
  by_cases leftIs : left = ref
  · by_cases rightIs : right = ref
    · rw [leftIs, rightIs]
    · obtain ⟨onRight, isOld⟩ := older rightIs onRight
      rw [leftIs] at onLeft ⊢
      exact unambiguous kept ref right (own onLeft isOld) onRight
  · obtain ⟨onLeft, isOld⟩ := older leftIs onLeft
    by_cases rightIs : right = ref
    · rw [rightIs] at onRight ⊢
      exact unambiguous kept left ref onLeft (own onRight isOld)
    · exact unambiguous kept left right onLeft (older rightIs onRight).1

end Unambiguous

/-- Forgetting a name makes nothing unknown but what had the name. -/
theorem isNamed_forget
    {table : Table kind α}
    {name : String}
    {ref : Ref kind}
    (unnamed : name ∉ table.namesOf ref) :
    (table.forget name).isNamed ref = table.isNamed ref := by
  have kept : (table.namesOf ref).filter (· != name) = table.namesOf ref := by
    rw [List.filter_eq_self]
    intro other member
    rw [bne_iff_ne]
    rintro rfl
    exact unnamed member
  unfold isNamed
  rw [namesOf_forget, kept]

theorem isNamed_name_of_not_mem
    {table : Table kind α}
    {name : String}
    {ref other : Ref kind}
    (different : other ≠ ref)
    (unnamed : name ∉ table.namesOf other) :
    (table.name ref name).isNamed other = table.isNamed other := by
  have kept : (table.namesOf other).filter (· != name) = table.namesOf other := by
    rw [List.filter_eq_self]
    intro held member
    rw [bne_iff_ne]
    rintro rfl
    exact unnamed member
  unfold isNamed
  rw [namesOf_name_of_ne different, kept]

theorem isNamed_name_self
    {table : Table kind α}
    {ref : Ref kind}
    (issued : table.Issued ref)
    (name : String) :
    (table.name ref name).isNamed ref = true :=
  isNamed_iff.mpr ⟨name, by simp [namesOf_name_self issued]⟩

end ChannelMux.Table
