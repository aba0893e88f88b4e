import Mathlib.Data.List.Nodup
import ChannelMux.Registry

/-!
Contract: what registries keep.

Owns what is found under a name after the value under that name or another one was made,
put or let go of, and that just what is found is listed, in order.
-/

namespace ChannelMux.Registry

variable {α : Type}

private theorem find?_eq_none_of_lt
    {name : String}
    {entries : List (String × α)}
    (above : ∀ entry ∈ entries, name < entry.1) :
    entries.find? (fun entry => entry.1 == name) = none := by
  rw [List.find?_eq_none]
  intro entry member same
  have below := above entry member
  rw [eq_of_beq same] at below
  exact String.lt_irrefl _ below

private theorem find?_alterEntries_self
    {name : String}
    {value : Option α → α}
    {entries : List (String × α)}
    (ordered : entries.Pairwise (fun earlier later => earlier.1 < later.1)) :
    (alterEntries name value entries).find? (fun entry => entry.1 == name) =
      some (name, value
        ((entries.find? (fun entry => entry.1 == name)).map Prod.snd)) := by
  induction entries with
  | nil => simp [alterEntries]
  | cons head tail inductionHypothesis =>
      obtain ⟨headFirst, tailOrdered⟩ := List.pairwise_cons.mp ordered
      rw [alterEntries]
      split
      · rename_i before
        have different : (head.1 == name) = false := by
          rw [beq_eq_false_iff_ne]
          intro same
          rw [same] at before
          exact String.lt_irrefl _ before
        rw [List.find?_cons, different, List.find?_cons, different]
        exact inductionHypothesis tailOrdered
      · rename_i notBefore
        split
        · rename_i same
          simp [same]
        · rename_i different
          -- The names behind `head` are greater than it, and it is greater than `name`.
          have headAbove : name < head.1 := by
            apply Decidable.byContradiction
            intro notAbove
            exact different (String.le_antisymm (String.not_lt.mp notAbove)
              (String.not_lt.mp notBefore))
          have absent : (head :: tail).find? (fun entry => entry.1 == name) = none := by
            apply find?_eq_none_of_lt
            intro entry member
            rcases List.mem_cons.mp member with rfl | inTail
            · exact headAbove
            · exact String.lt_trans headAbove (headFirst entry inTail)
          rw [absent]
          simp

private theorem find?_alterEntries_of_ne
    {name other : String}
    (different : other ≠ name)
    (value : Option α → α)
    (entries : List (String × α)) :
    (alterEntries name value entries).find? (fun entry => entry.1 == other) =
      entries.find? (fun entry => entry.1 == other) := by
  have skipped : (name == other) = false := beq_eq_false_iff_ne.mpr (Ne.symm different)
  induction entries with
  | nil => simp [alterEntries, skipped]
  | cons head tail inductionHypothesis =>
      rw [alterEntries]
      split
      · rw [List.find?_cons, List.find?_cons, inductionHypothesis]
      · split
        · rename_i same
          rw [List.find?_cons, List.find?_cons, same]
          simp [skipped]
        · rw [List.find?_cons]
          simp [skipped]

theorem get?_alter_self (registry : Registry α) (name : String) (value : Option α → α) :
    (registry.alter name value).get? name = some (value (registry.get? name)) := by
  unfold get? alter
  rw [find?_alterEntries_self registry.ordered]
  rfl

theorem get?_alter_of_ne
    {name other : String}
    (different : other ≠ name)
    (registry : Registry α)
    (value : Option α → α) :
    (registry.alter name value).get? other = registry.get? other := by
  unfold get? alter
  rw [find?_alterEntries_of_ne different]

@[simp] theorem get?_put_self (registry : Registry α) (name : String) (value : α) :
    (registry.put name value).get? name = some value :=
  get?_alter_self registry name _

theorem get?_put_of_ne
    {name other : String}
    (different : other ≠ name)
    (registry : Registry α)
    (value : α) :
    (registry.put name value).get? other = registry.get? other :=
  get?_alter_of_ne different registry _

@[simp] theorem get?_erase_self (registry : Registry α) (name : String) :
    (registry.erase name).get? name = none := by
  unfold get? erase
  rw [Option.map_eq_none_iff, List.find?_eq_none]
  intro entry member same
  have kept := (List.mem_filter.mp member).2
  rw [eq_of_beq same] at kept
  simp at kept

theorem get?_erase_of_ne
    {name other : String}
    (different : other ≠ name)
    (registry : Registry α) :
    (registry.erase name).get? other = registry.get? other := by
  unfold get? erase
  rw [List.find?_filter]
  congr 2
  funext entry
  by_cases same : entry.1 = other
  · simp [same, different]
  · simp [same]

/-! ### What is listed -/

theorem names_ordered (registry : Registry α) : registry.names.Pairwise (· < ·) :=
  List.pairwise_map.mpr registry.ordered

theorem names_nodup (registry : Registry α) : registry.names.Nodup := by
  refine registry.names_ordered.imp ?_
  intro earlier later below same
  rw [same] at below
  exact String.lt_irrefl _ below

private theorem find?_name_cases {entries : List (String × α)} {name : String}
    {entry : String × α}
    (found : entries.find? (fun entry => entry.1 == name) = some entry) :
    entry.1 = name ∧ entry ∈ entries := by
  have isNamed := List.find?_some found
  exact ⟨eq_of_beq isNamed, List.mem_of_find?_eq_some found⟩

/-- A name is listed with the value that is found under it, and with no other one. -/
theorem get?_eq_some_iff {registry : Registry α} {name : String} {value : α} :
    registry.get? name = some value ↔ (name, value) ∈ registry.entries := by
  constructor
  · intro found
    obtain ⟨entry, isFirst, same⟩ := Option.map_eq_some_iff.mp found
    obtain ⟨isNamed, listed⟩ := find?_name_cases isFirst
    rw [← isNamed, ← same]
    exact listed
  · intro listed
    have exists_ : (registry.entries.find? (fun entry => entry.1 == name)).isSome := by
      rw [List.find?_isSome]
      exact ⟨(name, value), listed, beq_self_eq_true name⟩
    obtain ⟨entry, isFirst⟩ := Option.isSome_iff_exists.mp exists_
    obtain ⟨isNamed, alsoListed⟩ := find?_name_cases isFirst
    have same : entry = (name, value) :=
      List.inj_on_of_nodup_map registry.names_nodup alsoListed listed isNamed
    unfold get?
    rw [isFirst, same]
    rfl

theorem mem_names_iff {registry : Registry α} {name : String} :
    name ∈ registry.names ↔ (registry.get? name).isSome := by
  rw [names, List.mem_map, Option.isSome_iff_exists]
  simp only [get?_eq_some_iff]
  constructor
  · rintro ⟨entry, listed, rfl⟩
    exact ⟨entry.2, listed⟩
  · rintro ⟨value, listed⟩
    exact ⟨(name, value), listed, rfl⟩

theorem mem_names_put_iff {registry : Registry α} {name other : String} {value : α} :
    other ∈ (registry.put name value).names ↔ other ∈ registry.names ∨ other = name := by
  rw [mem_names_iff, mem_names_iff]
  by_cases same : other = name
  · subst same
    rw [get?_put_self]
    simp
  · rw [get?_put_of_ne same, or_iff_left same]

theorem mem_values_iff {registry : Registry α} {value : α} :
    value ∈ registry.values ↔ ∃ name, registry.get? name = some value := by
  rw [values, List.mem_map]
  simp only [get?_eq_some_iff]
  constructor
  · rintro ⟨entry, listed, rfl⟩
    exact ⟨entry.1, listed⟩
  · rintro ⟨name, listed⟩
    exact ⟨(name, value), listed, rfl⟩

/-- No value is kept twice if a value tells the name that it is under. -/
theorem nodup_values_filter
    {registry : Registry α}
    {keep : α → Bool}
    (nameOf : α → String)
    (named : ∀ name value, registry.get? name = some value → keep value = true →
      nameOf value = name) :
    (registry.values.filter keep).Nodup := by
  have names : (registry.values.filter keep).map nameOf =
      (registry.entries.filter (keep ∘ Prod.snd)).map Prod.fst := by
    rw [values, List.filter_map, List.map_map]
    apply List.map_congr_left
    intro entry among
    obtain ⟨listed, kept⟩ := List.mem_filter.mp among
    exact named entry.1 entry.2 (get?_eq_some_iff.mpr listed) kept
  apply List.Nodup.of_map nameOf
  rw [names]
  exact registry.names_nodup.sublist (List.filter_sublist.map Prod.fst)

/-- What is made of the entry under a name is all that is made of entries with the name. -/
theorem flatMap_entries_under
    {β : Type}
    (registry : Registry α)
    (name : String)
    (make : α → List β) :
    (registry.entries.flatMap fun entry => if entry.1 = name then make entry.2 else []) =
      ((registry.get? name).map make).getD [] := by
  obtain ⟨entries, ordered⟩ := registry
  unfold get?
  induction entries with
  | nil => rfl
  | cons head tail inductionHypothesis =>
      obtain ⟨headFirst, tailOrdered⟩ := List.pairwise_cons.mp ordered
      rw [List.flatMap_cons]
      by_cases same : head.1 = name
      · have nothing : (tail.flatMap fun entry =>
            if entry.1 = name then make entry.2 else []) = [] := by
          rw [List.flatMap_eq_nil_iff]
          intro later member
          have before := headFirst later member
          rw [if_neg]
          intro sameLater
          rw [same, sameLater] at before
          exact absurd before (String.lt_irrefl name)
        rw [nothing, if_pos same, List.append_nil, List.find?_cons_of_pos (by simpa using same)]
        rfl
      · rw [if_neg same, List.nil_append, List.find?_cons_of_neg (by simpa using same)]
        exact inductionHypothesis tailOrdered

end ChannelMux.Registry
