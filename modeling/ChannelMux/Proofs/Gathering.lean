import Mathlib.Data.List.Nodup
import Mathlib.Data.List.Perm.Basic
import ChannelMux.Proofs.Registry

/-!
Contract: what becomes of items that are gathered under names.

Owns that every group holds just the items with its name, in their order, that no group is
empty, and that no item is lost or doubled by gathering.
-/

namespace ChannelMux

variable {α Key : Type}

/-- Items with the names of a list, name by name, are the items that have one of them. -/
theorem flatMap_fibers_perm
    [DecidableEq Key]
    (name : α → Key)
    (items : List α)
    {keys : List Key}
    (distinct : keys.Nodup) :
    (keys.flatMap fun key => items.filter fun item => name item = key).Perm
      (items.filter fun item => name item ∈ keys) := by
  induction keys with
  | nil => simp
  | cons key rest inductionHypothesis =>
      obtain ⟨notAgain, restDistinct⟩ := List.nodup_cons.mp distinct
      rw [List.flatMap_cons]
      refine ((inductionHypothesis restDistinct).append_left _).trans ?_
      -- Among the items with one of the names, those with the first name come first.
      have split := List.filter_append_perm (fun item => decide (name item = key))
        (items.filter fun item => name item ∈ key :: rest)
      have first : (items.filter fun item => name item ∈ key :: rest).filter
          (fun item => decide (name item = key)) =
          items.filter fun item => name item = key := by
        rw [List.filter_filter]
        apply List.filter_congr
        intro item _
        by_cases same : name item = key <;> simp [same]
      have others : (items.filter fun item => name item ∈ key :: rest).filter
          (fun item => !decide (name item = key)) =
          items.filter fun item => name item ∈ rest := by
        rw [List.filter_filter]
        apply List.filter_congr
        intro item _
        by_cases same : name item = key
        · simp [same, notAgain]
        · simp [same]
      rwa [first, others] at split

theorem flatMap_filter
    {β : Type}
    (property : α → Bool)
    (make : α → List β)
    (items : List α) :
    (items.filter property).flatMap make =
      items.flatMap fun item => if property item then make item else [] := by
  induction items with
  | nil => rfl
  | cons item rest inductionHypothesis =>
      cases holds : property item <;> simp [holds, inductionHypothesis]

/-- What is made of entries under distinct names is distinct if that of one entry is, and no
two entries have any of it in common. -/
theorem nodup_flatMap_of_names
    {β : Type}
    {entries : List (String × α)}
    {make : String × α → List β}
    (distinct : (entries.map Prod.fst).Nodup)
    (each : ∀ entry ∈ entries, (make entry).Nodup)
    (apart : ∀ left ∈ entries, ∀ right ∈ entries, ∀ made ∈ make left, made ∈ make right →
      left.1 = right.1) :
    (entries.flatMap make).Nodup := by
  refine List.nodup_flatMap.mpr ⟨each, ?_⟩
  refine (List.pairwise_map.mp distinct).imp_of_mem ?_
  intro left right leftMember rightMember different made inLeft inRight
  exact different (apart left leftMember right rightMember made inLeft inRight)

namespace Registry

variable {name : α → String} {items : List α} {key : String}

theorem gather_cons (name : α → String) (item : α) (rest : List α) :
    gather name (item :: rest) =
      (gather name rest).alter (name item) fun group? => item :: group?.getD [] := rfl

/-- A group holds the items with its name, and there is one if there are such items. -/
theorem get?_gather (name : α → String) (items : List α) (key : String) :
    (gather name items).get? key =
      if (items.filter fun item => name item = key).isEmpty then none
      else some (items.filter fun item => name item = key) := by
  induction items with
  | nil => rfl
  | cons item rest inductionHypothesis =>
      rw [gather_cons]
      by_cases same : name item = key
      · rw [← same, get?_alter_self]
        rw [← same] at inductionHypothesis
        rw [inductionHypothesis, List.filter_cons_of_pos (by simp)]
        cases rest.filter fun other => decide (name other = name item) <;> rfl
      · rw [get?_alter_of_ne (Ne.symm same), inductionHypothesis,
          List.filter_cons_of_neg (by simpa using same)]

theorem mem_gather_iff {part : List α} :
    (key, part) ∈ (gather name items).entries ↔
      part = (items.filter fun item => name item = key) ∧ part ≠ [] := by
  rw [← get?_eq_some_iff, get?_gather]
  split
  · rename_i empty
    rw [List.isEmpty_iff] at empty
    rw [empty]
    constructor
    · intro absurdity
      cases absurdity
    · rintro ⟨same, notEmpty⟩
      exact absurd same notEmpty
  · rename_i notEmpty
    rw [List.isEmpty_iff] at notEmpty
    constructor
    · intro same
      cases same
      exact ⟨rfl, notEmpty⟩
    · rintro ⟨same, _⟩
      rw [same]

/-- If every item has a name, the groups are those of the names that they have. -/
theorem mem_gather_getD_iff
    {name? : α → Option String}
    {part : List α}
    (named : ∀ item ∈ items, (name? item).isSome) :
    (key, part) ∈ (gather (fun item => (name? item).getD "") items).entries ↔
      part = (items.filter fun item => name? item = some key) ∧ part ≠ [] := by
  have sameName : (items.filter fun item => (name? item).getD "" = key) =
      items.filter fun item => name? item = some key := by
    apply List.filter_congr
    intro item member
    obtain ⟨found, isFound⟩ := Option.isSome_iff_exists.mp (named item member)
    simp [isFound]
  rw [mem_gather_iff, sameName]

theorem mem_names_gather_iff :
    key ∈ (gather name items).names ↔ ∃ item ∈ items, name item = key := by
  rw [mem_names_iff, get?_gather]
  split
  · rename_i empty
    rw [List.isEmpty_iff, List.filter_eq_nil_iff] at empty
    simpa using empty
  · rename_i notEmpty
    rw [List.isEmpty_iff, List.filter_eq_nil_iff] at notEmpty
    simpa using notEmpty

theorem entries_gather (name : α → String) (items : List α) :
    (gather name items).entries =
      (gather name items).names.map fun key =>
        (key, items.filter fun item => name item = key) := by
  unfold names
  rw [List.map_map]
  symm
  refine (List.map_congr_left ?_).trans (List.map_id _)
  intro entry listed
  have isPart := (mem_gather_iff.mp listed).1
  exact Prod.ext rfl isPart.symm

/-- Items may be changed before or after they are gathered, if their names are not. -/
theorem entries_gather_map
    {change : α → α}
    (kept : ∀ item, name (change item) = name item)
    (items : List α) :
    (gather name (items.map change)).entries =
      (gather name items).entries.map fun entry => (entry.1, entry.2.map change) := by
  have altered (item : α) (entries : List (String × List α)) :
      alterEntries (name item) (fun group? => change item :: group?.getD [])
          (entries.map fun entry => (entry.1, entry.2.map change)) =
        (alterEntries (name item) (fun group? => item :: group?.getD []) entries).map
          fun entry => (entry.1, entry.2.map change) := by
    induction entries with
    | nil => rfl
    | cons entry rest inductionHypothesis =>
        rw [List.map_cons]
        unfold alterEntries
        by_cases before : entry.1 < name item
        · rw [if_pos before, if_pos before, List.map_cons, inductionHypothesis]
        · rw [if_neg before, if_neg before]
          by_cases same : entry.1 = name item
          · rw [if_pos same, if_pos same]
            rfl
          · rw [if_neg same, if_neg same]
            rfl
  induction items with
  | nil => rfl
  | cons item rest inductionHypothesis =>
      rw [List.map_cons, gather_cons, gather_cons, kept]
      change alterEntries (name item) _ (gather name (rest.map change)).entries = _
      rw [inductionHypothesis]
      exact altered item _

/-- Gathering loses no item and doubles none. -/
theorem gather_perm (name : α → String) (items : List α) :
    ((gather name items).entries.flatMap Prod.snd).Perm items := by
  rw [entries_gather, List.flatMap_map]
  refine (flatMap_fibers_perm name items (names_nodup _)).trans (List.Perm.of_eq ?_)
  rw [List.filter_eq_self]
  intro item member
  exact decide_eq_true (mem_names_gather_iff.mpr ⟨item, member, rfl⟩)

end Registry

end ChannelMux
