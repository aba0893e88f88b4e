/-!
Contract: values kept under names.

Owns a map from texts that lists its names in increasing order, each once, and the
gathering of a list into groups under names.
-/

namespace ChannelMux

/-- Values under names, listed in increasing order of name. -/
structure Registry (α : Type) where
  entries : List (String × α)
  ordered : entries.Pairwise (fun earlier later => earlier.1 < later.1)

namespace Registry

variable {α : Type}

def empty : Registry α := ⟨[], .nil⟩

instance : Inhabited (Registry α) := ⟨empty⟩

/-- The names, in increasing order. -/
def names (registry : Registry α) : List String := registry.entries.map Prod.fst

/-- The values, in the order of their names. -/
def values (registry : Registry α) : List α := registry.entries.map Prod.snd

def size (registry : Registry α) : Nat := registry.entries.length

def get? (registry : Registry α) (name : String) : Option α :=
  (registry.entries.find? (fun entry => entry.1 == name)).map Prod.snd

/-- Entries with the value under a name made from the value there before, if any. -/
def alterEntries (name : String) (value : Option α → α) :
    List (String × α) → List (String × α)
  | [] => [(name, value none)]
  | entry :: rest =>
      if entry.1 < name then entry :: alterEntries name value rest
      else if entry.1 = name then (name, value (some entry.2)) :: rest
      else (name, value none) :: entry :: rest

private theorem mem_alterEntries
    {name : String}
    {value : Option α → α}
    {entries : List (String × α)}
    {entry : String × α}
    (member : entry ∈ alterEntries name value entries) :
    entry.1 = name ∨ entry ∈ entries := by
  induction entries with
  | nil =>
      simp only [alterEntries, List.mem_singleton] at member
      exact Or.inl (by rw [member])
  | cons head tail inductionHypothesis =>
      simp only [alterEntries] at member
      split at member
      · rcases List.mem_cons.mp member with rfl | tailMember
        · exact Or.inr List.mem_cons_self
        · exact (inductionHypothesis tailMember).imp_right (List.mem_cons_of_mem _)
      · split at member
        · rcases List.mem_cons.mp member with rfl | tailMember
          · exact Or.inl rfl
          · exact Or.inr (List.mem_cons_of_mem _ tailMember)
        · rcases List.mem_cons.mp member with rfl | oldMember
          · exact Or.inl rfl
          · exact Or.inr oldMember

private theorem alterEntries_ordered
    {name : String}
    {value : Option α → α}
    {entries : List (String × α)}
    (ordered : entries.Pairwise (fun earlier later => earlier.1 < later.1)) :
    (alterEntries name value entries).Pairwise (fun earlier later => earlier.1 < later.1) := by
  induction entries with
  | nil => simp [alterEntries]
  | cons head tail inductionHypothesis =>
      obtain ⟨headFirst, tailOrdered⟩ := List.pairwise_cons.mp ordered
      simp only [alterEntries]
      split
      · rename_i before
        refine List.pairwise_cons.mpr ⟨?_, inductionHypothesis tailOrdered⟩
        intro later member
        rcases mem_alterEntries member with same | old
        · rw [same]; exact before
        · exact headFirst later old
      · rename_i notBefore
        split
        · rename_i same
          refine List.pairwise_cons.mpr ⟨?_, tailOrdered⟩
          intro later member
          rw [← same]
          exact headFirst later member
        · rename_i different
          have after : name < head.1 := by
            apply Decidable.byContradiction
            intro notAfter
            exact different (String.le_antisymm (String.not_lt.mp notAfter)
              (String.not_lt.mp notBefore))
          refine List.pairwise_cons.mpr ⟨?_, ordered⟩
          intro later member
          rcases List.mem_cons.mp member with rfl | tailMember
          · exact after
          · exact String.lt_trans after (headFirst later tailMember)

/-- Makes the value under a name from the value there before, if any. -/
def alter (registry : Registry α) (name : String) (value : Option α → α) : Registry α :=
  ⟨alterEntries name value registry.entries, alterEntries_ordered registry.ordered⟩

def put (registry : Registry α) (name : String) (value : α) : Registry α :=
  registry.alter name (fun _ => value)

def erase (registry : Registry α) (name : String) : Registry α where
  entries := registry.entries.filter (fun entry => entry.1 != name)
  ordered := registry.ordered.sublist List.filter_sublist

/-- Items gathered under the names that they are given; each group keeps the order of its
items. -/
def gather (name : α → String) (items : List α) : Registry (List α) :=
  items.foldr (fun item groups =>
    groups.alter (name item) (fun group? => item :: group?.getD [])) empty

end Registry

end ChannelMux
