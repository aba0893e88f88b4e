import Mathlib.Data.List.Chain
import Mathlib.Data.List.Nodup
import Mathlib.Data.List.Perm.Basic

/-!
Contract: what is selected from a list, and lists put one behind the other.

Owns that what is kept by belonging to a part of a list is that part, that what is alone in
yielding something yields everything, and that chains join where one ends as the other begins.
-/

namespace ChannelMux

variable {α β : Type}

/-- Of a list without repetitions, what is kept by belonging to a part of it is that part. -/
theorem filter_eq_of_sublist
    {whole part : List α}
    {kept : α → Bool}
    (once : whole.Nodup)
    (isPart : part.Sublist whole)
    (belongs : ∀ item ∈ whole, (kept item = true ↔ item ∈ part)) :
    whole.filter kept = part := by
  have inside : part.Sublist (whole.filter kept) := by
    have all : part.filter kept = part := List.filter_eq_self.mpr fun item member =>
      (belongs item (isPart.subset member)).mpr member
    rw [← all]
    exact isPart.filter kept
  have same : part.Perm (whole.filter kept) := by
    refine (List.perm_ext_iff_of_nodup (once.sublist isPart) (once.filter kept)).mpr fun item => ?_
    rw [List.mem_filter]
    exact ⟨fun member => ⟨isPart.subset member, (belongs item (isPart.subset member)).mpr member⟩,
      fun ⟨listed, isKept⟩ => (belongs item listed).mp isKept⟩
  exact (inside.eq_of_length same.length_eq).symm

/-- If one item alone yields something then all items yield what it does. -/
theorem flatMap_eq_of_alone
    {items : List α}
    {item : α}
    {yields : α → List β}
    (once : items.Nodup)
    (member : item ∈ items)
    (alone : ∀ other ∈ items, other ≠ item → yields other = []) :
    items.flatMap yields = yields item := by
  obtain ⟨before, after, rfl⟩ := List.append_of_mem member
  obtain ⟨notAgain, _⟩ := List.nodup_cons.mp (List.nodup_middle.mp once)
  have others (other : α) (isOther : other ∈ before ++ after) : yields other = [] := by
    refine alone other (List.mem_append.mpr ?_) ?_
    · rcases List.mem_append.mp isOther with early | late
      · exact Or.inl early
      · exact Or.inr (List.mem_cons_of_mem _ late)
    · rintro rfl
      exact notAgain isOther
  rw [List.flatMap_append, List.flatMap_cons,
    List.flatMap_eq_nil_iff.mpr fun other isOther => others other (List.mem_append_left _ isOther),
    List.flatMap_eq_nil_iff.mpr fun other isOther =>
      others other (List.mem_append_right _ isOther),
    List.nil_append, List.append_nil]

/-- A chain goes on where another one begins. -/
theorem isChain_append
    {related : α → α → Prop}
    {first last : α}
    {steps more : List α}
    (early : (first :: steps).IsChain related)
    (ends : (first :: steps).getLast (List.cons_ne_nil _ _) = last)
    (late : (last :: more).IsChain related) :
    (first :: (steps ++ more)).IsChain related := by
  induction steps generalizing first with
  | nil =>
      rw [List.getLast_singleton] at ends
      rw [ends]
      exact late
  | cons next rest inductionHypothesis =>
      obtain ⟨leads, onward⟩ := List.isChain_cons_cons.mp early
      rw [List.getLast_cons (List.cons_ne_nil _ _)] at ends
      exact List.isChain_cons_cons.mpr ⟨leads, inductionHypothesis onward ends⟩

end ChannelMux
