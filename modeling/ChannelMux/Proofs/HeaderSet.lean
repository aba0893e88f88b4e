import Mathlib.Data.List.DropRight
import Mathlib.Data.List.Nodup
import Mathlib.Data.List.Perm.Subperm
import Mathlib.Data.List.TakeWhile
import ChannelMux.HeaderSet

/-!
Contract: which headers a set holds after putting several.

Owns the lists of headers that are in order of their numbers, the fact that a set holds
nothing but what was put in, no header more often than it was put, and that putting
headers that are in order keeps them all. Owns what is kept under the number of a header
that was put or erased.
-/

namespace ChannelMux.HeaderSet

/-- Headers stand in strictly increasing order of number. -/
def Increasing (headers : List Header) : Prop :=
  headers.Pairwise (fun before after => before.id < after.id)

@[ext] theorem ext
    {left right : HeaderSet}
    (same : left.descending = right.descending) :
    left = right := by
  cases left
  cases right
  cases same
  rfl

theorem toList_increasing (headers : HeaderSet) : Increasing headers.toList :=
  List.pairwise_reverse.mpr headers.ordered

@[simp] theorem length_toList (headers : HeaderSet) : headers.toList.length = headers.size :=
  List.length_reverse

/-! ### Nothing appears that was not put -/

/-- What lies below a number comes behind what lies above it. -/
private theorem dropWhile_le_sublist (number : UInt16) (headers : List Header) :
    (headers.dropWhile (fun kept => number ≤ kept.id)).Sublist
      (headers.dropWhile (fun kept => number < kept.id)) := by
  induction headers with
  | nil => exact List.Sublist.slnil
  | cons head tail inductionHypothesis =>
      by_cases above : number < head.id
      · have atLeast : number ≤ head.id := UInt16.le_of_lt above
        simpa [List.dropWhile_cons, above, atLeast] using inductionHypothesis
      · have stops : (head :: tail).dropWhile (fun kept => number < kept.id) = head :: tail := by
          simp [above]
        rw [stops]
        exact List.dropWhile_sublist _

theorem descending_put_subperm (headers : HeaderSet) (header : Header) :
    (headers.put header).descending.Subperm (header :: headers.descending) := by
  have others :
      (headers.descending.takeWhile (fun kept => header.id < kept.id) ++
        headers.descending.dropWhile (fun kept => header.id ≤ kept.id)).Sublist
          headers.descending := by
    have whole := (List.Sublist.refl
      (headers.descending.takeWhile (fun kept => header.id < kept.id))).append
        (dropWhile_le_sublist header.id headers.descending)
    rwa [List.takeWhile_append_dropWhile] at whole
  exact List.perm_middle.subperm.trans ((List.subperm_cons header).mpr others.subperm)

theorem descending_foldl_put_subperm (listed : List Header) (headers : HeaderSet) :
    (listed.foldl put headers).descending.Subperm (listed ++ headers.descending) := by
  induction listed generalizing headers with
  | nil => exact List.Subperm.refl _
  | cons head tail inductionHypothesis =>
      have behind : (tail ++ (headers.put head).descending).Subperm
          (tail ++ head :: headers.descending) :=
        (List.Subperm.refl tail).append (descending_put_subperm headers head)
      exact (inductionHypothesis (headers.put head)).trans
        (behind.trans List.perm_middle.subperm)

/-- A set of listed headers holds no header more often than it is listed. -/
theorem toList_ofList_subperm (listed : List Header) :
    (ofList listed).toList.Subperm listed := by
  have subperm := descending_foldl_put_subperm listed empty
  rw [show empty.descending = [] from rfl, List.append_nil] at subperm
  exact (List.reverse_perm _).subperm.trans subperm

/-! ### Headers in order are all kept -/

theorem descending_put_of_above
    {headers : HeaderSet}
    {header : Header}
    (above : ∀ kept ∈ headers.descending, kept.id < header.id) :
    (headers.put header).descending = header :: headers.descending := by
  cases kept : headers.descending with
  | nil => simp [put, kept]
  | cons head tail =>
      have headBelow : head.id < header.id := above head (by simp [kept])
      have notAbove : ¬ header.id < head.id := UInt16.lt_asymm headBelow
      have notAtLeast : ¬ header.id ≤ head.id := UInt16.not_le.mpr headBelow
      simp [put, kept, notAbove, notAtLeast]

theorem descending_foldl_put_of_increasing
    {listed : List Header}
    {headers : HeaderSet}
    (increasing : Increasing listed)
    (above : ∀ kept ∈ headers.descending, ∀ header ∈ listed, kept.id < header.id) :
    (listed.foldl put headers).descending = listed.reverse ++ headers.descending := by
  induction listed generalizing headers with
  | nil => rfl
  | cons head tail inductionHypothesis =>
      obtain ⟨headBelow, tailIncreasing⟩ := List.pairwise_cons.mp increasing
      have putHead : (headers.put head).descending = head :: headers.descending :=
        descending_put_of_above fun kept member => above kept member head List.mem_cons_self
      rw [List.foldl_cons, inductionHypothesis tailIncreasing, putHead]
      · simp
      · intro kept member header tailMember
        rw [putHead] at member
        rcases List.mem_cons.mp member with rfl | old
        · exact headBelow header tailMember
        · exact above kept old header (List.mem_cons_of_mem _ tailMember)

/-- Headers in increasing order are just what their set lists. -/
theorem toList_ofList_of_increasing
    {listed : List Header}
    (increasing : Increasing listed) :
    (ofList listed).toList = listed := by
  have descending : (listed.foldl put empty).descending = listed.reverse ++ [] :=
    descending_foldl_put_of_increasing increasing (by simp [empty])
  rw [toList, ofList, descending]
  simp

/-- A set is the set of what it lists. -/
@[simp] theorem ofList_toList (headers : HeaderSet) : ofList headers.toList = headers := by
  have listed := toList_ofList_of_increasing headers.toList_increasing
  exact ext (List.reverse_injective listed)

/-! ### Under the number of a header that was put -/

private theorem lt_of_mem_takeWhile
    {number : UInt16}
    {headers : List Header}
    {header : Header}
    (member : header ∈ headers.takeWhile (fun kept => number < kept.id)) :
    number < header.id := by
  have kept := List.mem_takeWhile_imp member
  exact of_decide_eq_true kept

/-- A header that was put takes the place of one under the same number. -/
theorem put_put
    {first second : Header}
    (same : first.id = second.id)
    (headers : HeaderSet) :
    (headers.put first).put second = headers.put second := by
  apply ext
  change (List.takeWhile _ (_ ++ first :: _)) ++ second :: (List.dropWhile _ (_ ++ first :: _)) =
    List.takeWhile _ _ ++ second :: List.dropWhile _ _
  rw [same]
  have above : ∀ kept ∈ headers.descending.takeWhile (fun kept => second.id < kept.id),
      decide (second.id < kept.id) = true := by
    intro kept member
    exact decide_eq_true (lt_of_mem_takeWhile member)
  have atLeast : ∀ kept ∈ headers.descending.takeWhile (fun kept => second.id < kept.id),
      decide (second.id ≤ kept.id) = true := by
    intro kept member
    exact decide_eq_true (UInt16.le_of_lt (lt_of_mem_takeWhile member))
  rw [List.takeWhile_append_of_pos above,
    List.takeWhile_cons_of_neg (by simp [same, UInt16.lt_irrefl]),
    List.dropWhile_append_of_pos atLeast, List.dropWhile_cons_of_pos (by simp [same]),
    List.dropWhile_idempotent, List.append_nil]

theorem get?_put_self (headers : HeaderSet) (header : Header) :
    (headers.put header).get? header.id = some header := by
  unfold get? put
  have passed : (headers.descending.takeWhile (fun kept => header.id < kept.id)).find?
      (fun kept => kept.id == header.id) = none := by
    rw [List.find?_eq_none]
    intro kept member same
    have above := lt_of_mem_takeWhile member
    rw [eq_of_beq same] at above
    exact UInt16.lt_irrefl _ above
  rw [List.find?_append, passed]
  simp

/-- Under other numbers than that of a header that was put there is what there was. -/
theorem get?_put_of_ne
    {number : UInt16}
    {header : Header}
    (different : number ≠ header.id)
    (headers : HeaderSet) :
    (headers.put header).get? number = headers.get? number := by
  obtain ⟨descending, ordered⟩ := headers
  change (descending.takeWhile (fun kept => header.id < kept.id) ++
    header :: descending.dropWhile (fun kept => header.id ≤ kept.id)).find?
      (fun kept => kept.id == number) = descending.find? (fun kept => kept.id == number)
  have skips (other : Header) (same : header.id = other.id) (rest : List Header) :
      (other :: rest).find? (fun kept => kept.id == number) =
        rest.find? (fun kept => kept.id == number) := by
    refine List.find?_cons_of_neg ?_
    simpa [← same] using different.symm
  induction descending with
  | nil => exact skips header rfl []
  | cons head tail inductionHypothesis =>
      obtain ⟨below, tailOrdered⟩ := List.pairwise_cons.mp ordered
      by_cases above : header.id < head.id
      · rw [List.takeWhile_cons_of_pos (by simpa using above),
          List.dropWhile_cons_of_pos (by simpa using UInt16.le_of_lt above), List.cons_append,
          List.find?_cons, List.find?_cons, inductionHypothesis tailOrdered]
      · rw [List.takeWhile_cons_of_neg (by simpa using above), List.nil_append,
          skips header rfl]
        by_cases same : header.id = head.id
        · -- What is replaced is not looked for, and all that follows is below it.
          have rest : tail.dropWhile (fun kept => header.id ≤ kept.id) = tail := by
            cases tail with
            | nil => rfl
            | cons next others =>
                have nextBelow := below next List.mem_cons_self
                rw [← same] at nextBelow
                exact List.dropWhile_cons_of_neg (by simpa using nextBelow)
          rw [List.dropWhile_cons_of_pos (by simp [same]), rest, skips head same]
        · have strictly : head.id < header.id := by
            rcases UInt16.lt_or_lt_of_ne same with impossible | strictly
            · exact absurd impossible above
            · exact strictly
          rw [List.dropWhile_cons_of_neg (by simpa using strictly)]

theorem id_of_get?_eq_some
    {headers : HeaderSet}
    {number : UInt16}
    {header : Header}
    (found : headers.get? number = some header) :
    header.id = number :=
  eq_of_beq (List.find?_some (p := fun listed : Header => listed.id == number) found)

/-- No other header is kept under the number of one that is found. -/
theorem eq_of_get?_eq_some
    {headers : HeaderSet}
    {number : UInt16}
    {header kept : Header}
    (found : headers.get? number = some header)
    (member : kept ∈ headers.toList)
    (same : kept.id = number) :
    kept = header := by
  have nodup : (headers.descending.map Header.id).Nodup :=
    List.pairwise_map.mpr (headers.ordered.imp fun lower => (UInt16.ne_of_lt lower).symm)
  have isNumber : header.id = number := id_of_get?_eq_some found
  exact List.inj_on_of_nodup_map nodup (List.mem_reverse.mp member)
    (List.mem_of_find?_eq_some found) (same.trans isNumber.symm)

/-- What is found under a number is what is listed with that number. -/
theorem get?_eq_some_iff {headers : HeaderSet} {number : UInt16} {header : Header} :
    headers.get? number = some header ↔ header ∈ headers.toList ∧ header.id = number := by
  constructor
  · intro found
    exact ⟨List.mem_reverse.mpr (List.mem_of_find?_eq_some found), id_of_get?_eq_some found⟩
  · rintro ⟨member, rfl⟩
    cases found : headers.get? header.id with
    | some kept => rw [eq_of_get?_eq_some found member rfl]
    | none =>
        have missing := List.find?_eq_none.mp found header (List.mem_reverse.mp member)
        exact absurd (beq_self_eq_true header.id) missing

/-! ### Under a number that was erased -/

theorem get?_erase_self (headers : HeaderSet) (number : UInt16) :
    (headers.erase number).get? number = none := by
  refine List.find?_eq_none.mpr ?_
  intro header member same
  have kept := (List.mem_filter.mp member).2
  rw [eq_of_beq same, bne_self_eq_false] at kept
  cases kept

/-- Under other numbers than the one that was erased is what there was. -/
theorem get?_erase_of_ne
    {number other : UInt16}
    (different : other ≠ number)
    (headers : HeaderSet) :
    (headers.erase number).get? other = headers.get? other := by
  have kept : (fun header : Header => decide (header.id != number ∧ header.id == other)) =
      fun header => header.id == other := by
    funext header
    by_cases same : header.id = other <;> simp [same, different]
  unfold get? erase
  rw [List.find?_filter, kept]

end ChannelMux.HeaderSet
