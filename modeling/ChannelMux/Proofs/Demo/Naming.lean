import Mathlib.Data.List.Basic
import ChannelMux.Demo.Plan
import ChannelMux.Proofs.Delivery.Sending

/-!
Contract: the names in a demonstration.

Owns that nodes, groups, members and channels of different numbers have different names, that
none is empty, and that names and what is said under them are short enough to be written as long
as the numbers fit into eight octets.
-/

namespace ChannelMux.Demo

/-! ### Different numbers, different names -/

theorem toString_number_inj {left right : Nat} : toString left = toString right ↔ left = right := by
  refine ⟨fun same => ?_, fun same => by rw [same]⟩
  have digits := congrArg (fun text => Nat.ofDigitChars 10 text.toList 0) same
  simpa using digits

theorem nodeName_inj {left right : Nat} : nodeName left = nodeName right ↔ left = right := by
  unfold nodeName
  rw [String.append_right_inj, toString_number_inj]

theorem groupName_inj {left right : Nat} : groupName left = groupName right ↔ left = right := by
  unfold groupName
  rw [String.append_right_inj, toString_number_inj]

theorem memberName_inj {left right : Nat} :
    memberName left = memberName right ↔ left = right := by
  unfold memberName
  rw [String.append_right_inj, toString_number_inj]

theorem groupName_ne_empty (group : Nat) : groupName group ≠ "" := by
  intro empty
  have sizes := congrArg String.utf8ByteSize empty
  simp [groupName, String.utf8ByteSize_append] at sizes

theorem memberName_ne_empty (member : Nat) : memberName member ≠ "" := by
  intro empty
  have sizes := congrArg String.utf8ByteSize empty
  simp [memberName, String.utf8ByteSize_append] at sizes

/-- No digit of a number is a mark between names. -/
theorem not_mem_toString {mark : Char} (notDigit : mark.isDigit = false) (number : Nat) :
    mark ∉ (toString number).toList := by
  rw [Nat.toString_eq_repr, Nat.toList_repr]
  intro member
  have isDigit := Nat.isDigit_of_mem_toDigits (by decide) (by decide) member
  rw [notDigit] at isDigit
  cases isDigit

/-- Texts that begin with a number and a mark say which number, and what follows. -/
theorem eq_of_marked
    {mark : Char}
    (notDigit : mark.isDigit = false)
    {left right : Nat}
    {leftRest rightRest : List Char}
    (same : (toString left).toList ++ mark :: leftRest =
      (toString right).toList ++ mark :: rightRest) :
    left = right ∧ leftRest = rightRest := by
  have upToMark (number : Nat) (rest : List Char) :
      ((toString number).toList ++ mark :: rest).takeWhile (· != mark) =
        (toString number).toList := by
    have digits : ∀ digit ∈ (toString number).toList, (digit != mark) = true := by
      intro digit member
      rw [bne_iff_ne]
      rintro rfl
      exact not_mem_toString notDigit number member
    rw [List.takeWhile_append_of_pos digits, List.takeWhile_cons_of_neg (by simp),
      List.append_nil]
  have sameDigits := congrArg (List.takeWhile (· != mark)) same
  rw [upToMark, upToMark] at sameDigits
  rw [sameDigits, List.append_cancel_left_eq] at same
  exact ⟨toString_number_inj.mp (String.toList_inj.mp sameDigits), (List.cons.inj same).2⟩

theorem channelName_inj {node group member otherNode otherGroup otherMember : Nat} :
    channelName node group member = channelName otherNode otherGroup otherMember ↔
      node = otherNode ∧ group = otherGroup ∧ member = otherMember := by
  refine ⟨fun same => ?_, by rintro ⟨rfl, rfl, rfl⟩; rfl⟩
  have slash : "/".toList = ['/'] := rfl
  have colon : ":".toList = [':'] := rfl
  have letters := congrArg String.toList same
  simp only [channelName, nodeName, groupName, memberName, String.toList_append, slash, colon,
    List.append_assoc, List.append_cancel_left_eq, List.cons_append, List.nil_append] at letters
  obtain ⟨sameNode, letters⟩ := eq_of_marked (by decide) letters
  rw [List.append_cancel_left_eq] at letters
  obtain ⟨sameGroup, letters⟩ := eq_of_marked (by decide) letters
  rw [List.append_cancel_left_eq, String.toList_inj] at letters
  exact ⟨sameNode, sameGroup, toString_number_inj.mp letters⟩

/-! ### How long they are -/

theorem utf8ByteSize_ofList_le (letters : List Char) :
    (String.ofList letters).utf8ByteSize ≤ 4 * letters.length := by
  induction letters with
  | nil => simp
  | cons letter rest inductionHypothesis =>
      have parts : String.ofList (letter :: rest) =
          String.singleton letter ++ String.ofList rest := by
        apply String.toList_inj.mp
        simp
      have size := letter.utf8Size_le_four
      rw [parts, String.utf8ByteSize_append, String.utf8ByteSize_singleton, List.length_cons]
      omega

/-- A number that fits into eight octets is written in few digits. -/
theorem utf8ByteSize_toString_le {number : Nat} (fits : number < Octets.capacity 8) :
    (toString number).utf8ByteSize ≤ 80 := by
  have digits : number.repr.length ≤ 20 := by
    refine (Nat.length_repr_le_iff (by decide)).mpr (Nat.lt_trans fits ?_)
    decide
  have size := utf8ByteSize_ofList_le (toString number).toList
  rw [String.ofList_toList, Nat.toString_eq_repr, String.length_toList] at size
  rw [Nat.toString_eq_repr]
  omega

section Sizes

variable {group member number node : Nat} (groupFits : group < Octets.capacity 8)
  (memberFits : member < Octets.capacity 8) (numberFits : number < Octets.capacity 8)
  (nodeFits : node < Octets.capacity 8)

include groupFits in
theorem utf8ByteSize_groupName_le : (groupName group).utf8ByteSize ≤ 90 := by
  have size := utf8ByteSize_toString_le groupFits
  have front : (toString "group-").utf8ByteSize = 6 := rfl
  unfold groupName
  rw [String.utf8ByteSize_append, front]
  omega

include memberFits in
theorem utf8ByteSize_memberName_le : (memberName member).utf8ByteSize ≤ 90 := by
  have size := utf8ByteSize_toString_le memberFits
  have front : (toString "member-").utf8ByteSize = 7 := rfl
  unfold memberName
  rw [String.utf8ByteSize_append, front]
  omega

include groupFits memberFits in
/-- The routing header of a fork can be written. -/
theorem headerFits_between :
    Encoding.HeaderFits (.routing (.between (groupName group) (memberName member))) := by
  refine ⟨?_, ?_⟩
  · intro text isName
    cases isName
    exact Nat.le_trans (utf8ByteSize_groupName_le groupFits) (by decide)
  · intro text isName
    cases isName
    exact Nat.le_trans (utf8ByteSize_memberName_le memberFits) (by decide)

include groupFits memberFits numberFits in
theorem length_forkPayload_le :
    (forkPayload group member number).length ≤ Encoding.maxBodyLength := by
  have groupSize := utf8ByteSize_groupName_le groupFits
  have memberSize := utf8ByteSize_memberName_le memberFits
  have numberSize := utf8ByteSize_toString_le numberFits
  have colon : ":".utf8ByteSize = 1 := rfl
  have mark : (toString " #").utf8ByteSize = 2 := rfl
  have room : 300 ≤ Encoding.maxBodyLength := by decide
  unfold forkPayload
  rw [Encoding.ofString_length]
  simp only [String.utf8ByteSize_append, colon, mark]
  omega

include nodeFits in
theorem length_nodePayload_le : (nodePayload node).length ≤ Encoding.maxBodyLength := by
  have nodeSize := utf8ByteSize_toString_le nodeFits
  have front : (toString "node-").utf8ByteSize = 5 := rfl
  have plain : "plain from ".utf8ByteSize = 11 := rfl
  have room : 300 ≤ Encoding.maxBodyLength := by decide
  unfold nodePayload nodeName
  rw [Encoding.ofString_length]
  simp only [String.utf8ByteSize_append, front, plain]
  omega

end Sizes

end ChannelMux.Demo
