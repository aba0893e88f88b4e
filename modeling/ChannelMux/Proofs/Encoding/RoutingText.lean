import ChannelMux.CommandLine.Response
import ChannelMux.Proofs.Encoding.Header
import ChannelMux.Proofs.Text.Hex

/-!
Contract: the commands that write and read routing headers.

Owns `headerCommands_exact`: a header is written exactly if both of its identifiers fit their
length fields, and is then read back; a text is read exactly if it is, with white space around
it at most, the hexadecimal form in either case of what is written of some header, and this
header is shown.

Does not own the reading of the command line in front of the commands.
-/

namespace ChannelMux

/-! ### White space around digits -/

namespace Text

/-- White space and nothing else. -/
def AllBlank (text : String) : Prop := ∀ letter ∈ text.toList, isBlank letter = true

/-- Trimming takes white space off the two ends of a text. -/
theorem exists_around_trim (text : String) :
    ∃ before after,
      text = before ++ trim text ++ after ∧ AllBlank before ∧ AllBlank after := by
  let body := text.toList.dropWhile isBlank
  refine ⟨.ofList (text.toList.takeWhile isBlank),
    .ofList (body.reverse.takeWhile isBlank).reverse, ?_, ?_, ?_⟩
  · rw [trim, ← String.ofList_append, ← String.ofList_append, List.append_assoc,
      ← List.reverse_append, List.takeWhile_append_dropWhile, List.reverse_reverse,
      List.takeWhile_append_dropWhile, String.ofList_toList]
  · intro letter member
    rw [String.toList_ofList] at member
    exact List.all_eq_true.mp List.all_takeWhile letter member
  · intro letter member
    rw [String.toList_ofList, List.mem_reverse] at member
    exact List.all_eq_true.mp List.all_takeWhile letter member

theorem dropWhile_isBlank_append
    {before core : List Char}
    (beforeBlank : ∀ letter ∈ before, isBlank letter = true)
    (coreVisible : ∀ letter ∈ core, isBlank letter = false)
    (inhabited : core ≠ [])
    (after : List Char) :
    (before ++ (core ++ after)).dropWhile isBlank = core ++ after := by
  rw [List.dropWhile_append_of_pos beforeBlank]
  cases core with
  | nil => exact absurd rfl inhabited
  | cons letter tail =>
      rw [List.cons_append, List.dropWhile_cons_of_neg]
      simp [coreVisible letter List.mem_cons_self]

/-- Trimming takes off all the white space around a text without white space in it. -/
theorem trim_around
    {before core after : String}
    (beforeBlank : AllBlank before)
    (afterBlank : AllBlank after)
    (coreVisible : ∀ letter ∈ core.toList, isBlank letter = false)
    (inhabited : core.toList ≠ []) :
    trim (before ++ core ++ after) = core := by
  have front := dropWhile_isBlank_append beforeBlank coreVisible inhabited after.toList
  have back : (after.toList.reverse ++ core.toList.reverse).dropWhile isBlank =
      core.toList.reverse := by
    rw [← List.append_nil core.toList.reverse]
    apply dropWhile_isBlank_append
    · exact fun letter member => afterBlank letter (List.mem_reverse.mp member)
    · exact fun letter member => coreVisible letter (List.mem_reverse.mp member)
    · exact fun empty => inhabited (List.reverse_eq_nil_iff.mp empty)
  rw [trim, String.toList_append, String.toList_append, List.append_assoc, front,
    List.reverse_append, back, List.reverse_reverse, String.ofList_toList]

end Text

namespace Encoding

open CommandLine

/-- A text that is the hexadecimal form of what is written of a header, in either case and
with white space around it at most. -/
def Spells (text : String) (header : RoutingHeader) : Prop :=
  ∃ before digits after octets,
    text = before ++ digits ++ after ∧ Text.AllBlank before ∧ Text.AllBlank after ∧
      writeRouting header = .ok octets ∧ digits.toLower = Hex.encode octets

/-- A letter that becomes a digit is no white space. -/
theorem isBlank_of_toLower
    {digits : String}
    {octets : Octets}
    (spelt : digits.toLower = Hex.encode octets) :
    ∀ letter ∈ digits.toList, Text.isBlank letter = false := by
  intro letter member
  have inDigits : letter.toLower ∈ octets.flatMap Hex.digits := by
    rw [← Hex.toLower_eq_encode_iff.mp spelt]
    exact List.mem_map_of_mem member
  have range := Hex.range_of_toLower inDigits
  simp only [Text.isBlank, Bool.or_eq_false_iff, Bool.and_eq_false_iff, decide_eq_false_iff_not,
    beq_eq_false_iff_ne]
  omega

/-- A header is read from octets, nothing being left over, exactly if they are what is written
of it. -/
theorem routingOfText_eq_ok_iff {text : String} {header : RoutingHeader} :
    routingOfText text = .ok header ↔
      ∃ octets, (Text.trim text).toLower = Hex.encode octets ∧
        writeRouting header = .ok octets := by
  simp only [← routingOfOctets_eq_ok_iff, ← Hex.decode_eq_ok_iff]
  unfold routingOfText routingOfOctets
  cases Hex.decode (Text.trim text) with
  | error fault => simp
  | ok octets =>
      simp only [Except.ok.injEq, exists_eq_left']
      cases readRouting.run octets with
      | error error => simp [bind, Except.bind]
      | ok result =>
          obtain ⟨found, rest⟩ := result
          cases rest <;> simp [bind, Except.bind, pure, Except.pure, throw, throwThe,
            MonadExceptOf.throw]

theorem textSize_pos (text? : Option String) : 0 < textSize text? := by
  cases text? with
  | none => exact Nat.one_pos
  | some text =>
      rw [textSize]
      omega

/-- A text spells a header exactly if the header is read from it. -/
theorem spells_iff {text : String} {header : RoutingHeader} :
    Spells text header ↔ routingOfText text = .ok header := by
  rw [routingOfText_eq_ok_iff]
  constructor
  · rintro ⟨before, digits, after, octets, rfl, beforeBlank, afterBlank, written, spelt⟩
    have inhabited : digits.toList ≠ [] := by
      intro empty
      have size := Hex.length_of_toLower spelt
      rw [empty, length_of_writeRouting written, routingSize, List.length_nil] at size
      have present := textSize_pos header.group?
      omega
    rw [Text.trim_around beforeBlank afterBlank (isBlank_of_toLower spelt) inhabited]
    exact ⟨octets, spelt, written⟩
  · rintro ⟨octets, spelt, written⟩
    obtain ⟨before, after, split, beforeBlank, afterBlank⟩ := Text.exists_around_trim text
    exact ⟨before, Text.trim text, after, octets, split, beforeBlank, afterBlank, written,
      spelt⟩

theorem Spells.unique
    {text : String}
    {left right : RoutingHeader}
    (leftSpelt : Spells text left)
    (rightSpelt : Spells text right) :
    left = right := by
  have same := (spells_iff.mp leftSpelt).symm.trans (spells_iff.mp rightSpelt)
  exact Except.ok.inj same

end Encoding

end ChannelMux
