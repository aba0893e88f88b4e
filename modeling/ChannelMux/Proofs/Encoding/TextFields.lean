import ChannelMux.Proofs.Encoding.Field
import ChannelMux.Proofs.Text.Hex

/-!
Contract: optional texts in a buffer, written and read.

Owns the relation between a writing and the octets that it puts at the end of a buffer,
whatever the buffer holds, and `textFields_bijective`: an optional text is read from octets
exactly if they begin with what is written of it; it is written exactly if its length fits, in
as many octets as its size says, and leaves the buffer alone otherwise; and texts written into
one buffer are read back in their order.

What is written does not depend on what the buffer holds, and what is read does not depend on
what follows it. Sequences of texts are therefore put together from single ones on both sides.
-/

namespace ChannelMux.Encoding

/-! ### Writing at the end of a buffer -/

/-- A writing puts exactly these octets at the end of whatever a buffer holds. -/
def Appends (writing : Writing Unit) (written : Octets) : Prop :=
  ∀ buffer, writing buffer = (.ok (), buffer ++ written)

theorem run_bind (first : Writing Unit) (next : Unit → Writing Unit) (buffer : Octets) :
    (first >>= next) buffer = ExceptT.bindCont next (first buffer).1 (first buffer).2 := rfl

theorem appendOctets_appends (octets : Octets) : Appends (appendOctets octets) octets := fun _ => rfl

theorem Appends.pure : Appends (Pure.pure ()) [] := by
  intro buffer
  rw [List.append_nil]
  rfl

theorem Appends.bind
    {first : Writing Unit}
    {next : Unit → Writing Unit}
    {front back : Octets}
    (firstAppends : Appends first front)
    (nextAppends : Appends (next ()) back) :
    Appends (first >>= next) (front ++ back) := by
  intro buffer
  rw [run_bind, firstAppends buffer, ← List.append_assoc]
  exact nextAppends (buffer ++ front)

theorem bind_of_refused
    {first : Writing Unit}
    {buffer after : Octets}
    {error : Error}
    (refused : first buffer = (.error error, after))
    (next : Unit → Writing Unit) :
    (first >>= next) buffer = (.error error, after) := by
  rw [run_bind, refused]
  rfl

/-! ### One optional text -/

/-- What is written of an optional text is what is put at the end of a buffer for it. -/
theorem appendText_appends
    {text? : Option String}
    {written : Octets}
    (writes : writeText text? = .ok written) :
    Appends (appendText text?) written := by
  cases text? with
  | none =>
      cases writes
      exact appendOctets_appends [0]
  | some text =>
      obtain ⟨fits, rfl⟩ := writeText_some_eq_ok_iff.mp writes
      rw [appendText, if_neg (Nat.not_lt.mpr fits)]
      -- Three writes, of presence, length and octets, one behind the other.
      have body : Appends (do
          appendOctets (Octets.ofNat 2 text.utf8ByteSize)
          appendOctets (Octets.ofString text))
          (Octets.ofNat 2 text.utf8ByteSize ++ Octets.ofString text) :=
        (appendOctets_appends _).bind (appendOctets_appends _)
      exact (appendOctets_appends [1]).bind body

/-- An optional text that cannot be written leaves a buffer as it is. -/
theorem appendText_refused
    {text? : Option String}
    {error : Error}
    (refused : writeText text? = .error error)
    (buffer : Octets) :
    appendText text? buffer = (.error error, buffer) := by
  cases text? with
  | none => cases refused
  | some text =>
      rw [writeText] at refused
      split at refused
      · cases refused
      · rename_i tooLong
        cases refused
        rw [appendText, if_pos (Nat.not_le.mp tooLong)]
        rfl

theorem readText_eq_ok_iff {octets rest : Octets} {text? : Option String} :
    readText octets = .ok (text?, rest) ↔
      ∃ written, writeText text? = .ok written ∧ octets = written ++ rest := by
  constructor
  · intro accepted
    obtain ⟨written, split, writes⟩ := writeText_of_readText accepted
    exact ⟨written, writes, split⟩
  · rintro ⟨written, writes, rfl⟩
    exact (readText_consumes writes).reads rest

/-! ### Texts one after the other -/

theorem appendTexts_cons (text? : Option String) (texts : List (Option String)) :
    appendTexts (text? :: texts) = appendText text? >>= fun _ => appendTexts texts := rfl

/-- Texts that fit are put at the end of a buffer in octets that are read back as these texts,
whatever follows. -/
theorem exists_appendTexts
    {texts : List (Option String)}
    (fit : ∀ text? ∈ texts, TextFits text?) :
    ∃ written,
      Appends (appendTexts texts) written ∧ Consumes (readTexts texts.length) written texts := by
  induction texts with
  | nil => exact ⟨[], Appends.pure, Consumes.pure []⟩
  | cons text? texts inductionHypothesis =>
      obtain ⟨headFits, tailFit⟩ := List.forall_mem_cons.mp fit
      obtain ⟨front, writes⟩ := (textFits_iff_writeText text?).mp headFits
      obtain ⟨back, appends, consumes⟩ := inductionHypothesis tailFit
      exact ⟨front ++ back, (appendText_appends writes).bind appends,
        (readText_consumes writes).bind (consumes.bind_pure (text? :: ·))⟩

/-- Texts that were all written into a buffer fit. -/
theorem textsFit_of_appendTexts
    {texts : List (Option String)}
    {buffer after : Octets}
    (appended : appendTexts texts buffer = (.ok (), after)) :
    ∀ text? ∈ texts, TextFits text? := by
  induction texts generalizing buffer with
  | nil => simp
  | cons text? texts inductionHypothesis =>
      rw [appendTexts_cons] at appended
      cases writes : writeText text? with
      | error error =>
          rw [bind_of_refused (appendText_refused writes buffer)] at appended
          cases appended
      | ok written =>
          rw [run_bind, appendText_appends writes buffer] at appended
          exact List.forall_mem_cons.mpr
            ⟨(textFits_iff_writeText text?).mpr ⟨written, writes⟩, inductionHypothesis appended⟩

/-- What is read as so many texts is what is written of them. -/
theorem appendTexts_of_readTexts
    {count : Nat}
    {octets rest : Octets}
    {texts : List (Option String)}
    (accepted : readTexts count octets = .ok (texts, rest)) :
    texts.length = count ∧
      ∃ written, Appends (appendTexts texts) written ∧ octets = written ++ rest := by
  induction count generalizing octets texts with
  | zero =>
      cases accepted
      exact ⟨rfl, [], Appends.pure, rfl⟩
  | succ count inductionHypothesis =>
      obtain ⟨text?, middle, headRead, tailAccepted⟩ := ok_of_bind accepted
      obtain ⟨tail, last, tailRead, returned⟩ := ok_of_bind tailAccepted
      rw [pure_apply] at returned
      cases returned
      obtain ⟨front, writes, rfl⟩ := readText_eq_ok_iff.mp headRead
      obtain ⟨length, back, appends, rfl⟩ := inductionHypothesis tailRead
      exact ⟨by rw [List.length_cons, length], front ++ back,
        (appendText_appends writes).bind appends, (List.append_assoc _ _ _).symm⟩

theorem readTexts_eq_ok_iff {count : Nat} {octets rest : Octets} {texts : List (Option String)} :
    readTexts count octets = .ok (texts, rest) ↔
      texts.length = count ∧
        ∃ written, appendTexts texts [] = (.ok (), written) ∧ octets = written ++ rest := by
  constructor
  · intro accepted
    obtain ⟨length, written, appends, split⟩ := appendTexts_of_readTexts accepted
    exact ⟨length, written, appends [], split⟩
  · rintro ⟨rfl, written, appended, rfl⟩
    obtain ⟨same, appends, consumes⟩ := exists_appendTexts (textsFit_of_appendTexts appended)
    rw [appends [], List.nil_append] at appended
    cases appended
    exact consumes.reads rest

/-- An optional text is read from octets exactly if it is what is written of it that they begin
with. It can be written exactly if it is absent or its octets are no more than its length field
can say; as many octets as its size says are then put at the end of a buffer, and otherwise the
buffer stays as it is. Texts that are written into one buffer, whatever it held, are read back
in their order with nothing left over, and octets are read as a sequence of texts only if they
begin with what is written of them. -/
theorem textFields_bijective :
    (∀ octets text? rest, readText.run octets = .ok (text?, rest) ↔
      ∃ written, writeText text? = .ok written ∧ octets = written ++ rest) ∧
    (∀ text?, (∃ written, writeText text? = .ok written) ↔
      ∀ text ∈ text?, (Octets.ofString text).length ≤ 65535) ∧
    (∀ buffer text?,
      (∀ written, writeText text? = .ok written →
        written.length = textSize text? ∧
          appendText text? buffer = (.ok (), buffer ++ written)) ∧
      (∀ error, writeText text? = .error error →
        appendText text? buffer = (.error error, buffer))) ∧
    (∀ buffer texts, (∀ text? ∈ texts, ∃ written, writeText text? = .ok written) →
      ∃ written,
        appendTexts texts buffer = (.ok (), buffer ++ written) ∧
          (readTexts texts.length).run written = .ok (texts, [])) ∧
    (∀ count octets texts rest, (readTexts count).run octets = .ok (texts, rest) ↔
      texts.length = count ∧
        ∃ written, appendTexts texts [] = (.ok (), written) ∧ octets = written ++ rest) := by
  refine ⟨fun _ _ _ => readText_eq_ok_iff, ?_, ?_, ?_, fun _ _ _ _ => readTexts_eq_ok_iff⟩
  · intro text?
    rw [← textFits_iff_writeText]
    simp only [TextFits, maxTextLength, ofString_length]
  · intro buffer text?
    exact ⟨fun written writes => ⟨length_of_writeText writes, appendText_appends writes buffer⟩,
      fun error refused => appendText_refused refused buffer⟩
  · intro buffer texts writable
    have fit : ∀ text? ∈ texts, TextFits text? := fun text? member =>
      (textFits_iff_writeText text?).mpr (writable text? member)
    obtain ⟨written, appends, consumes⟩ := exists_appendTexts fit
    exact ⟨written, appends buffer, consumes.reads_whole⟩

/-- A text of two octets, an absent one and an empty one. -/
def mixedTexts : List (Option String) := [some "é", none, some ""]

/-- A text of so many letters. -/
def manyLetters (count : Nat) : String := .ofList (List.replicate count 'x')

theorem length_ofString_manyLetters (count : Nat) :
    (Octets.ofString (manyLetters count)).length = count := by
  have size : 'x'.utf8Size = 1 := rfl
  simp [manyLetters, Hex.ofString_eq, List.length_flatMap, size]

/-- The three texts are written behind the octet that is there and read back, and a text of
one letter too many leaves the octet alone. -/
theorem textFields_bijective_mixed :
    (∃ written,
      appendTexts mixedTexts [7] = (.ok (), [7] ++ written) ∧
        (readTexts 3).run written = .ok (mixedTexts, [])) ∧
      ∃ error, appendText (some (manyLetters 65536)) [7] = (.error error, [7]) := by
  obtain ⟨_, writable_iff, appending, sequences, _⟩ := textFields_bijective
  constructor
  · apply sequences [7] mixedTexts
    have first : ∃ written, writeText (some "é") = .ok written := ⟨_, rfl⟩
    have second : ∃ written, writeText none = .ok written := ⟨_, rfl⟩
    have third : ∃ written, writeText (some "") = .ok written := ⟨_, rfl⟩
    simp [mixedTexts, first, second, third]
  · have tooLong : ¬ ∃ written, writeText (some (manyLetters 65536)) = .ok written := by
      rw [writable_iff]
      intro fits
      have size := fits (manyLetters 65536) rfl
      rw [length_ofString_manyLetters] at size
      omega
    cases refused : writeText (some (manyLetters 65536)) with
    | ok written => exact absurd ⟨written, refused⟩ tooLong
    | error error => exact ⟨error, (appending [7] (some (manyLetters 65536))).2 error refused⟩

end ChannelMux.Encoding
