import ChannelMux.Proofs.Encoding.Consumption

/-!
Contract: the fields of encodings, written and read.

Owns, for strings of octets, words and optional texts: what is written, when it can be
written, that the reader consumes exactly what was written, and that whatever the reader
accepts is what would have been written.
-/

namespace ChannelMux.Encoding

/-! ### Strings of octets -/

theorem readOctets_eq_ok_iff
    {part : Part}
    {count : Nat}
    {octets taken rest : Octets} :
    readOctets part count octets = .ok (taken, rest) ↔
      octets = taken ++ rest ∧ taken.length = count := by
  unfold readOctets
  constructor
  · intro accepted
    dsimp only at accepted
    split at accepted
    · rename_i enough
      cases accepted
      exact ⟨(List.take_append_drop count octets).symm, enough⟩
    · cases accepted
  · rintro ⟨rfl, rfl⟩
    simp

theorem readOctets_of_short
    (part : Part)
    {count : Nat}
    {octets : Octets}
    (short : octets.length < count) :
    readOctets part count octets = .error (.truncated part count octets.length) := by
  unfold readOctets
  dsimp only
  rw [List.take_of_length_le (by omega), if_neg (by omega)]

theorem readOctets_consumes
    (part : Part)
    {count : Nat}
    {octets : Octets}
    (size : octets.length = count) :
    Consumes (readOctets part count) octets octets where
  reads _ := readOctets_eq_ok_iff.mpr ⟨rfl, size⟩
  detectsCut := by
    intro cut short
    have tooShort : (octets.take cut).length < count := by
      rw [List.length_take]
      omega
    exact ⟨part, count, _, readOctets_of_short part tooShort⟩

/-! ### Words -/

/-- Two octets can say every length that a text may have; the bound on the number of
headers is the same. -/
theorem lt_capacity_two_iff (number : Nat) :
    number < Octets.capacity 2 ↔ number ≤ maxTextLength := by
  rw [show Octets.capacity 2 = 65536 from rfl, maxTextLength]
  omega

/-- Four octets can say every length that a body may have. -/
theorem lt_capacity_four_iff (number : Nat) :
    number < Octets.capacity 4 ↔ number ≤ maxBodyLength := by
  rw [show Octets.capacity 4 = 4294967296 from rfl, maxBodyLength]
  omega

theorem readNat_consumes
    (part : Part)
    {width number : Nat}
    (fits : number < Octets.capacity width) :
    Consumes (readNat part width) (Octets.ofNat width number) number := by
  have consumes := (readOctets_consumes part (Octets.ofNat_length width number)).bind_pure
    Octets.value
  rwa [Octets.value_ofNat width number fits] at consumes

/-- A word that is read fits, and stands there in its fixed-width form. -/
theorem readNat_eq_ok
    {part : Part}
    {width number : Nat}
    {octets rest : Octets}
    (accepted : readNat part width octets = .ok (number, rest)) :
    number < Octets.capacity width ∧ octets = Octets.ofNat width number ++ rest := by
  obtain ⟨taken, middle, firstAccepted, returned⟩ := ok_of_bind accepted
  obtain ⟨rfl, rfl⟩ := readOctets_eq_ok_iff.mp firstAccepted
  rw [pure_apply] at returned
  cases returned
  exact ⟨Octets.value_lt taken, by rw [Octets.ofNat_value]⟩

/-! ### Lengths of bodies -/

theorem writeBodyLength_eq_ok_iff {length : Nat} {octets : Octets} :
    writeBodyLength length = .ok octets ↔
      length ≤ maxBodyLength ∧ octets = Octets.ofNat 4 length := by
  unfold writeBodyLength
  by_cases fits : length ≤ maxBodyLength
  · simp [fits, eq_comm]
  · simp [fits]

/-! ### Optional texts -/

@[simp] theorem ofString_length (text : String) :
    (Octets.ofString text).length = text.utf8ByteSize := by
  simp [Octets.ofString]

/-- An optional text that its length field can describe. -/
def TextFits (text? : Option String) : Prop :=
  ∀ text ∈ text?, text.utf8ByteSize ≤ maxTextLength

theorem textFits_iff_writeText (text? : Option String) :
    TextFits text? ↔ ∃ octets, writeText text? = .ok octets := by
  cases text? with
  | none => simp [TextFits, writeText]
  | some text =>
      by_cases fits : text.utf8ByteSize ≤ maxTextLength <;> simp [TextFits, writeText, fits]

/-- A present text is written with its presence and its length in front. -/
theorem writeText_some_eq_ok_iff {text : String} {octets : Octets} :
    writeText (some text) = .ok octets ↔
      text.utf8ByteSize ≤ maxTextLength ∧
        octets = 1 :: (Octets.ofNat 2 text.utf8ByteSize ++ Octets.ofString text) := by
  unfold writeText
  by_cases fits : text.utf8ByteSize ≤ maxTextLength
  · simp [fits, eq_comm]
  · simp [fits]

/-- A written text has as many octets as its size says. -/
theorem length_of_writeText
    {text? : Option String}
    {octets : Octets}
    (written : writeText text? = .ok octets) :
    octets.length = textSize text? := by
  cases text? with
  | none =>
      cases written
      rfl
  | some text =>
      obtain ⟨_, rfl⟩ := writeText_some_eq_ok_iff.mp written
      simp [textSize]
      omega

theorem utf8_decode_ofString (text : String) : Utf8.decode (Octets.ofString text) = .ok text := by
  rw [Utf8.decode, Utf8.decode?_ofString]

theorem eq_ofString_of_utf8_decode
    {octets : Octets}
    {text : String}
    (decoded : Utf8.decode octets = .ok text) :
    octets = Octets.ofString text := by
  unfold Utf8.decode at decoded
  split at decoded
  · rename_i found
    cases decoded
    exact Utf8.eq_ofString_of_decode? found
  · cases decoded

/-- What is written of an optional text is consumed, and read as the text. -/
theorem readText_consumes
    {text? : Option String}
    {octets : Octets}
    (written : writeText text? = .ok octets) :
    Consumes readText octets text? := by
  cases text? with
  | none =>
      cases written
      rw [← List.append_nil [0]]
      apply Consumes.bind (readOctets_consumes .textPresence (rfl : [0].length = 1))
      exact Consumes.pure none
  | some text =>
      obtain ⟨fits, rfl⟩ := writeText_some_eq_ok_iff.mp written
      have size : text.utf8ByteSize < Octets.capacity 2 := (lt_capacity_two_iff _).mpr fits
      rw [← List.singleton_append]
      apply Consumes.bind (readOctets_consumes .textPresence (rfl : [1].length = 1))
      apply Consumes.bind (readNat_consumes .textLength size)
      rw [← List.append_nil (Octets.ofString text)]
      apply Consumes.bind (readOctets_consumes .textOctets (ofString_length text))
      rw [utf8_decode_ofString]
      exact Consumes.pure (some text)

/-- What is read as an optional text is what is written of it. -/
theorem writeText_of_readText
    {octets rest : Octets}
    {text? : Option String}
    (accepted : readText octets = .ok (text?, rest)) :
    ∃ consumed, octets = consumed ++ rest ∧ writeText text? = .ok consumed := by
  obtain ⟨presence, middle, presenceRead, lastRead⟩ := ok_of_bind accepted
  obtain ⟨rfl, presenceSize⟩ := readOctets_eq_ok_iff.mp presenceRead
  split at lastRead
  · cases lastRead
    exact ⟨[0], rfl, rfl⟩
  · obtain ⟨length, behind, lengthRead, bodyRead⟩ := ok_of_bind lastRead
    obtain ⟨lengthFits, rfl⟩ := readNat_eq_ok lengthRead
    obtain ⟨body, last, octetsRead, returned⟩ := ok_of_bind bodyRead
    obtain ⟨rfl, bodySize⟩ := readOctets_eq_ok_iff.mp octetsRead
    cases decoded : Utf8.decode body with
    | error fault =>
        rw [decoded] at returned
        cases returned
    | ok text =>
        rw [decoded] at returned
        cases returned
        obtain rfl := eq_ofString_of_utf8_decode decoded
        rw [ofString_length] at bodySize
        subst bodySize
        have written := writeText_some_eq_ok_iff.mpr
          ⟨(lt_capacity_two_iff _).mp lengthFits, rfl⟩
        exact ⟨_, by simp, written⟩
  · cases lastRead

end ChannelMux.Encoding
