import ChannelMux.Text.Hex

/-!
Contract: hexadecimal text, read exactly.

Owns `Hex.decode_eq_ok_iff`: a text is read as octets exactly if, with its letters made small,
it is what is written of them. It is proved in two steps. Digits, given as octets, are read in
pairs; and a text of which every octet, or every character, stands for a digit has one octet
for each of its characters.

Does not own the causes for which a text is refused, nor white space around it.
-/

namespace ChannelMux.Hex

/-! ### Digits -/

/-- The character that an octet of ASCII text is. -/
def character (octet : UInt8) : Char := Char.ofNat octet.toNat

@[simp] theorem toNat_character (octet : UInt8) : (character octet).toNat = octet.toNat := by
  have table : ∀ octet : Fin 256,
      (character (UInt8.ofFin octet)).toNat = (UInt8.ofFin octet).toNat := by decide +kernel
  exact table octet.toFin

theorem digitValue?_eq_some_iff {octet : UInt8} {value : Nat} (small : value < 16) :
    digitValue? octet = some value ↔ (character octet).toLower = digit value := by
  have table : ∀ (octet : Fin 256) (value : Fin 16),
      digitValue? (UInt8.ofFin octet) = some value.val ↔
        (character (UInt8.ofFin octet)).toLower = digit value.val := by decide +kernel
  exact table octet.toFin ⟨value, small⟩

theorem digitValue?_lt
    {octet : UInt8}
    {value : Nat}
    (found : digitValue? octet = some value) :
    value < 16 := by
  have table : ∀ octet : Fin 256, ∀ value ∈ digitValue? (UInt8.ofFin octet), value < 16 := by
    decide +kernel
  exact table octet.toFin value found

theorem digit_injective
    {left right : Nat}
    (leftSmall : left < 16)
    (rightSmall : right < 16)
    (same : digit left = digit right) :
    left = right := by
  have table : ∀ left right : Fin 16,
      digit left.val = digit right.val → left.val = right.val := by decide
  exact table ⟨left, leftSmall⟩ ⟨right, rightSmall⟩ same

/-- A digit is a letter or a figure of ASCII, and it is no white space. -/
theorem digit_range {value : Nat} (small : value < 16) :
    (48 ≤ (digit value).toNat ∧ (digit value).toNat ≤ 57) ∨
      (97 ≤ (digit value).toNat ∧ (digit value).toNat ≤ 102) := by
  have table : ∀ value : Fin 16,
      (48 ≤ (digit value.val).toNat ∧ (digit value.val).toNat ≤ 57) ∨
        (97 ≤ (digit value.val).toNat ∧ (digit value.val).toNat ≤ 102) := by decide
  exact table ⟨value, small⟩

theorem mem_digits {octets : Octets} {letter : Char} (member : letter ∈ octets.flatMap digits) :
    ∃ value < 16, letter = digit value := by
  obtain ⟨octet, _, inPair⟩ := List.mem_flatMap.mp member
  have bound := octet.toNat_lt
  simp only [digits, List.mem_cons, List.not_mem_nil, or_false] at inPair
  rcases inPair with rfl | rfl
  · exact ⟨octet.toNat / 16, by omega, rfl⟩
  · exact ⟨octet.toNat % 16, by omega, rfl⟩

/-- Two digits an octet. -/
theorem length_flatMap_digits (octets : Octets) :
    (octets.flatMap digits).length = 2 * octets.length := by
  induction octets with
  | nil => rfl
  | cons octet tail inductionHypothesis =>
      rw [List.flatMap_cons, List.length_append, inductionHypothesis, List.length_cons]
      simp only [digits, List.length_cons, List.length_nil]
      omega

/-- The two digits of an octet are its own alone. -/
theorem digits_eq_iff
    {octet : UInt8}
    {high low : Nat}
    (highSmall : high < 16)
    (lowSmall : low < 16) :
    digits octet = [digit high, digit low] ↔ octet = UInt8.ofNat (high * 16 + low) := by
  have bound := octet.toNat_lt
  constructor
  · intro same
    obtain ⟨highSame, rest⟩ := List.cons.inj same
    have quotient := digit_injective (by omega) highSmall highSame
    have remainder := digit_injective (by omega) lowSmall (List.cons.inj rest).1
    rw [show high * 16 + low = octet.toNat by omega, UInt8.ofNat_toNat]
  · rintro rfl
    have fits : (UInt8.ofNat (high * 16 + low)).toNat = high * 16 + low := by
      rw [UInt8.toNat_ofNat', Nat.mod_eq_of_lt (by omega)]
    rw [digits, fits, show (high * 16 + low) / 16 = high by omega,
      show (high * 16 + low) % 16 = low by omega]

/-! ### Pairs of digits -/

/-- The digits of octets, given as octets of ASCII text: in either case. -/
def Digits (code octets : Octets) : Prop :=
  code.map (fun octet => (character octet).toLower) = octets.flatMap digits

theorem Digits.length {code octets : Octets} (spelt : Digits code octets) :
    code.length = 2 * octets.length := by
  rw [← length_flatMap_digits, ← spelt, List.length_map]

theorem digits_cons_cons_iff {high low : UInt8} {code octets : Octets} :
    Digits (high :: low :: code) octets ↔
      ∃ highValue lowValue tail,
        digitValue? high = some highValue ∧ digitValue? low = some lowValue ∧
          octets = UInt8.ofNat (highValue * 16 + lowValue) :: tail ∧ Digits code tail := by
  constructor
  · intro spelt
    cases octets with
    | nil => cases spelt
    | cons octet tail =>
        have bound := octet.toNat_lt
        have highSmall : octet.toNat / 16 < 16 := by omega
        have lowSmall : octet.toNat % 16 < 16 := by omega
        obtain ⟨highSame, rest⟩ := List.cons.inj spelt
        obtain ⟨lowSame, tailSpelt⟩ := List.cons.inj rest
        refine ⟨_, _, tail, (digitValue?_eq_some_iff highSmall).mpr highSame,
          (digitValue?_eq_some_iff lowSmall).mpr lowSame, ?_, tailSpelt⟩
        exact congrArg (· :: tail) ((digits_eq_iff highSmall lowSmall).mp rfl)
  · rintro ⟨highValue, lowValue, tail, highRead, lowRead, rfl, spelt⟩
    have highSmall := digitValue?_lt highRead
    have lowSmall := digitValue?_lt lowRead
    rw [Digits, List.map_cons, List.map_cons, List.flatMap_cons,
      (digits_eq_iff highSmall lowSmall).mpr rfl, (digitValue?_eq_some_iff highSmall).mp highRead,
      (digitValue?_eq_some_iff lowSmall).mp lowRead, show code.map _ = _ from spelt]
    rfl

/-- Behind octets that were read before, pairs of digits are read as what they spell. -/
theorem decodeFrom_eq_ok_iff {index : Nat} {read code octets : Octets} :
    decodeFrom index read code = .ok octets ↔
      ∃ tail, octets = read.reverse ++ tail ∧ Digits code tail := by
  fun_induction decodeFrom index read code with
  | case1 index read =>
      constructor
      · intro same
        cases same
        exact ⟨[], (List.append_nil _).symm, rfl⟩
      · rintro ⟨tail, rfl, spelt⟩
        have empty : tail = [] := List.length_eq_zero_iff.mp (by
          have sizes := spelt.length
          simp only [List.length_nil] at sizes
          omega)
        rw [empty, List.append_nil]
  | case2 index read octet =>
      constructor
      · intro refused
        cases refused
      · rintro ⟨tail, rfl, spelt⟩
        have sizes := spelt.length
        simp only [List.length_cons, List.length_nil] at sizes
        omega
  | case3 index read high low rest noHigh =>
      constructor
      · intro refused
        cases refused
      · rintro ⟨tail, rfl, spelt⟩
        obtain ⟨_, _, _, highRead, _⟩ := digits_cons_cons_iff.mp spelt
        rw [noHigh] at highRead
        cases highRead
  | case4 index read high low rest highValue highRead noLow =>
      constructor
      · intro refused
        cases refused
      · rintro ⟨tail, rfl, spelt⟩
        obtain ⟨_, _, _, _, lowRead, _⟩ := digits_cons_cons_iff.mp spelt
        rw [noLow] at lowRead
        cases lowRead
  | case5 index read high low rest highValue highRead lowValue lowRead inductionHypothesis =>
      rw [inductionHypothesis]
      constructor
      · rintro ⟨tail, rfl, spelt⟩
        refine ⟨UInt8.ofNat (highValue * 16 + lowValue) :: tail, by simp, ?_⟩
        exact digits_cons_cons_iff.mpr ⟨_, _, tail, highRead, lowRead, rfl, spelt⟩
      · rintro ⟨_, rfl, spelt⟩
        obtain ⟨_, _, tail, highAgain, lowAgain, rfl, tailSpelt⟩ :=
          digits_cons_cons_iff.mp spelt
        rw [highRead] at highAgain
        rw [lowRead] at lowAgain
        cases highAgain
        cases lowAgain
        exact ⟨tail, by simp, tailSpelt⟩

theorem decode_eq_ok_iff_digits {text : String} {octets : Octets} :
    decode text = .ok octets ↔ Digits (Octets.ofString text) octets := by
  unfold decode
  dsimp only
  split
  · rename_i odd
    constructor
    · intro refused
      cases refused
    · intro spelt
      have sizes := spelt.length
      omega
  · rw [decodeFrom_eq_ok_iff]
    simp

/-! ### Texts of digits -/

theorem ofString_eq (text : String) :
    Octets.ofString text = text.toList.flatMap String.utf8EncodeChar := by
  rw [← String.ofList_toList (s := text), Octets.ofString, String.toByteArray_ofList,
    List.utf8Encode, String.toList_ofList]
  simp

theorem mem_ofString {text : String} {octet : UInt8} :
    octet ∈ Octets.ofString text ↔
      ∃ letter ∈ text.toList, octet ∈ String.utf8EncodeChar letter := by
  rw [ofString_eq, List.mem_flatMap]

/-- A character with an octet below 128 alone is that octet. -/
theorem utf8EncodeChar_of_ascii
    {letter : Char}
    (ascii : letter.toNat < 128) :
    String.utf8EncodeChar letter = [UInt8.ofNat letter.toNat] ∧
      character (UInt8.ofNat letter.toNat) = letter := by
  constructor
  · exact if_pos (Nat.le_of_lt_succ ascii)
  · have number : (UInt8.ofNat letter.toNat).toNat = letter.toNat := by
      rw [UInt8.toNat_ofNat', Nat.mod_eq_of_lt (by omega)]
    rw [character, number, Char.ofNat_toNat]

/-- The last octet of every other character is at least 128. -/
theorem ascii_of_utf8EncodeChar
    {letter : Char}
    (low : ∀ octet ∈ String.utf8EncodeChar letter, octet.toNat < 128) :
    letter.toNat < 128 := by
  by_cases ascii : letter.val.toNat ≤ 127
  · exact Nat.lt_succ_of_le ascii
  · have last : UInt8.ofNat (letter.val.toNat % 64 + 128) ∈ String.utf8EncodeChar letter := by
      unfold String.utf8EncodeChar
      dsimp only
      split
      · contradiction
      · split
        · simp
        · split
          · simp
          · simp
    have high := low _ last
    rw [UInt8.toNat_ofNat', Nat.mod_eq_of_lt (by omega)] at high
    omega

/-- A text of ASCII has one octet for each of its characters. -/
theorem map_character_ofString
    {text : String}
    (ascii : ∀ letter ∈ text.toList, letter.toNat < 128) :
    (Octets.ofString text).map character = text.toList := by
  rw [ofString_eq]
  generalize text.toList = letters at ascii ⊢
  induction letters with
  | nil => rfl
  | cons letter tail inductionHypothesis =>
      obtain ⟨first, others⟩ := List.forall_mem_cons.mp ascii
      obtain ⟨single, same⟩ := utf8EncodeChar_of_ascii first
      rw [List.flatMap_cons, single, List.map_append, inductionHypothesis others, List.map_cons,
        same]
      rfl

/-- What becomes a digit when it is made small is the digit, or it was a capital. -/
theorem range_of_toLower
    {letter : Char}
    {octets : Octets}
    (member : letter.toLower ∈ octets.flatMap digits) :
    (48 ≤ letter.toNat ∧ letter.toNat ≤ 57) ∨ (65 ≤ letter.toNat ∧ letter.toNat ≤ 90) ∨
      (97 ≤ letter.toNat ∧ letter.toNat ≤ 102) := by
  obtain ⟨value, small, same⟩ := mem_digits member
  unfold Char.toLower at same
  split at same
  · rename_i capital
    exact .inr (.inl ⟨UInt32.le_iff_toNat_le.mp capital.1, UInt32.le_iff_toNat_le.mp capital.2⟩)
  · have range := digit_range small
    rw [← same] at range
    omega

theorem toLower_eq_encode_iff {text : String} {octets : Octets} :
    text.toLower = encode octets ↔ text.toList.map Char.toLower = octets.flatMap digits := by
  rw [encode, ← String.toList_inj, String.toList_ofList]
  change (text.map Char.toLower).toList = _ ↔ _
  rw [String.toList_map]

/-- A text is read as octets exactly if its small form is what is written of them. -/
theorem decode_eq_ok_iff {text : String} {octets : Octets} :
    decode text = .ok octets ↔ text.toLower = encode octets := by
  -- Either side says of every character that it stands in ASCII.
  have spelt : (∀ letter ∈ text.toList, letter.toNat < 128) →
      (Digits (Octets.ofString text) octets ↔
        text.toList.map Char.toLower = octets.flatMap digits) := by
    intro ascii
    rw [← map_character_ofString ascii, List.map_map]
    rfl
  rw [decode_eq_ok_iff_digits, toLower_eq_encode_iff]
  constructor
  · intro code
    refine (spelt ?_).mp code
    intro letter member
    apply ascii_of_utf8EncodeChar
    intro octet inLetter
    rw [← toNat_character octet]
    have inDigits : (character octet).toLower ∈ octets.flatMap digits := by
      rw [← show List.map _ _ = octets.flatMap digits from code]
      exact List.mem_map.mpr ⟨octet, mem_ofString.mpr ⟨letter, member, inLetter⟩, rfl⟩
    have range := range_of_toLower inDigits
    omega
  · intro lowered
    refine (spelt ?_).mpr lowered
    intro letter member
    have inDigits : letter.toLower ∈ octets.flatMap digits := by
      rw [← lowered]
      exact List.mem_map_of_mem member
    have range := range_of_toLower inDigits
    omega

theorem length_of_toLower
    {text : String}
    {octets : Octets}
    (spelt : text.toLower = encode octets) :
    text.toList.length = 2 * octets.length := by
  rw [← length_flatMap_digits, ← toLower_eq_encode_iff.mp spelt, List.length_map]

end ChannelMux.Hex
