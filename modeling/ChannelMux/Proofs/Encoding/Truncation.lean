import ChannelMux.Proofs.Encoding.RoundTrip

/-!
Contract: where an encoded message ends.

Owns `readMessage_selfDelimiting`: the octets that are read as a message decide where it
ends and what it is, whatever follows them, and no proper beginning of them is read as
anything or refused for anything but being cut short. So it is with every proper beginning
of what is written.

The octets may be cut in the flags, in an address, in the count, in a header or its body, or
in the payload. None of these cases is looked at here: that a cut is found is part of what
it means to consume octets, and is kept by every step of a reading.
-/

namespace ChannelMux.Encoding

theorem messageOfOctets_of_error
    {octets : Octets}
    {error : Error}
    (refused : readMessage octets = .error error) :
    messageOfOctets octets = .error error := by
  unfold messageOfOctets
  rw [show readMessage.run octets = .error error from refused]
  rfl

/-- What a message was read from: octets that it consumes, with the rest behind them. -/
theorem messageOfOctets_consumes
    {octets : Octets}
    {message : Message}
    (decoded : messageOfOctets octets = .ok message) :
    ∃ consumed rest,
      octets = consumed ++ rest ∧ readMessage.run octets = .ok (message, rest) ∧
        Consumes readMessage consumed message := by
  obtain ⟨rest, accepted⟩ := messageOfOctets_eq_ok_iff.mp decoded
  obtain ⟨consumed, split, consumes⟩ := readMessage_delimited octets rest message accepted
  exact ⟨consumed, rest, split, accepted, consumes⟩

theorem Consumes.cut_truncated
    {consumed : Octets}
    {message : Message}
    (consumes : Consumes readMessage consumed message)
    {count : Nat}
    (short : count < consumed.length) :
    ∃ part needed available,
      messageOfOctets (consumed.take count) = .error (.truncated part needed available) := by
  obtain ⟨part, needed, available, refused⟩ := consumes.detectsCut count short
  exact ⟨part, needed, available, messageOfOctets_of_error refused⟩

/-- The octets that a message is read from decide it alone, every cut in them is reported as
a cut, and a written message is read from all of its octets. -/
theorem readMessage_selfDelimiting :
    (∀ octets message, messageOfOctets octets = .ok message →
      ∃ size rest,
        readMessage.run octets = .ok (message, rest) ∧ octets.length = size + rest.length ∧
          (∀ other : Octets, other.take size = octets.take size →
            messageOfOctets other = .ok message) ∧
          ∀ count < size, ∃ part needed available,
            messageOfOctets (octets.take count) =
              .error (.truncated part needed available)) ∧
      ∀ message octets, writeMessage message = .ok octets → HasNoForeignRouting message →
        readMessage.run octets = .ok (message, []) ∧
          ∀ count < octets.length, ∃ part needed available,
            messageOfOctets (octets.take count) =
              .error (.truncated part needed available) := by
  constructor
  · intro octets message decoded
    obtain ⟨consumed, rest, rfl, accepted, consumes⟩ := messageOfOctets_consumes decoded
    refine ⟨consumed.length, rest, accepted, List.length_append, ?_, ?_⟩
    · intro other same
      rw [List.take_left] at same
      have split := List.take_append_drop consumed.length other
      rw [same] at split
      have reads := consumes.reads (other.drop consumed.length)
      rw [split] at reads
      exact messageOfOctets_eq_ok_iff.mpr ⟨_, reads⟩
    · intro count short
      rw [List.take_append_of_le_length (Nat.le_of_lt short)]
      exact consumes.cut_truncated short
  · intro message octets written noForeign
    have legible := (hasNoForeignRouting_iff message).mp noForeign
    have consumes := (laysOut_of_writeMessage written legible).consumes
    exact ⟨consumes.reads_whole, fun count short => consumes.cut_truncated short⟩

/-- The octets of the letter are read whole, also with more behind them, and are cut short
in the middle of the member that its routing header names. -/
theorem readMessage_selfDelimiting_letter :
    readMessage.run letterOctets = .ok (letter, []) ∧
      messageOfOctets (letterOctets ++ [255]) = .ok letter ∧
        ∃ part needed available,
          messageOfOctets (letterOctets.take 43) = .error (.truncated part needed available) := by
  obtain ⟨reading, writing⟩ := readMessage_selfDelimiting
  obtain ⟨whole, cuts⟩ := writing letter letterOctets (by rfl) letter_hasNoForeignRouting
  obtain ⟨size, rest, accepted, sizes, extends_, _⟩ :=
    reading letterOctets letter (messageOfOctets_eq_ok_iff.mpr ⟨[], whole⟩)
  have nothingLeft : rest = [] := by
    rw [whole] at accepted
    cases accepted
    rfl
  subst nothingLeft
  refine ⟨whole, extends_ _ ?_, cuts 43 (by decide)⟩
  rw [show size = letterOctets.length from sizes.symm, List.take_left, List.take_length]

end ChannelMux.Encoding
