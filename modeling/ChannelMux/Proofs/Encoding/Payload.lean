import ChannelMux.Proofs.Encoding.Canonical

/-!
Contract: where the payload stands in an encoded message.

Owns the payload of an encoded message, read off its octets by position, and the fact that
whatever is read of a message that was written has its payload, whether or not all of its
headers are read as they were written.
-/

namespace ChannelMux.Encoding

/-- What stands behind so many headers. -/
def behindHeaders : (count : Nat) → Octets → Octets
  | 0, octets => octets
  | count + 1, octets =>
      behindHeaders count (octets.drop (6 + Octets.value ((octets.drop 2).take 4)))

/-- The payload of an encoded message. -/
def payloadIn (octets : Octets) : Octets :=
  let counted := octets.drop (1 + addressesSize (flagsIn octets))
  let measured := behindHeaders (Octets.value (counted.take 2)) (counted.drop 2)
  (measured.drop 4).take (Octets.value (measured.take 4))

theorem behindHeaders_writeHeaders
    {headers : List Header}
    {octets : Octets}
    (written : writeHeaders headers = .ok octets)
    (later : Octets) :
    behindHeaders headers.length (octets ++ later) = later := by
  induction headers generalizing octets with
  | nil =>
      cases written
      rfl
  | cons head tail inductionHypothesis =>
      obtain ⟨front, back, frontWritten, backWritten, rfl⟩ :=
        writeHeaders_cons_eq_ok_iff.mp written
      obtain ⟨body, _, fits, rfl⟩ := writeHeader_eq_ok_iff.mp frontWritten
      have length : Octets.value (Octets.ofNat 4 body.length) = body.length :=
        Octets.value_ofNat 4 _ ((lt_capacity_four_iff _).mpr fits)
      have lengthOctets : ((framed head.id body ++ back ++ later).drop 2).take 4 =
          Octets.ofNat 4 body.length := by
        simp [framed]
      rw [List.length_cons, behindHeaders, lengthOctets, length, List.append_assoc,
        List.drop_left' (length_framed head.id body), inductionHypothesis backWritten]

theorem payloadIn_append
    {flags : UInt8}
    {destination? source? : Option Address}
    {headers : List Header}
    {body payload : Octets}
    (destinationFlagged : destination?.isSome = (flags &&& destinationFlag != 0))
    (sourceFlagged : source?.isSome = (flags &&& sourceFlag != 0))
    (counted : headers.length ≤ maxHeaderCount)
    (written : writeHeaders headers = .ok body)
    (fits : payload.length ≤ maxBodyLength)
    (rest : Octets) :
    payloadIn (flags :: (writeAddress destination? ++
      (writeAddress source? ++ (Octets.ofNat 2 headers.length ++
        (body ++ (Octets.ofNat 4 payload.length ++ payload))))) ++ rest) = payload := by
  have count : Octets.value (Octets.ofNat 2 headers.length) = headers.length :=
    Octets.value_ofNat 2 _ ((lt_capacity_two_iff _).mpr counted)
  have length : Octets.value (Octets.ofNat 4 payload.length) = payload.length :=
    Octets.value_ofNat 4 _ ((lt_capacity_four_iff _).mpr fits)
  have flagged (later : Octets) : flagsIn (flags :: later) = flags := rfl
  unfold payloadIn
  dsimp only
  rw [List.cons_append, List.append_assoc, List.append_assoc, List.append_assoc, flagged,
    drop_addresses destinationFlagged sourceFlagged, List.take_left' (Octets.ofNat_length 2 _),
    List.drop_left' (Octets.ofNat_length 2 _), count, List.append_assoc,
    behindHeaders_writeHeaders written, List.append_assoc,
    List.take_left' (Octets.ofNat_length 4 _), List.drop_left' (Octets.ofNat_length 4 _), length,
    List.take_left]

/-- Whatever is read of a message that was written has its payload. -/
theorem payload_of_copy
    {message copy : Message}
    {octets : Octets}
    (written : writeMessage message = .ok octets)
    (reads : messageOfOctets octets = .ok copy) :
    copy.payload = message.payload := by
  obtain ⟨counted, payloadFits, body, headersWritten, layout⟩ := writeMessage_eq_ok_iff.mp written
  obtain ⟨rest, accepted⟩ := messageOfOctets_eq_ok_iff.mp reads
  obtain ⟨consumed, flags, headers, split, readLayout⟩ := laysOut_of_readMessage accepted
  obtain ⟨readBody, readHeaders, rfl⟩ := readLayout.laidOut
  have ofRead : payloadIn octets = copy.payload := by
    rw [split]
    exact payloadIn_append readLayout.destinationFlagged readLayout.sourceFlagged
      readLayout.headersCounted readHeaders readLayout.payloadFits rest
  have ofWritten : payloadIn octets = message.payload := by
    rw [layout, ← List.append_nil (flagsOf message :: _), ← HeaderSet.length_toList]
    rw [← HeaderSet.length_toList] at counted
    exact payloadIn_append (destinationFlag_flagsOf message) (sourceFlag_flagsOf message) counted
      headersWritten payloadFits []
  exact ofRead.symm.trans ofWritten

end ChannelMux.Encoding
