import ChannelMux.Proofs.Encoding.Header
import ChannelMux.Proofs.HeaderSet

/-!
Contract: how octets lay out a message.

Owns the layout of a message: octets, the flags and the headers that stand in them as they
come, and the message that they give. Every layout is consumed whole by the reader, and
the reader accepts nothing else; the message as it is written is one of its layouts, the
one whose flags and headers are canonical.

Does not own which layouts are canonical: that is said in terms of the octets alone.
-/

namespace ChannelMux.Encoding

/-! ### Addresses -/

theorem readAddress_consumes (address? : Option Address) :
    Consumes (readAddress address?.isSome) (writeAddress address?) address? := by
  cases address? with
  | none => exact Consumes.pure none
  | some address =>
      have consumes := (readOctets_consumes .address address.size).bind_pure Address.ofOctets?
      rwa [show Address.ofOctets? address.octets = some address from dif_pos address.size]
        at consumes

theorem readAddress_eq_ok
    {announced : Bool}
    {octets rest : Octets}
    {address? : Option Address}
    (accepted : readAddress announced octets = .ok (address?, rest)) :
    address?.isSome = announced ∧ octets = writeAddress address? ++ rest := by
  cases announced with
  | false =>
      cases accepted
      exact ⟨rfl, rfl⟩
  | true =>
      obtain ⟨taken, middle, firstAccepted, returned⟩ := ok_of_bind accepted
      obtain ⟨rfl, size⟩ := readOctets_eq_ok_iff.mp firstAccepted
      rw [pure_apply, Address.ofOctets?, dif_pos size] at returned
      cases returned
      exact ⟨rfl, rfl⟩

/-! ### Layouts -/

/-- Octets lay out a message, with these flags, and these headers in this order. -/
structure LaysOut (octets : Octets) (flags : UInt8) (headers : List Header)
    (message : Message) : Prop where
  destinationFlagged : message.destination?.isSome = (flags &&& destinationFlag != 0)
  sourceFlagged : message.source?.isSome = (flags &&& sourceFlag != 0)
  headersCounted : headers.length ≤ maxHeaderCount
  headersLegible : ∀ header ∈ headers, Legible header
  headersKept : message.headers = HeaderSet.ofList headers
  payloadFits : message.payload.length ≤ maxBodyLength
  laidOut :
    ∃ body, writeHeaders headers = .ok body ∧
      octets = flags :: (writeAddress message.destination? ++
        (writeAddress message.source? ++ (Octets.ofNat 2 headers.length ++
          (body ++ (Octets.ofNat 4 message.payload.length ++ message.payload)))))

/-- A layout is read as its message, whatever follows it, and a cut in it is found. -/
theorem LaysOut.consumes
    {octets : Octets}
    {flags : UInt8}
    {headers : List Header}
    {message : Message}
    (layout : LaysOut octets flags headers message) :
    Consumes readMessage octets message := by
  obtain ⟨body, written, rfl⟩ := layout.laidOut
  have count : headers.length < Octets.capacity 2 :=
    (lt_capacity_two_iff _).mpr layout.headersCounted
  have length : message.payload.length < Octets.capacity 4 :=
    (lt_capacity_four_iff _).mpr layout.payloadFits
  rw [← List.singleton_append]
  apply Consumes.bind (readOctets_consumes .flags (rfl : [flags].length = 1))
  dsimp only [List.headD_cons]
  rw [← layout.destinationFlagged, ← layout.sourceFlagged]
  apply Consumes.bind (readAddress_consumes message.destination?)
  apply Consumes.bind (readAddress_consumes message.source?)
  apply Consumes.bind (readNat_consumes .headerCount count)
  apply Consumes.bind (readHeaders_consumes written layout.headersLegible .empty)
  apply Consumes.bind (readNat_consumes .payloadLength length)
  have last := (readOctets_consumes .payload (rfl : message.payload.length = _)).bind_pure
    (fun payload => Message.mk message.destination? message.source? payload
      (headers.foldl HeaderSet.put .empty))
  rwa [show headers.foldl HeaderSet.put .empty = message.headers from layout.headersKept.symm]
    at last ⊢

/-- What is read as a message is laid out in front of what is left. -/
theorem laysOut_of_readMessage
    {octets rest : Octets}
    {message : Message}
    (accepted : readMessage octets = .ok (message, rest)) :
    ∃ consumed flags headers,
      octets = consumed ++ rest ∧ LaysOut consumed flags headers message := by
  obtain ⟨first, afterFlags, flagsRead, destinationAccepted⟩ := ok_of_bind accepted
  obtain ⟨rfl, flagsSize⟩ := readOctets_eq_ok_iff.mp flagsRead
  obtain ⟨flags, rfl⟩ := List.length_eq_one_iff.mp flagsSize
  obtain ⟨destination?, _, destinationRead, sourceAccepted⟩ := ok_of_bind destinationAccepted
  obtain ⟨destinationFlagged, rfl⟩ := readAddress_eq_ok destinationRead
  obtain ⟨source?, _, sourceRead, countAccepted⟩ := ok_of_bind sourceAccepted
  obtain ⟨sourceFlagged, rfl⟩ := readAddress_eq_ok sourceRead
  obtain ⟨count, _, countRead, headersAccepted⟩ := ok_of_bind countAccepted
  obtain ⟨countFits, rfl⟩ := readNat_eq_ok countRead
  obtain ⟨headers, _, headersRead, lengthAccepted⟩ := ok_of_bind headersAccepted
  obtain ⟨listed, body, rfl, legible, kept, rfl, written⟩ :=
    writeHeaders_of_readHeaders headersRead
  obtain ⟨length, _, lengthRead, payloadAccepted⟩ := ok_of_bind lengthAccepted
  obtain ⟨lengthFits, rfl⟩ := readNat_eq_ok lengthRead
  obtain ⟨payload, _, payloadRead, returned⟩ := ok_of_bind payloadAccepted
  obtain ⟨rfl, rfl⟩ := readOctets_eq_ok_iff.mp payloadRead
  cases returned
  refine ⟨flags :: (writeAddress destination? ++ (writeAddress source? ++
    (Octets.ofNat 2 listed.length ++ (body ++
      (Octets.ofNat 4 payload.length ++ payload))))), flags, listed, by simp, ?_⟩
  exact {
    destinationFlagged := destinationFlagged
    sourceFlagged := sourceFlagged
    headersCounted := (lt_capacity_two_iff _).mp countFits
    headersLegible := legible
    headersKept := kept
    payloadFits := (lt_capacity_four_iff _).mp lengthFits
    laidOut := ⟨body, written, rfl⟩ }

theorem readMessage_delimited : Delimited readMessage := by
  intro octets rest message accepted
  obtain ⟨consumed, flags, headers, split, layout⟩ := laysOut_of_readMessage accepted
  exact ⟨consumed, split, layout.consumes⟩

end ChannelMux.Encoding
