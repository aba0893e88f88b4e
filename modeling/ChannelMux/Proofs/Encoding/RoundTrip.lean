import ChannelMux.Proofs.Encoding.Layout

/-!
Contract: which messages can be written, and which are read back.

Owns `writeMessage_roundTrip`: a message can be written exactly if its headers can be
counted and every text, body and payload is within its length field; what was written is
read back as the message exactly if the message has no foreign header under the routing
number; and the length in front of a routing header is the number of octets that follow.
-/

namespace ChannelMux.Encoding

/-- A message that can be counted and measured by its length fields. -/
structure Writable (message : Message) : Prop where
  headersCounted : message.headers.size ≤ maxHeaderCount
  headersFit : ∀ header ∈ message.headers.toList, HeaderFits header
  payloadFits : message.payload.length ≤ maxBodyLength

/-- A message without a foreign header where the routing header would stand. -/
def HasNoForeignRouting (message : Message) : Prop :=
  ∀ data, Header.foreign RoutingHeader.id data ∉ message.headers.toList

theorem writeMessage_eq_ok_iff {message : Message} {octets : Octets} :
    writeMessage message = .ok octets ↔
      message.headers.size ≤ maxHeaderCount ∧ message.payload.length ≤ maxBodyLength ∧
        ∃ body, writeHeaders message.headers.toList = .ok body ∧
          octets = flagsOf message :: (writeAddress message.destination? ++
            (writeAddress message.source? ++ (Octets.ofNat 2 message.headers.size ++
              (body ++ (Octets.ofNat 4 message.payload.length ++ message.payload))))) := by
  unfold writeMessage
  split
  · rename_i counted
    simp only [except_bind_eq_ok_iff, writeBodyLength_eq_ok_iff, pure, Except.pure,
      Except.ok.injEq]
    constructor
    · rintro ⟨body, written, _, ⟨payloadFits, rfl⟩, rfl⟩
      exact ⟨counted, payloadFits, body, written, rfl⟩
    · rintro ⟨_, payloadFits, body, written, rfl⟩
      exact ⟨body, written, _, ⟨payloadFits, rfl⟩, rfl⟩
  · rename_i tooMany
    constructor
    · intro written
      cases written
    · rintro ⟨counted, _⟩
      exact absurd counted tooMany

theorem writable_iff_writeMessage (message : Message) :
    (∃ octets, writeMessage message = .ok octets) ↔ Writable message := by
  constructor
  · rintro ⟨octets, written⟩
    obtain ⟨counted, payloadFits, body, headersWritten, _⟩ := writeMessage_eq_ok_iff.mp written
    exact ⟨counted, (headersFit_iff_writeHeaders _).mpr ⟨body, headersWritten⟩, payloadFits⟩
  · rintro ⟨counted, headersFit, payloadFits⟩
    obtain ⟨body, headersWritten⟩ := (headersFit_iff_writeHeaders _).mp headersFit
    exact ⟨_, writeMessage_eq_ok_iff.mpr ⟨counted, payloadFits, body, headersWritten, rfl⟩⟩

theorem hasNoForeignRouting_iff (message : Message) :
    HasNoForeignRouting message ↔ ∀ header ∈ message.headers.toList, Legible header := by
  constructor
  · intro noForeign header member
    cases header with
    | routing routing => trivial
    | foreign number data =>
        rintro rfl
        exact noForeign data member
  · intro legible data member
    exact legible _ member rfl

/-! ### Flags -/

theorem destinationFlag_flagsOf (message : Message) :
    message.destination?.isSome = (flagsOf message &&& destinationFlag != 0) := by
  have table : ∀ destination source : Bool,
      destination = (((if destination then destinationFlag else 0) |||
        (if source then sourceFlag else 0)) &&& destinationFlag != 0) := by decide
  exact table _ _

theorem sourceFlag_flagsOf (message : Message) :
    message.source?.isSome = (flagsOf message &&& sourceFlag != 0) := by
  have table : ∀ destination source : Bool,
      source = (((if destination then destinationFlag else 0) |||
        (if source then sourceFlag else 0)) &&& sourceFlag != 0) := by decide
  exact table _ _

/-- What is written of a message is a layout of it, if its headers can be read. -/
theorem laysOut_of_writeMessage
    {message : Message}
    {octets : Octets}
    (written : writeMessage message = .ok octets)
    (legible : ∀ header ∈ message.headers.toList, Legible header) :
    LaysOut octets (flagsOf message) message.headers.toList message := by
  obtain ⟨counted, payloadFits, body, headersWritten, rfl⟩ := writeMessage_eq_ok_iff.mp written
  exact {
    destinationFlagged := destinationFlag_flagsOf message
    sourceFlagged := sourceFlag_flagsOf message
    headersCounted := by rwa [HeaderSet.length_toList]
    headersLegible := legible
    headersKept := (HeaderSet.ofList_toList _).symm
    payloadFits := payloadFits
    laidOut := ⟨body, headersWritten, by rw [HeaderSet.length_toList]⟩ }

/-! ### Reading back -/

theorem messageOfOctets_eq_ok_iff {octets : Octets} {message : Message} :
    messageOfOctets octets = .ok message ↔ ∃ rest, readMessage octets = .ok (message, rest) := by
  unfold messageOfOctets
  rw [except_bind_eq_ok_iff]
  constructor
  · rintro ⟨⟨found, rest⟩, accepted, returned⟩
    cases returned
    exact ⟨rest, accepted⟩
  · rintro ⟨rest, accepted⟩
    exact ⟨(message, rest), accepted, rfl⟩

/-- A set that was read holds legible headers alone. -/
theorem LaysOut.kept_legible
    {octets : Octets}
    {flags : UInt8}
    {headers : List Header}
    {message : Message}
    (layout : LaysOut octets flags headers message) :
    ∀ header ∈ message.headers.toList, Legible header := by
  intro header member
  rw [layout.headersKept] at member
  exact layout.headersLegible header ((HeaderSet.toList_ofList_subperm headers).subset member)

theorem messageOfOctets_writeMessage_iff
    {message : Message}
    {octets : Octets}
    (written : writeMessage message = .ok octets) :
    messageOfOctets octets = .ok message ↔ HasNoForeignRouting message := by
  rw [hasNoForeignRouting_iff, messageOfOctets_eq_ok_iff]
  constructor
  · rintro ⟨rest, accepted⟩
    obtain ⟨consumed, flags, headers, _, layout⟩ := laysOut_of_readMessage accepted
    exact layout.kept_legible
  · intro legible
    exact ⟨[], (laysOut_of_writeMessage written legible).consumes.reads_whole⟩

/-- A letter to one address, with a routing header and a foreign one. -/
def letter : Message where
  destination? := some (.filled 7)
  payload := [104, 105]
  headers := .ofList [.routing (.between "g1" "m1"), .foreign 12 [1, 2, 3]]

/-- The octets of the letter. -/
def letterOctets : Octets :=
  1 :: List.replicate 16 7 ++ [0, 2, 0, 12, 0, 0, 0, 3, 1, 2, 3, 0, 57, 0, 0, 0, 10,
    1, 0, 2, 103, 49, 1, 0, 2, 109, 49, 0, 0, 0, 2, 104, 105]

theorem letter_hasNoForeignRouting : HasNoForeignRouting letter := by
  intro data
  rw [show letter.headers.toList =
    [.foreign 12 [1, 2, 3], .routing (.between "g1" "m1")] by decide]
  simp [RoutingHeader.id]

/-- A letter whose foreign header stands where the routing header would. -/
def forgedLetter : Message where
  headers := .ofList [.foreign RoutingHeader.id [1, 2, 3]]

/-- A message is written exactly if it fits its length fields. It is then read back exactly
if no foreign header takes the place of the routing header. The length in front of a routing
header, which is computed apart from what is written, is exact. -/
theorem writeMessage_roundTrip (message : Message) :
    ((∃ octets, writeMessage message = .ok octets) ↔ Writable message) ∧
      (∀ octets, writeMessage message = .ok octets →
        (messageOfOctets octets = .ok message ↔ HasNoForeignRouting message)) ∧
      (∀ routing octets, writeHeader (.routing routing) = .ok octets →
        ∃ body, writeRouting routing = .ok body ∧ body.length = routingSize routing ∧
          octets = Octets.ofNat 2 RoutingHeader.id.toNat ++
            Octets.ofNat 4 (routingSize routing) ++ body) := by
  refine ⟨writable_iff_writeMessage message, ?_, ?_⟩
  · intro octets written
    exact messageOfOctets_writeMessage_iff written
  · intro routing octets written
    obtain ⟨body, bodyWritten, _, framing⟩ := writeHeader_eq_ok_iff.mp written
    have size := length_of_writeRouting bodyWritten
    exact ⟨body, bodyWritten, size, by rw [framing, framed, size]; rfl⟩

/-- A message with a destination, a routing header and a foreign header is read back; one
whose foreign header takes the place of the routing header is written all the same, but not
read back. -/
theorem writeMessage_roundTrip_examples :
    (∃ octets, writeMessage letter = .ok octets ∧ messageOfOctets octets = .ok letter) ∧
      ∃ octets, writeMessage forgedLetter = .ok octets ∧
        messageOfOctets octets ≠ .ok forgedLetter := by
  have forgedHeaders : forgedLetter.headers.toList =
      [.foreign RoutingHeader.id [1, 2, 3]] := by decide
  have forgedForeign : ¬ HasNoForeignRouting forgedLetter := by
    intro noForeign
    refine noForeign [1, 2, 3] ?_
    rw [forgedHeaders]
    exact List.mem_singleton.mpr rfl
  obtain ⟨_, forgedRead, _⟩ := writeMessage_roundTrip forgedLetter
  obtain ⟨_, letterRead, _⟩ := writeMessage_roundTrip letter
  refine ⟨⟨letterOctets, by rfl, (letterRead letterOctets (by rfl)).mpr
    letter_hasNoForeignRouting⟩, ?_⟩
  refine ⟨[0, 0, 1, 0, 57, 0, 0, 0, 3, 1, 2, 3, 0, 0, 0, 0], by rfl, fun readBack => ?_⟩
  exact forgedForeign ((forgedRead _ (by rfl)).mp readBack)

end ChannelMux.Encoding
