import Mathlib.Algebra.GroupWithZero.Nat
import ChannelMux.Encoding.Message
import ChannelMux.Proofs.Encoding.Field

/-!
Contract: routing headers and headers, written and read.

Owns when a header can be written and in how many octets, that the reader consumes exactly
what was written, and that whatever the reader accepts is what would have been written; and
the same for headers one behind the other.

A foreign header under the routing number can be written, but is never read.
-/

namespace ChannelMux.Encoding

/-- A writing in two steps that succeeds has succeeded in both. -/
theorem except_bind_eq_ok_iff
    {α β : Type}
    {first : Except Error α}
    {next : α → Except Error β}
    {value : β} :
    (first >>= next) = .ok value ↔
      ∃ between, first = .ok between ∧ next between = .ok value := by
  cases first with
  | error error => simp [bind, Except.bind]
  | ok between => simp [bind, Except.bind]

/-! ### Routing headers -/

theorem writeRouting_eq_ok_iff {header : RoutingHeader} {octets : Octets} :
    writeRouting header = .ok octets ↔
      ∃ group member,
        writeText header.group? = .ok group ∧ writeText header.member? = .ok member ∧
          octets = group ++ member := by
  unfold writeRouting
  simp only [except_bind_eq_ok_iff, pure, Except.pure, Except.ok.injEq]
  constructor
  · rintro ⟨group, groupWritten, member, memberWritten, rfl⟩
    exact ⟨group, member, groupWritten, memberWritten, rfl⟩
  · rintro ⟨group, member, groupWritten, memberWritten, rfl⟩
    exact ⟨group, groupWritten, member, memberWritten, rfl⟩

/-- A written routing header has as many octets as its size says. -/
theorem length_of_writeRouting
    {header : RoutingHeader}
    {octets : Octets}
    (written : writeRouting header = .ok octets) :
    octets.length = routingSize header := by
  obtain ⟨group, member, groupWritten, memberWritten, rfl⟩ := writeRouting_eq_ok_iff.mp written
  rw [List.length_append, length_of_writeText groupWritten, length_of_writeText memberWritten,
    routingSize]

theorem readRouting_consumes
    {header : RoutingHeader}
    {octets : Octets}
    (written : writeRouting header = .ok octets) :
    Consumes readRouting octets header := by
  obtain ⟨group, member, groupWritten, memberWritten, rfl⟩ := writeRouting_eq_ok_iff.mp written
  apply Consumes.bind (readText_consumes groupWritten)
  exact (readText_consumes memberWritten).bind_pure
    (RoutingHeader.mk header.group?)

theorem writeRouting_of_readRouting
    {octets rest : Octets}
    {header : RoutingHeader}
    (accepted : readRouting octets = .ok (header, rest)) :
    ∃ consumed, octets = consumed ++ rest ∧ writeRouting header = .ok consumed := by
  obtain ⟨group?, middle, groupRead, memberAccepted⟩ := ok_of_bind accepted
  obtain ⟨member?, last, memberRead, returned⟩ := ok_of_bind memberAccepted
  cases returned
  obtain ⟨group, rfl, groupWritten⟩ := writeText_of_readText groupRead
  obtain ⟨member, rfl, memberWritten⟩ := writeText_of_readText memberRead
  refine ⟨group ++ member, (List.append_assoc _ _ _).symm, ?_⟩
  exact writeRouting_eq_ok_iff.mpr ⟨group, member, groupWritten, memberWritten, rfl⟩

/-- Octets that hold one routing header and nothing else are just what is written of it. -/
theorem routingOfOctets_eq_ok_iff {octets : Octets} {header : RoutingHeader} :
    routingOfOctets octets = .ok header ↔ writeRouting header = .ok octets := by
  unfold routingOfOctets
  rw [except_bind_eq_ok_iff]
  constructor
  · rintro ⟨⟨found, rest⟩, accepted, returned⟩
    obtain ⟨consumed, rfl, written⟩ := writeRouting_of_readRouting accepted
    cases rest with
    | nil =>
        cases returned
        rwa [List.append_nil]
    | cons head tail => cases returned
  · intro written
    exact ⟨(header, []), (readRouting_consumes written).reads_whole, rfl⟩

/-! ### Headers -/

/-- A header that can be read: a foreign one only if it is not under the routing number. -/
def Legible : Header → Prop
  | .routing _ => True
  | .foreign number _ => number ≠ RoutingHeader.id

/-- A header whose lengths its length fields can describe. -/
def HeaderFits : Header → Prop
  | .routing header => TextFits header.group? ∧ TextFits header.member?
  | .foreign _ data => data.length ≤ maxBodyLength

/-- In how many octets a header is written. -/
def headerSize : Header → Nat
  | .routing header => 6 + routingSize header
  | .foreign _ data => 6 + data.length

/-- The body of a header. -/
def writeBody : Header → Except Error Octets
  | .routing header => writeRouting header
  | .foreign _ data => .ok data

/-- A body with its number and its length in front. -/
def framed (number : UInt16) (body : Octets) : Octets :=
  Octets.ofNat 2 number.toNat ++ Octets.ofNat 4 body.length ++ body

theorem length_framed (number : UInt16) (body : Octets) :
    (framed number body).length = 6 + body.length := by
  simp only [framed, List.length_append, Octets.ofNat_length]

theorem textFits_of_written
    {text? : Option String}
    {octets : Octets}
    (written : writeText text? = .ok octets) :
    TextFits text? :=
  (textFits_iff_writeText text?).mpr ⟨octets, written⟩

/-- The texts of a routing header are short enough for every length field around them. -/
theorem routingSize_le
    {header : RoutingHeader}
    (groupFits : TextFits header.group?)
    (memberFits : TextFits header.member?) :
    routingSize header ≤ maxBodyLength := by
  have bound : ∀ text?, TextFits text? → textSize text? ≤ 3 + maxTextLength := by
    intro text? fits
    cases text? with
    | none =>
        simp only [textSize]
        omega
    | some text =>
        have short := fits text rfl
        simp only [textSize]
        omega
  have group := bound _ groupFits
  have member := bound _ memberFits
  simp only [routingSize, maxTextLength, maxBodyLength] at *
  omega

/-- A header is its body behind its number and the exact length of the body. -/
theorem writeHeader_eq_ok_iff {header : Header} {octets : Octets} :
    writeHeader header = .ok octets ↔
      ∃ body, writeBody header = .ok body ∧ body.length ≤ maxBodyLength ∧
        octets = framed header.id body := by
  unfold writeHeader
  cases header with
  | routing header =>
      simp only [except_bind_eq_ok_iff, writeBodyLength_eq_ok_iff, pure, Except.pure,
        Except.ok.injEq, writeBody, framed]
      constructor
      · rintro ⟨_, ⟨fits, rfl⟩, body, written, rfl⟩
        rw [← length_of_writeRouting written] at fits ⊢
        exact ⟨body, written, fits, rfl⟩
      · rintro ⟨body, written, fits, rfl⟩
        rw [length_of_writeRouting written] at fits ⊢
        exact ⟨_, ⟨fits, rfl⟩, body, written, rfl⟩
  | foreign number data =>
      simp only [except_bind_eq_ok_iff, writeBodyLength_eq_ok_iff, pure, Except.pure,
        Except.ok.injEq, writeBody, framed]
      constructor
      · rintro ⟨_, ⟨fits, rfl⟩, rfl⟩
        exact ⟨data, rfl, fits, rfl⟩
      · rintro ⟨_, rfl, fits, rfl⟩
        exact ⟨_, ⟨fits, rfl⟩, rfl⟩

theorem headerFits_iff_writeHeader (header : Header) :
    HeaderFits header ↔ ∃ octets, writeHeader header = .ok octets := by
  simp only [writeHeader_eq_ok_iff]
  cases header with
  | routing header =>
      constructor
      · rintro ⟨groupFits, memberFits⟩
        obtain ⟨group, groupWritten⟩ := (textFits_iff_writeText _).mp groupFits
        obtain ⟨member, memberWritten⟩ := (textFits_iff_writeText _).mp memberFits
        have written : writeRouting header = .ok (group ++ member) :=
          writeRouting_eq_ok_iff.mpr ⟨group, member, groupWritten, memberWritten, rfl⟩
        refine ⟨_, group ++ member, written, ?_, rfl⟩
        rw [length_of_writeRouting written]
        exact routingSize_le groupFits memberFits
      · rintro ⟨octets, body, written, fits, framing⟩
        obtain ⟨group, member, groupWritten, memberWritten, joined⟩ :=
          writeRouting_eq_ok_iff.mp written
        exact ⟨textFits_of_written groupWritten, textFits_of_written memberWritten⟩
  | foreign number data =>
      constructor
      · intro fits
        exact ⟨_, data, rfl, fits, rfl⟩
      · rintro ⟨octets, body, written, fits, framing⟩
        cases written
        exact fits

theorem length_of_writeHeader
    {header : Header}
    {octets : Octets}
    (written : writeHeader header = .ok octets) :
    octets.length = headerSize header := by
  obtain ⟨body, bodyWritten, fits, rfl⟩ := writeHeader_eq_ok_iff.mp written
  rw [length_framed]
  cases header with
  | routing header => rw [length_of_writeRouting bodyWritten, headerSize]
  | foreign number data =>
      cases bodyWritten
      rfl

/-- What a body under a number is read as. -/
def headerOfBody (number : UInt16) (body : Octets) : Except Error Header :=
  if number = RoutingHeader.id then (routingOfOctets body).map .routing
  else .ok (.foreign number body)

/-- A legible header is what its body is read as, and nothing else has this body. -/
theorem headerOfBody_eq_ok_iff {number : UInt16} {body : Octets} {header : Header} :
    headerOfBody number body = .ok header ↔
      Legible header ∧ header.id = number ∧ writeBody header = .ok body := by
  unfold headerOfBody
  split
  · rename_i same
    subst same
    constructor
    · intro accepted
      cases decoded : routingOfOctets body with
      | error error =>
          rw [decoded] at accepted
          cases accepted
      | ok routing =>
          rw [decoded] at accepted
          cases accepted
          exact ⟨trivial, rfl, routingOfOctets_eq_ok_iff.mp decoded⟩
    · rintro ⟨legible, sameNumber, written⟩
      cases header with
      | routing routing =>
          rw [routingOfOctets_eq_ok_iff.mpr written]
          rfl
      | foreign number data => exact absurd sameNumber legible
  · rename_i different
    constructor
    · intro accepted
      cases accepted
      exact ⟨different, rfl, rfl⟩
    · rintro ⟨legible, rfl, written⟩
      cases header with
      | routing routing => exact absurd rfl different
      | foreign number data =>
          cases written
          rfl

/-- The last step of reading a header, which consumes nothing more. -/
def interpretBody (number : UInt16) (body : Octets) : Reader Header := fun octets =>
  (headerOfBody number body).map (fun header => (header, octets))

theorem interpretBody_eq_ok_iff
    {number : UInt16}
    {body octets rest : Octets}
    {header : Header} :
    interpretBody number body octets = .ok (header, rest) ↔
      headerOfBody number body = .ok header ∧ octets = rest := by
  unfold interpretBody
  cases headerOfBody number body with
  | error error => simp [Except.map]
  | ok found => simp [Except.map]

theorem interpretBody_consumes
    {number : UInt16}
    {body : Octets}
    {header : Header}
    (interpreted : headerOfBody number body = .ok header) :
    Consumes (interpretBody number body) [] header where
  reads _ := interpretBody_eq_ok_iff.mpr ⟨interpreted, rfl⟩
  detectsCut := by
    intro count short
    cases short

theorem readHeader_eq :
    readHeader = readOctets .headerStart 6 >>= fun fields =>
      readOctets .headerBody (Octets.value (fields.drop 2)) >>= fun body =>
        interpretBody (UInt16.ofNat (Octets.value (fields.take 2))) body := by
  unfold readHeader
  refine bind_congr fun fields => bind_congr fun body => ?_
  funext octets
  simp only [interpretBody, headerOfBody]
  split
  · cases routingOfOctets body <;> rfl
  · rfl

theorem value_number (number : UInt16) :
    UInt16.ofNat (Octets.value (Octets.ofNat 2 number.toNat)) = number := by
  rw [Octets.value_ofNat 2 _ number.toNat_lt, UInt16.ofNat_toNat]

theorem ofNat_number
    {octets : Octets}
    (size : octets.length = 2) :
    Octets.ofNat 2 (UInt16.ofNat (Octets.value octets)).toNat = octets := by
  have small : Octets.value octets < 2 ^ 16 := by
    have bound := Octets.value_lt octets
    rwa [size] at bound
  rw [UInt16.toNat_ofNat', Nat.mod_eq_of_lt small]
  have same := Octets.ofNat_value octets
  rwa [size] at same

theorem readHeader_consumes
    {header : Header}
    {octets : Octets}
    (written : writeHeader header = .ok octets)
    (legible : Legible header) :
    Consumes readHeader octets header := by
  obtain ⟨body, bodyWritten, fits, rfl⟩ := writeHeader_eq_ok_iff.mp written
  have front : (Octets.ofNat 2 header.id.toNat ++ Octets.ofNat 4 body.length).length = 6 := by
    simp
  have length : Octets.value (Octets.ofNat 4 body.length) = body.length :=
    Octets.value_ofNat 4 _ ((lt_capacity_four_iff _).mpr fits)
  rw [readHeader_eq]
  apply Consumes.bind (readOctets_consumes .headerStart front)
  rw [List.take_left' (Octets.ofNat_length 2 _), List.drop_left' (Octets.ofNat_length 2 _),
    value_number, length]
  have interpreted := headerOfBody_eq_ok_iff.mpr ⟨legible, rfl, bodyWritten⟩
  have last : Consumes (readOctets .headerBody body.length >>= interpretBody header.id)
      (body ++ []) header :=
    (readOctets_consumes .headerBody rfl).bind (interpretBody_consumes interpreted)
  rwa [List.append_nil] at last

theorem writeHeader_of_readHeader
    {octets rest : Octets}
    {header : Header}
    (accepted : readHeader octets = .ok (header, rest)) :
    Legible header ∧
      ∃ consumed, octets = consumed ++ rest ∧ writeHeader header = .ok consumed := by
  rw [readHeader_eq] at accepted
  obtain ⟨fields, middle, fieldsRead, bodyAccepted⟩ := ok_of_bind accepted
  obtain ⟨rfl, fieldsSize⟩ := readOctets_eq_ok_iff.mp fieldsRead
  obtain ⟨body, last, bodyRead, interpreted⟩ := ok_of_bind bodyAccepted
  obtain ⟨rfl, bodySize⟩ := readOctets_eq_ok_iff.mp bodyRead
  obtain ⟨decoded, rfl⟩ := interpretBody_eq_ok_iff.mp interpreted
  obtain ⟨legible, number, written⟩ := headerOfBody_eq_ok_iff.mp decoded
  have numberSize : (fields.take 2).length = 2 := by
    rw [List.length_take]
    omega
  have lengthSize : (fields.drop 2).length = 4 := by
    rw [List.length_drop]
    omega
  refine ⟨legible, fields ++ body, (List.append_assoc _ _ _).symm, ?_⟩
  refine writeHeader_eq_ok_iff.mpr ⟨body, written, ?_, ?_⟩
  · have bound := Octets.value_lt (fields.drop 2)
    rw [lengthSize, ← bodySize] at bound
    exact (lt_capacity_four_iff _).mp bound
  · have lengthOctets := Octets.ofNat_value (fields.drop 2)
    rw [lengthSize, ← bodySize] at lengthOctets
    rw [framed, number, ofNat_number numberSize, lengthOctets, List.take_append_drop]

/-! ### Headers one behind the other -/

theorem writeHeaders_nil : writeHeaders [] = .ok [] := rfl

theorem writeHeaders_cons_eq_ok_iff
    {header : Header}
    {headers : List Header}
    {octets : Octets} :
    writeHeaders (header :: headers) = .ok octets ↔
      ∃ front back, writeHeader header = .ok front ∧ writeHeaders headers = .ok back ∧
        octets = front ++ back := by
  simp only [writeHeaders, List.mapM_cons, except_bind_eq_ok_iff, pure, Except.pure,
    Except.ok.injEq]
  constructor
  · rintro ⟨_, ⟨front, frontWritten, parts, partsWritten, rfl⟩, rfl⟩
    exact ⟨front, parts.flatten, frontWritten, ⟨parts, partsWritten, rfl⟩, rfl⟩
  · rintro ⟨front, _, frontWritten, ⟨parts, partsWritten, rfl⟩, rfl⟩
    exact ⟨_, ⟨front, frontWritten, parts, partsWritten, rfl⟩, rfl⟩

theorem headersFit_iff_writeHeaders (headers : List Header) :
    (∀ header ∈ headers, HeaderFits header) ↔ ∃ octets, writeHeaders headers = .ok octets := by
  induction headers with
  | nil => simp [writeHeaders_nil]
  | cons head tail inductionHypothesis =>
      rw [List.forall_mem_cons, inductionHypothesis, headerFits_iff_writeHeader]
      simp only [writeHeaders_cons_eq_ok_iff]
      constructor
      · rintro ⟨⟨front, frontWritten⟩, back, backWritten⟩
        exact ⟨_, front, back, frontWritten, backWritten, rfl⟩
      · rintro ⟨_, front, back, frontWritten, backWritten, rfl⟩
        exact ⟨⟨front, frontWritten⟩, back, backWritten⟩

theorem length_of_writeHeaders
    {headers : List Header}
    {octets : Octets}
    (written : writeHeaders headers = .ok octets) :
    octets.length = (headers.map headerSize).sum := by
  induction headers generalizing octets with
  | nil =>
      cases written
      rfl
  | cons head tail inductionHypothesis =>
      obtain ⟨front, back, frontWritten, backWritten, rfl⟩ :=
        writeHeaders_cons_eq_ok_iff.mp written
      rw [List.length_append, length_of_writeHeader frontWritten,
        inductionHypothesis backWritten, List.map_cons, List.sum_cons]

/-- Written headers are consumed and put into the set one after the other. -/
theorem readHeaders_consumes
    {headers : List Header}
    {octets : Octets}
    (written : writeHeaders headers = .ok octets)
    (legible : ∀ header ∈ headers, Legible header)
    (start : HeaderSet) :
    Consumes (readHeaders headers.length start) octets (headers.foldl HeaderSet.put start) := by
  induction headers generalizing octets start with
  | nil =>
      cases written
      exact Consumes.pure start
  | cons head tail inductionHypothesis =>
      obtain ⟨front, back, frontWritten, backWritten, rfl⟩ :=
        writeHeaders_cons_eq_ok_iff.mp written
      obtain ⟨headLegible, tailLegible⟩ := List.forall_mem_cons.mp legible
      exact (readHeader_consumes frontWritten headLegible).bind
        (inductionHypothesis backWritten tailLegible (start.put head))

theorem writeHeaders_of_readHeaders
    {count : Nat}
    {start headers : HeaderSet}
    {octets rest : Octets}
    (accepted : readHeaders count start octets = .ok (headers, rest)) :
    ∃ listed consumed,
      listed.length = count ∧ (∀ header ∈ listed, Legible header) ∧
        headers = listed.foldl HeaderSet.put start ∧
          octets = consumed ++ rest ∧ writeHeaders listed = .ok consumed := by
  induction count generalizing start octets with
  | zero =>
      cases accepted
      exact ⟨[], [], rfl, by simp, rfl, rfl, rfl⟩
  | succ count inductionHypothesis =>
      obtain ⟨header, middle, headRead, tailRead⟩ := ok_of_bind accepted
      obtain ⟨headLegible, front, rfl, frontWritten⟩ := writeHeader_of_readHeader headRead
      obtain ⟨listed, back, size, tailLegible, put, rfl, backWritten⟩ :=
        inductionHypothesis tailRead
      refine ⟨header :: listed, front ++ back, by simp [size],
        List.forall_mem_cons.mpr ⟨headLegible, tailLegible⟩, put,
        (List.append_assoc _ _ _).symm, ?_⟩
      exact writeHeaders_cons_eq_ok_iff.mpr ⟨front, back, frontWritten, backWritten, rfl⟩

end ChannelMux.Encoding
