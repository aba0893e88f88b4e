import Mathlib.Algebra.Order.BigOperators.Group.List
import Mathlib.Algebra.Order.Group.Nat
import ChannelMux.Proofs.Encoding.RoundTrip

/-!
Contract: writing again what was read.

Owns the flags and the header numbers of an encoded message, read off its octets by
position, and `rewrite_readMessage`: what was read can be written, in no more octets than it
was read from; this is read as the same message, and it is the same octets exactly if no
unknown flag is set and the header numbers increase.
-/

namespace ChannelMux.Encoding

/-! ### What stands where -/

/-- The flags of an encoded message: its first octet. -/
def flagsIn (octets : Octets) : UInt8 := octets.headD 0

/-- How many octets of addresses are flagged. -/
def addressesSize (flags : UInt8) : Nat :=
  (if flags &&& destinationFlag != 0 then 16 else 0) + (if flags &&& sourceFlag != 0 then 16 else 0)

/-- The numbers of so many headers that stand one behind the other; every header is its
number in two octets, the length of its body in four, and its body. -/
def numbersIn : (count : Nat) → Octets → List UInt16
  | 0, _ => []
  | count + 1, octets =>
      UInt16.ofNat (Octets.value (octets.take 2)) ::
        numbersIn count (octets.drop (6 + Octets.value ((octets.drop 2).take 4)))

/-- The numbers of the headers in an encoded message, as they come. -/
def headerNumbers (octets : Octets) : List UInt16 :=
  let counted := octets.drop (1 + addressesSize (flagsIn octets))
  numbersIn (Octets.value (counted.take 2)) (counted.drop 2)

/-- An encoded message has no flag beyond the two that are known, and its header numbers
increase. -/
def Canonical (octets : Octets) : Prop :=
  flagsIn octets &&& 0xFC = 0 ∧ (headerNumbers octets).Pairwise (· < ·)

theorem numbersIn_writeHeaders
    {headers : List Header}
    {octets : Octets}
    (written : writeHeaders headers = .ok octets)
    (later : Octets) :
    numbersIn headers.length (octets ++ later) = headers.map Header.id := by
  induction headers generalizing octets with
  | nil => rfl
  | cons head tail inductionHypothesis =>
      obtain ⟨front, back, frontWritten, backWritten, rfl⟩ :=
        writeHeaders_cons_eq_ok_iff.mp written
      obtain ⟨body, _, fits, rfl⟩ := writeHeader_eq_ok_iff.mp frontWritten
      have length : Octets.value (Octets.ofNat 4 body.length) = body.length :=
        Octets.value_ofNat 4 _ ((lt_capacity_four_iff _).mpr fits)
      have behind : (framed head.id body ++ back ++ later).drop (6 + body.length) =
          back ++ later := by
        rw [List.append_assoc, List.drop_left' (length_framed head.id body)]
      have numberOctets : (framed head.id body ++ back ++ later).take 2 =
          Octets.ofNat 2 head.id.toNat := by
        simp [framed]
      have lengthOctets : ((framed head.id body ++ back ++ later).drop 2).take 4 =
          Octets.ofNat 4 body.length := by
        simp [framed]
      rw [List.length_cons, numbersIn, numberOctets, lengthOctets, length, behind, value_number,
        inductionHypothesis backWritten, List.map_cons]

/-- What stands behind the flags and the addresses that they announce. -/
theorem drop_addresses
    {flags : UInt8}
    {destination? source? : Option Address}
    (destinationFlagged : destination?.isSome = (flags &&& destinationFlag != 0))
    (sourceFlagged : source?.isSome = (flags &&& sourceFlag != 0))
    (later : Octets) :
    (flags :: (writeAddress destination? ++ (writeAddress source? ++ later))).drop
      (1 + addressesSize flags) = later := by
  have each : ∀ address? : Option Address,
      (if address?.isSome then 16 else 0) = (writeAddress address?).length := by
    intro address?
    cases address? with
    | none => rfl
    | some address => exact address.size.symm
  have sizes : addressesSize flags = (writeAddress destination? ++ writeAddress source?).length := by
    rw [addressesSize, ← destinationFlagged, ← sourceFlagged, List.length_append, each, each]
  rw [Nat.add_comm, List.drop_succ_cons, sizes, ← List.append_assoc, List.drop_left]

section Layouts

variable {octets : Octets} {flags : UInt8} {headers : List Header} {message : Message}

theorem LaysOut.flagsIn_append (layout : LaysOut octets flags headers message) (rest : Octets) :
    flagsIn (octets ++ rest) = flags := by
  obtain ⟨body, _, rfl⟩ := layout.laidOut
  rfl

theorem LaysOut.headerNumbers_append
    (layout : LaysOut octets flags headers message)
    (rest : Octets) :
    headerNumbers (octets ++ rest) = headers.map Header.id := by
  have count : Octets.value (Octets.ofNat 2 headers.length) = headers.length :=
    Octets.value_ofNat 2 _ ((lt_capacity_two_iff _).mpr layout.headersCounted)
  rw [headerNumbers, layout.flagsIn_append rest]
  obtain ⟨body, written, rfl⟩ := layout.laidOut
  rw [List.cons_append, List.append_assoc, List.append_assoc, List.append_assoc,
    drop_addresses layout.destinationFlagged layout.sourceFlagged,
    List.take_left' (Octets.ofNat_length 2 _), List.drop_left' (Octets.ofNat_length 2 _), count,
    List.append_assoc, numbersIn_writeHeaders written]

/-- A layout is as long as its parts. -/
theorem LaysOut.length (layout : LaysOut octets flags headers message) :
    octets.length = 1 + (writeAddress message.destination?).length +
      (writeAddress message.source?).length + 2 + (headers.map headerSize).sum + 4 +
        message.payload.length := by
  obtain ⟨body, written, rfl⟩ := layout.laidOut
  simp only [List.length_cons, List.length_append, Octets.ofNat_length,
    length_of_writeHeaders written]
  omega

/-- What was read can be written. -/
theorem LaysOut.writable (layout : LaysOut octets flags headers message) : Writable message := by
  obtain ⟨body, written, _⟩ := layout.laidOut
  have fit := (headersFit_iff_writeHeaders headers).mpr ⟨body, written⟩
  have fewer := HeaderSet.toList_ofList_subperm headers
  rw [← layout.headersKept] at fewer
  refine ⟨?_, fun header member => fit header (fewer.subset member), layout.payloadFits⟩
  rw [← HeaderSet.length_toList]
  exact fewer.length_le.trans layout.headersCounted

end Layouts

/-- A list has at least the size of a list that holds no header more often. -/
theorem headersSize_le_of_subperm
    {fewer headers : List Header}
    (subperm : fewer.Subperm headers) :
    (fewer.map headerSize).sum ≤ (headers.map headerSize).sum := by
  obtain ⟨kept, permutation, sublist⟩ := subperm
  rw [← (permutation.map headerSize).sum_nat]
  exact (sublist.map headerSize).sum_le_sum (fun _ _ => Nat.zero_le _)

/-- Flags without unknown ones are those that the addresses need. -/
theorem flags_eq_of_known
    {flags : UInt8}
    (known : flags &&& 0xFC = 0) :
    flags = (if flags &&& destinationFlag != 0 then destinationFlag else 0) |||
      (if flags &&& sourceFlag != 0 then sourceFlag else 0) := by
  have table : ∀ digit : Fin 256, UInt8.ofFin digit &&& 0xFC = 0 →
      UInt8.ofFin digit =
        ((if UInt8.ofFin digit &&& destinationFlag != 0 then destinationFlag else 0) |||
          (if UInt8.ofFin digit &&& sourceFlag != 0 then sourceFlag else 0)) := by
    decide +kernel
  exact table flags.toFin known

theorem flagsOf_known (message : Message) : flagsOf message &&& 0xFC = 0 := by
  have table : ∀ destination source : Bool,
      ((if destination then destinationFlag else 0) |||
        (if source then sourceFlag else 0)) &&& 0xFC = 0 := by decide
  exact table _ _

/-! ### Writing again -/

section Rewriting

variable {octets written : Octets} {flags : UInt8} {headers : List Header} {message : Message}

theorem LaysOut.flags_eq_flagsOf
    (layout : LaysOut octets flags headers message)
    (known : flags &&& 0xFC = 0) :
    flags = flagsOf message := by
  rw [flags_eq_of_known known, ← layout.destinationFlagged, ← layout.sourceFlagged, flagsOf]

/-- The same octets are written again exactly if they were canonical. -/
theorem LaysOut.rewritten_eq_iff
    (layout : LaysOut octets flags headers message)
    (rewritten : LaysOut written (flagsOf message) message.headers.toList message)
    (rest : Octets) :
    written = octets ↔ Canonical (octets ++ rest) := by
  rw [Canonical, layout.flagsIn_append, layout.headerNumbers_append, List.pairwise_map]
  constructor
  · rintro rfl
    have flagsSame := layout.flagsIn_append []
    have numbersSame := layout.headerNumbers_append []
    rw [rewritten.flagsIn_append] at flagsSame
    rw [rewritten.headerNumbers_append] at numbersSame
    rw [← flagsSame, ← List.pairwise_map, ← numbersSame, List.pairwise_map]
    exact ⟨flagsOf_known message, message.headers.toList_increasing⟩
  · rintro ⟨known, increasing⟩
    have headersSame : message.headers.toList = headers := by
      rw [layout.headersKept]
      exact HeaderSet.toList_ofList_of_increasing increasing
    obtain ⟨body, bodyWritten, split⟩ := layout.laidOut
    obtain ⟨bodyAgain, bodyRewritten, splitAgain⟩ := rewritten.laidOut
    rw [headersSame, bodyWritten] at bodyRewritten
    cases bodyRewritten
    rw [split, splitAgain, headersSame, layout.flags_eq_flagsOf known]

theorem LaysOut.rewritten_length_le
    (layout : LaysOut octets flags headers message)
    (rewritten : LaysOut written (flagsOf message) message.headers.toList message) :
    written.length ≤ octets.length := by
  have fewer := HeaderSet.toList_ofList_subperm headers
  rw [← layout.headersKept] at fewer
  have headersSize := headersSize_le_of_subperm fewer
  rw [layout.length, rewritten.length]
  omega

end Rewriting

/-- What is read from octets can be written, in no more octets than were consumed, and is
then read as it was. It is written in the octets that were consumed exactly if they are
canonical. -/
theorem rewrite_readMessage
    {octets : Octets}
    {message : Message}
    (decoded : messageOfOctets octets = .ok message) :
    ∃ consumed rest written,
      octets = consumed ++ rest ∧ readMessage.run octets = .ok (message, rest) ∧
        writeMessage message = .ok written ∧ messageOfOctets written = .ok message ∧
          written.length ≤ consumed.length ∧ (written = consumed ↔ Canonical octets) := by
  obtain ⟨rest, accepted⟩ := messageOfOctets_eq_ok_iff.mp decoded
  obtain ⟨consumed, flags, headers, rfl, layout⟩ := laysOut_of_readMessage accepted
  obtain ⟨written, rewriting⟩ := (writable_iff_writeMessage message).mpr layout.writable
  have rewritten := laysOut_of_writeMessage rewriting layout.kept_legible
  have readAgain := messageOfOctets_eq_ok_iff.mpr ⟨[], rewritten.consumes.reads_whole⟩
  exact ⟨consumed, rest, written, rfl, accepted, rewriting, readAgain,
    layout.rewritten_length_le rewritten, layout.rewritten_eq_iff rewritten rest⟩

/-- Octets with an unknown flag and two headers of one number are read, with one octet left
over, and written again as other and fewer octets; these are read as the same message. -/
theorem rewrite_readMessage_liberal :
    ∃ written,
      writeMessage { headers := .ofList [.foreign 9 []] } = .ok written ∧
        messageOfOctets written = .ok { headers := .ofList [.foreign 9 []] } ∧
          written.length ≤ 20 ∧
            written ≠ [128, 0, 2, 0, 9, 0, 0, 0, 1, 5, 0, 9, 0, 0, 0, 0, 0, 0, 0, 0] := by
  have decoded : messageOfOctets
      [128, 0, 2, 0, 9, 0, 0, 0, 1, 5, 0, 9, 0, 0, 0, 0, 0, 0, 0, 0, 77] =
        .ok { headers := .ofList [.foreign 9 []] } := by rfl
  obtain ⟨consumed, rest, written, split, accepted, rewriting, readAgain, shorter, same⟩ :=
    rewrite_readMessage decoded
  have left : rest = [77] := by
    have reading : readMessage.run
        [128, 0, 2, 0, 9, 0, 0, 0, 1, 5, 0, 9, 0, 0, 0, 0, 0, 0, 0, 0, 77] =
          .ok ({ headers := .ofList [.foreign 9 []] }, [77]) := by decide +kernel
    rw [reading] at accepted
    cases accepted
    rfl
  obtain rfl : consumed =
      [128, 0, 2, 0, 9, 0, 0, 0, 1, 5, 0, 9, 0, 0, 0, 0, 0, 0, 0, 0] := by
    rw [left] at split
    exact (List.append_cancel_right split).symm
  exact ⟨written, rewriting, readAgain, shorter, fun unchanged =>
    absurd (same.mp unchanged).1 (by decide)⟩

end ChannelMux.Encoding
