import ChannelMux.Octets
import ChannelMux.RoutingHeader

/-!
Contract: the headers of a message.

Owns the two kinds of header, the number each is kept under, and the set that holds at
most one header per number, listed in increasing order of number.

The set is kept greatest number first, so that headers put in increasing order, as they
arrive from an encoding, are each put in front.
-/

namespace ChannelMux

/-- A header: the routing header, or one of another protocol, kept as it came. A foreign
header may carry the routing number; it then stands where the routing header would. -/
inductive Header where
  | routing (header : RoutingHeader)
  | foreign (number : UInt16) (data : Octets)
deriving DecidableEq, Repr

def Header.id : Header → UInt16
  | .routing _ => RoutingHeader.id
  | .foreign number _ => number

/-- A set of headers with at most one header per number. -/
structure HeaderSet where
  descending : List Header
  ordered : descending.Pairwise (fun above below => below.id < above.id)
deriving DecidableEq

namespace HeaderSet

def empty : HeaderSet := ⟨[], .nil⟩

instance : Inhabited HeaderSet := ⟨empty⟩

/-- The headers in increasing order of number. -/
def toList (headers : HeaderSet) : List Header := headers.descending.reverse

instance : Repr HeaderSet := ⟨fun headers level => reprPrec headers.toList level⟩

def size (headers : HeaderSet) : Nat := headers.descending.length

def isEmpty (headers : HeaderSet) : Bool := headers.descending.isEmpty

def get? (headers : HeaderSet) (number : UInt16) : Option Header :=
  headers.descending.find? (fun header => header.id == number)

private theorem above_of_mem_takeWhile
    {number : UInt16}
    {headers : List Header}
    {header : Header}
    (member : header ∈ headers.takeWhile (fun kept => number < kept.id)) :
    number < header.id := by
  induction headers with
  | nil => simp at member
  | cons head tail inductionHypothesis =>
      rw [List.takeWhile_cons] at member
      split at member
      · rename_i passed
        rcases List.mem_cons.mp member with rfl | tailMember
        · simpa using passed
        · exact inductionHypothesis tailMember
      · simp at member

private theorem below_of_mem_dropWhile
    {number : UInt16}
    {headers : List Header}
    (ordered : headers.Pairwise (fun above below => below.id < above.id))
    {header : Header}
    (member : header ∈ headers.dropWhile (fun kept => number ≤ kept.id)) :
    header.id < number := by
  induction headers with
  | nil => simp at member
  | cons head tail inductionHypothesis =>
      rw [List.dropWhile_cons] at member
      split at member
      · exact inductionHypothesis (List.Pairwise.of_cons ordered) member
      · rename_i stopped
        have headBelow : head.id < number := by
          simpa [UInt16.not_le] using stopped
        rcases List.mem_cons.mp member with rfl | tailMember
        · exact headBelow
        · have step := (List.pairwise_cons.mp ordered).1 header tailMember
          exact UInt16.lt_trans step headBelow

/-- Keeps a header under its number, in place of the one kept there before. -/
def put (headers : HeaderSet) (header : Header) : HeaderSet where
  descending :=
    headers.descending.takeWhile (fun kept => header.id < kept.id) ++
      header :: headers.descending.dropWhile (fun kept => header.id ≤ kept.id)
  ordered := by
    rw [List.pairwise_append, List.pairwise_cons]
    refine ⟨headers.ordered.sublist (List.takeWhile_sublist _), ⟨?_, ?_⟩, ?_⟩
    · intro below member
      exact below_of_mem_dropWhile headers.ordered member
    · exact headers.ordered.sublist (List.dropWhile_sublist _)
    · intro above aboveMember below belowMember
      have aboveBound := above_of_mem_takeWhile aboveMember
      rcases List.mem_cons.mp belowMember with rfl | lower
      · exact aboveBound
      · exact UInt16.lt_trans (below_of_mem_dropWhile headers.ordered lower) aboveBound

/-- Headers of two descending lists, kept descending; where both have one of the same
number, that of the first. -/
def mergeDescending : List Header → List Header → List Header
  | [], older => older
  | header :: rest, older =>
      older.takeWhile (fun kept => header.id < kept.id) ++
        header :: mergeDescending rest (older.dropWhile (fun kept => header.id ≤ kept.id))

private theorem mem_of_mem_mergeDescending
    {newer older : List Header}
    {header : Header}
    (member : header ∈ mergeDescending newer older) :
    header ∈ newer ∨ header ∈ older := by
  induction newer generalizing older with
  | nil => exact Or.inr member
  | cons head tail inductionHypothesis =>
      rcases List.mem_append.mp member with above | rest
      · exact Or.inr ((List.takeWhile_sublist _).subset above)
      · rcases List.mem_cons.mp rest with rfl | below
        · exact Or.inl List.mem_cons_self
        · rcases inductionHypothesis below with inTail | inOlder
          · exact Or.inl (List.mem_cons_of_mem _ inTail)
          · exact Or.inr ((List.dropWhile_sublist _).subset inOlder)

private theorem mergeDescending_ordered
    {newer older : List Header}
    (newerOrdered : newer.Pairwise (fun above below => below.id < above.id))
    (olderOrdered : older.Pairwise (fun above below => below.id < above.id)) :
    (mergeDescending newer older).Pairwise (fun above below => below.id < above.id) := by
  induction newer generalizing older with
  | nil => exact olderOrdered
  | cons head tail inductionHypothesis =>
      obtain ⟨headAbove, tailOrdered⟩ := List.pairwise_cons.mp newerOrdered
      have headAboveRest : ∀ below ∈ mergeDescending tail
          (older.dropWhile (fun kept => head.id ≤ kept.id)), below.id < head.id := by
        intro below member
        rcases mem_of_mem_mergeDescending member with inTail | inOlder
        · exact headAbove below inTail
        · exact below_of_mem_dropWhile olderOrdered inOlder
      rw [mergeDescending, List.pairwise_append, List.pairwise_cons]
      refine ⟨olderOrdered.sublist (List.takeWhile_sublist _), ⟨headAboveRest, ?_⟩, ?_⟩
      · exact inductionHypothesis tailOrdered (olderOrdered.sublist (List.dropWhile_sublist _))
      · intro above aboveMember below belowMember
        have aboveBound := above_of_mem_takeWhile aboveMember
        rcases List.mem_cons.mp belowMember with rfl | lower
        · exact aboveBound
        · exact UInt16.lt_trans (headAboveRest below lower) aboveBound

/-- Keeps every header of another set under its number, in place of the one kept there
before. -/
def putAll (headers others : HeaderSet) : HeaderSet :=
  ⟨mergeDescending others.descending headers.descending,
    mergeDescending_ordered others.ordered headers.ordered⟩

def erase (headers : HeaderSet) (number : UInt16) : HeaderSet where
  descending := headers.descending.filter (fun header => header.id != number)
  ordered := headers.ordered.sublist List.filter_sublist

/-- The set of the listed headers, a later one taking the place of an earlier one of the
same number. -/
def ofList (headers : List Header) : HeaderSet :=
  headers.foldl put empty

end HeaderSet

end ChannelMux
