import ChannelMux.Encoding.Field

/-!
Contract: readers and the octets that they consume.

Owns the relation between a reader, the octets that it consumes and the value that it
gives. It holds only if what follows the octets is left untouched and every proper
beginning of them is reported as cut short. Owns its composition along a reading, and the
readers that stand in it to every string of octets that they accept.

Does not own any field: which octets hold a text or a header is said beside it.
-/

namespace ChannelMux.Encoding

/-- A reader consumes exactly these octets, whatever follows them, and gives this value; of
octets that end before them it says that they are cut short. -/
structure Consumes {α : Type} (reader : Reader α) (consumed : Octets) (value : α) : Prop where
  reads : ∀ later, reader (consumed ++ later) = .ok (value, later)
  detectsCut :
    ∀ count, count < consumed.length →
      ∃ part needed available,
        reader (consumed.take count) = .error (.truncated part needed available)

/-- Whatever a reader accepts begins with octets that it consumes. -/
def Delimited {α : Type} (reader : Reader α) : Prop :=
  ∀ (octets rest : Octets) (value : α),
    reader octets = .ok (value, rest) →
      ∃ consumed, octets = consumed ++ rest ∧ Consumes reader consumed value

section Composition

variable {α β : Type}

/-! ### Readings step by step -/

theorem pure_apply (value : α) (octets : Octets) :
    (pure value : Reader α) octets = .ok (value, octets) := rfl

theorem bind_of_ok
    {first : Reader α}
    {octets rest : Octets}
    {value : α}
    (accepted : first octets = .ok (value, rest))
    (next : α → Reader β) :
    (first >>= next) octets = next value rest := by
  change (first octets >>= fun result => next result.1 result.2) = _
  rw [accepted]
  rfl

theorem bind_of_error
    {first : Reader α}
    {octets : Octets}
    {error : Error}
    (refused : first octets = .error error)
    (next : α → Reader β) :
    (first >>= next) octets = .error error := by
  change (first octets >>= fun result => next result.1 result.2) = _
  rw [refused]
  rfl

/-- A reading in two steps that succeeds has succeeded in both. -/
theorem ok_of_bind
    {first : Reader α}
    {next : α → Reader β}
    {octets rest : Octets}
    {value : β}
    (accepted : (first >>= next) octets = .ok (value, rest)) :
    ∃ between middle,
      first octets = .ok (between, middle) ∧ next between middle = .ok (value, rest) := by
  cases outcome : first octets with
  | error error =>
      rw [bind_of_error outcome] at accepted
      cases accepted
  | ok result =>
      rw [bind_of_ok outcome] at accepted
      exact ⟨result.1, result.2, rfl, accepted⟩

/-! ### What readings consume -/

theorem Consumes.pure (value : α) : Consumes (Pure.pure value) [] value where
  reads _ := rfl
  detectsCut := by
    intro count short
    cases short

theorem Consumes.bind
    {first : Reader α}
    {next : α → Reader β}
    {front back : Octets}
    {between : α}
    {value : β}
    (firstConsumes : Consumes first front between)
    (nextConsumes : Consumes (next between) back value) :
    Consumes (first >>= next) (front ++ back) value where
  reads later := by
    rw [List.append_assoc, bind_of_ok (firstConsumes.reads (back ++ later))]
    exact nextConsumes.reads later
  detectsCut := by
    intro count short
    rw [List.length_append] at short
    by_cases inFront : count < front.length
    · obtain ⟨part, needed, available, refused⟩ := firstConsumes.detectsCut count inFront
      refine ⟨part, needed, available, ?_⟩
      rw [List.take_append_of_le_length (Nat.le_of_lt inFront)]
      exact bind_of_error refused next
    · obtain ⟨part, needed, available, refused⟩ :=
        nextConsumes.detectsCut (count - front.length) (by omega)
      refine ⟨part, needed, available, ?_⟩
      rw [List.take_append, List.take_of_length_le (by omega),
        bind_of_ok (firstConsumes.reads _)]
      exact refused

/-- The same octets, consumed in a last step that only turns the value into another. -/
theorem Consumes.bind_pure
    {first : Reader α}
    {consumed : Octets}
    {between : α}
    (firstConsumes : Consumes first consumed between)
    (change : α → β) :
    Consumes (first >>= fun value => Pure.pure (change value)) consumed (change between) := by
  have both : Consumes (first >>= fun value => Pure.pure (change value)) (consumed ++ [])
      (change between) :=
    firstConsumes.bind (Consumes.pure (change between))
  rwa [List.append_nil] at both

/-- Octets that are consumed whole are read with nothing left over. -/
theorem Consumes.reads_whole
    {reader : Reader α}
    {consumed : Octets}
    {value : α}
    (consumes : Consumes reader consumed value) :
    reader consumed = .ok (value, []) := by
  simpa using consumes.reads []

end Composition

end ChannelMux.Encoding
