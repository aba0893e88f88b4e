/-!
Contract: octet strings and big-endian words.

Owns the reading of an octet string as a big-endian number, the fixed-width
big-endian form of a number, the bound up to which numbers fit, and the two laws that
make reading and writing inverse.

Does not own any framing: which words stand where is said by the encodings.
-/

namespace ChannelMux

/-- A string of octets, first octet first. -/
abbrev Octets := List UInt8

namespace Octets

/-- The number whose big-endian digits, base 256, are the octets. -/
def value (octets : Octets) : Nat :=
  octets.foldl (fun total octet => total * 256 + octet.toNat) 0

/-- How many numbers can be written in a number of octets. -/
def capacity : (width : Nat) → Nat
  | 0 => 1
  | width + 1 => 256 * capacity width

/-- The `width` low-order base-256 digits of a number, most significant first. -/
def ofNat : (width : Nat) → Nat → Octets
  | 0, _ => []
  | width + 1, number => UInt8.ofNat (number / capacity width) :: ofNat width number

def ofString (text : String) : Octets :=
  text.toByteArray.data.toList

theorem capacity_pos (width : Nat) : 0 < capacity width := by
  induction width with
  | zero => exact Nat.one_pos
  | succ width inductionHypothesis => exact Nat.mul_pos (by decide) inductionHypothesis

@[simp] theorem ofNat_length (width number : Nat) :
    (ofNat width number).length = width := by
  induction width with
  | zero => rfl
  | succ width inductionHypothesis => simp [ofNat, inductionHypothesis]

private theorem foldl_value (octets : Octets) (start : Nat) :
    octets.foldl (fun total octet => total * 256 + octet.toNat) start =
      start * capacity octets.length + value octets := by
  induction octets generalizing start with
  | nil => simp [value, capacity]
  | cons head tail inductionHypothesis =>
      simp only [value, List.foldl_cons, List.length_cons, capacity] at inductionHypothesis ⊢
      rw [inductionHypothesis (start * 256 + head.toNat),
        inductionHypothesis (0 * 256 + head.toNat), Nat.zero_mul, Nat.zero_add,
        Nat.add_mul, Nat.mul_assoc, Nat.add_assoc]

theorem value_cons (head : UInt8) (tail : Octets) :
    value (head :: tail) = head.toNat * capacity tail.length + value tail := by
  have step := foldl_value tail head.toNat
  simpa [value] using step

theorem value_lt (octets : Octets) : value octets < capacity octets.length := by
  induction octets with
  | nil => exact Nat.one_pos
  | cons head tail inductionHypothesis =>
      have digit : head.toNat < 256 := head.toNat_lt
      rw [value_cons, List.length_cons, capacity]
      have scaled : head.toNat * capacity tail.length + capacity tail.length ≤
          256 * capacity tail.length := by
        rw [← Nat.succ_mul]
        exact Nat.mul_le_mul_right _ digit
      omega

/-- The fixed-width form of a number reads back as the number without what does not fit. -/
theorem value_ofNat_mod (width number : Nat) :
    value (ofNat width number) = number % capacity width := by
  induction width with
  | zero => exact (Nat.mod_one number).symm
  | succ width inductionHypothesis =>
      rw [ofNat, value_cons, inductionHypothesis, ofNat_length]
      have digit :
          (UInt8.ofNat (number / capacity width)).toNat = number / capacity width % 256 := by
        simp
      rw [digit, capacity, Nat.mul_comm 256, Nat.mod_mul, Nat.mul_comm (capacity width)]
      exact Nat.add_comm _ _

/-- The fixed-width form of a number that fits reads back as that number. -/
theorem value_ofNat
    (width number : Nat)
    (fits : number < capacity width) :
    value (ofNat width number) = number := by
  rw [value_ofNat_mod, Nat.mod_eq_of_lt fits]

/-- Octets are the fixed-width form of the number they read as. -/
theorem ofNat_value (octets : Octets) : ofNat octets.length (value octets) = octets := by
  suffices general : ∀ (tail : Octets) (high : Nat),
      ofNat tail.length (high * capacity tail.length + value tail) = tail by
    simpa using general octets 0
  intro tail
  induction tail with
  | nil => intro high; rfl
  | cons head tail inductionHypothesis =>
      intro high
      have small := value_lt tail
      have regroup : high * capacity (tail.length + 1) + value (head :: tail) =
          (high * 256 + head.toNat) * capacity tail.length + value tail := by
        rw [value_cons, capacity, Nat.add_mul, Nat.mul_assoc, Nat.add_assoc]
      rw [List.length_cons, ofNat, regroup, inductionHypothesis]
      congr 1
      have quotient :
          ((high * 256 + head.toNat) * capacity tail.length + value tail) /
              capacity tail.length =
            high * 256 + head.toNat := by
        rw [Nat.mul_comm, Nat.mul_add_div (capacity_pos _),
          Nat.div_eq_of_lt small, Nat.add_zero]
      rw [quotient]
      apply UInt8.toNat_inj.mp
      have digit : head.toNat < 256 := head.toNat_lt
      simp

end Octets

end ChannelMux
