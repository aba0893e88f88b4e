/-!
Contract: whole numbers written in decimal digits.

Owns the value of digits and the reading of a number below a bound, which computes nothing
much larger than the bound, however many the digits are. Owns that a number is read back from
the digits that write it.

Does not own a sign, or any other mark in front of the digits.
-/

namespace ChannelMux.Text

def decimalValue (digits : List Char) : Nat :=
  digits.foldl (fun total digit => total * 10 + (digit.toNat - 48)) 0

/-- The value of decimal digits, or a bound if that is less. Each step stays at or below
the bound, so that the work grows with the number of digits and not with its square. -/
def decimalUpTo (bound : Nat) (digits : List Char) : Nat :=
  digits.foldl (fun total digit => min bound (total * 10 + (digit.toNat - 48))) 0

/-- Stopping at the bound in every step is the same as stopping there at the end. -/
theorem decimalUpTo_eq_min (bound : Nat) (digits : List Char) :
    decimalUpTo bound digits = min bound (decimalValue digits) := by
  suffices general : ∀ start,
      digits.foldl (fun total digit => min bound (total * 10 + (digit.toNat - 48)))
          (min bound start) =
        min bound (digits.foldl (fun total digit => total * 10 + (digit.toNat - 48)) start) by
    simpa [decimalUpTo, decimalValue] using general 0
  induction digits with
  | nil => exact fun _ => rfl
  | cons digit rest ih =>
      intro start
      have step : min bound (min bound start * 10 + (digit.toNat - 48)) =
          min bound (start * 10 + (digit.toNat - 48)) := by omega
      rw [List.foldl_cons, List.foldl_cons, step, ih]

/-- The number that digits write, if there are digits and nothing else, and it is below a
bound. -/
def decimalBelow? (bound : Nat) (digits : List Char) : Option Nat :=
  if digits.isEmpty || !digits.all Char.isDigit then none
  else
    let value := decimalUpTo bound digits
    if value < bound then some value else none

theorem decimalValue_toDigits (value : Nat) :
    decimalValue (Nat.toDigits 10 value) = value := by
  have same : (fun (total : Nat) (digit : Char) => total * 10 + (digit.toNat - 48)) =
      fun total digit => 10 * total + (digit.toNat - '0'.toNat) := by
    funext total digit
    rw [Nat.mul_comm]
    rfl
  unfold decimalValue
  rw [same]
  exact Nat.ofDigitChars_toDigits (by decide) (by decide)

/-- A number below the bound is read back from its digits. -/
theorem decimalBelow?_toString {bound value : Nat} (below : value < bound) :
    decimalBelow? bound (toString value).toList = some value := by
  have written : (toString value).toList = Nat.toDigits 10 value := by
    rw [Nat.toString_eq_repr, Nat.repr_eq_ofList_toDigits, String.toList_ofList]
  have areDigits : (Nat.toDigits 10 value).all Char.isDigit = true := by
    rw [List.all_eq_true]
    exact fun digit member => Nat.isDigit_of_mem_toDigits (by decide) (by decide) member
  have nonempty : (Nat.toDigits 10 value).isEmpty = false := by
    rw [List.isEmpty_eq_false_iff]
    exact Nat.toDigits_ne_nil
  unfold decimalBelow?
  rw [written, areDigits, nonempty, decimalUpTo_eq_min, decimalValue_toDigits,
    Nat.min_eq_right (Nat.le_of_lt below)]
  exact if_pos below

end ChannelMux.Text
