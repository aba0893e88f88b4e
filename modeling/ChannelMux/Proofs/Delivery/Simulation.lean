import ChannelMux.Proofs.Delivery.Discipline

/-!
Contract: two runs side by side.

Owns what it is for one run to do what another one does, each in its own store, as far as the
stores are to agree, and the discipline of this. Whenever the first one finishes, the other
one has to finish as well.
-/

namespace ChannelMux

variable {α β : Type} {holds : Store → Prop} {agrees : Store → Store → Prop}

/-- Whatever one run comes to in a store, the other one comes to in every store that agrees
with it: it gives the same, and what they leave behind agrees. -/
def Simulates (holds : Store → Prop) (agrees : Store → Store → Prop) (run other : Run α) : Prop :=
  ∀ left right value leftAfter, holds left → agrees left right →
    run left = some (value, leftAfter) → holds leftAfter ∧
      ∃ rightAfter, other right = some (value, rightAfter) ∧ agrees leftAfter rightAfter

namespace Simulates

theorem pure (value : α) : Simulates holds agrees (Pure.pure value) (Pure.pure value) := by
  intro left right returned leftAfter known alike finished
  cases finished
  exact ⟨known, right, rfl, alike⟩

/-- A run that does not finish is no matter. -/
theorem none (other : Run α) : Simulates holds agrees (fun _ => Option.none) other := by
  intro left right returned leftAfter known alike finished
  cases finished

theorem bind
    {run other : Run α}
    {next onward : α → Run β}
    (first : Simulates holds agrees run other)
    (second : ∀ value, Simulates holds agrees (next value) (onward value)) :
    Simulates holds agrees (run >>= next) (other >>= onward) := by
  intro left right value leftAfter known alike finished
  obtain ⟨passed, leftBetween, ran, went⟩ := Rule.bind_eq_some finished
  obtain ⟨knownBetween, rightBetween, ranRight, alikeBetween⟩ :=
    first left right passed leftBetween known alike ran
  obtain ⟨knownAfter, rightAfter, wentRight, alikeAfter⟩ :=
    second passed leftBetween rightBetween value leftAfter knownBetween alikeBetween went
  refine ⟨knownAfter, rightAfter, ?_, alikeAfter⟩
  rw [Run.bind_apply, ranRight]
  exact wentRight

/-- What is looked up is the same in both stores. -/
theorem get
    {next onward : Store → Run β}
    (same : ∀ {left right}, holds left → agrees left right → onward right = onward left)
    (each : ∀ {store}, holds store → Simulates holds agrees (next store) (onward store)) :
    Simulates holds agrees (MonadState.get >>= next) (MonadState.get >>= onward) := by
  intro left right value leftAfter known alike finished
  obtain ⟨knownAfter, rightAfter, wentRight, alikeAfter⟩ :=
    each known left right value leftAfter known alike finished
  refine ⟨knownAfter, rightAfter, ?_, alikeAfter⟩
  rw [Rule.get_apply, same known alike]
  exact wentRight

/-- The same change of both stores. -/
theorem modify
    {change : Store → Store}
    (kept : ∀ store, holds store → holds (change store))
    (same : ∀ left right, holds left → agrees left right → agrees (change left) (change right)) :
    Simulates holds agrees (MonadState.modifyGet fun store : Store => ((), change store))
      (MonadState.modifyGet fun store : Store => ((), change store)) := by
  intro left right value leftAfter known alike finished
  cases finished
  exact ⟨kept left known, change right, rfl, same left right known alike⟩

end Simulates

/-- Runs are judged by whether the other one does the same. -/
def simulation (holds : Store → Prop) (agrees : Store → Store → Prop) : Discipline where
  holds := holds
  agrees := agrees
  judges := Simulates holds agrees
  pure := Simulates.pure
  bind := Simulates.bind
  get := Simulates.get

end ChannelMux
