/-!
Contract: things that are done one after the other, with rests in between.

Owns the interleaving of deals, each of which changes a state as it will, with rests that change
it within the bounds of a relation. What happens in turn is the list of the deals, and
interleavings follow one another as their lists do. The state may be a store, and it may be the
two stores of two runs.
-/

namespace ChannelMux

/-- One state becomes another as items are dealt with in turn. Before, between and after them
there is nothing but rests. -/
inductive Interleaved {Item State : Type} (deals : Item → State → State → Prop)
    (rests : State → State → Prop) : List Item → State → State → Prop where
  | rest {before after : State} (rested : rests before after) :
      Interleaved deals rests [] before after
  | deal {before ready dealt after : State} {item : Item} {items : List Item}
      (rested : rests before ready) (dealing : deals item ready dealt)
      (onward : Interleaved deals rests items dealt after) :
      Interleaved deals rests (item :: items) before after

namespace Interleaved

variable {Item State : Type} {deals : Item → State → State → Prop}
  {rests : State → State → Prop} {before between after : State} {items first second : List Item}

theorem rest_left
    (trans : ∀ first second third, rests first second → rests second third →
      rests first third)
    (rested : rests before between)
    (interleaved : Interleaved deals rests items between after) :
    Interleaved deals rests items before after := by
  cases interleaved with
  | rest later => exact .rest (trans _ _ _ rested later)
  | deal later dealing onward => exact .deal (trans _ _ _ rested later) dealing onward

theorem append
    (trans : ∀ first second third, rests first second → rests second third →
      rests first third)
    (earlier : Interleaved deals rests first before between)
    (later : Interleaved deals rests second between after) :
    Interleaved deals rests (first ++ second) before after := by
  induction earlier with
  | rest rested => exact rest_left trans rested later
  | deal rested dealing _ inductionHypothesis =>
      exact .deal rested dealing (inductionHypothesis later)

theorem rest_right
    (trans : ∀ first second third, rests first second → rests second third →
      rests first third)
    (interleaved : Interleaved deals rests items before between)
    (rested : rests between after) :
    Interleaved deals rests items before after := by
  have last : Interleaved deals rests [] between after := .rest rested
  have whole := append trans interleaved last
  rwa [List.append_nil] at whole

/-- What is dealt with by itself. -/
theorem single
    {item : Item}
    (refl : ∀ state, rests state state)
    (dealing : deals item before after) :
    Interleaved deals rests [item] before after :=
  .deal (refl before) dealing (.rest (refl after))

end Interleaved

end ChannelMux
