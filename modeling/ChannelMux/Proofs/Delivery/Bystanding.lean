import ChannelMux.Proofs.Delivery.Completion
import ChannelMux.Proofs.Delivery.Likeness

/-!
Contract: what comes up outside of a region leaves the region alone.

Owns what it is for stages and agents outside of a region to stand by: the agents give no command,
and what a stage does on the way down has nothing to do with what it records on the way up. Owns
that whatever comes up the pipeline of a node that shares nothing with the region leaves a store
that is akin to what it was, and that it comes to an end.
-/

namespace ChannelMux

/-- On the way up a stage with this conduct records nothing that it heeds on the way down, and
on the way down it goes on alike after records in which what it heeds is the same. -/
structure Conduct.Divided (heeds : StageEntry → Bool) (conduct : Conduct) : Prop where
  up : ∀ traffic, (conduct.up traffic).Admits (fun entry => heeds entry = false) Eq fun _ => True
  down : ∀ event, (conduct.down event).Admits (fun _ => True)
    (fun left right => right.filter heeds = left.filter heeds) fun _ => True

/-- Agents outside of a region give no command, and stages outside of it have a way up and a way
down that have nothing to do with each other. -/
structure Store.StandsBy (store : Store) (own : Region) (heeds : Ref .stage → StageEntry → Bool) :
    Prop where
  passive : ∀ agent, agent ∉ own.agents → (store.agents.get agent).manner.Passive
  divided : ∀ stage conduct, stage ∉ own.stages →
    (store.stages.get stage).role = .custom conduct → conduct.Divided (heeds stage)

/-- In stores of one skeleton nothing becomes of a region but what akin stores may differ in. -/
def bystanding (base : Store) (own : Region) (heeds : Ref .stage → StageEntry → Bool) : Rule where
  holds store := store.skeleton = base.skeleton
  relates before after := after.skeleton = before.skeleton ∧ Store.Akin own heeds before after
  refl store := ⟨rfl, .refl store⟩
  trans first second := ⟨second.1.trans first.1, first.2.trans second.2⟩
  keeps known related := related.1.trans known

/-- What completes is governed, and so what can be judged by the one can be by the other. -/
theorem Rule.oversees_of_completion
    {rule : Rule}
    {region : Region}
    {inner other : Entrances}
    (oversees : rule.completion.Oversees region inner other) :
    rule.discipline.Oversees region inner other where
  closed := oversees.closed
  same := oversees.same
  conducts traffic inside holds custom :=
    (oversees.conducts traffic inside holds custom).mono (fun _ completes => completes.governs)
      (fun _ _ same => same) fun _ passed => passed
  counts change inside holds isHub := (oversees.counts change inside holds isHub).governs
  tells agent inside traffic := (oversees.tells agent inside traffic).governs

namespace Store.StandsBy

variable {base : Store} {own : Region} {heeds : Ref .stage → StageEntry → Bool}
  (stands : base.StandsBy own heeds)

include stands

/-- Whatever an agent outside is told, it does no more than record it. -/
theorem completes_tell
    {agent : Ref .agent}
    (outside : agent ∉ own.agents)
    (inner : Entrances)
    (notice : Notice) :
    (bystanding base own heeds).Completes (Delivery.tell inner agent notice) := by
  intro before known
  have passive : (before.agents.get agent).manner.Passive := by
    rw [manner_eq known]
    exact stands.passive agent outside
  exact ⟨_, _, tell_of_passive passive inner notice,
    skeleton_eq_of_shape_eq (shape_hear before agent notice), .of_modifyAgent outside before _⟩

/-- What comes up in a region that shares nothing with the other one can be judged. -/
theorem oversees
    {region : Region}
    (closed : region.Closed base)
    (stages : ∀ stage ∈ region.stages, stage ∉ own.stages)
    (agents : ∀ agent ∈ region.agents, agent ∉ own.agents)
    (inner other : Entrances) :
    (bystanding base own heeds).completion.Oversees region inner other where
  closed known := closed.of_skeleton_eq known
  same := by
    rintro left _ _ rfl
    exact .refl _ _
  conducts := by
    intro store stage conduct traffic inside known custom
    rw [role_custom_iff known] at custom
    refine ((stands.divided stage conduct (stages stage inside) custom).up traffic).mono
      (fun entry unheeded => ?_) (fun _ _ same => same) fun _ passed => passed
    refine .modify fun store _ => ⟨skeleton_eq_of_shape_eq (shape_recordStage store stage entry),
      .of_modifyStage (stages stage inside) (fun record => ?_) store⟩
    unfold Stage.outline
    rw [List.filter_cons, unheeded]
    rfl
  counts {_ stage} change inside _ _ :=
    .modify fun store _ => ⟨skeleton_eq_of_shape_eq (shape_count store stage change),
      .of_modifyStage (stages stage inside) (Stage.outline_counted (heeds stage) change) store⟩
  tells agent inside traffic := stands.completes_tell (agents agent inside) inner (.up traffic)

section Apart

variable {region : Region} {pipeline : Ref .pipeline} (closed : region.Closed base)
  (stages : ∀ stage ∈ region.stages, stage ∉ own.stages)
  (agents : ∀ agent ∈ region.agents, agent ∉ own.agents)
  (inside : pipeline ∈ region.pipelines)

include closed stages agents inside

/-- Whatever comes up outside, as far as it gets, leaves what is inside alone. -/
theorem governs_travel (depth : Nat) (traffic : Traffic) :
    (bystanding base own heeds).Governs
      ((Entrances.within depth).travel (.up pipeline traffic)) := by
  have oversees (depth : Nat) := Rule.oversees_of_completion
    (stands.oversees closed stages agents (Entrances.within depth) (Entrances.within depth))
  cases depth with
  | zero => exact Rule.none
  | succ depth =>
      exact (oversees depth).travel_of_groups
        (fun _ isStack => Discipline.Oversees.enterStack_of_all 0 Rule.none oversees depth isStack)
        inside traffic

/-- If no stack leads to others then it comes to an end. -/
theorem completes_travel (flat : region.Flat base) (depth : Nat) (traffic : Traffic) :
    (bystanding base own heeds).Completes
      ((Entrances.within (depth + 2)).travel (.up pipeline traffic)) := by
  have oversees (depth : Nat) :=
    stands.oversees closed stages agents (Entrances.within depth) (Entrances.within depth)
  exact (oversees (depth + 1)).travel_of_flat (fun known => known) flat (oversees depth) inside
    traffic

end Apart

end Store.StandsBy

end ChannelMux
