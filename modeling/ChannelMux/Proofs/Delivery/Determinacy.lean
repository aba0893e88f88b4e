import ChannelMux.Proofs.Delivery.Hearing
import ChannelMux.Proofs.Delivery.Oversight
import ChannelMux.Proofs.Delivery.Simulation

/-!
Contract: what comes up into a region is dealt with in the region alone.

Owns the runs that are determined by a region: in two stores that have the same in the region
they answer the same and leave the same in the region, whatever else there is. Owns that the
entering of a stack is determined by a closed region that the stack is in, provided that its
agents keep to themselves, as agents that give no command do.
-/

namespace ChannelMux

namespace Region

/-- The region is closed, and its agents go about things in the manner that they have in a
store that is given. -/
structure Persists (region : Region) (base store : Store) : Prop extends Closed region store where
  manners : ∀ agent ∈ region.agents,
    (store.agents.get agent).manner = (base.agents.get agent).manner

variable {region : Region} {base : Store}

namespace Persists

variable {before after : Store}

theorem of_sameIn (persists : region.Persists base before) (same : region.SameIn before after) :
    region.Persists base after where
  toClosed := persists.toClosed.of_sameIn same
  manners agent inside := by
    rw [(same.agents agent inside).content]
    exact persists.manners agent inside

theorem of_skeleton_eq (persists : region.Persists base before)
    (same : after.skeleton = before.skeleton) :
    region.Persists base after where
  toClosed := persists.toClosed.of_skeleton_eq same
  manners agent inside := by
    rw [Store.manner_eq same]
    exact persists.manners agent inside

end Persists

/-- Runs are judged by whether they do the same in stores that have the same in the region. -/
def discipline (region : Region) (base : Store) : Discipline :=
  simulation (region.Persists base) region.SameIn

/-- The same change of a stage, of which nothing is seen in the skeleton, leaves the same. -/
theorem judges_modifyStage
    {change : Stage → Stage}
    (unseen : ∀ record, (change record).bare = record.bare)
    (stage : Ref .stage) :
    (region.discipline base).judges
      (modify fun store : Store => store.modifyStage stage change)
      (modify fun store : Store => store.modifyStage stage change) :=
  Simulates.modify
    (fun store persists => persists.of_skeleton_eq
      (Store.skeleton_eq_of_shape_eq (Store.shape_modifyStage unseen store stage)))
    fun _ _ _ same => same.modifyStage stage change

/-- What comes up in the region can be judged, if it can be judged what its agents do. -/
theorem oversees
    {inner : Entrances}
    (tells : ∀ agent ∈ region.agents, ∀ traffic,
      (region.discipline base).judges (Delivery.tell inner agent (.up traffic))
        (Delivery.tell inner agent (.up traffic))) :
    (region.discipline base).Oversees region inner inner where
  closed persists := persists.toClosed
  same _ same := same
  conducts traffic _ _ _ := by
    refine (Script.asks_of_all (fun _ => trivial) _).admits fun entry => ?_
    apply judges_modifyStage
    intro record
    rfl
  counts change _ _ _ := judges_modifyStage (Stage.bare_counted change) _
  tells := tells

/-! ### However deep it leads -/

/-- What an agent of the region does depends on the region alone. -/
def Insular (region : Region) (base : Store) : Prop :=
  ∀ depth, ∀ agent ∈ region.agents, ∀ notice left right outcome leftAfter,
    region.Persists base left → region.SameIn left right →
    Delivery.tell (Entrances.within depth) agent notice left = some (outcome, leftAfter) →
      ∃ rightAfter,
        Delivery.tell (Entrances.within depth) agent notice right =
          some (outcome, rightAfter) ∧
        region.SameIn leftAfter rightAfter

/-- Agents that give no command keep to themselves. -/
theorem insular_of_passive
    (passive : ∀ agent ∈ region.agents, (base.agents.get agent).manner.Passive) :
    region.Insular base := by
  intro depth agent inside notice left right outcome leftAfter persists same finished
  have content := (same.agents agent inside).content
  have passiveLeft : (left.agents.get agent).manner.Passive := by
    rw [persists.manners agent inside]
    exact passive agent inside
  rw [tell_of_passive passiveLeft] at finished
  cases finished
  refine ⟨_, ?_, same.modifyAgent agent (·.hear notice)⟩
  rw [tell_of_passive (by rw [content]; exact passiveLeft), content]

theorem Insular.judges_tell
    (insular : region.Insular base)
    (depth : Nat)
    {agent : Ref .agent}
    (inside : agent ∈ region.agents)
    (notice : Notice) :
    (region.discipline base).judges (Delivery.tell (Entrances.within depth) agent notice)
      (Delivery.tell (Entrances.within depth) agent notice) := by
  intro left right outcome leftAfter persists same finished
  have kept := Skeleton.governs_tell depth agent notice left outcome
    leftAfter trivial finished
  exact ⟨persists.of_skeleton_eq kept,
    insular depth agent inside notice left right outcome leftAfter persists same finished⟩

/-- What enters a stack of the region is dealt with in the region. -/
theorem Insular.judges_enterStack
    (insular : region.Insular base)
    (depth : Nat)
    {stack : Ref .stack}
    (inside : stack ∈ region.groups)
    (traffic : Traffic) :
    (region.discipline base).judges (Delivery.enterStack (Entrances.within depth) stack traffic)
      (Delivery.enterStack (Entrances.within depth) stack traffic) :=
  Discipline.Oversees.enterStack_of_all 0 (Simulates.none _)
    (fun depth => oversees fun _ isAgent traffic => insular.judges_tell depth isAgent (.up traffic))
    depth inside traffic

end Region

end ChannelMux
