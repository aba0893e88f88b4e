import ChannelMux.Proofs.Network.Action

/-!
Contract: with what stages and agents a network is peopled.

Owns that whatever is done with a network, its custom stages have the conducts and its agents
the manners with which they were made: nothing else makes a stage or an agent, and nothing
that runs changes one.
-/

namespace ChannelMux

/-- Whoever is made has a manner of a kind, and a stage that is made a conduct of a kind. -/
def Action.Makes (conducts : Conduct → Prop) (manners : Manner → Prop) : Action → Prop
  | .addAgent manner => manners manner
  | .addStage _ conduct => conducts conduct
  | _ => True

namespace Store

/-- Stages have conducts of a kind, and agents have manners of a kind. -/
structure Peopled (conducts : Conduct → Prop) (manners : Manner → Prop) (store : Store) :
    Prop where
  stages : ∀ stage conduct, (store.stages.get stage).role = .custom conduct →
    conducts conduct
  agents : ∀ agent, manners (store.agents.get agent).manner

namespace Peopled

variable {conducts : Conduct → Prop} {manners : Manner → Prop} {before after : Store}

theorem of_skeleton_eq
    (peopled : Peopled conducts manners before)
    (same : after.skeleton = before.skeleton) :
    Peopled conducts manners after where
  stages stage conduct custom :=
    peopled.stages stage conduct ((role_custom_iff same stage conduct).mp custom)
  agents agent := by
    rw [manner_eq same]
    exact peopled.agents agent

theorem of_splice
    (peopled : Peopled conducts manners before)
    (splice : Splice before after) :
    Peopled conducts manners after where
  stages stage conduct custom :=
    peopled.stages stage conduct (splice.customs stage conduct custom)
  agents agent := by
    rw [splice.agents]
    exact peopled.agents agent

theorem addAgent
    (peopled : Peopled conducts manners before)
    {manner : Manner}
    (permitted : manners manner) :
    Peopled conducts manners (before.addAgent { manner := manner }).2 where
  stages := peopled.stages
  agents agent := by
    change manners ((before.agents.add { manner := manner }).get agent).manner
    rcases Table.get_add_cases before.agents { manner := manner } agent with old | isNew
    · rw [old]
      exact peopled.agents agent
    · rw [isNew]
      exact permitted

theorem addStage
    (peopled : Peopled conducts manners before)
    (name : String)
    {conduct : Conduct}
    (permitted : conducts conduct) :
    Peopled conducts manners
      (before.addStage { name := name, role := .custom conduct }).2 where
  stages stage other custom := by
    change ((before.stages.add { name := name, role := .custom conduct }).get stage).role =
      .custom other at custom
    rcases Table.get_add_cases before.stages { name := name, role := .custom conduct } stage
      with old | isNew
    · rw [old] at custom
      exact peopled.stages stage other custom
    · rw [isNew] at custom
      cases custom
      exact permitted
  agents := peopled.agents

/-- Every other change is one to things of other kinds. -/
theorem of_tables_eq
    (peopled : Peopled conducts manners before)
    (tables : after.stages = before.stages ∧ after.agents = before.agents) :
    Peopled conducts manners after where
  stages := by
    rw [tables.1]
    exact peopled.stages
  agents := by
    rw [tables.2]
    exact peopled.agents

end Peopled

/-! ### Forks that are named and let go of -/

theorem retireFork_tables (store : Store) (fork : Ref .fork) :
    (store.retireFork fork).stages = store.stages ∧
      (store.retireFork fork).agents = store.agents := by
  unfold retireFork
  split <;> exact ⟨rfl, rfl⟩

theorem nameFork_tables (store : Store) (fork : Ref .fork) (label : String) :
    (store.nameFork fork label).stages = store.stages ∧
      (store.nameFork fork label).agents = store.agents := by
  unfold nameFork
  dsimp only
  split
  · exact retireFork_tables _ _
  · exact ⟨rfl, rfl⟩

theorem dropFork_tables (store : Store) (label : String) :
    (store.dropFork label).stages = store.stages ∧
      (store.dropFork label).agents = store.agents := by
  unfold dropFork
  split
  · exact retireFork_tables _ _
  · exact ⟨rfl, rfl⟩

/-! ### Actions -/

theorem peopled_act
    {conducts : Conduct → Prop}
    {manners : Manner → Prop}
    {store after : Store}
    {action : Action}
    (peopled : Peopled conducts manners store)
    (wired : store.Wired)
    (makes : action.Makes conducts manners)
    (acted : store.act? action = some after) :
    Peopled conducts manners after := by
  cases step_of_act wired acted with
  | refused => exact peopled
  | addAgent manner => exact peopled.addAgent makes
  | addStage name conduct => exact peopled.addStage name makes
  | ensureDemultiplexer splice => exact peopled.of_splice splice
  | ensureStack splice => exact peopled.of_splice splice
  | buildFork nodeAlive left customs isBuilt label =>
      obtain ⟨stacked, record, splice, _, _, _, rfl⟩ :=
        buildFork_enrolls wired nodeAlive left customs isBuilt
      exact (peopled.of_splice splice).of_tables_eq (nameFork_tables _ _ label)
  | holdFork alive label => exact peopled.of_tables_eq (nameFork_tables store _ label)
  | dropFork label => exact peopled.of_tables_eq (dropFork_tables store label)
  | travel finished => exact peopled.of_skeleton_eq (skeleton_eq_of_travel finished)
  | receive finished => exact peopled.of_skeleton_eq (skeleton_eq_of_receive finished)
  | call _ finished => exact peopled.of_skeleton_eq (skeleton_eq_of_call finished)
  | _ => exact peopled.of_tables_eq ⟨rfl, rfl⟩

/-- A reachable store has the stages and agents that were made. -/
theorem peopled_of_reachable
    {conducts : Conduct → Prop}
    {manners : Manner → Prop}
    {store : Store}
    (reachable : Reachable (Action.Makes conducts manners) store)
    (nobody : manners (default : Agent).manner) :
    Peopled conducts manners store := by
  induction reachable with
  | empty =>
      refine ⟨fun stage conduct custom => ?_, fun agent => ?_⟩
      · rw [Table.get_of_not_issued (Nat.not_lt_zero _)] at custom
        cases custom
      · rw [Table.get_of_not_issued (Nat.not_lt_zero _)]
        exact nobody
  | step reachable makes acted inductionHypothesis =>
      exact peopled_act inductionHypothesis (wired_of_reachable reachable) makes acted

end Store

end ChannelMux
