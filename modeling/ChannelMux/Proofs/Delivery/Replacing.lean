import ChannelMux.Proofs.Delivery.Tracking

/-!
Contract: other ways up and other manners in place of those that there are.

Owns the replacing of what a stage does on the way up, and of an agent's manner. Owns that what is
replaced outside of what belongs to a node leaves a store that varies around the node, as long as
agents give no command and stages record on the way up nothing that they heed on the way down.
-/

namespace ChannelMux

/-- A stage with this role does something else on the way up, and the same on the way down. -/
def Role.withUp (up : Traffic → Script StageEntry Traffic Outcome) : Role → Role
  | .custom conduct => .custom { conduct with up := up }
  | role => role

theorem Role.outline_withUp (up : Traffic → Script StageEntry Traffic Outcome) (role : Role) :
    (role.withUp up).outline = role.outline := by
  cases role <;> rfl

namespace Store

/-- A stage does something else on the way up. -/
def replaceUp (store : Store) (stage : Ref .stage)
    (up : Traffic → Script StageEntry Traffic Outcome) : Store :=
  store.modifyStage stage fun record => { record with role := record.role.withUp up }

/-- An agent has another manner. -/
def replaceManner (store : Store) (agent : Ref .agent) (manner : Manner) : Store :=
  store.modifyAgent agent fun record => { record with manner := manner }

variable {store left right : Store} {own : Region} {heeds : Ref .stage → StageEntry → Bool}
  {member : Ref .node} {stage : Ref .stage} {agent : Ref .agent}
  {up : Traffic → Script StageEntry Traffic Outcome} {manner : Manner}

namespace StandsBy

theorem replaceUp
    (stands : store.StandsBy own heeds)
    (unheeded : ∀ traffic,
      (up traffic).Admits (fun entry => heeds stage entry = false) Eq fun _ => True) :
    (store.replaceUp stage up).StandsBy own heeds where
  passive := stands.passive
  divided other conduct outside custom := by
    unfold Store.replaceUp modifyStage at custom
    rcases Table.get_modify_cases store.stages stage
      (fun record => { record with role := record.role.withUp up }) other
      with kept | ⟨rfl, replaced⟩
    · rw [kept] at custom
      exact stands.divided other conduct outside custom
    · rw [replaced] at custom
      cases role : (store.stages.get other).role with
      | custom former =>
          rw [role] at custom
          cases custom
          exact ⟨unheeded, (stands.divided other former outside role).down⟩
      | groupBottom group =>
          rw [role] at custom
          cases custom
      | demultiplexer state =>
          rw [role] at custom
          cases custom
      | groupTop stack =>
          rw [role] at custom
          cases custom

theorem replaceManner (stands : store.StandsBy own heeds) (passive : manner.Passive) :
    (store.replaceManner agent manner).StandsBy own heeds where
  passive other outside := by
    unfold Store.replaceManner modifyAgent
    rcases Table.get_modify_cases store.agents agent
      (fun record => { record with manner := manner }) other with kept | ⟨_, replaced⟩
    · rw [kept]
      exact stands.passive other outside
    · rw [replaced]
      exact passive
  divided := stands.divided

end StandsBy

namespace VariesAround

/-- Before anything is replaced the stores are the same. -/
theorem refl
    (stands : store.StandsBy (store.holdings member) heeds)
    (stagesApart : ∀ node, store.nodes.Issued node → node ≠ member →
      ∀ stage ∈ (store.holdings node).stages, stage ∉ (store.holdings member).stages)
    (agentsApart : ∀ node, store.nodes.Issued node → node ≠ member →
      ∀ agent ∈ (store.holdings node).agents, agent ∉ (store.holdings member).agents) :
    store.VariesAround member heeds store :=
  ⟨.refl store, stands, stands, stagesApart, agentsApart⟩

/-- Another way up may take the place of that of a stage which does not belong to the node. -/
theorem replaceUp
    (varies : left.VariesAround member heeds right)
    (outside : stage ∉ (left.holdings member).stages)
    (unheeded : ∀ traffic,
      (up traffic).Admits (fun entry => heeds stage entry = false) Eq fun _ => True) :
    left.VariesAround member heeds (right.replaceUp stage up) :=
  { varies with
    akin := varies.akin.trans (.of_modifyStage outside
      (fun record => by
        unfold Stage.outline
        rw [Role.outline_withUp]) right)
    rightStands := varies.rightStands.replaceUp unheeded }

/-- Another manner may take the place of that of an agent which does not belong to the node. -/
theorem replaceManner
    (varies : left.VariesAround member heeds right)
    (outside : agent ∉ (left.holdings member).agents)
    (passive : manner.Passive) :
    left.VariesAround member heeds (right.replaceManner agent manner) :=
  { varies with
    akin := varies.akin.trans (.of_modifyAgent outside right _)
    rightStands := varies.rightStands.replaceManner passive }

end VariesAround

end Store

end ChannelMux
