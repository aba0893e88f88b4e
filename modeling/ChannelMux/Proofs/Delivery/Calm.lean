import ChannelMux.Proofs.Delivery.Lifecycle

/-!
Contract: traffic among agents that keep to themselves and stages that pass everything on.

Owns what it is to have told agents a list of things and otherwise changed nothing but
records and counts. Owns the stores in which every agent accepts everything and gives no
command and every stage is transparent: no journey through one does more than that, and
one that carries no message tells nobody of a message.
-/

namespace ChannelMux

/-- Who is told what, in turn. -/
abbrev Told := List (Ref .agent × Notice)

namespace Told

/-- What of it one agent is told. -/
def noticesTo (told : Told) (agent : Ref .agent) : List Notice :=
  (told.filter (fun entry => entry.1 = agent)).map Prod.snd

/-- Nobody is told of a message. -/
def Silent (told : Told) : Prop := ∀ entry ∈ told, entry.2.carriesMessage = false

theorem silent_nil : Silent [] := by
  intro entry member
  cases member

theorem Silent.append {first second : Told} (firstSilent : first.Silent)
    (secondSilent : second.Silent) :
    Silent (first ++ second) := by
  intro entry member
  rcases List.mem_append.mp member with inFirst | inSecond
  · exact firstSilent entry inFirst
  · exact secondSilent entry inSecond

theorem noticesTo_append (first second : Told) (agent : Ref .agent) :
    Told.noticesTo (first ++ second) agent = first.noticesTo agent ++ second.noticesTo agent := by
  unfold noticesTo
  rw [List.filter_append, List.map_append]

end Told

/-- Agents that have been told things, which they keep to themselves. -/
def hearAll (agents : Table .agent Agent) (told : Told) : Table .agent Agent :=
  told.foldl (fun heard entry => heard.modify entry.1 (·.hear entry.2)) agents

theorem hearAll_append (agents : Table .agent Agent) (first second : Told) :
    hearAll agents (first ++ second) = hearAll (hearAll agents first) second :=
  List.foldl_append

theorem issued_hearAll {agents : Table .agent Agent} {told : Told} {agent : Ref .agent} :
    (hearAll agents told).Issued agent ↔ agents.Issued agent := by
  induction told generalizing agents with
  | nil => exact Iff.rfl
  | cons entry rest inductionHypothesis =>
      exact inductionHypothesis.trans Table.issued_modify

theorem get_hearAll (agents : Table .agent Agent) (told : Told) (agent : Ref .agent) :
    (hearAll agents told).get agent = (agents.get agent).hearAll (told.noticesTo agent) := by
  induction told generalizing agents with
  | nil => rfl
  | cons entry rest inductionHypothesis =>
      change (hearAll (agents.modify entry.1 (·.hear entry.2)) rest).get agent = _
      rw [inductionHypothesis]
      by_cases same : entry.1 = agent
      · have concerned :
            Told.noticesTo (entry :: rest) agent = entry.2 :: Told.noticesTo rest agent := by
          simp [Told.noticesTo, same]
        rw [concerned, ← same]
        by_cases issued : agents.Issued entry.1
        · rw [Table.get_modify_self issued]
          rfl
        · have stillNot : ¬ (agents.modify entry.1 (·.hear entry.2)).Issued entry.1 := by
            simpa using issued
          rw [Table.get_of_not_issued issued, Table.get_of_not_issued stillNot]
          rfl
      · have unconcerned : Told.noticesTo (entry :: rest) agent = Told.noticesTo rest agent := by
          simp [Told.noticesTo, same]
        rw [unconcerned, Table.get_modify_of_ne (Ne.symm same)]

/-- Between two stores these things have been told, and nothing else happened but that
things were recorded and counted and views were given. -/
structure Effect (told : Told) (before after : Store) : Prop where
  shape : after.shape = before.shape
  agents : after.agents = hearAll before.agents told

namespace Effect

theorem refl (store : Store) : Effect [] store store := ⟨rfl, rfl⟩

theorem trans
    {first second : Told}
    {before between after : Store}
    (earlier : Effect first before between)
    (later : Effect second between after) :
    Effect (first ++ second) before after where
  shape := later.shape.trans earlier.shape
  agents := by rw [later.agents, earlier.agents, hearAll_append]

theorem agent
    {told : Told}
    {before after : Store}
    (effect : Effect told before after)
    (agent : Ref .agent) :
    after.agents.get agent = (before.agents.get agent).hearAll (told.noticesTo agent) := by
  rw [effect.agents, get_hearAll]

end Effect

/-! ### Telling a quiet agent -/

theorem perform_of_settles
    {outcome : Outcome}
    {answer : Command → Run (Option Reply)}
    {agent : Ref .agent}
    {script : Script AgentEntry Command (Option Reply)}
    (settles : script.Settles outcome)
    (store : Store) :
    script.perform (Run.recordAgent agent)
        (Run.look fun store => (store.agents.get agent).entries) answer store =
      some (outcome, store.modifyAgent agent fun record =>
        { record with entries := script.remember record.entries }) := by
  induction script generalizing store with
  | finish reached =>
      have untouched : (store.modifyAgent agent fun record =>
          { record with entries := record.entries }) = store := by
        unfold Store.modifyAgent
        rw [show (fun record : Agent => { record with entries := record.entries }) = id from rfl,
          Table.modify_id]
      rw [← settles]
      exact congrArg (fun left => some (reached, left)) untouched.symm
  | record entry next inductionHypothesis =>
      refine (inductionHypothesis settles _).trans ?_
      unfold Store.modifyAgent
      simp only [Table.modify_modify]
      rfl
  | review next inductionHypothesis =>
      refine (inductionHypothesis _ (settles _) store).trans ?_
      have agree : store.agents.modify agent (fun record => { record with
          entries := (next (store.agents.get agent).entries).remember record.entries }) =
          store.agents.modify agent (fun record => { record with
            entries := (Script.review next).remember record.entries }) :=
        Table.modify_congr fun _ => rfl
      unfold Store.modifyAgent
      rw [← agree]
  | ask request next => exact settles.elim

/-- An agent that gives no command records what it is told; that is all. -/
theorem tell_of_settles
    {store : Store}
    {agent : Ref .agent}
    {notice : Notice}
    {outcome : Outcome}
    (settles : ((store.agents.get agent).manner notice).Settles outcome)
    (inner : Entrances) :
    Delivery.tell inner agent notice store =
      some (outcome, store.modifyAgent agent (·.hear notice)) := by
  refine (perform_of_settles settles store).trans ?_
  have agree : store.agents.modify agent (fun record => { record with
      entries := ((store.agents.get agent).manner notice).remember record.entries }) =
      store.agents.modify agent (·.hear notice) :=
    Table.modify_congr fun _ => rfl
  unfold Store.modifyAgent
  rw [agree]

theorem shape_hear (store : Store) (agent : Ref .agent) (notice : Notice) :
    (store.modifyAgent agent (·.hear notice)).shape = store.shape := by
  have unseen : ∀ record : Agent, (record.hear notice).bare = record.bare := fun _ => rfl
  unfold Store.shape Store.modifyAgent
  rw [Table.map_modify unseen]

/-- A quiet agent that is told something accepts it and records it; that is all. -/
theorem tell_of_quiet
    {store : Store}
    {agent : Ref .agent}
    (quiet : (store.agents.get agent).manner.Quiet)
    (inner : Entrances)
    (notice : Notice) :
    ∃ after, Delivery.tell inner agent notice store = some (.ok (), after) ∧
      Effect [(agent, notice)] store after :=
  ⟨_, tell_of_settles (quiet notice) inner, shape_hear store agent notice, rfl⟩

/-! ### Calm stores -/

/-- Every agent accepts everything and gives no command, and every stage with a conduct
passes everything on. -/
structure Calm (store : Store) : Prop where
  agents : ∀ agent, (store.agents.get agent).manner.Quiet
  stages : ∀ stage conduct, (store.stages.get stage).role = .custom conduct →
    conduct.Transparent

namespace Calm

theorem of_kept
    {before after : Store}
    (calm : Calm before)
    (manners : ∀ agent, (after.agents.get agent).manner = (before.agents.get agent).manner)
    (stages : after.stages.map Stage.bare = before.stages.map Stage.bare) :
    Calm after where
  agents agent := by
    rw [manners]
    exact calm.agents agent
  stages stage conduct custom := by
    have bare : (after.stages.get stage).bare = (before.stages.get stage).bare := by
      rw [← Table.get_map Stage.bare_default, stages, Table.get_map Stage.bare_default]
    have roles : (after.stages.get stage).role.bare = (before.stages.get stage).role.bare := by
      have fields := congrArg Stage.role bare
      exact fields
    rw [← Role.bare_eq_custom_iff, roles, Role.bare_eq_custom_iff] at custom
    exact calm.stages stage conduct custom

theorem of_shape_eq
    {before after : Store}
    (same : after.shape = before.shape)
    (calm : Calm before) :
    Calm after := by
  have stages : after.stages.map Stage.bare = before.stages.map Stage.bare :=
    congrArg Store.stages same
  exact calm.of_kept (Store.manner_eq (Store.skeleton_eq_of_shape_eq same)) stages

theorem of_told
    {told : Told}
    {before after : Store}
    (calm : Calm before)
    (stages : after.stages.map Stage.bare = before.stages.map Stage.bare)
    (agents : after.agents = hearAll before.agents told) :
    Calm after := by
  refine calm.of_kept (fun agent => ?_) stages
  rw [agents, get_hearAll, Agent.manner_hearAll]

/-- In calm stores agents are told things, and that is all; if the rule is not for messages,
nobody is told of one. -/
def rule (forMessages : Prop) : TrafficRule where
  holds := Calm
  relates before after :=
    ∃ told, Effect told before after ∧ (forMessages ∨ told.Silent)
  refl store := ⟨[], Effect.refl store, Or.inr Told.silent_nil⟩
  trans := by
    intro first second third earlier later
    obtain ⟨toldFirst, effectFirst, silentFirst⟩ := earlier
    obtain ⟨toldSecond, effectSecond, silentSecond⟩ := later
    refine ⟨toldFirst ++ toldSecond, effectFirst.trans effectSecond, ?_⟩
    rcases silentFirst with given | silentFirst
    · exact Or.inl given
    · exact silentSecond.imp_right silentFirst.append
  keeps := by
    intro before after calm related
    obtain ⟨told, effect, _⟩ := related
    exact calm.of_shape_eq effect.shape
  forMessages := forMessages
  conducts calm custom := Or.inr (calm.stages _ _ custom)
  bookkeeping := by
    intro before after _ shape agents
    exact ⟨[], ⟨shape, agents⟩, Or.inr Told.silent_nil⟩

theorem governs_tell
    {forMessages : Prop}
    {notice : Notice}
    (admits : forMessages ∨ notice.carriesMessage = false)
    (inner : Entrances)
    (agent : Ref .agent) :
    (rule forMessages).Governs (Delivery.tell inner agent notice) := by
  intro before outcome after calm finished
  obtain ⟨left, told, effect⟩ := tell_of_quiet (calm.agents agent) inner notice
  rw [told] at finished
  cases finished
  refine ⟨_, effect, admits.imp_right fun silent => ?_⟩
  intro entry member
  rw [List.mem_singleton.mp member]
  exact silent

theorem surrounds_within (forMessages : Prop) (depth : Nat) :
    (rule forMessages).Surrounds (Entrances.within depth) := by
  -- A pipeline enters others one level deeper, so that the depth is what goes down.
  induction depth with
  | zero => exact ⟨fun agent notice admits => governs_tell admits _ agent, fun _ _ => Rule.none⟩
  | succ depth inductionHypothesis =>
      refine ⟨fun agent notice admits => governs_tell admits _ agent, fun journey admits => ?_⟩
      exact TrafficRule.governs_travel inductionHypothesis journey admits

/-- As nodes join and leave clusters in calm stores, nobody is told of a message. -/
def lifecycleRule : LifecycleRule where
  toTrafficRule := rule False
  shape related := by
    obtain ⟨told, effect, _⟩ := related
    exact effect.shape
  concludes before after := ∃ told, told.Silent ∧
    after.stages.map Stage.bare = before.stages.map Stage.bare ∧
    after.agents = hearAll before.agents told
  concludes_of_relates related := by
    obtain ⟨told, effect, silent⟩ := related
    refine ⟨told, silent.resolve_left id, ?_, effect.agents⟩
    have tables := congrArg Store.stages effect.shape
    exact tables
  concludes_trans := by
    intro first second third earlier later
    obtain ⟨toldFirst, silentFirst, stagesFirst, agentsFirst⟩ := earlier
    obtain ⟨toldSecond, silentSecond, stagesSecond, agentsSecond⟩ := later
    refine ⟨toldFirst ++ toldSecond, silentFirst.append silentSecond,
      stagesSecond.trans stagesFirst, ?_⟩
    rw [agentsSecond, agentsFirst, hearAll_append]
  concludes_of_change stages agents :=
    ⟨[], Told.silent_nil, congrArg (Table.map · Stage.bare) stages, agents⟩
  keeps_concludes := by
    intro before after calm related
    obtain ⟨told, _, stages, agents⟩ := related
    exact Calm.of_told calm stages agents

end Calm

end ChannelMux
