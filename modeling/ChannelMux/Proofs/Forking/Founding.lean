import ChannelMux.Proofs.Forking.Soundness

/-!
Contract: building a fork keeps a registry sound.

Owns what is to be found in a store in which a fork has just been built: the one
demultiplexer, the stack that the group had or that is founded on the plan, and under each
member the fork that lasts. Nobody who lasts loses a place by it, since the place that the
new fork takes is free.
-/

namespace ChannelMux.Store

namespace Builds

variable {before after : Store} {plan : ForkPlan} {node : Ref .node} {group member : String}
  {hub : Ref .stage} {stack : Ref .stack} {fork : Ref .fork} {built : List ForkPlan}

theorem nodesKept (builds : Builds before after plan node group member hub stack fork) :
    Table.Keeps Node.pipeline before.nodes after.nodes := by
  rw [builds.nodes]
  apply Table.keeps_modify Node.pipeline
  intro _
  rfl

theorem nodePipeline (builds : Builds before after plan node group member hub stack fork)
    (issued : before.nodes.Issued node) :
    (after.nodes.get node).pipeline = (before.nodes.get node).pipeline :=
  (builds.nodesKept node issued).2

/-- A stage that there was keeps its role, unless it is the demultiplexer. -/
theorem role_eq (builds : Builds before after plan node group member hub stack fork)
    {stage : Ref .stage}
    (issued : before.stages.Issued stage)
    (notHub : (before.demultiplexer? stage).isSome = false ∨ stage ≠ hub) :
    (after.stages.get stage).role = (before.stages.get stage).role := by
  have other : stage ≠ hub := by
    rcases notHub with notHub | other
    · intro same
      subst same
      cases builds.splicesHub with
      | found atHub _ =>
          have isHub := List.find?_some atHub
          exact Bool.false_ne_true (notHub.symm.trans isHub)
      | inserted _ new _ _ _ => exact new issued
    · exact other
  rw [(builds.stages stage issued).2 other]

theorem isSome_demultiplexer?_eq
    (builds : Builds before after plan node group member hub stack fork)
    {stage : Ref .stage}
    (issued : before.stages.Issued stage) :
    (after.demultiplexer? stage).isSome = (before.demultiplexer? stage).isSome := by
  cases isHub : (before.demultiplexer? stage).isSome with
  | false =>
      rw [Store.isSome_demultiplexer?, builds.role_eq issued (Or.inl isHub),
        ← Store.isSome_demultiplexer?]
      exact isHub
  | true =>
      by_cases same : stage = hub
      · rw [same]
        have atHub := List.find?_some builds.atHub
        exact atHub
      · rw [Store.isSome_demultiplexer?, builds.role_eq issued (Or.inr same),
          ← Store.isSome_demultiplexer?]
        exact isHub

/-- Where there was no demultiplexer there is one. -/
theorem length_hubsOf_le (builds : Builds before after plan node group member hub stack fork)
    (grounded : before.Grounded node)
    (oneHub : (before.hubsOf (before.nodes.get node).pipeline).length ≤ 1) :
    (after.hubsOf (before.nodes.get node).pipeline).length ≤ 1 := by
  have sameHubs : (before.stagesOf (before.nodes.get node).pipeline).filter
      (fun stage => (after.demultiplexer? stage).isSome) =
      before.hubsOf (before.nodes.get node).pipeline := by
    apply List.filter_congr
    intro stage layer
    exact builds.isSome_demultiplexer?_eq (grounded.layers stage layer)
  unfold hubsOf
  cases builds.splicesHub with
  | found _ same =>
      rw [same, sameHubs]
      exact oneHub
  | inserted unfound _ index placed same =>
      have noHub : before.hubsOf (before.nodes.get node).pipeline = [] := by
        rw [← List.head?_eq_none_iff, ← hub?_eq_head?]
        exact unfound
      have within := index?_le placed
      rw [stageNames, List.length_map] at within
      have onlyNew := ((List.perm_insertIdx hub _ within).filter
        fun stage => (after.demultiplexer? stage).isSome).length_eq
      rw [same, onlyNew, List.filter_cons, sameHubs, noHub]
      split
      · exact Nat.le_refl _
      · exact Nat.zero_le _

/-- A demultiplexer that is new has had no groups. -/
theorem stackOf?_before (builds : Builds before after plan node group member hub stack fork)
    (name : String) :
    Delivery.stackOf? before hub name = before.groupStack? node name := by
  unfold groupStack? hub?
  cases builds.splicesHub with
  | found atHub _ => rw [atHub]
                     rfl
  | inserted unfound new _ _ _ =>
      rw [unfound, stackOf?_eq_bind, Table.get_of_not_issued new]
      rfl

/-- The group has its stack, and the others have those that they had. -/
theorem groupStack?_eq (builds : Builds before after plan node group member hub stack fork)
    (name : String) :
    after.groupStack? node name =
      if name = group then some stack else before.groupStack? node name := by
  rw [← builds.stackOf?_before, ← builds.registry]
  unfold groupStack?
  rw [builds.atHub]
  rfl

theorem grounded (builds : Builds before after plan node group member hub stack fork)
    (grounded : before.Grounded node) :
    after.Grounded node := by
  have issued := (builds.nodesKept node grounded.issued).1
  refine ⟨issued, ?_, ?_, ?_⟩
  · rw [builds.nodePipeline grounded.issued]
    exact (builds.pipelines _ grounded.pipeline).1
  · rw [builds.nodePipeline grounded.issued]
    intro stage layer
    have kept (old : Ref .stage)
        (layer : old ∈ before.stagesOf (before.nodes.get node).pipeline) :
        after.stages.Issued old := (builds.stages old (grounded.layers old layer)).1
    cases builds.splicesHub with
    | found _ same =>
        rw [same] at layer
        exact kept stage layer
    | inserted _ _ index _ same =>
        rw [same] at layer
        rcases List.eq_or_mem_of_mem_insertIdx layer with new | old
        · rw [new]
          exact issued_of_isSome_demultiplexer? (mem_of_hub? builds.atHub).2
        · exact kept stage old
  · intro found name registered atFound isRegistered
    have lookup := groupStack?_eq_some_iff.mpr ⟨found, atFound, isRegistered⟩
    rw [builds.groupStack?_eq] at lookup
    split at lookup
    · cases lookup
      exact builds.issued
    · obtain ⟨hubBefore, atHub, registeredBefore⟩ := groupStack?_eq_some_iff.mp lookup
      exact (builds.groups registered
        (grounded.registered hubBefore name registered atHub registeredBefore)).1

section Sound

variable (builds : Builds before after plan node group member hub stack fork)
  (sound : before.Sound node built)

include builds sound

omit sound in
/-- The group had the stack, or none. -/
theorem groupStack?_before :
    before.groupStack? node group = some stack ∨
      before.groupStack? node group = none ∧ ¬ before.groups.Issued stack := by
  rw [← builds.stackOf?_before]
  cases builds.splicesStack with
  | found registered _ => exact Or.inl registered
  | made unregistered new => exact Or.inr ⟨unregistered, new⟩

omit sound in
theorem eq_of_registered
    {other : Ref .stack}
    (registered : before.groupStack? node group = some other) :
    other = stack := by
  rcases builds.groupStack?_before with same | ⟨none, _⟩
  · rw [same] at registered
    exact (Option.some.inj registered).symm
  · rw [none] at registered
    cases registered

/-- The stack of another group is as it was. -/
theorem stack_eq_of_ne
    {name : String}
    {other : Ref .stack}
    (registered : before.groupStack? node name = some other)
    (different : name ≠ group) :
    after.groups.get other = before.groups.get other := by
  have issued := sound.grounded.stack_issued_of_registered registered
  refine (builds.groups other issued).2 ?_
  intro same
  subst same
  rcases builds.groupStack?_before with ofGroup | ⟨_, new⟩
  · have isName := (sound.founded name other registered).named
    have isGroup := (sound.founded group other ofGroup).named
    exact different (isName.symm.trans isGroup)
  · exact new issued

/-- A stack keeps its group and its private pipeline. -/
theorem tie_eq
    {name : String}
    {other : Ref .stack}
    (registered : before.groupStack? node name = some other) :
    (after.groups.get other).group = (before.groups.get other).group ∧
      (after.groups.get other).pipeline = (before.groups.get other).pipeline := by
  by_cases same : name = group
  · subst same
    have isStack := builds.eq_of_registered registered
    subst isStack
    have issued := sound.grounded.stack_issued_of_registered registered
    rw [builds.oldStack issued]
    exact ⟨rfl, rfl⟩
  · rw [builds.stack_eq_of_ne sound registered same]
    exact ⟨rfl, rfl⟩

theorem privateStages_eq
    {name : String}
    {other : Ref .stack}
    (registered : before.groupStack? node name = some other) :
    after.privateStages other = before.privateStages other := by
  have founded := sound.founded name other registered
  unfold privateStages stagesOf
  rw [(builds.tie_eq sound registered).2,
    (builds.pipelines _ founded.pipeline).2 founded.apart]

theorem founded_of_registered
    {name : String}
    {other : Ref .stack}
    (registered : before.groupStack? node name = some other) :
    after.Founded node (built ++ [plan]) name other := by
  have founded := sound.founded name other registered
  obtain ⟨sameGroup, samePipeline⟩ := builds.tie_eq sound registered
  obtain ⟨first, bottom, top, isPlan, stages, bottomIssued, bottomRole, topIssued, topRole⟩ :=
    founded.plan
  have bottomNoHub : (before.demultiplexer? bottom).isSome = false := by
    rw [Store.isSome_demultiplexer?, bottomRole]
    rfl
  have topNoHub : (before.demultiplexer? top).isSome = false := by
    rw [Store.isSome_demultiplexer?, topRole]
    rfl
  refine ⟨?_, ?_, ?_, first, bottom, top, ?_, ?_, (builds.stages bottom bottomIssued).1, ?_,
    (builds.stages top topIssued).1, ?_⟩
  · rw [sameGroup, founded.named]
  · rw [samePipeline]
    exact (builds.pipelines _ founded.pipeline).1
  · rw [samePipeline, builds.nodePipeline sound.grounded.issued]
    exact founded.apart
  · unfold foundingPlan? at isPlan ⊢
    rw [List.find?_append, isPlan]
    rfl
  · rw [builds.privateStages_eq sound registered, stages]
  · rw [builds.role_eq bottomIssued (Or.inl bottomNoHub), bottomRole]
  · rw [builds.role_eq topIssued (Or.inl topNoHub), topRole]

theorem founded_of_made
    (isGroup : plan.group? = some group)
    (unregistered : before.groupStack? node group = none) :
    after.Founded node (built ++ [plan]) group stack := by
  have unplanned : foundingPlan? built group = none := by
    unfold foundingPlan?
    rw [List.find?_eq_none]
    intro other listed ofGroup
    have known := (sound.known group).mpr ⟨other, listed, of_decide_eq_true ofGroup⟩
    rw [unregistered] at known
    cases known
  cases builds.splicesStack with
  | found registered _ =>
      rw [builds.stackOf?_before, unregistered] at registered
      cases registered
  | made _ _ _ named newPipeline bottom top layers bottomNew topNew bottomRole topRole =>
      have newIssued : after.pipelines.Issued (after.groups.get stack).pipeline := by
        by_contra notIssued
        unfold stagesOf at layers
        rw [Table.get_of_not_issued notIssued] at layers
        cases layers
      refine ⟨named, newIssued, ?_, plan, bottom, top, ?_, layers, bottomNew.2, bottomRole,
        topNew.2, topRole⟩
      · intro same
        rw [builds.nodePipeline sound.grounded.issued] at same
        rw [same] at newPipeline
        exact newPipeline sound.grounded.pipeline
      · unfold foundingPlan? at unplanned ⊢
        rw [List.find?_append, unplanned]
        simp [isGroup]

theorem founded_after
    (isGroup : plan.group? = some group)
    {name : String}
    {other : Ref .stack}
    (registered : after.groupStack? node name = some other) :
    after.Founded node (built ++ [plan]) name other := by
  rw [builds.groupStack?_eq] at registered
  split at registered
  · rename_i same
    subst same
    cases registered
    rcases builds.groupStack?_before with was | ⟨none, _⟩
    · exact builds.founded_of_registered sound was
    · exact builds.founded_of_made sound isGroup none
  · exact builds.founded_of_registered sound registered

theorem known_after (isGroup : plan.group? = some group) (name : String) :
    (after.groupStack? node name).isSome ↔
      ∃ other ∈ built ++ [plan], other.group? = some name := by
  have known := sound.known name
  rw [builds.groupStack?_eq]
  split
  · rename_i same
    simp only [Option.isSome_some, true_iff]
    exact ⟨plan, List.mem_append_right _ List.mem_cons_self, same ▸ isGroup⟩
  · rename_i different
    have notThis : ¬ plan.group? = some name := by
      rw [isGroup]
      exact fun same => different (Option.some.inj same).symm
    simp [known, or_and_right, exists_or, notThis]

omit sound in
theorem fork_eq {other : Ref .fork} (issued : before.forks.Issued other) :
    after.forks.get other = before.forks.get other := by
  rw [builds.forks]
  exact Table.get_add_of_issued issued _

omit sound in
theorem fork_new :
    (after.forks.get fork).node = node ∧ (after.forks.get fork).group = group ∧
      (after.forks.get fork).member = member ∧ (after.forks.get fork).stack = stack := by
  rw [builds.forks, builds.isNext, Table.get_add_next]
  exact ⟨rfl, rfl, rfl, rfl⟩

omit sound in
theorem issued_fork {other : Ref .fork} :
    after.forks.Issued other ↔ before.forks.Issued other ∨ other = fork := by
  rw [builds.forks, builds.isNext]
  exact Table.issued_add

omit sound in
theorem isForkAlive_eq (other : Ref .fork) :
    after.isForkAlive other = before.isForkAlive other := by
  unfold isForkAlive
  rw [builds.forks]
  exact Table.isNamed_add _ _ _

omit sound in
/-- The fork that is built is held in its stack. -/
theorem held_new : after.IsHeld fork := by
  obtain ⟨_, _, asMember, inStack⟩ := builds.fork_new
  unfold IsHeld
  rw [asMember, inStack, builds.members]
  exact Registry.get?_put_self _ _ _

theorem forks_after
    {other : Ref .fork}
    (issued : after.forks.Issued other)
    (onNode : (after.forks.get other).node = node) :
    after.groupStack? node (after.forks.get other).group =
      some (after.forks.get other).stack := by
  rcases builds.issued_fork.mp issued with was | new
  · rw [builds.fork_eq was] at onNode ⊢
    have inStack := sound.forks other was onNode
    rw [builds.groupStack?_eq]
    split
    · rename_i same
      rw [same] at inStack
      rw [builds.eq_of_registered inStack]
    · exact inStack
  · subst new
    obtain ⟨_, ofGroup, _, inStack⟩ := builds.fork_new
    rw [builds.groupStack?_eq, ofGroup, inStack, if_pos rfl]

theorem held_after
    {other : Ref .fork}
    (alive : after.isForkAlive other = true)
    (onNode : (after.forks.get other).node = node) :
    after.IsHeld other := by
  rw [builds.isForkAlive_eq] at alive
  have was := Table.issued_of_isNamed alive
  rw [builds.fork_eq was] at onNode
  have held := sound.held other alive onNode
  have inStack := sound.forks other was onNode
  unfold IsHeld at held ⊢
  rw [builds.fork_eq was]
  by_cases same : (before.forks.get other).group = group
  · rw [same] at inStack
    have isStack := builds.eq_of_registered inStack
    rw [isStack] at held ⊢
    -- The place that the new fork takes is not that of a fork that lasts.
    have different : (before.forks.get other).member ≠ member := by
      intro sameMember
      have free := builds.free
      rw [sameMember] at held
      rw [liveMember?_eq_some_iff.mpr ⟨held, alive⟩] at free
      cases free
    rw [builds.members, Registry.get?_put_of_ne different]
    exact held
  · rw [builds.stack_eq_of_ne sound inStack same]
    exact held

theorem members_after
    {name : String}
    {other : Ref .stack}
    (registered : after.groupStack? node name = some other)
    {label : String}
    {held : Ref .fork}
    (isHeld : (after.groups.get other).members.get? label = some held) :
    after.forks.Issued held ∧ (after.forks.get held).node = node ∧
      (after.forks.get held).group = name ∧ (after.forks.get held).member = label := by
  have kept (registeredBefore : before.groupStack? node name = some other)
      (heldBefore : (before.groups.get other).members.get? label = some held) :
      after.forks.Issued held ∧ (after.forks.get held).node = node ∧
        (after.forks.get held).group = name ∧ (after.forks.get held).member = label := by
    obtain ⟨was, facts⟩ := sound.members name other registeredBefore label held heldBefore
    rw [builds.fork_eq was]
    exact ⟨builds.issued_fork.mpr (Or.inl was), facts⟩
  rw [builds.groupStack?_eq] at registered
  split at registered
  · rename_i same
    subst same
    cases registered
    rw [builds.members] at isHeld
    by_cases sameMember : label = member
    · subst sameMember
      rw [Registry.get?_put_self] at isHeld
      cases isHeld
      obtain ⟨onNode, ofGroup, asMember, _⟩ := builds.fork_new
      exact ⟨builds.issued_fork.mpr (Or.inr rfl), onNode, ofGroup, asMember⟩
    · rw [Registry.get?_put_of_ne sameMember] at isHeld
      rcases builds.groupStack?_before with was | ⟨_, new⟩
      · exact kept was isHeld
      · rw [Table.get_of_not_issued new] at isHeld
        cases isHeld
  · rename_i different
    rw [builds.stack_eq_of_ne sound registered different] at isHeld
    exact kept registered isHeld

/-- Building a fork keeps a registry sound. -/
theorem sound_after (isGroup : plan.group? = some group) :
    after.Sound node (built ++ [plan]) where
  grounded := builds.grounded sound.grounded
  oneHub := by
    rw [builds.nodePipeline sound.grounded.issued]
    exact builds.length_hubsOf_le sound.grounded sound.oneHub
  founded _ _ registered := builds.founded_after sound isGroup registered
  known := builds.known_after sound isGroup
  forks _ issued onNode := builds.forks_after sound issued onNode
  held _ alive onNode := builds.held_after sound alive onNode
  members _ _ registered _ _ held := builds.members_after sound registered held

theorem persists : Persists before after node where
  hub found atHub := by
    cases builds.splicesHub with
    | found isHub _ =>
        have same : some hub = some found := isHub.symm.trans atHub
        rw [← same]
        exact builds.atHub
    | inserted unfound _ _ _ _ =>
        have same : none = some found := unfound.symm.trans atHub
        cases same
  groupStack name other registered := by
    rw [builds.groupStack?_eq]
    split
    · rename_i same
      subst same
      rw [builds.eq_of_registered registered]
    · exact registered
  stages name other registered := builds.privateStages_eq sound registered

end Sound

end Builds

end ChannelMux.Store
