import ChannelMux.Proofs.Forking.Founding

/-!
Contract: whatever is dealt with a node, its registry is kept.

Owns that every dealing keeps the registry of a node sound and lets its demultiplexer and
stacks persist, and what is to be read off them after any dealings with a node that was
vacant.
-/

namespace ChannelMux

namespace Store

theorem Persists.refl (store : Store) (node : Ref .node) : Persists store store node where
  hub _ atHub := atHub
  groupStack _ _ registered := registered
  stages _ _ _ := rfl

theorem Persists.trans
    {before between after : Store}
    {node : Ref .node}
    (first : Persists before between node)
    (second : Persists between after node) :
    Persists before after node where
  hub hub atHub := second.hub hub (first.hub hub atHub)
  groupStack group stack registered :=
    second.groupStack group stack (first.groupStack group stack registered)
  stages group stack registered :=
    (second.stages group stack (first.groupStack group stack registered)).trans
      (first.stages group stack registered)

/-- A fork that is built and known by a name keeps a registry sound. -/
theorem sound_build
    {store built : Store}
    {node : Ref .node}
    {plans : List ForkPlan}
    {plan : ForkPlan}
    {fork : Ref .fork}
    (sound : store.Sound node plans)
    (forNode : plan.node? = none ∨ plan.node? = some node)
    (result : store.buildFork plan = .ok (fork, built))
    (label : String) :
    (built.nameFork fork label).Sound node (plans ++ [plan]) ∧
      Persists store (built.nameFork fork label) node := by
  have grounded (given : Ref .node) (isGiven : plan.node? = some given) :
      store.Grounded given := by
    rcases forNode with none | same
    · rw [none] at isGiven
      cases isGiven
    · rw [same] at isGiven
      cases isGiven
      exact sound.grounded
  obtain ⟨given, group, member, hub, stack, isGiven, isGroup, _, _, _, builds⟩ :=
    builds_of_buildFork grounded result
  have isNode : given = node := by
    rcases forNode with none | same
    · rw [none] at isGiven
      cases isGiven
    · exact Option.some.inj (isGiven.symm.trans same)
  subst isNode
  have soundBuilt := builds.sound_after sound isGroup
  have leaves := leavesRegistry_nameFork soundBuilt.grounded
    (builds.issued_fork.mpr (Or.inr rfl)) (Or.inr builds.held_new) label
  exact ⟨leaves.sound soundBuilt, (builds.persists sound).trans (leaves.persists soundBuilt)⟩

end Store

namespace Chronicle

variable {node : Ref .node} {chronicle after : Chronicle}

/-- Every dealing keeps the registry sound, and what is registered persists. -/
theorem sound_deal
    {dealing : Dealing}
    (sound : chronicle.store.Sound node chronicle.built)
    (dealt : chronicle.deal? node dealing = some after) :
    after.store.Sound node after.built ∧
      Store.Persists chronicle.store after.store node := by
  cases dealing with
  | make stage =>
      cases dealt
      have leaves := Store.leavesRegistry_addStage sound.grounded stage
      exact ⟨leaves.sound sound, leaves.persists sound⟩
  | insert stage placement =>
      simp only [deal?] at dealt
      split at dealt
      · rename_i fit
        unfold Store.insertStage at dealt
        cases placed : chronicle.store.insertionIndex
            (chronicle.store.nodes.get node).pipeline placement with
        | error refusal =>
            rw [placed] at dealt
            cases dealt
            exact ⟨sound, Store.Persists.refl _ _⟩
        | ok index =>
            rw [placed] at dealt
            cases dealt
            have leaves := Store.leavesRegistry_insertAt sound.grounded fit.1 fit.2 index
            exact ⟨leaves.sound sound, leaves.persists sound⟩
      · cases dealt
  | build plan label =>
      simp only [deal?] at dealt
      split at dealt
      · rename_i forNode
        rw [Store.buildForkInPlace_eq] at dealt
        cases result : chronicle.store.buildFork plan with
        | error refusal =>
            rw [result] at dealt
            cases dealt
            exact ⟨sound, Store.Persists.refl _ _⟩
        | ok made =>
            rw [result] at dealt
            cases dealt
            exact Store.sound_build sound forNode result label
      · cases dealt
  | hold fork label =>
      simp only [deal?] at dealt
      split at dealt
      · rename_i alive
        cases dealt
        have leaves := Store.leavesRegistry_nameFork sound.grounded
          (Table.issued_of_isNamed alive) (Or.inl alive) label
        exact ⟨leaves.sound sound, leaves.persists sound⟩
      · cases dealt
  | drop label =>
      cases dealt
      have leaves := Store.leavesRegistry_dropFork sound.grounded label
      exact ⟨leaves.sound sound, leaves.persists sound⟩

theorem sound_follow
    {dealings : List Dealing}
    (sound : chronicle.store.Sound node chronicle.built)
    (followed : chronicle.follow? node dealings = some after) :
    after.store.Sound node after.built ∧
      Store.Persists chronicle.store after.store node := by
  induction dealings generalizing chronicle with
  | nil =>
      cases followed
      exact ⟨sound, Store.Persists.refl _ _⟩
  | cons dealing rest inductionHypothesis =>
      obtain ⟨between, dealt, followedOn⟩ := Option.bind_eq_some_iff.mp followed
      obtain ⟨soundBetween, persists⟩ := sound_deal sound dealt
      obtain ⟨soundAfter, persistsOn⟩ := inductionHypothesis soundBetween followedOn
      exact ⟨soundAfter, persists.trans persistsOn⟩

/-- Whatever is dealt with a node that was vacant, its demultiplexer, the stacks of its groups
and their members are in keeping with what was built and with what lasts; and what is
registered persists whatever is dealt later. -/
theorem follow_keepsRegistry
    {store : Store}
    (vacant : store.Vacant node)
    {dealings : List Dealing}
    (followed : follow? node ⟨store, []⟩ dealings = some chronicle) :
    chronicle.store.KeepsRegistry node chronicle.built ∧
    ∀ later after, chronicle.follow? node later = some after →
      Store.Persists chronicle.store after.store node := by
  have start : (Chronicle.mk store []).store.Sound node [] := vacant.sound
  obtain ⟨sound, _⟩ := sound_follow start followed
  exact ⟨sound.keepsRegistry, fun _ _ followedOn => (sound_follow sound followedOn).2⟩

/-- A fork is built, another one for its member is refused, and once it is let go of a third
one takes its place; so does one of another group. A stage that is merely called as
demultiplexers are is inserted in between. -/
def affairs : List Dealing :=
  [.build Store.firstPlan "first", .make { name := "FORK", role := .custom .transparent },
    .insert ⟨3⟩ {}, .build Store.firstPlan "second", .drop "first",
    .build Store.firstPlan "third",
    .build { Store.firstPlan with group? := some "e", stages := [⟨3⟩] } "fourth"]

theorem follow_keepsRegistry_affairs :
    ∃ chronicle, follow? ⟨0⟩ ⟨Store.vacant, []⟩ affairs = some chronicle ∧
      chronicle.store.KeepsRegistry ⟨0⟩ chronicle.built ∧
      chronicle.store.groupNames ⟨0⟩ = ["e", "g"] ∧
      chronicle.store.liveMember? ⟨0⟩ "m" = some ⟨1⟩ ∧
      (∀ later after, chronicle.follow? ⟨0⟩ later = some after →
        chronicle.store.Persists after.store ⟨0⟩) := by
  have vacant : Store.vacant.Vacant ⟨0⟩ :=
    Store.vacant_addNode (by simp) (fun _ issued => absurd issued (Nat.not_lt_zero _))
  obtain ⟨chronicle, followed⟩ := Option.isSome_iff_exists.mp
    (by decide +kernel : (follow? ⟨0⟩ ⟨Store.vacant, []⟩ affairs).isSome = true)
  obtain ⟨keeps, persists⟩ := follow_keepsRegistry vacant followed
  have shown : (follow? ⟨0⟩ ⟨Store.vacant, []⟩ affairs).map (fun chronicle =>
      (chronicle.store.groupNames ⟨0⟩, chronicle.store.liveMember? ⟨0⟩ "m")) =
        some (["e", "g"], some ⟨1⟩) := by decide +kernel
  rw [followed] at shown
  have pair := Option.some.inj shown
  exact ⟨chronicle, followed, keeps, congrArg Prod.fst pair, congrArg Prod.snd pair, persists⟩

end Chronicle

end ChannelMux
