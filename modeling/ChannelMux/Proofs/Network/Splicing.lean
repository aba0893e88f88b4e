import Mathlib.Data.List.InsertIdx
import ChannelMux.Proofs.Network.Growth
import ChannelMux.Proofs.Registry

/-!
Contract: single splices into the pipeline of a node keep everything wired.

Owns what making a stage or a stack, inserting a stage that may be inserted and registering
a stack do to the wiring.

Does not own the finding or making of what is spliced in.
-/

namespace ChannelMux.Store

/-! ### Single additions -/

theorem Growth.refl (store : Store) : Growth store store where
  pipelines := Table.Keeps.refl _ _
  stages := Table.Keeps.refl _ _
  groups := Table.Keeps.refl _ _
  newGroups _ issued := Or.inl issued
  nodes := Table.Keeps.refl _ _
  noNewNodes _ issued := issued
  tokens _ := Nat.le_refl _
  forks := Table.Keeps.refl _ _
  noNewForks _ issued := issued
  subscribed _ _ _ listens := listens
  alive _ alive := Or.inl alive
  listening _ _ _ _ _ _ _ listens := listens

theorem growth_addStage (store : Store) (stage : Stage) :
    Growth store (store.addStage stage).2 :=
  { Growth.refl store with stages := Table.keeps_add _ _ _ }

theorem growth_makeStack (store : Store) (shared : Ref .pipeline) (hub : Ref .stage)
    (group : String) (stages : List (Ref .stage)) :
    Growth store (store.makeStack shared hub group stages).2 :=
  { Growth.refl store with
    pipelines := Table.keeps_add _ _ _
    stages := (Table.keeps_add _ _ _).trans (Table.keeps_add _ _ _)
    groups := Table.keeps_add _ _ _
    newGroups := by
      intro stack issued
      refine (Table.issued_add.mp issued).imp_right ?_
      intro new
      rw [new]
      exact congrArg GroupStack.members (Table.get_add_next _ _) }

/-! ### Inserting a stage -/

theorem find?_insertIdx_of_not
    {α : Type}
    (property : α → Bool)
    {item : α}
    (without : property item = false)
    (index : Nat)
    (items : List α) :
    (items.insertIdx index item).find? property = items.find? property := by
  induction items generalizing index with
  | nil =>
      cases index with
      | zero => simp [without]
      | succ index => rfl
  | cons head tail inductionHypothesis =>
      cases index with
      | zero => simp [List.find?_cons, without]
      | succ index =>
          rw [List.insertIdx_succ_cons, List.find?_cons, List.find?_cons, inductionHypothesis]

theorem find?_insertIdx_of_none
    {α : Type}
    (property : α → Bool)
    {item : α}
    (having : property item = true)
    {index : Nat}
    {items : List α}
    (within : index ≤ items.length)
    (none : items.find? property = none) :
    (items.insertIdx index item).find? property = some item := by
  induction items generalizing index with
  | nil =>
      cases Nat.le_zero.mp within
      simp [having]
  | cons head tail inductionHypothesis =>
      cases index with
      | zero => simp [having]
      | succ index =>
          rw [List.find?_cons] at none
          split at none
          · cases none
          · rename_i without
            rw [List.insertIdx_succ_cons, List.find?_cons, without]
            exact inductionHypothesis (Nat.le_of_succ_le_succ within) none

/-- A stage may be inserted into a shared pipeline: it is custom, or a new demultiplexer
without groups for a pipeline that has none. -/
structure Insertable (store : Store) (pipeline : Ref .pipeline) (stage : Ref .stage) :
    Prop where
  layer : store.IsCustom stage ∨ (store.demultiplexer? stage).isSome
  alone : (store.demultiplexer? stage).isSome → store.findDemultiplexer? pipeline = none
  empty : ∀ group, Delivery.stackOf? store stage group = none
  elsewhere : ∀ node, store.nodes.Issued node → store.hub? node ≠ some stage

theorem insertable_of_isCustom
    {store : Store}
    {stage : Ref .stage}
    (custom : store.IsCustom stage)
    (pipeline : Ref .pipeline) :
    Insertable store pipeline stage := by
  obtain ⟨conduct, role⟩ := custom
  have none : (store.demultiplexer? stage).isSome = false := by
    rw [isSome_demultiplexer?, role]
    rfl
  refine ⟨Or.inl ⟨conduct, role⟩, ?_, ?_, ?_⟩
  · intro some
    rw [none] at some
    cases some
  · intro group
    rw [stackOf?_eq_bind, role]
    rfl
  · intro node _ found
    rw [(mem_of_hub? found).2] at none
    cases none

section Insertion

variable {store : Store} {node : Ref .node} {stage : Ref .stage} {index : Nat}

theorem stagesOf_insertAt_self
    {pipeline : Ref .pipeline}
    (issued : store.pipelines.Issued pipeline) :
    (store.insertAt pipeline index stage).stagesOf pipeline =
      (store.stagesOf pipeline).insertIdx index stage := by
  unfold stagesOf insertAt modifyPipeline
  rw [Table.get_modify_self issued]

theorem stagesOf_insertAt_of_ne
    {pipeline other : Ref .pipeline}
    (different : other ≠ pipeline) :
    (store.insertAt pipeline index stage).stagesOf other = store.stagesOf other := by
  unfold stagesOf insertAt modifyPipeline
  rw [Table.get_modify_of_ne different]

/-- After an insertion a pipeline has its demultiplexer or the inserted one. -/
theorem findDemultiplexer?_insertAt
    {pipeline other : Ref .pipeline}
    {hub : Ref .stage}
    (issued : store.pipelines.Issued pipeline)
    (insertable : Insertable store pipeline stage)
    (found : (store.insertAt pipeline index stage).findDemultiplexer? other = some hub) :
    store.findDemultiplexer? other = some hub ∨ other = pipeline ∧ hub = stage := by
  change ((store.insertAt pipeline index stage).stagesOf other).find?
    (fun layer => (store.demultiplexer? layer).isSome) = some hub at found
  by_cases same : other = pipeline
  · subst same
    rw [stagesOf_insertAt_self issued] at found
    cases demultiplexer : (store.demultiplexer? stage).isSome with
    | false =>
        rw [find?_insertIdx_of_not
          (fun layer => (store.demultiplexer? layer).isSome) demultiplexer] at found
        exact Or.inl found
    | true =>
        -- A demultiplexer is inserted only where there is none yet.
        have noneBefore := List.find?_eq_none.mp (insertable.alone demultiplexer)
        rcases List.eq_or_mem_of_mem_insertIdx (List.mem_of_find?_eq_some found) with new | old
        · exact Or.inr ⟨rfl, new⟩
        · exact absurd (List.find?_some found) (noneBefore hub old)
  · rw [stagesOf_insertAt_of_ne same] at found
    exact Or.inl found

theorem findDemultiplexer?_insertAt_of_some
    {pipeline other : Ref .pipeline}
    {hub : Ref .stage}
    (issued : store.pipelines.Issued pipeline)
    (insertable : Insertable store pipeline stage)
    (found : store.findDemultiplexer? other = some hub) :
    (store.insertAt pipeline index stage).findDemultiplexer? other = some hub := by
  change ((store.insertAt pipeline index stage).stagesOf other).find?
    (fun layer => (store.demultiplexer? layer).isSome) = some hub
  by_cases same : other = pipeline
  · subst same
    rw [stagesOf_insertAt_self issued]
    cases demultiplexer : (store.demultiplexer? stage).isSome with
    | false =>
        rw [find?_insertIdx_of_not (fun layer => (store.demultiplexer? layer).isSome) demultiplexer]
        exact found
    | true =>
        rw [insertable.alone demultiplexer] at found
        cases found
  · rw [stagesOf_insertAt_of_ne same]
    exact found

variable (wired : store.Wired) (nodeIssued : store.nodes.Issued node)
  (insertable : Insertable store (store.nodes.get node).pipeline stage)

include wired nodeIssued insertable

theorem extends_insertAt :
    Extends store (store.insertAt (store.nodes.get node).pipeline index stage) where
  pipelines := by
    apply Table.keeps_modify
    intro record
    rfl
  stages layer issued := ⟨issued, RoleKept.refl _⟩
  groups := Table.Keeps.refl _ _
  privateStages := by
    intro shared hub group stack stackWired
    apply stagesOf_insertAt_of_ne
    intro same
    have outlet := stackWired.outlet
    rw [same, (wired.nodes node nodeIssued).outlet] at outlet
    cases outlet
  nodes := Table.Keeps.refl _ _
  tokens _ _ := Nat.le_refl _
  hubs other hub _ found :=
    findDemultiplexer?_insertAt_of_some (wired.nodes node nodeIssued).pipeline insertable found
  forks := Table.Keeps.refl _ _

/-- Inserting a stage that may be inserted keeps everything wired. -/
theorem wired_insertAt :
    (store.insertAt (store.nodes.get node).pipeline index stage).Wired := by
  have extended :
      Extends store (store.insertAt (store.nodes.get node).pipeline index stage) :=
    extends_insertAt wired nodeIssued insertable
  have pipelineIssued := (wired.nodes node nodeIssued).pipeline
  refine ⟨?_, ?_, ?_, wired.members, wired.tokens, ?_⟩
  · intro other otherIssued
    have before := wired.nodes other otherIssued
    obtain ⟨stillIssued, sameOutlet⟩ := extended.pipelines _ before.pipeline
    refine ⟨stillIssued, sameOutlet.trans before.outlet, ?_, ?_, before.listeners⟩
    · intro layer member
      by_cases same : (store.nodes.get other).pipeline = (store.nodes.get node).pipeline
      · change layer ∈ Store.stagesOf _ (store.nodes.get other).pipeline at member
        rw [same, stagesOf_insertAt_self pipelineIssued, ← same] at member
        rcases List.eq_or_mem_of_mem_insertIdx member with new | old
        · rw [new]
          exact insertable.layer
        · exact before.layers layer old
      · change layer ∈ Store.stagesOf _ (store.nodes.get other).pipeline at member
        rw [stagesOf_insertAt_of_ne same] at member
        exact before.layers layer member
    · intro hub group stack found registered
      rcases findDemultiplexer?_insertAt pipelineIssued insertable found with old | new
      · exact extended.stackWired (before.stackWired hub group stack old registered)
      · rw [new.2] at registered
        have none := insertable.empty group
        change Delivery.stackOf? store stage group = some stack at registered
        rw [none] at registered
        cases registered
  · intro left right hub leftIssued rightIssued leftFound rightFound
    have leftCases := findDemultiplexer?_insertAt pipelineIssued insertable leftFound
    have rightCases := findDemultiplexer?_insertAt pipelineIssued insertable rightFound
    rcases leftCases with leftOld | leftNew
    · rcases rightCases with rightOld | rightNew
      · exact wired.hubs left right hub leftIssued rightIssued leftOld rightOld
      · rw [rightNew.2] at leftOld
        exact absurd leftOld (insertable.elsewhere left leftIssued)
    · rcases rightCases with rightOld | rightNew
      · rw [leftNew.2] at rightOld
        exact absurd rightOld (insertable.elsewhere right rightIssued)
      · exact wired.eq_of_pipeline_eq leftIssued rightIssued (leftNew.1.trans rightNew.1.symm)
  · intro fork issued
    exact extended.forkWired issued (wired.forks fork issued)
  · intro fork alive
    have bound := wired.bound fork alive
    exact ⟨bound.member, bound.listens⟩

/-- Inserting a stage that may be inserted makes no second demultiplexer. -/
theorem soleHubs_insertAt (sole : store.SoleHubs) :
    (store.insertAt (store.nodes.get node).pipeline index stage).SoleHubs := by
  have pipelineIssued := (wired.nodes node nodeIssued).pipeline
  intro other otherIssued left leftLayer right rightLayer leftHub rightHub
  change left ∈ Store.stagesOf _ (store.nodes.get other).pipeline at leftLayer
  change right ∈ Store.stagesOf _ (store.nodes.get other).pipeline at rightLayer
  change (store.demultiplexer? left).isSome at leftHub
  change (store.demultiplexer? right).isSome at rightHub
  by_cases same : (store.nodes.get other).pipeline = (store.nodes.get node).pipeline
  · -- A demultiplexer is inserted only where there is none yet.
    have noneBefore (isHub : (store.demultiplexer? stage).isSome) (layer : Ref .stage)
        (member : layer ∈ store.stagesOf (store.nodes.get node).pipeline) :
        ¬ (store.demultiplexer? layer).isSome :=
      List.find?_eq_none.mp (insertable.alone isHub) layer member
    rw [same, stagesOf_insertAt_self pipelineIssued] at leftLayer rightLayer
    rcases List.eq_or_mem_of_mem_insertIdx leftLayer with leftNew | leftOld <;>
      rcases List.eq_or_mem_of_mem_insertIdx rightLayer with rightNew | rightOld
    · rw [leftNew, rightNew]
    · rw [leftNew] at leftHub
      exact absurd rightHub (noneBefore leftHub right rightOld)
    · rw [rightNew] at rightHub
      exact absurd leftHub (noneBefore rightHub left leftOld)
    · exact sole node nodeIssued left leftOld right rightOld leftHub rightHub
  · rw [stagesOf_insertAt_of_ne same] at leftLayer rightLayer
    exact sole other otherIssued left leftLayer right rightLayer leftHub rightHub

end Insertion

/-! ### Registering a stack -/

section Registration

variable {store : Store} {hub : Ref .stage} {group : String} {stack : Ref .stack}

theorem stage_registerStack_of_ne
    {stage : Ref .stage}
    (different : stage ≠ hub) :
    (store.registerStack hub group stack).stages.get stage = store.stages.get stage := by
  unfold registerStack modifyStage
  rw [Table.get_modify_of_ne different]

theorem role_registerStack_self
    {state : Demultiplexer}
    (found : store.demultiplexer? hub = some state) :
    ((store.registerStack hub group stack).stages.get hub).role =
      .demultiplexer { state with groups := state.groups.put group stack } := by
  have issued := issued_of_isSome_demultiplexer? (Option.isSome_iff_exists.mpr ⟨state, found⟩)
  unfold registerStack modifyStage
  rw [Table.get_modify_self issued]
  simp only [demultiplexer?_eq_some.mp found]

/-- Registration leaves what is a demultiplexer one, and what is none none. -/
theorem isSome_demultiplexer?_registerStack (stage : Ref .stage) :
    ((store.registerStack hub group stack).demultiplexer? stage).isSome =
      (store.demultiplexer? stage).isSome := by
  apply Table.read_modify (fun record : Stage => record.demultiplexer?.isSome)
  intro record
  obtain ⟨name, role, entries⟩ := record
  cases role <;> rfl

theorem findDemultiplexer?_registerStack (pipeline : Ref .pipeline) :
    (store.registerStack hub group stack).findDemultiplexer? pipeline =
      store.findDemultiplexer? pipeline := by
  change ((store.registerStack hub group stack).stagesOf pipeline).find?
    (fun layer => ((store.registerStack hub group stack).demultiplexer? layer).isSome) = _
  simp only [isSome_demultiplexer?_registerStack]
  rfl

/-- Registering a stack makes no demultiplexer. -/
theorem soleHubs_registerStack (sole : store.SoleHubs) :
    (store.registerStack hub group stack).SoleHubs := by
  intro node issued left leftLayer right rightLayer leftHub rightHub
  rw [isSome_demultiplexer?_registerStack] at leftHub rightHub
  exact sole node issued left leftLayer right rightLayer leftHub rightHub

theorem stackOf?_registerStack_self
    (demultiplexer : (store.demultiplexer? hub).isSome)
    (other : String) :
    Delivery.stackOf? (store.registerStack hub group stack) hub other =
      if other = group then some stack else Delivery.stackOf? store hub other := by
  obtain ⟨state, found⟩ := Option.isSome_iff_exists.mp demultiplexer
  rw [stackOf?_eq_bind, stackOf?_eq_bind, role_registerStack_self found,
    demultiplexer?_eq_some.mp found]
  split
  · rename_i same
    rw [same]
    exact Registry.get?_put_self state.groups group stack
  · rename_i different
    exact Registry.get?_put_of_ne different state.groups stack

theorem stackOf?_registerStack_of_ne
    {stage : Ref .stage}
    (different : stage ≠ hub)
    (other : String) :
    Delivery.stackOf? (store.registerStack hub group stack) stage other =
      Delivery.stackOf? store stage other := by
  rw [stackOf?_eq_bind, stackOf?_eq_bind, stage_registerStack_of_ne different]

theorem roleKept_registerStack
    (demultiplexer : (store.demultiplexer? hub).isSome)
    (unregistered : Delivery.stackOf? store hub group = none)
    (stage : Ref .stage) :
    RoleKept (store.stages.get stage).role
      ((store.registerStack hub group stack).stages.get stage).role := by
  by_cases same : stage = hub
  · subst same
    obtain ⟨state, found⟩ := Option.isSome_iff_exists.mp demultiplexer
    rw [role_registerStack_self found, demultiplexer?_eq_some.mp found]
    refine ⟨?_, ?_, ?_, ?_⟩
    · intro conduct custom
      cases custom
    · intro name bottom
      cases bottom
    · intro top isTop
      cases isTop
    · intro known isKnown
      cases isKnown
      refine ⟨_, rfl, ?_⟩
      intro name held registered
      have free : state.groups.get? group = none := by
        rw [stackOf?_eq_bind, demultiplexer?_eq_some.mp found] at unregistered
        exact unregistered
      have different : name ≠ group := by
        intro same
        rw [same, free] at registered
        cases registered
      rw [Registry.get?_put_of_ne different]
      exact registered
  · rw [stage_registerStack_of_ne same]
    exact RoleKept.refl _

theorem customs_registerStack
    (demultiplexer : (store.demultiplexer? hub).isSome)
    {stage : Ref .stage}
    {conduct : Conduct}
    (custom : ((store.registerStack hub group stack).stages.get stage).role =
      .custom conduct) :
    (store.stages.get stage).role = .custom conduct := by
  by_cases same : stage = hub
  · subst same
    obtain ⟨state, found⟩ := Option.isSome_iff_exists.mp demultiplexer
    rw [role_registerStack_self found] at custom
    cases custom
  · rwa [stage_registerStack_of_ne same] at custom

theorem extends_registerStack
    (demultiplexer : (store.demultiplexer? hub).isSome)
    (unregistered : Delivery.stackOf? store hub group = none) :
    Extends store (store.registerStack hub group stack) where
  pipelines := Table.Keeps.refl _ _
  stages stage issued :=
    ⟨Table.issued_modify.mpr issued, roleKept_registerStack demultiplexer unregistered stage⟩
  groups := Table.Keeps.refl _ _
  privateStages _ _ _ _ _ := rfl
  nodes := Table.Keeps.refl _ _
  tokens _ _ := Nat.le_refl _
  hubs node found _ holds := by
    unfold hub?
    rw [findDemultiplexer?_registerStack]
    exact holds
  forks := Table.Keeps.refl _ _

/-- Registering a stack that hangs on the demultiplexer of its node keeps everything wired. -/
theorem wired_registerStack
    {node : Ref .node}
    (wired : store.Wired)
    (nodeIssued : store.nodes.Issued node)
    (atHub : store.hub? node = some hub)
    (unregistered : Delivery.stackOf? store hub group = none)
    (stackWired : store.StackWired (store.nodes.get node).pipeline hub group stack) :
    (store.registerStack hub group stack).Wired := by
  have demultiplexer := (mem_of_hub? atHub).2
  have extended : Extends store (store.registerStack hub group stack) :=
    extends_registerStack demultiplexer unregistered
  have sameHub (other : Ref .node) :
      (store.registerStack hub group stack).hub? other = store.hub? other :=
    findDemultiplexer?_registerStack _
  refine ⟨?_, ?_, ?_, wired.members, wired.tokens, ?_⟩
  · intro other otherIssued
    have before := wired.nodes other otherIssued
    refine ⟨before.pipeline, before.outlet, ?_, ?_, before.listeners⟩
    · intro layer member
      exact (before.layers layer member).imp extended.isCustom extended.isSome_demultiplexer?
    · intro found name held isHub registered
      rw [sameHub] at isHub
      by_cases same : found = hub
      · subst same
        rw [stackOf?_registerStack_self demultiplexer] at registered
        split at registered
        · rename_i sameName
          cases registered
          have sameNode := wired.hubs other node found otherIssued nodeIssued isHub atHub
          rw [sameName, sameNode]
          exact extended.stackWired stackWired
        · exact extended.stackWired (before.stackWired found name held isHub registered)
      · rw [stackOf?_registerStack_of_ne same] at registered
        exact extended.stackWired (before.stackWired found name held isHub registered)
  · intro left right found leftIssued rightIssued leftHub rightHub
    rw [sameHub] at leftHub rightHub
    exact wired.hubs left right found leftIssued rightIssued leftHub rightHub
  · intro fork issued
    exact extended.forkWired issued (wired.forks fork issued)
  · intro fork alive
    have bound := wired.bound fork alive
    exact ⟨bound.member, bound.listens⟩

end Registration

end ChannelMux.Store
