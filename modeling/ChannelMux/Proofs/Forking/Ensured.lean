import ChannelMux.Proofs.Network.Action

/-!
Contract: what ensuring a demultiplexer and ensuring a stack change.

Owns the comparison of a store in which a pipeline has got its demultiplexer, or a
demultiplexer the stack of a group, with the store before: each of them was there, or was
put where it belongs, and all else is as it was. Nothing is asked of the wiring, so that a
pipeline may hold whatever stages there are.
-/

namespace ChannelMux.Store

/-- A demultiplexer is the one that a pipeline has had, or a new one where a placement puts
it. -/
inductive SplicesHub (before after : Store) (pipeline : Ref .pipeline) (placement : Placement)
    (hub : Ref .stage) : Prop where
  | found (atHub : before.findDemultiplexer? pipeline = some hub)
      (stages : after.stagesOf pipeline = before.stagesOf pipeline)
  | inserted (none : before.findDemultiplexer? pipeline = none)
      (new : ¬ before.stages.Issued hub)
      (index : Nat)
      (placed : placement.index? (before.stageNames pipeline) = some index)
      (stages : after.stagesOf pipeline = (before.stagesOf pipeline).insertIdx index hub)

/-- A stack is the one that a demultiplexer has had for a group, or a new one of given
stages. -/
inductive SplicesStack (before after : Store) (hub : Ref .stage) (group : String)
    (stages : List (Ref .stage)) (stack : Ref .stack) : Prop where
  | found (registered : Delivery.stackOf? before hub group = some stack)
      (registry : after.stages.get hub = before.stages.get hub)
  | made (unregistered : Delivery.stackOf? before hub group = none)
      (new : ¬ before.groups.Issued stack)
      (registry : ∀ state, before.demultiplexer? hub = some state →
        after.stages.get hub = { before.stages.get hub with
          role := .demultiplexer { state with groups := state.groups.put group stack } })
      (named : (after.groups.get stack).group = group)
      (newPipeline : ¬ before.pipelines.Issued (after.groups.get stack).pipeline)
      (bottom top : Ref .stage)
      (layers : after.stagesOf (after.groups.get stack).pipeline = bottom :: stages ++ [top])
      (bottomNew : ¬ before.stages.Issued bottom ∧ after.stages.Issued bottom)
      (topNew : ¬ before.stages.Issued top ∧ after.stages.Issued top)
      (bottomRole : (after.stages.get bottom).role = .groupBottom group)
      (topRole : (after.stages.get top).role = .groupTop stack)

/-! ### What each step changes -/

theorem SplicesHub.of_stagesOf_eq
    {before between after : Store}
    {pipeline : Ref .pipeline}
    {placement : Placement}
    {hub : Ref .stage}
    (splices : SplicesHub before between pipeline placement hub)
    (same : after.stagesOf pipeline = between.stagesOf pipeline) :
    SplicesHub before after pipeline placement hub := by
  cases splices with
  | found atHub stages => exact .found atHub (same.trans stages)
  | inserted none new index placed stages =>
      exact .inserted none new index placed (same.trans stages)

/-- A pipeline has got its demultiplexer, and that is all. -/
structure EnsuresHub (before after : Store) (pipeline : Ref .pipeline) (placement : Placement)
    (hub : Ref .stage) : Prop where
  splices : SplicesHub before after pipeline placement hub
  atHub : after.findDemultiplexer? pipeline = some hub
  registry : ∀ name, Delivery.stackOf? after hub name = Delivery.stackOf? before hub name
  asItWas : before.stages.Issued hub → after.stages.get hub = before.stages.get hub
  record : after.pipelines.get pipeline =
    { before.pipelines.get pipeline with stages := after.stagesOf pipeline }
  pipelines : Table.Spares pipeline before.pipelines after.pipelines
  stages : Table.Spares hub before.stages after.stages
  groups : after.groups = before.groups
  nodes : after.nodes = before.nodes
  forks : after.forks = before.forks
  agents : after.agents = before.agents
  networks : after.networks = before.networks

/-- A demultiplexer has got the stack of a group, and that is all. -/
structure EnsuresStack (before after : Store) (hub : Ref .stage) (group : String)
    (stages : List (Ref .stage)) (stack : Ref .stack) : Prop where
  splices : SplicesStack before after hub group stages stack
  registry : ∀ name, Delivery.stackOf? after hub name =
    if name = group then some stack else Delivery.stackOf? before hub name
  hubs : ∀ pipeline, before.pipelines.Issued pipeline →
    (∀ stage ∈ before.stagesOf pipeline, before.stages.Issued stage) →
      after.findDemultiplexer? pipeline = before.findDemultiplexer? pipeline
  issued : before.groups.Issued stack ∨ Delivery.stackOf? before hub group = none →
    after.groups.Issued stack
  members : (after.groups.get stack).members = (before.groups.get stack).members
  pipelines : Table.Keeps id before.pipelines after.pipelines
  stages : Table.Spares hub before.stages after.stages
  groups : Table.Keeps id before.groups after.groups
  nodes : after.nodes = before.nodes
  forks : after.forks = before.forks
  agents : after.agents = before.agents
  networks : after.networks = before.networks

section Steps

variable {store after : Store} {pipeline : Ref .pipeline} {placement : Placement}
  {hub : Ref .stage} {group : String} {stages : List (Ref .stage)} {stack : Ref .stack}

theorem index?_of_insertionIndex {index : Nat}
    (placed : store.insertionIndex pipeline placement = .ok index) :
    placement.index? (store.stageNames pipeline) = some index := by
  unfold insertionIndex at placed
  split at placed
  · rename_i found
    cases placed
    exact found
  · cases placed

/-- A new stage is nowhere where only stages are that there were. -/
theorem findDemultiplexer?_addStage
    (layers : ∀ stage ∈ store.stagesOf pipeline, store.stages.Issued stage)
    (new : Stage) :
    (store.addStage new).2.findDemultiplexer? pipeline = store.findDemultiplexer? pipeline := by
  apply List.find?_congr
  intro stage layer
  have same : (store.addStage new).2.stages.get stage = store.stages.get stage :=
    Table.get_add_of_issued (layers stage layer) new
  rw [same]

theorem ensuresHub_found (found : store.findDemultiplexer? pipeline = some hub) :
    EnsuresHub store store pipeline placement hub where
  splices := .found found rfl
  atHub := found
  registry _ := rfl
  asItWas _ := rfl
  record := rfl
  pipelines := Table.Spares.refl _ _
  stages := Table.Spares.refl _ _
  groups := rfl
  nodes := rfl
  forks := rfl
  agents := rfl
  networks := rfl

theorem ensuresHub_inserted
    {index : Nat}
    (issued : store.pipelines.Issued pipeline)
    (layers : ∀ stage ∈ store.stagesOf pipeline, store.stages.Issued stage)
    (unfound : store.findDemultiplexer? pipeline = none)
    (placed : store.insertionIndex pipeline placement = .ok index) :
    EnsuresHub store
      ((store.addStage .freshDemultiplexer).2.insertAt pipeline index store.stages.next)
      pipeline placement store.stages.next := by
  have notIssued : ¬ store.stages.Issued store.stages.next := fun was => Table.ne_next was rfl
  have role := role_freshDemultiplexer store
  have inserted : ((store.addStage .freshDemultiplexer).2.insertAt pipeline index
      store.stages.next).stagesOf pipeline =
      (store.stagesOf pipeline).insertIdx index store.stages.next :=
    stagesOf_insertAt_self issued
  refine {
    splices := .inserted unfound notIssued index (index?_of_insertionIndex placed) inserted
    atHub := ?_
    registry := ?_
    asItWas := fun was => absurd was notIssued
    record := ?_
    pipelines := Table.spares_modify _ _ _
    stages := Table.spares_add _ _ _
    groups := rfl
    nodes := rfl
    forks := rfl
    agents := rfl
    networks := rfl }
  · change (Store.stagesOf _ pipeline).find?
      (fun layer => ((store.addStage .freshDemultiplexer).2.demultiplexer? layer).isSome) = _
    have within := insertionIndex_le placed
    rw [inserted]
    refine find?_insertIdx_of_none _ ?_ within ?_
    · rw [isSome_demultiplexer?, role]
      rfl
    · exact (findDemultiplexer?_addStage layers .freshDemultiplexer).trans unfound
  · intro name
    have unknown : store.stages.get store.stages.next = default :=
      Table.get_of_not_issued notIssued
    have fresh : Delivery.stackOf? (store.addStage .freshDemultiplexer).2
        store.stages.next name = none := by
      rw [stackOf?_eq_bind, role]
      rfl
    rw [stackOf?_eq_bind store, unknown]
    exact fresh
  · rw [inserted]
    exact Table.get_modify_self issued _

theorem ensuresHub
    {create : Bool}
    (issued : store.pipelines.Issued pipeline)
    (layers : ∀ stage ∈ store.stagesOf pipeline, store.stages.Issued stage)
    (ensured : store.ensureDemultiplexer pipeline create placement = .ok (hub, after)) :
    EnsuresHub store after pipeline placement hub := by
  rcases ensureDemultiplexer_cases ensured with ⟨found, same⟩ |
    ⟨unfound, isNext, index, placed, same⟩
  · subst same
    exact ensuresHub_found found
  · subst same
    subst isNext
    exact ensuresHub_inserted issued layers unfound placed

/-- A stack that is made is the private pipeline of its group, and is registered. -/
theorem splicesStack_made
    {shared : Ref .pipeline}
    (atHub : (store.demultiplexer? hub).isSome)
    (unregistered : Delivery.stackOf? store hub group = none) :
    SplicesStack store
      ((store.makeStack shared hub group stages).2.registerStack hub group store.groups.next)
      hub group stages store.groups.next := by
  let bottom : Stage := { name := "fork-bottom", role := .groupBottom group }
  let top : Stage := { name := "fork-top", role := .groupTop store.groups.next }
  let made := (store.makeStack shared hub group stages).2
  have hubIssued := issued_of_isSome_demultiplexer? atHub
  have stackRecord : (made.registerStack hub group store.groups.next).groups.get
      store.groups.next =
      { group := group, pipeline := store.pipelines.next, isPassthrough := stages.isEmpty } :=
    Table.get_add_next _ _
  have pipelineRecord : made.pipelines.get store.pipelines.next =
      { name := "fork:" ++ group
        stages := store.stages.next :: stages ++ [(store.stages.add bottom).next]
        outlet? := some (.anchor shared hub) } :=
    Table.get_add_next _ _
  have bottomIssued := Table.issued_add_next store.stages bottom
  -- The demultiplexer was there before, so that registering changes none of the new stages.
  have bottomOther : store.stages.next ≠ hub := (Table.ne_next hubIssued).symm
  have topOther : (store.stages.add bottom).next ≠ hub :=
    (Table.ne_next (hubIssued.add bottom)).symm
  refine .made unregistered (fun was => Table.ne_next was rfl) ?_ ?_ ?_
    store.stages.next (store.stages.add bottom).next ?_ ⟨?_, ?_⟩ ⟨?_, ?_⟩ ?_ ?_
  · intro state found
    have same : made.stages.get hub = store.stages.get hub :=
      (Table.get_add_of_issued (hubIssued.add bottom) top).trans
        (Table.get_add_of_issued hubIssued bottom)
    have madeIssued : made.stages.Issued hub := (hubIssued.add bottom).add top
    change (made.registerStack hub group store.groups.next).stages.get hub = _
    unfold registerStack modifyStage
    rw [Table.get_modify_self madeIssued, same]
    simp only [demultiplexer?_eq_some.mp found]
  · rw [stackRecord]
  · rw [stackRecord]
    exact fun was => Table.ne_next was rfl
  · rw [stackRecord]
    exact congrArg Pipeline.stages pipelineRecord
  · exact fun was => Table.ne_next was rfl
  · exact Table.issued_modify.mpr (bottomIssued.add top)
  · exact fun was => Table.ne_next (was.add bottom) rfl
  · exact Table.issued_modify.mpr (Table.issued_add_next _ _)
  · rw [stage_registerStack_of_ne bottomOther]
    exact congrArg Stage.role
      ((Table.get_add_of_issued bottomIssued top).trans (Table.get_add_next _ _))
  · rw [stage_registerStack_of_ne topOther]
    exact congrArg Stage.role (Table.get_add_next _ top)

theorem ensuresStack_found (registered : Delivery.stackOf? store hub group = some stack) :
    EnsuresStack store store hub group stages stack where
  splices := .found registered rfl
  registry name := by
    split
    · rename_i isGroup
      rw [isGroup, registered]
    · rfl
  hubs _ _ _ := rfl
  issued either := by
    rcases either with issued | unregistered
    · exact issued
    · rw [unregistered] at registered
      cases registered
  members := rfl
  pipelines := Table.Keeps.refl _ _
  stages := Table.Spares.refl _ _
  groups := Table.Keeps.refl _ _
  nodes := rfl
  forks := rfl
  agents := rfl
  networks := rfl

theorem ensuresStack_made
    {shared : Ref .pipeline}
    (atHub : (store.demultiplexer? hub).isSome)
    (unregistered : Delivery.stackOf? store hub group = none) :
    EnsuresStack store
      ((store.makeStack shared hub group stages).2.registerStack hub group store.groups.next)
      hub group stages store.groups.next := by
  have growth := growth_makeStack store shared hub group stages
  have hubIssued := issued_of_isSome_demultiplexer? atHub
  have madeHub : ((store.makeStack shared hub group stages).2.demultiplexer? hub).isSome :=
    (isSome_demultiplexer?_of_bare_eq (growth.stages hub hubIssued).2).trans atHub
  exact {
    splices := splicesStack_made atHub unregistered
    registry := by
      intro name
      rw [stackOf?_registerStack_self madeHub,
        stackOf?_of_bare_eq (growth.stages hub hubIssued).2]
    hubs := by
      intro pipeline issued layers
      refine (findDemultiplexer?_registerStack pipeline).trans ?_
      unfold findDemultiplexer? findStage?
      rw [growth.stagesOf_eq issued]
      apply List.find?_congr
      intro stage layer
      exact isSome_demultiplexer?_of_bare_eq (growth.stages stage (layers stage layer)).2
    issued := fun _ => Table.issued_add_next _ _
    members := by
      have unknown : store.groups.get store.groups.next = default :=
        Table.get_of_not_issued fun was => Table.ne_next was rfl
      have made : ((store.makeStack shared hub group stages).2.registerStack hub group
          store.groups.next).groups.get store.groups.next = _ := Table.get_add_next _ _
      rw [unknown, made]
      rfl
    pipelines := Table.keeps_add _ _ _
    stages := ((Table.spares_add hub _ _).trans (Table.spares_add hub _ _)).trans
      (Table.spares_modify hub _ _)
    groups := Table.keeps_add _ _ _
    nodes := rfl
    forks := rfl
    agents := rfl
    networks := rfl }

theorem ensuresStack
    {shared : Ref .pipeline}
    {requireFresh : Bool}
    (atHub : (store.demultiplexer? hub).isSome)
    (ensured : store.ensureStack hub shared group stages requireFresh = .ok (stack, after)) :
    EnsuresStack store after hub group stages stack := by
  rcases ensureStack_cases ensured with ⟨registered, same, _⟩ | ⟨unregistered, isNext, same⟩
  · subst same
    exact ensuresStack_found registered
  · subst same
    subst isNext
    exact ensuresStack_made atHub unregistered

end Steps

end ChannelMux.Store
