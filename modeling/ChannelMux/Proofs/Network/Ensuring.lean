import ChannelMux.Proofs.Network.Splicing

/-!
Contract: a node that is to have a demultiplexer and a stack for a group has them.

Owns what finding or making a demultiplexer can do and what finding or making a stack can
do, and that both keep everything wired and touch no node, fork, agent or cluster.
-/

namespace ChannelMux.Store

/-- Stages and stacks are spliced in: nodes, forks, agents and clusters are not touched, no
stage becomes custom, and no pipeline gets a second demultiplexer. -/
structure Splice (before after : Store) : Prop where
  wired : after.Wired
  extended : Extends before after
  nodes : after.nodes = before.nodes
  forks : after.forks = before.forks
  agents : after.agents = before.agents
  networks : after.networks = before.networks
  customs : ∀ stage conduct, (after.stages.get stage).role = .custom conduct →
    (before.stages.get stage).role = .custom conduct
  soleHubs : before.SoleHubs → after.SoleHubs

theorem Splice.refl {store : Store} (wired : store.Wired) : Splice store store :=
  ⟨wired, Extends.refl store, rfl, rfl, rfl, rfl, fun _ _ custom => custom, fun sole => sole⟩

theorem Splice.trans
    {before between after : Store}
    (first : Splice before between)
    (second : Splice between after) :
    Splice before after where
  wired := second.wired
  extended := first.extended.trans second.extended
  nodes := second.nodes.trans first.nodes
  forks := second.forks.trans first.forks
  agents := second.agents.trans first.agents
  networks := second.networks.trans first.networks
  customs stage conduct custom := first.customs stage conduct (second.customs stage conduct custom)
  soleHubs sole := second.soleHubs (first.soleHubs sole)

/-- A new stage that is not custom makes no other one custom. -/
theorem customs_addStage
    {store : Store}
    {new : Stage}
    (notCustom : ∀ conduct, new.role ≠ .custom conduct)
    {stage : Ref .stage}
    {conduct : Conduct}
    (custom : ((store.stages.add new).get stage).role = .custom conduct) :
    (store.stages.get stage).role = .custom conduct := by
  rcases Table.get_add_cases store.stages new stage with old | isNew
  · rw [old] at custom
    exact custom
  · rw [isNew] at custom
    exact absurd custom (notCustom conduct)

theorem index?_le {placement : Placement} {names : List String} {index : Nat}
    (placed : placement.index? names = some index) :
    index ≤ names.length := by
  unfold Placement.index? at placed
  split at placed
  · split at placed
    · cases placed
      exact Nat.le_refl _
    · cases placed
      exact Nat.zero_le _
  · obtain ⟨found, isFound, same⟩ := Option.map_eq_some_iff.mp placed
    have within := (List.findIdx?_eq_some_iff_findIdx_eq.mp isFound).1
    split at same
    · omega
    · omega

theorem insertionIndex_le
    {store : Store}
    {pipeline : Ref .pipeline}
    {placement : Placement}
    {index : Nat}
    (placed : store.insertionIndex pipeline placement = .ok index) :
    index ≤ (store.stagesOf pipeline).length := by
  unfold insertionIndex at placed
  split at placed
  · rename_i found
    cases placed
    have within := index?_le found
    rwa [stageNames, List.length_map] at within
  · cases placed

/-- What ensuring a demultiplexer does: it finds the one there is, or inserts a new one. -/
theorem ensureDemultiplexer_cases
    {store spliced : Store}
    {pipeline : Ref .pipeline}
    {create : Bool}
    {placement : Placement}
    {hub : Ref .stage}
    (ensured : store.ensureDemultiplexer pipeline create placement = .ok (hub, spliced)) :
    (store.findDemultiplexer? pipeline = some hub ∧ spliced = store) ∨
      (store.findDemultiplexer? pipeline = none ∧ hub = store.stages.next ∧
        ∃ index, store.insertionIndex pipeline placement = .ok index ∧
          spliced = (store.addStage .freshDemultiplexer).2.insertAt pipeline index hub) := by
  have search : store.findStage? pipeline (fun stage => stage.demultiplexer?.isSome) =
      store.findDemultiplexer? pipeline := rfl
  unfold ensureDemultiplexer findOrInsert at ensured
  rw [search] at ensured
  cases found : store.findDemultiplexer? pipeline with
  | some existing =>
      rw [found] at ensured
      cases create <;> cases ensured <;> exact Or.inl ⟨rfl, rfl⟩
  | none =>
      rw [found] at ensured
      cases create with
      | false => cases ensured
      | true =>
          cases placed : store.insertionIndex pipeline placement with
          | error refusal =>
              rw [placed] at ensured
              cases ensured
          | ok index =>
              rw [placed] at ensured
              cases ensured
              exact Or.inr ⟨rfl, rfl, index, rfl, rfl⟩

theorem role_freshDemultiplexer (store : Store) :
    ((store.addStage .freshDemultiplexer).2.stages.get store.stages.next).role =
      .demultiplexer {} :=
  congrArg Stage.role (Table.get_add_next store.stages .freshDemultiplexer)

/-- What ensuring a stack does: it finds the one there is, or makes and registers one. -/
theorem ensureStack_cases
    {store stacked : Store}
    {hub : Ref .stage}
    {shared : Ref .pipeline}
    {group : String}
    {stages : List (Ref .stage)}
    {requireFresh : Bool}
    {stack : Ref .stack}
    (ensured : store.ensureStack hub shared group stages requireFresh = .ok (stack, stacked)) :
    (Delivery.stackOf? store hub group = some stack ∧ stacked = store ∧
        requireFresh = false) ∨
      (Delivery.stackOf? store hub group = none ∧ stack = store.groups.next ∧
        stacked = (store.makeStack shared hub group stages).2.registerStack hub group stack) := by
  unfold ensureStack at ensured
  unfold Delivery.stackOf?
  cases found : store.demultiplexer? hub with
  | none =>
      rw [found] at ensured
      cases ensured
  | some state =>
      rw [found] at ensured
      change _ ∨ state.groups.get? group = none ∧ _
      cases registered : state.groups.get? group with
      | some existing =>
          simp only [registered] at ensured
          cases requireFresh with
          | true => cases ensured
          | false =>
              cases ensured
              exact Or.inl ⟨registered, rfl, rfl⟩
      | none =>
          simp only [registered] at ensured
          cases ensured
          exact Or.inr ⟨rfl, rfl, rfl⟩

section Ensuring

variable {store : Store} {node : Ref .node} (wired : store.Wired)
  (nodeIssued : store.nodes.Issued node)

include wired nodeIssued

theorem insertable_freshDemultiplexer (none : store.hub? node = none) :
    Insertable (store.addStage .freshDemultiplexer).2 (store.nodes.get node).pipeline
      store.stages.next := by
  have growth := growth_addStage store .freshDemultiplexer
  have role := role_freshDemultiplexer store
  refine ⟨Or.inr ?_, ?_, ?_, ?_⟩
  · rw [isSome_demultiplexer?, role]
    rfl
  · intro _
    have same := growth.hub?_eq wired nodeIssued
    rw [none] at same
    exact same
  · intro group
    rw [stackOf?_eq_bind, role]
    rfl
  · intro other otherIssued found
    rw [growth.hub?_eq wired otherIssued] at found
    have issued := (wired.nodes other otherIssued).layer_issued (mem_of_hub? found).1
    exact Table.ne_next issued rfl

/-- A node has its demultiplexer once it is ensured. -/
theorem splice_ensureDemultiplexer
    {create : Bool}
    {placement : Placement}
    {hub : Ref .stage}
    {spliced : Store}
    (ensured : store.ensureDemultiplexer (store.nodes.get node).pipeline create placement =
      .ok (hub, spliced)) :
    Splice store spliced ∧ spliced.hub? node = some hub := by
  rcases ensureDemultiplexer_cases ensured with found | inserted
  · obtain ⟨found, same⟩ := found
    subst same
    exact ⟨Splice.refl wired, found⟩
  · obtain ⟨unfound, isNext, index, placed, same⟩ := inserted
    subst same
    subst isNext
    have growth := growth_addStage store .freshDemultiplexer
    have madeWired := growth.wired wired
    have insertable := insertable_freshDemultiplexer wired nodeIssued unfound
    refine ⟨⟨wired_insertAt madeWired nodeIssued insertable,
      (growth.extends_ wired).trans (extends_insertAt madeWired nodeIssued insertable),
      rfl, rfl, rfl, rfl, ?_, ?_⟩, ?_⟩
    · intro stage conduct custom
      refine customs_addStage ?_ custom
      intro conduct same
      cases same
    · intro sole
      exact soleHubs_insertAt madeWired nodeIssued insertable (growth.soleHubs wired sole)
    · have property : ((store.addStage .freshDemultiplexer).2.demultiplexer?
          store.stages.next).isSome := by
        rw [isSome_demultiplexer?, role_freshDemultiplexer store]
        rfl
      change (Store.stagesOf _ (store.nodes.get node).pipeline).find?
        (fun layer => ((store.addStage .freshDemultiplexer).2.demultiplexer? layer).isSome) = _
      have pipelineIssued := (madeWired.nodes node nodeIssued).pipeline
      change Table.Issued _ (store.nodes.get node).pipeline at pipelineIssued
      rw [stagesOf_insertAt_self pipelineIssued]
      have within := insertionIndex_le placed
      exact find?_insertIdx_of_none
        (fun layer => ((store.addStage .freshDemultiplexer).2.demultiplexer? layer).isSome)
        property within (insertable.alone property)

omit nodeIssued in
/-- A stack that has just been made is wired, and is registered nowhere. -/
theorem stackWired_makeStack
    (shared : Ref .pipeline)
    (hub : Ref .stage)
    (group : String)
    {stages : List (Ref .stage)}
    (customs : ∀ stage ∈ stages, store.IsCustom stage) :
    (store.makeStack shared hub group stages).2.StackWired shared hub group
      store.groups.next := by
  have extended := (growth_makeStack store shared hub group stages).extends_ wired
  let bottom : Stage := { name := "fork-bottom", role := .groupBottom group }
  let top : Stage := { name := "fork-top", role := .groupTop store.groups.next }
  let made := (store.makeStack shared hub group stages).2
  have stackRecord : made.groups.get store.groups.next =
      { group := group, pipeline := store.pipelines.next, isPassthrough := stages.isEmpty } :=
    Table.get_add_next _ _
  have pipelineRecord : made.pipelines.get store.pipelines.next =
      { name := "fork:" ++ group
        stages := store.stages.next :: stages ++ [(store.stages.add bottom).next]
        outlet? := some (.anchor shared hub) } :=
    Table.get_add_next _ _
  have bottomRecord : made.stages.get store.stages.next = bottom := by
    have issued := Table.issued_add_next store.stages bottom
    exact (Table.get_add_of_issued issued top).trans (Table.get_add_next _ _)
  have topRecord : made.stages.get (store.stages.add bottom).next = top :=
    Table.get_add_next _ _
  refine ⟨Table.issued_add_next _ _, ?_, ?_, ?_, ?_⟩
  · rw [stackRecord]
  · rw [stackRecord]
    exact Table.issued_add_next _ _
  · rw [stackRecord, pipelineRecord]
  · refine ⟨store.stages.next, stages, (store.stages.add bottom).next, ?_, ?_, ?_, ?_, ?_, ?_⟩
    · unfold stagesOf
      rw [stackRecord, pipelineRecord]
    · exact (Table.issued_add_next store.stages bottom).add top
    · rw [bottomRecord]
    · intro stage member
      exact extended.isCustom (customs stage member)
    · exact Table.issued_add_next _ _
    · rw [topRecord]

/-- A group has its stack at a node once it is ensured. -/
theorem splice_ensureStack
    {hub : Ref .stage}
    {group : String}
    {stages : List (Ref .stage)}
    {requireFresh : Bool}
    {stack : Ref .stack}
    {stacked : Store}
    (atHub : store.hub? node = some hub)
    (customs : ∀ stage ∈ stages, store.IsCustom stage)
    (ensured : store.ensureStack hub (store.nodes.get node).pipeline group stages requireFresh =
      .ok (stack, stacked)) :
    Splice store stacked ∧ stacked.hub? node = some hub ∧
      Delivery.stackOf? stacked hub group = some stack := by
  rcases ensureStack_cases ensured with found | made
  · obtain ⟨registered, same, _⟩ := found
    subst same
    exact ⟨Splice.refl wired, atHub, registered⟩
  · obtain ⟨unregistered, isNext, same⟩ := made
    subst same
    subst isNext
    have growth := growth_makeStack store (store.nodes.get node).pipeline hub group stages
    have madeWired := growth.wired wired
    have stackWired :=
      stackWired_makeStack wired (store.nodes.get node).pipeline hub group customs
    have hubIssued := (wired.nodes node nodeIssued).layer_issued (mem_of_hub? atHub).1
    have atHubMade := (growth.hub?_eq wired nodeIssued).trans atHub
    have unregisteredMade := (stackOf?_of_bare_eq
      (growth.stages hub hubIssued).2 group).trans unregistered
    have demultiplexer := (mem_of_hub? atHubMade).2
    refine ⟨⟨wired_registerStack madeWired nodeIssued atHubMade unregisteredMade stackWired,
      (growth.extends_ wired).trans (extends_registerStack demultiplexer unregisteredMade),
      rfl, rfl, rfl, rfl, ?_, ?_⟩, ?_, ?_⟩
    · intro stage conduct custom
      refine customs_addStage ?_ (customs_addStage ?_
        (customs_registerStack demultiplexer custom))
      · intro other same
        cases same
      · intro other same
        cases same
    · intro sole
      exact soleHubs_registerStack (growth.soleHubs wired sole)
    · exact (findDemultiplexer?_registerStack _).trans atHubMade
    · rw [stackOf?_registerStack_self demultiplexer, if_pos rfl]

end Ensuring

end ChannelMux.Store
