import ChannelMux.Proofs.Batch.Balance
import ChannelMux.Proofs.Network.Makings

/-!
Contract: demultiplexers of a network keep their books.

Owns that whatever is done with a network is entered into the ledger of each of its
demultiplexers, whatever its stages and agents are, and the law that ties the counters of a
demultiplexer and its list of groups to its ledger.
-/

namespace ChannelMux

/-! ### Whatever runs keeps the ledger -/

/-- Whatever runs is entered into the ledger of a demultiplexer. -/
def ledgerRule (hub : Ref .stage) : Rule where
  holds _ := True
  relates before after := ∃ deeds, Ledger hub before deeds after
  refl _ := ⟨[], .elsewhere rfl⟩
  trans := fun ⟨_, earlier⟩ ⟨_, later⟩ => ⟨_, earlier.append later⟩
  keeps _ _ := trivial

namespace Ledger

variable {hub : Ref .stage} {store before after : Store}

theorem governs_modify
    {change : Store → Store}
    (elsewhere : ∀ store, (change store).demultiplexer? hub = store.demultiplexer? hub) :
    (ledgerRule hub).Governs (modify change) := by
  refine Rule.modify fun store _ => ?_
  exact Exists.intro [] (.elsewhere (elsewhere store))

theorem governs_recordStage (stage : Ref .stage) (entry : StageEntry) :
    (ledgerRule hub).Governs (Run.recordStage stage entry) := by
  refine governs_modify fun store => ?_
  apply Table.read_modify Stage.demultiplexer?
  intro record
  rfl

theorem tolerates (hub : Ref .stage) : (ledgerRule hub).discipline.Tolerates where
  same agrees := agrees
  records := governs_recordStage
  hears _ _ := governs_modify fun _ => rfl
  changesNode _ _ _ := governs_modify fun _ => rfl
  changesFork _ _ _ := governs_modify fun _ => rfl
  puts _ _ _ := governs_modify fun _ => rfl

theorem demultiplexer?_counting_of_ne
    {stage : Ref .stage}
    (different : hub ≠ stage)
    (store : Store)
    (change : DemultiplexerCounters → DemultiplexerCounters) :
    (store.counting stage change).demultiplexer? hub = store.demultiplexer? hub := by
  unfold Store.counting Store.modifyStage Store.demultiplexer?
  rw [Table.get_modify_of_ne different]

/-- What a demultiplexer does is entered into its own ledger as a whole, and into the ledgers of
others not at all. -/
theorem judges_demultiplex
    {inner other : Entrances}
    (covers : (ledgerRule hub).discipline.Covers inner other)
    (stage : Ref .stage)
    {passUp passOther : Traffic → Run Outcome}
    {traffic : Traffic}
    (passes : ∀ traffic : Traffic, traffic.Matters True →
      (ledgerRule hub).discipline.judges (passUp traffic) (passOther traffic))
    (matters : traffic.Matters True) :
    (ledgerRule hub).discipline.judges (Delivery.demultiplex inner stage passUp traffic)
      (Delivery.demultiplex other stage passOther traffic) := by
  have carries := (tolerates hub).carries covers
  by_cases isHub : hub = stage
  · subst isHub
    intro before outcome after _ finished
    have keeps (handing : Handing) (isRun : Delivery.IsRun inner passUp handing) :
        ∃ deeds, Ledger hub handing.entered deeds handing.left := by
      obtain ⟨handed, reached, ⟨stack, enters⟩ | passed⟩ := isRun
      · exact carries.enterStack (Or.inl trivial) stack _ reached _ trivial enters
      · exact passes handed (Or.inl trivial) _ reached _ trivial passed
    obtain ⟨turns, deeds, ledger⟩ := of_demultiplex keeps finished
    exact ⟨_, ledger⟩
  · have counts (stage : Ref .stage) (change) (different : hub ≠ stage) :
        (ledgerRule hub).discipline.judges (Run.count stage change) (Run.count stage change) :=
      governs_modify fun store => demultiplexer?_counting_of_ne different store change
    have lifts : (ledgerRule hub).discipline.Lifts inner other True (hub ≠ ·) :=
      carries.lifts counts
    exact lifts.demultiplex isHub (fun change => counts stage change isHub) passes matters

/-- Whatever runs to any depth is entered into the ledger, whatever the stages and agents are. -/
theorem covers_within (hub : Ref .stage) (depth : Nat) :
    (ledgerRule hub).discipline.Covers (Entrances.within depth) (Entrances.within depth) :=
  (tolerates hub).covers_within Rule.none judges_demultiplex 0 depth

/-- A call of a demultiplexer in a network stands in the ledger, before whatever comes of it at
the same demultiplexer. -/
theorem of_call
    {depth : Nat}
    {pipeline : Ref .pipeline}
    {above : List (Ref .stage)}
    {traffic : Traffic}
    {outcome : Outcome}
    (finished : Delivery.demultiplex (Entrances.within depth) hub
      (Delivery.ascend (Entrances.within depth) pipeline above) traffic before =
        some (outcome, after)) :
    ∃ turns deeds, Ledger hub before (.takes traffic turns :: deeds) after := by
  have covers := covers_within hub depth
  have carries := (tolerates hub).carries covers
  refine of_demultiplex (fun handing isRun => ?_) finished
  obtain ⟨handed, reached, ⟨stack, enters⟩ | passed⟩ := isRun
  · exact carries.enterStack (Or.inl trivial) stack _ reached _ trivial enters
  · exact carries.climbs (judges_demultiplex covers) pipeline above (Or.inl trivial) _ reached _
      trivial passed

/-! ### Whatever is done keeps the ledger -/

theorem of_stages_eq (same : after.stages = before.stages) : Ledger hub before [] after :=
  .elsewhere (congrArg (fun stages => (Table.get stages hub).demultiplexer?) same)

/-- Making things is not entered, as long as there are no others in place of those there were. -/
theorem of_keeps
    (keeps : Table.Keeps id before.stages after.stages)
    (issued : before.stages.Issued hub) :
    ∃ deeds, Ledger hub before deeds after :=
  ⟨[], .elsewhere (congrArg Stage.demultiplexer? (keeps hub issued).2)⟩

theorem of_ensureDemultiplexer
    {pipeline : Ref .pipeline}
    {create : Bool}
    {placement : Placement}
    {stage : Ref .stage}
    (issued : before.stages.Issued hub)
    (ensured : before.ensureDemultiplexer pipeline create placement = .ok (stage, after)) :
    after.stages.Issued hub ∧ ∃ deeds, Ledger hub before deeds after := by
  rcases Store.ensureDemultiplexer_cases ensured with ⟨_, rfl⟩ | ⟨_, _, index, _, rfl⟩
  · exact ⟨issued, [], .elsewhere rfl⟩
  · have keeps := Table.keeps_add id before.stages .freshDemultiplexer
    exact ⟨(keeps hub issued).1, of_keeps keeps issued⟩

/-- Registering a group is entered into the ledger of the demultiplexer that it is registered
at. -/
theorem of_ensureStack
    {stage : Ref .stage}
    {shared : Ref .pipeline}
    {group : String}
    {stages : List (Ref .stage)}
    {requireFresh : Bool}
    {stack : Ref .stack}
    (issued : before.stages.Issued hub)
    (ensured : before.ensureStack stage shared group stages requireFresh = .ok (stack, after)) :
    ∃ deeds, Ledger hub before deeds after := by
  by_cases isHub : hub = stage
  · subst isHub
    exact ⟨_, .registers ensured⟩
  · rcases Store.ensureStack_cases ensured with ⟨_, rfl, _⟩ | ⟨_, rfl, rfl⟩
    · exact ⟨[], .elsewhere rfl⟩
    · have keeps := Store.keeps_stages_makeStack before shared stage group stages
      refine ⟨[], .elsewhere ?_⟩
      unfold Store.demultiplexer?
      rw [Store.stage_registerStack_of_ne isHub]
      exact congrArg Stage.demultiplexer? (keeps hub issued).2

theorem of_buildFork
    {plan : ForkPlan}
    {fork : Ref .fork}
    (issued : before.stages.Issued hub)
    (built : before.buildFork plan = .ok (fork, after)) :
    ∃ deeds, Ledger hub before deeds after := by
  obtain ⟨node, group, member, stage, spliced, stack, stacked, _, _, _, _, _, ensuredHub,
    ensuredStack, _, _, rfl⟩ := Store.buildFork_cases built
  obtain ⟨issuedSpliced, _, first⟩ := of_ensureDemultiplexer issued ensuredHub
  obtain ⟨_, second⟩ := of_ensureStack issuedSpliced ensuredStack
  exact ⟨_, (first.append second).append (.elsewhere rfl)⟩

/-- What is done elsewhere, if it can be done, is not entered. -/
theorem of_given
    {condition : Bool}
    {left : Store}
    (acted : Store.given condition (some left) = some after)
    (same : left.stages = store.stages) :
    ∃ deeds, Ledger hub store deeds after := by
  obtain ⟨_, done⟩ := Store.given_eq_some.mp acted
  cases done
  exact ⟨[], .of_stages_eq same⟩

theorem of_settle
    {ε α : Type}
    (made : Except ε (α × Store))
    (each : ∀ result after, made = .ok (result, after) → ∃ deeds, Ledger hub store deeds after) :
    ∃ deeds, Ledger hub store deeds (store.settle made) := by
  cases made with
  | error refusal => exact ⟨[], .elsewhere rfl⟩
  | ok result => exact each result.1 result.2 rfl

/-- Whatever is done is entered into the ledgers of the demultiplexers there are. -/
theorem of_act
    {action : Action}
    (issued : store.stages.Issued hub)
    (acted : store.act? action = some after) :
    ∃ deeds, Ledger hub store deeds after := by
  cases action with
  | addAgent manner =>
      cases acted
      exact ⟨[], .elsewhere rfl⟩
  | addStage name conduct =>
      cases acted
      exact of_keeps (Table.keeps_add _ _ _) issued
  | addNode label name address network stages => exact of_given acted rfl
  | holdNode node label => exact of_given acted rfl
  | dropNode label =>
      cases acted
      exact ⟨[], .elsewhere rfl⟩
  | setReceiver node agent => exact of_given acted rfl
  | insertStage node stage placement =>
      obtain ⟨_, acted⟩ := Store.given_eq_some.mp acted
      unfold Store.insertStage at acted
      cases placed : store.insertionIndex (store.nodes.get node).pipeline placement with
      | error refusal =>
          rw [placed] at acted
          cases acted
          exact ⟨[], .elsewhere rfl⟩
      | ok index =>
          rw [placed] at acted
          cases acted
          exact ⟨[], .elsewhere rfl⟩
  | ensureDemultiplexer node create placement =>
      obtain ⟨_, acted⟩ := Store.given_eq_some.mp acted
      cases acted
      exact of_settle _ fun stage left ensured => (of_ensureDemultiplexer issued ensured).2
  | ensureStack node group stages requireFresh =>
      obtain ⟨_, acted⟩ := Store.given_eq_some.mp acted
      cases found : store.hub? node with
      | none =>
          simp only [found] at acted
          cases acted
          exact ⟨[], .elsewhere rfl⟩
      | some stage =>
          simp only [found] at acted
          cases acted
          exact of_settle _ fun stack left ensured => of_ensureStack issued ensured
  | buildFork plan label =>
      obtain ⟨_, acted⟩ := Store.given_eq_some.mp acted
      cases built : store.buildFork plan with
      | error refusal =>
          simp only [built] at acted
          cases acted
          exact ⟨[], .elsewhere rfl⟩
      | ok made =>
          simp only [built] at acted
          cases acted
          obtain ⟨_, ledger⟩ := of_buildFork issued built
          exact ⟨_, ledger.append (.of_stages_eq (Store.nameFork_tables _ _ _).1)⟩
  | holdFork fork label => exact of_given acted (Store.nameFork_tables _ _ _).1
  | dropFork label =>
      cases acted
      exact ⟨[], .of_stages_eq (Store.dropFork_tables _ _).1⟩
  | setForkReceiver fork agent => exact of_given acted rfl
  | listen node agent => exact of_given acted rfl
  | unlisten node token => exact of_given acted rfl
  | travel journey =>
      obtain ⟨⟨outcome, _⟩, finished, rfl⟩ := Option.map_eq_some_iff.mp acted
      exact (covers_within hub depthLimit).travel journey store outcome _ trivial finished
  | receive node traffic =>
      obtain ⟨⟨outcome, _⟩, finished, rfl⟩ := Option.map_eq_some_iff.mp acted
      have carries := (tolerates hub).carries (covers_within hub depthLimit)
      exact carries.receive (Or.inl trivial) node store outcome _ trivial finished
  | call operation =>
      obtain ⟨_, acted⟩ := Store.given_eq_some.mp acted
      obtain ⟨⟨reply, _⟩, finished, rfl⟩ := Option.map_eq_some_iff.mp acted
      exact (covers_within hub depthLimit).call operation store reply _ trivial finished

/-- So is whatever is done in the course of several actions. -/
theorem of_run
    {state : Demultiplexer}
    {actions : List Action}
    (found : store.demultiplexer? hub = some state)
    (ran : store.run? actions = some after) :
    ∃ deeds, Ledger hub store deeds after := by
  induction actions generalizing store state with
  | nil =>
      cases ran
      exact ⟨[], .elsewhere rfl⟩
  | cons action rest inductionHypothesis =>
      obtain ⟨between, acted, ranOn⟩ := Option.bind_eq_some_iff.mp ran
      have issued := Store.issued_of_isSome_demultiplexer?
        (Option.isSome_iff_exists.mpr ⟨state, found⟩)
      obtain ⟨_, first⟩ := of_act issued acted
      obtain ⟨_, foundThen, _⟩ := first.settles state found
      obtain ⟨_, second⟩ := inductionHypothesis foundThen ranOn
      exact ⟨_, first.append second⟩

end Ledger

/-! ### The law of the books -/

/-- What the counters of a demultiplexer and its list of groups have to do with what is done at
it, whatever the stacks and the way up make of what they are handed. -/
structure KeepsBooks (hub : Ref .stage) : Prop where
  /-- Between two stores the demultiplexer counts what its ledger comes to, lists the groups that
  are registered, and lists no fewer of them than before. -/
  settles : ∀ {before after deeds state}, Ledger hub before deeds after →
    before.demultiplexer? hub = some state →
      ∃ left, after.demultiplexer? hub = some left ∧ Settled (due deeds) state left ∧
        state.groups.size ≤ left.groups.size
  /-- Since it was made the demultiplexer has counted what its ledger comes to, and as many groups
  are listed as different ones were registered. Of the parts of batches that it has handed to
  stacks it never counts more failures than there were parts, as long as the counters are not
  full. -/
  sinceMade : ∀ {before after deeds}, Ledger hub before deeds after →
    before.demultiplexer? hub = some {} →
      ∃ left, after.demultiplexer? hub = some left ∧
        left.counters.routed + left.counters.passedThrough + left.counters.misses =
          UInt64.ofNat (due deeds).received ∧
        left.counters.broadcasts = UInt64.ofNat (due deeds).views ∧
        left.counters.batchesSplit = UInt64.ofNat (due deeds).handed ∧
        left.counters.batchFailures = UInt64.ofNat (due deeds).failed ∧
        (due deeds).failed ≤ (due deeds).handed ∧
        ((due deeds).handed < 2 ^ 64 →
          left.counters.batchFailures ≤ left.counters.batchesSplit) ∧
        left.groups.size = (due deeds).groups.card
  /-- The ledger tells what a demultiplexer does with traffic as the program does it. -/
  takes : ∀ {inner passUp traffic before after outcome},
    Delivery.demultiplex inner hub passUp traffic before = some (outcome, after) ↔
      ∃ turns handings,
        Delivery.Takes inner hub passUp traffic before turns handings outcome after
  /-- What is refused is not counted, and nothing of it is handed on. -/
  refuses : ∀ {inner passUp traffic before after turns handings outcome},
    Delivery.Takes inner hub passUp traffic before turns handings outcome after →
    traffic.isMalformed = true → turns = [] ∧ handings = [] ∧ after = before ∧
      ((∃ header, outcome = .error (.groupMissing header)) ∨
        ∃ sender, outcome = .error (.groupMissingInBatch sender))
  /-- In a batch that is not refused each group that occurs has one turn. Its part is handed to a
  stack if the group is registered before the batch comes up, and only if it is afterwards. -/
  turns : ∀ {inner passUp batch before after turns handings outcome}
    {meanwhile : Handing → List Deed},
    Delivery.Takes inner hub passUp (.batch batch) before turns handings outcome after →
    (Traffic.batch batch).isMalformed = false →
    (∀ handing ∈ handings, Ledger hub handing.entered (meanwhile handing) handing.left) →
      (turns.map Turn.group).Nodup ∧
      (∀ group, group ∈ turns.map Turn.group ↔
        ∃ message ∈ batch.messages, message.group? = some group) ∧
      ∀ turn ∈ turns,
        ((Delivery.stackOf? before hub turn.group).isSome → turn.isHanded = true) ∧
        (turn.isHanded = true → (Delivery.stackOf? after hub turn.group).isSome)
  /-- When traffic comes up to a demultiplexer of a network, whatever its stages and agents are,
  it stands in the ledger, before whatever comes of it at the same demultiplexer. -/
  calls : ∀ {depth pipeline above traffic before after outcome},
    Delivery.demultiplex (Entrances.within depth) hub
      (Delivery.ascend (Entrances.within depth) pipeline above) traffic before =
        some (outcome, after) →
      ∃ turns deeds, Ledger hub before (.takes traffic turns :: deeds) after
  /-- Whatever is done with a network has a ledger at each of its demultiplexers. -/
  runs : ∀ {store after state actions}, store.demultiplexer? hub = some state →
    store.run? actions = some after → ∃ deeds, Ledger hub store deeds after

/-- Every demultiplexer keeps its books. -/
theorem demultiplexer_keepsBooks (hub : Ref .stage) : KeepsBooks hub where
  settles ledger found :=
    have ⟨left, foundLater, settled⟩ := ledger.settles _ found
    ⟨left, foundLater, settled, settled.size_le⟩
  sinceMade {_ _ deeds} ledger found := by
    obtain ⟨left, foundLater, settled⟩ := ledger.settles _ found
    obtain ⟨messages, views, handed, failed, groups⟩ := settled.of_made
    refine ⟨left, foundLater, messages, views, handed, failed, failed_le_handed _,
      fun notFull => ?_, groups⟩
    rw [handed, failed]
    have fewer := failed_le_handed deeds
    exact (UInt64.ofNat_le_iff_le (fewer.trans_lt notFull) notFull).mpr fewer
  takes := Delivery.takes_iff
  refuses took malformed := took.of_isMalformed malformed
  turns took fits kept := by
    have named : Batch.NamesGroups _ :=
      not_not.mp (mt Traffic.isMalformed_batch_iff.mpr (Bool.eq_false_iff.mp fits))
    obtain ⟨once, occurs⟩ := took.turns_of_named named
    exact ⟨once, occurs, took.isHanded fun handing member => (kept handing member).settles⟩
  calls finished := Ledger.of_call finished
  runs found ran := Ledger.of_run found ran

/-! ### A demultiplexer over two groups -/

namespace Store

/-- A batch is split at the demultiplexer of a node with two groups, of which the stack of the
first one reports an error: nine messages are counted, two of them for passing and one for being
missed, and two parts of the batch of which one has failed. -/
theorem demultiplexer_keepsBooks_exchanged :
    ∃ after turns deeds left,
      Delivery.demultiplex (Entrances.within 2) ⟨2⟩
        (Delivery.ascend (Entrances.within 2) ⟨0⟩ []) (.batch mixture) exchanged =
          some (.ok (), after) ∧
      Ledger ⟨2⟩ exchanged (.takes (.batch mixture) turns :: deeds) after ∧
      after.demultiplexer? ⟨2⟩ = some left ∧
      left.counters =
        { routed := 6, passedThrough := 2, misses := 1, batchesSplit := 2, batchFailures := 1 } ∧
      UInt64.ofNat (due (.takes (.batch mixture) turns :: deeds)).received = 9 ∧
      UInt64.ofNat (due (.takes (.batch mixture) turns :: deeds)).handed = 2 ∧
      UInt64.ofNat (due (.takes (.batch mixture) turns :: deeds)).failed = 1 := by
  have books := demultiplexer_keepsBooks ⟨2⟩
  let course := Delivery.demultiplex (Entrances.within 2) ⟨2⟩
    (Delivery.ascend (Entrances.within 2) ⟨0⟩ []) (.batch mixture) exchanged
  let counters : DemultiplexerCounters :=
    { routed := 6, passedThrough := 2, misses := 1, batchesSplit := 2, batchFailures := 1 }
  obtain ⟨⟨outcome, after⟩, finished⟩ := Option.isSome_iff_exists.mp
    (by decide +kernel : course.isSome = true)
  have shown : course.map (fun result =>
      (result.1, (result.2.demultiplexer? ⟨2⟩).map Demultiplexer.counters)) =
        some (.ok (), some counters) := by
    decide +kernel
  obtain ⟨state, found⟩ := Option.isSome_iff_exists.mp
    (by decide +kernel : (exchanged.demultiplexer? ⟨2⟩).isSome = true)
  have nothingYet : (exchanged.demultiplexer? ⟨2⟩).map Demultiplexer.counters = some {} := by
    decide +kernel
  rw [found] at nothingYet
  rw [finished] at shown
  obtain ⟨turns, deeds, ledger⟩ := books.calls finished
  obtain ⟨left, foundLater, settled, _⟩ := books.settles ledger found
  simp only [Option.map_some, foundLater, Option.some.injEq, Prod.mk.injEq] at shown nothingYet
  obtain ⟨rfl, counted⟩ := shown
  have messages := settled.messages
  have handed := settled.handed
  have failed := settled.failed
  rw [counted, nothingYet] at messages handed failed
  refine ⟨after, turns, deeds, left, finished, ledger, foundLater, counted, ?_, ?_, ?_⟩
  · simpa [counters] using messages.symm
  · simpa using handed.symm
  · simpa using failed.symm

end Store

end ChannelMux
