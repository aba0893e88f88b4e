import ChannelMux.Proofs.Delivery.Calm
import ChannelMux.Proofs.Network.Wiring

/-!
Contract: runs that finish, with what they give and whom they tell.

Owns the runs that, from every store of a known shape, finish with a known value and have
told known agents known things and done nothing else, and their composition. Owns the
passage of traffic through custom stages, which are transparent.
-/

namespace ChannelMux

variable {α β : Type}

/-- From every store of this shape the run finishes, gives this value and tells this. -/
def Yields (base : Store) (run : Run α) (value : α) (told : Told) : Prop :=
  ∀ before, before.shape = base.shape →
    ∃ after, run before = some (value, after) ∧ Effect told before after

namespace Yields

variable {base : Store}

theorem pure (value : α) : Yields base (pure value) value [] := by
  intro before _
  exact ⟨before, rfl, Effect.refl before⟩

theorem bind
    {run : Run α}
    {next : α → Run β}
    {passed : α}
    {value : β}
    {first second : Told}
    (runs : Yields base run passed first)
    (continues : Yields base (next passed) value second) :
    Yields base (run >>= next) value (first ++ second) := by
  intro before same
  obtain ⟨between, firstRun, firstEffect⟩ := runs before same
  obtain ⟨after, secondRun, secondEffect⟩ := continues between (firstEffect.shape.trans same)
  refine ⟨after, ?_, firstEffect.trans secondEffect⟩
  change (run before).bind (fun result => next result.1 result.2) = _
  rw [firstRun]
  exact secondRun

/-- What follows a step that tells nobody. -/
theorem after
    {run : Run α}
    {next : α → Run β}
    {passed : α}
    {value : β}
    {told : Told}
    (runs : Yields base run passed [])
    (continues : Yields base (next passed) value told) :
    Yields base (run >>= next) value told := bind runs continues

/-- What is followed by a step that tells nobody. -/
theorem before
    {run : Run α}
    {next : α → Run β}
    {passed : α}
    {value : β}
    {told : Told}
    (runs : Yields base run passed told)
    (continues : Yields base (next passed) value []) :
    Yields base (run >>= next) value told := by
  have whole := bind runs continues
  rwa [List.append_nil] at whole

theorem look
    {view : Store → α}
    {next : α → Run β}
    {value : β}
    {told : Told}
    (each : ∀ store, store.shape = base.shape → Yields base (next (view store)) value told) :
    Yields base (Run.look view >>= next) value told := by
  intro before same
  exact each before same before same

theorem get
    {next : Store → Run β}
    {value : β}
    {told : Told}
    (each : ∀ store, store.shape = base.shape → Yields base (next store) value told) :
    Yields base (MonadState.get >>= next) value told := by
  intro before same
  exact each before same before same

/-- What is recorded and counted tells nobody. -/
theorem modify
    {change : Store → Store}
    (shape : ∀ store, (change store).shape = store.shape)
    (agents : ∀ store, (change store).agents = store.agents) :
    Yields base (modify change) () [] := by
  intro before _
  exact ⟨change before, rfl, shape before, agents before⟩

theorem ignore {run : Run α} {value : α} {told : Told} (runs : Yields base run value told) :
    Yields base run.ignore () told := before runs (pure ())

/-- Doing something for every item tells, in order, what each doing tells. -/
theorem forM
    {items : List α}
    {action : α → Run Unit}
    {told : α → Told}
    (each : ∀ item ∈ items, Yields base (action item) () (told item)) :
    Yields base (items.forM action) () (items.flatMap told) := by
  induction items with
  | nil => exact pure ()
  | cons head tail inductionHypothesis =>
      rw [List.flatMap_cons]
      change Yields base (action head >>= fun _ => tail.forM action) () _
      refine (each head List.mem_cons_self).bind (inductionHypothesis ?_)
      intro item member
      exact each item (List.mem_cons_of_mem _ member)

theorem recordStage (stage : Ref .stage) (entry : StageEntry) :
    Yields base (Run.recordStage stage entry) () [] :=
  modify (fun store => Store.shape_recordStage store stage entry) (fun _ => rfl)

theorem count (stage : Ref .stage) (change : DemultiplexerCounters → DemultiplexerCounters) :
    Yields base (Run.count stage change) () [] :=
  modify (fun store => Store.shape_count store stage change) (fun _ => rfl)

theorem modifyNode
    {change : Node → Node}
    (unseen : ∀ record, (change record).bare = record.bare)
    (node : Ref .node) :
    Yields base (MonadState.modifyGet fun store : Store =>
      ((), store.modifyNode node change)) () [] :=
  modify (fun store => Store.shape_modifyNode unseen store node) fun _ => rfl

theorem tell
    {agent : Ref .agent}
    (calm : Calm base)
    (inner : Entrances)
    (notice : Notice) :
    Yields base (Delivery.tell inner agent notice) (.ok ()) [(agent, notice)] := by
  intro before same
  exact tell_of_quiet ((calm.of_shape_eq same).agents agent) inner notice

/-- Whom traffic that leaves a pipeline or reaches a fork is told. -/
def handed (receiver? : Option (Ref .agent)) (traffic : Traffic) : Told :=
  receiver?.toList.map fun agent => (agent, .up traffic)

theorem hand (calm : Calm base) (inner : Entrances) (receiver? : Option (Ref .agent))
    (traffic : Traffic) :
    Yields base (Delivery.hand inner receiver? traffic) (.ok ()) (handed receiver? traffic) := by
  cases receiver? with
  | none => exact pure _
  | some agent => exact tell calm inner (.up traffic)

theorem handFork (calm : Calm base) (inner : Entrances) (fork : Ref .fork)
    (traffic : Traffic) :
    Yields base (Delivery.handFork inner fork traffic) (.ok ())
      (handed (base.forks.get fork).receiver? traffic) := by
  refine look fun store same => ?_
  rw [Store.forks_eq same]
  exact hand calm inner _ traffic

theorem leaveTop (calm : Calm base) (inner : Entrances) (pipeline : Ref .pipeline)
    (traffic : Traffic) :
    Yields base (Delivery.leaveTop inner pipeline traffic) (.ok ())
      (handed (base.pipelines.get pipeline).receiver? traffic) := by
  refine look fun store same => ?_
  rw [Store.pipelines_eq (Store.skeleton_eq_of_shape_eq same)]
  exact hand calm inner _ traffic

/-! ### Through transparent stages -/

theorem perform_settles
    {Entry Request Answer : Type}
    {add : Entry → Run Unit}
    {entries : Store → List Entry}
    {answer : Request → Run Answer}
    (adds : ∀ entry, Yields base (add entry) () [])
    {outcome : Outcome}
    {script : Script Entry Request Answer}
    (settles : script.Settles outcome) :
    Yields base (script.perform add (Run.look entries) answer) outcome [] := by
  induction script with
  | finish reached =>
      rw [← settles]
      exact pure _
  | record entry next inductionHypothesis =>
      exact after (adds entry) (inductionHypothesis settles)
  | review next inductionHypothesis =>
      exact look fun store _ => inductionHypothesis _ (settles _)
  | ask request next => exact settles.elim

/-- A script that relays a request yields what the answering yields. -/
theorem perform_relays
    {Entry Request : Type}
    {add : Entry → Run Unit}
    {entries : Store → List Entry}
    {answer : Request → Run Outcome}
    {request : Request}
    {outcome : Outcome}
    {told : Told}
    (adds : ∀ entry, Yields base (add entry) () [])
    (answers : Yields base (answer request) outcome told)
    {script : Script Entry Request Outcome}
    (relays : script.Relays request) :
    Yields base (script.perform add (Run.look entries) answer) outcome told := by
  induction script with
  | finish reached => exact relays.elim
  | record entry next inductionHypothesis =>
      exact after (adds entry) (inductionHypothesis relays)
  | review next inductionHypothesis =>
      exact look fun store _ => inductionHypothesis _ (relays _)
  | ask asked next =>
      obtain ⟨same, settles⟩ := relays
      subst same
      exact before answers (perform_settles adds (settles outcome))

theorem ascendStage_custom
    {inner : Entrances}
    {stage : Ref .stage}
    {passUp : Traffic → Run Outcome}
    {traffic : Traffic}
    {outcome : Outcome}
    {told : Told}
    (calm : Calm base)
    (custom : base.IsCustom stage)
    (passes : Yields base (passUp traffic) outcome told) :
    Yields base (Delivery.ascendStage inner stage passUp traffic) outcome told := by
  refine look fun store same => ?_
  obtain ⟨conduct, role⟩ := custom
  have skeleton := Store.skeleton_eq_of_shape_eq same
  rw [(Store.role_custom_iff skeleton stage conduct).mpr role]
  exact perform_relays (recordStage stage) passes ((calm.stages stage conduct role).up traffic)

theorem ascend_customs
    {inner : Entrances}
    {pipeline : Ref .pipeline}
    {customs rest : List (Ref .stage)}
    {traffic : Traffic}
    {outcome : Outcome}
    {told : Told}
    (calm : Calm base)
    (allCustom : ∀ stage ∈ customs, base.IsCustom stage)
    (passes : Yields base (Delivery.ascend inner pipeline rest traffic) outcome told) :
    Yields base (Delivery.ascend inner pipeline (customs ++ rest) traffic) outcome told := by
  induction customs with
  | nil => exact passes
  | cons stage others inductionHypothesis =>
      refine ascendStage_custom calm (allCustom stage List.mem_cons_self)
        (inductionHypothesis ?_)
      intro other member
      exact allCustom other (List.mem_cons_of_mem _ member)

theorem descendStage_custom
    {stage : Ref .stage}
    {passDown : Event → Run Outcome}
    {event : Event}
    {outcome : Outcome}
    {told : Told}
    (calm : Calm base)
    (custom : base.IsCustom stage)
    (passes : Yields base (passDown event) outcome told) :
    Yields base (Delivery.descendStage stage passDown event) outcome told := by
  refine look fun store same => ?_
  obtain ⟨conduct, role⟩ := custom
  have skeleton := Store.skeleton_eq_of_shape_eq same
  rw [(Store.role_custom_iff skeleton stage conduct).mpr role]
  exact perform_relays (recordStage stage) passes ((calm.stages stage conduct role).down event)

end Yields

end ChannelMux
