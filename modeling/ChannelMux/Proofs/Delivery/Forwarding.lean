import ChannelMux.Delivery.Enter
import ChannelMux.Proofs.Delivery.Rule
import ChannelMux.Proofs.Network.Wiring

/-!
Contract: stages that only record what passes them.

Owns the store without what stages have recorded, and what it is for a run to do just what
another one does, but for such records: the other one is run once, with the same outcome.
Owns that transparent stages forward traffic so, on the way up and on the way down, whatever
comes of it further on, and that a node with such stages sends a message as it is given one.

Nothing is said of agents, which may do anything meanwhile.
-/

namespace ChannelMux

variable {α β : Type}

/-- A stage without what it has recorded. -/
def Stage.unrecorded (stage : Stage) : Stage := { stage with entries := [] }

theorem Stage.unrecorded_default : Stage.unrecorded default = default := rfl

namespace Store

/-- The store without what stages have recorded. -/
def unrecorded (store : Store) : Store :=
  { store with stages := store.stages.map Stage.unrecorded }

/-- A stage does as a conduct says that passes everything on as it is. -/
def IsTransparent (store : Store) (stage : Ref .stage) : Prop :=
  ∃ conduct, (store.stages.get stage).role = .custom conduct ∧ conduct.Transparent

theorem unrecorded_recordStage (store : Store) (stage : Ref .stage) (entry : StageEntry) :
    (store.modifyStage stage fun record =>
      { record with entries := entry :: record.entries }).unrecorded = store.unrecorded := by
  have unseen : ∀ record : Stage,
      Stage.unrecorded { record with entries := entry :: record.entries } = record.unrecorded :=
    fun _ => rfl
  unfold unrecorded modifyStage
  rw [Table.map_modify unseen]

section Unrecorded

variable {before after : Store} (same : after.unrecorded = before.unrecorded)

include same

theorem nodes_eq_of_unrecorded : after.nodes = before.nodes := by
  have tables := congrArg Store.nodes same
  exact tables

theorem agents_eq_of_unrecorded : after.agents = before.agents := by
  have tables := congrArg Store.agents same
  exact tables

theorem role_eq_of_unrecorded (stage : Ref .stage) :
    (after.stages.get stage).role = (before.stages.get stage).role := by
  have tables : after.stages.map Stage.unrecorded = before.stages.map Stage.unrecorded :=
    congrArg Store.stages same
  have stages : (after.stages.get stage).unrecorded = (before.stages.get stage).unrecorded := by
    rw [← Table.get_map Stage.unrecorded_default, tables,
      Table.get_map Stage.unrecorded_default]
  have roles := congrArg Stage.role stages
  exact roles

theorem shape_eq_of_unrecorded : after.shape = before.shape := by
  have ofUnrecorded (store : Store) : store.unrecorded.shape = store.shape := by
    unfold shape unrecorded
    rw [Table.map_map]
    rfl
  rw [← ofUnrecorded after, same, ofUnrecorded]

theorem skeleton_eq_of_unrecorded : after.skeleton = before.skeleton :=
  skeleton_eq_of_shape_eq (shape_eq_of_unrecorded same)

end Unrecorded

end Store

/-- Two runs end alike: neither of them finishes, or both give the same, and what they leave
behind differs in what stages have recorded at most. -/
def EndAlike : Option (α × Store) → Option (α × Store) → Prop :=
  Option.Rel fun left right => left.1 = right.1 ∧ left.2.unrecorded = right.2.unrecorded

namespace EndAlike

theorem refl (result : Option (α × Store)) : EndAlike result result := by
  cases result with
  | none => exact .none
  | some finished => exact .some ⟨rfl, rfl⟩

theorem trans
    {first second third : Option (α × Store)}
    (earlier : EndAlike first second)
    (later : EndAlike second third) :
    EndAlike first third := by
  cases earlier with
  | none => exact later
  | some alike =>
      cases later with
      | some alikeToo => exact .some ⟨alike.1.trans alikeToo.1, alike.2.trans alikeToo.2⟩

theorem finished
    {result other : Option (α × Store)}
    {value : α}
    {after : Store}
    (alike : EndAlike result other)
    (ends : result = some (value, after)) :
    ∃ left, other = some (value, left) ∧ after.unrecorded = left.unrecorded := by
  subst ends
  cases alike with
  | @some _ given alike =>
      obtain ⟨sameValue, sameStore⟩ := alike
      exact ⟨given.2, by rw [show value = given.1 from sameValue], sameStore⟩

theorem finishes
    {result other : Option (α × Store)}
    {value : α}
    {left : Store}
    (alike : EndAlike result other)
    (ends : other = some (value, left)) :
    ∃ after, result = some (value, after) ∧ after.unrecorded = left.unrecorded := by
  subst ends
  cases alike with
  | @some given _ alike =>
      obtain ⟨sameValue, sameStore⟩ := alike
      exact ⟨given.2, by rw [← show given.1 = value from sameValue], sameStore⟩

end EndAlike

/-- From every store of this skeleton the run does what another one does, once, but that
stages record things before and after. -/
def Forwards (base : Store) (run onward : Run α) : Prop :=
  ∀ before, before.skeleton = base.skeleton →
    ∃ between, between.unrecorded = before.unrecorded ∧
      EndAlike (run before) (onward between)

namespace Forwards

variable {base : Store}

theorem refl (run : Run α) : Forwards base run run :=
  fun before _ => ⟨before, rfl, EndAlike.refl _⟩

theorem trans
    {run middle onward : Run α}
    (first : Forwards base run middle)
    (second : Forwards base middle onward) :
    Forwards base run onward := by
  intro before known
  obtain ⟨between, recorded, alike⟩ := first before known
  obtain ⟨later, recordedOn, alikeOn⟩ :=
    second between ((Store.skeleton_eq_of_unrecorded recorded).trans known)
  exact ⟨later, recordedOn.trans recorded, alike.trans alikeOn⟩

theorem look
    {view : Store → α}
    {next : α → Run β}
    {onward : Run β}
    (each : ∀ store, store.skeleton = base.skeleton →
      Forwards base (next (view store)) onward) :
    Forwards base (Run.look view >>= next) onward :=
  fun before known => each before known before known

theorem get
    {next : Store → Run β}
    {onward : Run β}
    (each : ∀ store, store.skeleton = base.skeleton → Forwards base (next store) onward) :
    Forwards base (MonadState.get >>= next) onward :=
  fun before known => each before known before known

theorem recordStage
    {stage : Ref .stage}
    {entry : StageEntry}
    {next : Unit → Run α}
    {onward : Run α}
    (continues : Forwards base (next ()) onward) :
    Forwards base (Run.recordStage stage entry >>= next) onward := by
  intro before known
  have recorded := Store.unrecorded_recordStage before stage entry
  obtain ⟨between, recordedOn, alike⟩ :=
    continues _ ((Store.skeleton_eq_of_unrecorded recorded).trans known)
  exact ⟨between, recordedOn.trans recorded, alike⟩

/-! ### Past transparent stages -/

/-- A script that asks nothing only records. -/
theorem perform_settles
    {Request Answer : Type}
    {stage : Ref .stage}
    {answer : Request → Run Answer}
    {outcome : Outcome}
    {script : Script StageEntry Request Answer}
    (settles : script.Settles outcome)
    (before : Store) :
    ∃ after, script.perform (Run.recordStage stage)
        (Run.look fun store => (store.stages.get stage).entries) answer before =
          some (outcome, after) ∧
      after.unrecorded = before.unrecorded := by
  induction script generalizing before with
  | finish reached =>
      obtain rfl : reached = outcome := settles
      exact ⟨before, rfl, rfl⟩
  | record entry next inductionHypothesis =>
      obtain ⟨after, finishes, recorded⟩ := inductionHypothesis settles
        (before.modifyStage stage fun record => { record with entries := entry :: record.entries })
      exact ⟨after, finishes,
        recorded.trans (Store.unrecorded_recordStage before stage entry)⟩
  | review next inductionHypothesis => exact inductionHypothesis _ (settles _) before
  | ask request next => exact settles.elim

/-- A script that relays a request forwards it to the answering. -/
theorem perform_relays
    {Request : Type}
    {stage : Ref .stage}
    {answer : Request → Run Outcome}
    {request : Request}
    {script : Script StageEntry Request Outcome}
    (relays : script.Relays request) :
    Forwards base
      (script.perform (Run.recordStage stage)
        (Run.look fun store => (store.stages.get stage).entries) answer)
      (answer request) := by
  induction script with
  | finish outcome => exact relays.elim
  | record entry next inductionHypothesis => exact recordStage (inductionHypothesis relays)
  | review next inductionHypothesis =>
      exact look fun store _ => inductionHypothesis _ (relays _)
  | ask asked next =>
      obtain ⟨same, settles⟩ := relays
      subst same
      intro before _
      refine ⟨before, rfl, ?_⟩
      rw [Script.perform, Run.bind_apply]
      cases answer asked before with
      | none => exact .none
      | some answered =>
          obtain ⟨outcome, left⟩ := answered
          obtain ⟨after, finishes, recorded⟩ := perform_settles (settles outcome) left
          rw [Option.bind_some, finishes]
          exact .some ⟨rfl, recorded⟩

theorem ascendStage
    {inner : Entrances}
    {stage : Ref .stage}
    (transparent : base.IsTransparent stage)
    (passUp : Traffic → Run Outcome)
    (traffic : Traffic) :
    Forwards base (Delivery.ascendStage inner stage passUp traffic) (passUp traffic) := by
  refine look fun store same => ?_
  obtain ⟨conduct, role, isTransparent⟩ := transparent
  rw [(Store.role_custom_iff same stage conduct).mpr role]
  exact perform_relays (isTransparent.up traffic)

theorem descendStage
    {stage : Ref .stage}
    (transparent : base.IsTransparent stage)
    (passDown : Event → Run Outcome)
    (event : Event) :
    Forwards base (Delivery.descendStage stage passDown event) (passDown event) := by
  refine look fun store same => ?_
  obtain ⟨conduct, role, isTransparent⟩ := transparent
  rw [(Store.role_custom_iff same stage conduct).mpr role]
  exact perform_relays (isTransparent.down event)

theorem ascend
    {inner : Entrances}
    {pipeline : Ref .pipeline}
    {passed : List (Ref .stage)}
    (transparent : ∀ stage ∈ passed, base.IsTransparent stage)
    (rest : List (Ref .stage))
    (traffic : Traffic) :
    Forwards base (Delivery.ascend inner pipeline (passed ++ rest) traffic)
      (Delivery.ascend inner pipeline rest traffic) := by
  induction passed with
  | nil => exact refl _
  | cons stage others inductionHypothesis =>
      refine (ascendStage (transparent stage List.mem_cons_self) _ traffic).trans
        (inductionHypothesis ?_)
      intro other member
      exact transparent other (List.mem_cons_of_mem _ member)

/-! ### Down the pipeline of a node -/

theorem descendStage_hub
    {stage : Ref .stage}
    (isHub : (base.demultiplexer? stage).isSome)
    (passDown : Event → Run Outcome)
    (event : Event) :
    Forwards base (Delivery.descendStage stage passDown event) (passDown event) := by
  refine look fun store same => ?_
  rw [← Store.isSome_demultiplexer?_of_bare_eq (Store.bare_role_eq same stage)] at isHub
  obtain ⟨state, found⟩ := Option.isSome_iff_exists.mp isHub
  rw [Store.demultiplexer?_eq_some.mp found]
  exact refl _

theorem descend
    {inner : Entrances}
    {pipeline : Ref .pipeline}
    {layers : List (Ref .stage)}
    (known : ∀ stage ∈ layers, base.IsTransparent stage ∨ (base.demultiplexer? stage).isSome)
    (event : Event) :
    Forwards base (Delivery.descend inner pipeline layers event)
      (Delivery.leaveBottom inner pipeline event) := by
  induction layers with
  | nil => exact refl _
  | cons stage below inductionHypothesis =>
      have onward := inductionHypothesis fun other member =>
        known other (List.mem_cons_of_mem _ member)
      rcases known stage List.mem_cons_self with transparent | isHub
      · exact (descendStage transparent _ event).trans onward
      · exact (descendStage_hub isHub _ event).trans onward

/-- What is given back in another form is forwarded all the same. -/
theorem giving {run onward : Run α} (forwards : Forwards base run onward) (change : α → β) :
    Forwards base (run >>= fun value => pure (change value))
      (onward >>= fun value => pure (change value)) := by
  intro before known
  obtain ⟨between, recorded, alike⟩ := forwards before known
  refine ⟨between, recorded, ?_⟩
  rw [Run.bind_apply, Run.bind_apply]
  revert alike
  cases run before <;> cases onward between <;> intro alike <;> cases alike
  · exact .none
  · rename_i same
    exact .some ⟨congrArg change same.1, same.2⟩

section Node

variable {node : Ref .node} (wired : base.Wired) (alive : base.isNodeAlive node = true)

include wired alive

theorem leaveBottom_node (inner : Entrances) (message : Message) :
    Forwards base
      (Delivery.leaveBottom inner (base.nodes.get node).pipeline (.message message))
      (Delivery.transmit inner node message) := by
  refine look fun store same => ?_
  rw [Store.pipelines_eq same, (wired.nodes node (wired.issued_of_isNodeAlive alive)).outlet]
  refine get fun later sameLater => ?_
  rw [Store.isNodeAlive_eq sameLater, alive]
  exact refl _

/-- A message that a node sends comes to the bottom of its pipeline as it is. -/
theorem sendNode
    (transparent : ∀ stage conduct, (base.stages.get stage).role = .custom conduct →
      conduct.Transparent)
    (depth : Nat)
    (message : Message) :
    Forwards base (Delivery.sendNode (Entrances.within (depth + 1)) node message)
      (Delivery.transmit (Entrances.within depth) node message >>= fun outcome =>
        pure (Delivery.reply outcome)) := by
  have layers := (wired.nodes node (wired.issued_of_isNodeAlive alive)).layers
  refine look fun store same => giving ?_ Delivery.reply
  refine look fun later sameLater => ?_
  rw [Store.nodePipeline_eq same, Store.stagesOf_eq sameLater]
  refine (descend (fun stage member => ?_) _).trans (leaveBottom_node wired alive _ message)
  refine (layers stage (List.mem_reverse.mp member)).imp_left ?_
  rintro ⟨conduct, role⟩
  exact ⟨conduct, role, transparent stage conduct role⟩

end Node

end Forwards

end ChannelMux
