import Mathlib.Tactic.Choose
import ChannelMux.Proofs.Delivery.Forwarding

/-!
Contract: stages that hand messages on.

Owns the scripts that ask for something once, whatever they make of the answer, the stages
that hand every message on once, edited or not, and the way of a message down such stages:
which of them it goes through, in which order, what each of them is given and what leaves the
last one. What comes further down may do anything, and need not come to an end.

Owns that what comes of the message further down is what the first of the stages answers, if
each of them answers with what comes of what it hands on.

Stages that pass everything on as it is are those of `Forwards`.
-/

namespace ChannelMux

namespace Script

variable {Entry Request Answer : Type}

/-- A script asks once, for something that is allowed, and for nothing else. It ends as it
will. -/
def AsksOnce (allowed : Request → Prop) : Script Entry Request Answer → Prop
  | .finish _ => False
  | .record _ next => next.AsksOnce allowed
  | .review next => ∀ entries, (next entries).AsksOnce allowed
  | .ask request next => allowed request ∧ ∀ answer, (next answer).Asks fun _ => False

/-- A script asks once, for something that is allowed, and ends with what comes of it. -/
def RelaysOne (allowed : Request → Prop) : Script Entry Request Outcome → Prop
  | .finish _ => False
  | .record _ next => next.RelaysOne allowed
  | .review next => ∀ entries, (next entries).RelaysOne allowed
  | .ask request next => allowed request ∧ ∀ outcome, (next outcome).Settles outcome

theorem Relays.relaysOne
    {request : Request}
    {allowed : Request → Prop}
    {script : Script Entry Request Outcome}
    (relays : script.Relays request)
    (isAllowed : allowed request) :
    script.RelaysOne allowed := by
  induction script with
  | finish reached => exact relays
  | record entry next inductionHypothesis => exact inductionHypothesis relays
  | review next inductionHypothesis =>
      intro entries
      exact inductionHypothesis entries (relays entries)
  | ask asked next =>
      obtain ⟨rfl, settles⟩ := relays
      exact ⟨isAllowed, settles⟩

theorem RelaysOne.asksOnce
    {allowed : Request → Prop}
    {script : Script Entry Request Outcome}
    (relays : script.RelaysOne allowed) :
    script.AsksOnce allowed := by
  induction script with
  | finish reached => exact relays
  | record entry next inductionHypothesis => exact inductionHypothesis relays
  | review next inductionHypothesis =>
      intro entries
      exact inductionHypothesis entries (relays entries)
  | ask asked next => exact ⟨relays.1, fun outcome => (relays.2 outcome).asks⟩

section Ends

variable {add : Entry → Run Unit} {entries : Run (List Entry)} {before after : Store}
  {reached : Outcome}

/-- However a script that settles is carried out, it ends as it says. -/
theorem Settles.ends
    {outcome : Outcome}
    {script : Script Entry Request Answer}
    {answer : Request → Run Answer}
    (settles : script.Settles outcome)
    (finished : script.perform add entries answer before = some (reached, after)) :
    reached = outcome := by
  induction script generalizing before with
  | finish told =>
      cases finished
      exact settles
  | record entry next inductionHypothesis =>
      obtain ⟨_, _, _, onward⟩ := Rule.bind_eq_some finished
      exact inductionHypothesis settles onward
  | review next inductionHypothesis =>
      obtain ⟨_, _, _, onward⟩ := Rule.bind_eq_some finished
      exact inductionHypothesis _ (settles _) onward
  | ask request next => exact settles.elim

/-- A script that relays ends with the answer. -/
theorem RelaysOne.ends
    {allowed : Request → Prop}
    {script : Script Entry Request Outcome}
    {result : Outcome × Store}
    (relays : script.RelaysOne allowed)
    (finished : script.perform add entries (fun _ _ => some result) before =
      some (reached, after)) :
    reached = result.1 := by
  induction script generalizing before with
  | finish told => exact relays.elim
  | record entry next inductionHypothesis =>
      obtain ⟨_, _, _, onward⟩ := Rule.bind_eq_some finished
      exact inductionHypothesis relays onward
  | review next inductionHypothesis =>
      obtain ⟨_, _, _, onward⟩ := Rule.bind_eq_some finished
      exact inductionHypothesis _ (relays _) onward
  | ask request next =>
      obtain ⟨_, _, answered, onward⟩ := Rule.bind_eq_some finished
      cases answered
      exact (relays.2 _).ends onward

end Ends

/-- A script of a stage that asks nothing only records, whoever would have answered. -/
theorem perform_silent
    {stage : Ref .stage}
    {script : Script StageEntry Request Answer}
    (silent : script.Asks fun _ => False)
    (before : Store) :
    ∃ outcome after, after.unrecorded = before.unrecorded ∧
      ∀ answer : Request → Run Answer,
        script.perform (Run.recordStage stage)
          (Run.look fun store => (store.stages.get stage).entries) answer before =
            some (outcome, after) := by
  induction script generalizing before with
  | finish outcome => exact ⟨outcome, before, rfl, fun _ => rfl⟩
  | record entry next inductionHypothesis =>
      obtain ⟨outcome, after, recorded, runs⟩ := inductionHypothesis silent
        (before.modifyStage stage fun record => { record with entries := entry :: record.entries })
      exact ⟨outcome, after, recorded.trans (Store.unrecorded_recordStage before stage entry),
        runs⟩
  | review next inductionHypothesis => exact inductionHypothesis _ (silent _) before
  | ask request next => exact silent.1.elim

/-- A script of a stage that asks once runs up to that, has its answer, and then records at
most; where it comes to by then does not depend on who answers. -/
theorem perform_asksOnce
    {stage : Ref .stage}
    {allowed : Request → Prop}
    {script : Script StageEntry Request Answer}
    (asksOnce : script.AsksOnce allowed)
    (before : Store) :
    ∃ request between, ∃ back : Answer × Store → Outcome × Store,
      allowed request ∧ between.unrecorded = before.unrecorded ∧
      (∀ result, (back result).2.unrecorded = result.2.unrecorded) ∧
      ∀ answer : Request → Run Answer,
        script.perform (Run.recordStage stage)
          (Run.look fun store => (store.stages.get stage).entries) answer before =
            (answer request between).map back := by
  induction script generalizing before with
  | finish outcome => exact asksOnce.elim
  | record entry next inductionHypothesis =>
      obtain ⟨request, between, back, isAllowed, recorded, recordsBack, runs⟩ :=
        inductionHypothesis asksOnce (before.modifyStage stage fun record =>
          { record with entries := entry :: record.entries })
      exact ⟨request, between, back, isAllowed,
        recorded.trans (Store.unrecorded_recordStage before stage entry), recordsBack, runs⟩
  | review next inductionHypothesis => exact inductionHypothesis _ (asksOnce _) before
  | ask request next =>
      obtain ⟨isAllowed, silent⟩ := asksOnce
      have onward : ∀ result : Answer × Store, ∃ outcome after,
          after.unrecorded = result.2.unrecorded ∧ ∀ answer : Request → Run Answer,
            (next result.1).perform (Run.recordStage stage)
              (Run.look fun store => (store.stages.get stage).entries) answer result.2 =
                some (outcome, after) :=
        fun result => perform_silent (silent result.1) result.2
      choose outcome after recorded runs using onward
      refine ⟨request, before, fun result => (outcome result, after result), isAllowed, rfl,
        recorded, fun answer => ?_⟩
      rw [perform, Run.bind_apply]
      cases answered : answer request before with
      | none => rfl
      | some result => exact runs result answer

end Script

/-- A stage with this conduct hands every message that comes down on once, edited in one of
these ways. -/
def Conduct.HandsOn (conduct : Conduct) (edits : Message → Message → Prop) : Prop :=
  ∀ message, (conduct.down (.message message)).AsksOnce fun event =>
    ∃ edited, event = .message edited ∧ edits message edited

/-- A stage with this conduct passes every message that comes down on once, edited in one of
these ways, and answers with what comes of it. -/
def Conduct.PassesOn (conduct : Conduct) (edits : Message → Message → Prop) : Prop :=
  ∀ message, (conduct.down (.message message)).RelaysOne fun event =>
    ∃ edited, event = .message edited ∧ edits message edited

theorem Conduct.PassesOn.handsOn
    {conduct : Conduct}
    {edits : Message → Message → Prop}
    (passesOn : conduct.PassesOn edits) :
    conduct.HandsOn edits :=
  fun message => (passesOn message).asksOnce

theorem Conduct.Transparent.passesOn
    {conduct : Conduct}
    (transparent : conduct.Transparent) :
    conduct.PassesOn fun message edited => edited = message :=
  fun message => (transparent.down (.message message)).relaysOne ⟨message, rfl, rfl⟩

theorem Conduct.Transparent.handsOn
    {conduct : Conduct}
    (transparent : conduct.Transparent) :
    conduct.HandsOn fun message edited => edited = message :=
  transparent.passesOn.handsOn

namespace Delivery

/-- A stage, given a message, hands another one on, once, whatever there is further down; it
records something before that, and something at most when that comes back. -/
structure HandsOn (stage : Ref .stage) (message edited : Message) (before between : Store)
    (back : Outcome × Store → Outcome × Store) : Prop where
  runs : ∀ passDown, descendStage stage passDown (.message message) before =
    (passDown (.message edited) between).map back
  recorded : between.unrecorded = before.unrecorded
  recordsBack : ∀ result, (back result).2.unrecorded = result.2.unrecorded

/-- The way of a message down through stages that edit it, each with what it is given: once
each, in the order in which they are listed. -/
inductive Descent (edits : Ref .stage → Message → Message → Prop) :
    List (Ref .stage × Message) → Message → Message → Store → Store →
      (Outcome × Store → Outcome × Store) → Prop where
  | arrive (message : Message) (store : Store) : Descent edits [] message message store store id
  | hand {stage : Ref .stage} {message edited last : Message}
      {visits : List (Ref .stage × Message)} {before between after : Store}
      {back onward : Outcome × Store → Outcome × Store}
      (hands : HandsOn stage message edited before between back)
      (edit : edits stage message edited)
      (rest : Descent edits visits edited last between after onward) :
      Descent edits ((stage, message) :: visits) message last before after (back ∘ onward)

namespace Descent

variable {edits : Ref .stage → Message → Message → Prop}
  {visits : List (Ref .stage × Message)} {message last : Message} {before after : Store}
  {back : Outcome × Store → Outcome × Store}

theorem recorded (descent : Descent edits visits message last before after back) :
    after.unrecorded = before.unrecorded := by
  induction descent with
  | arrive message store => rfl
  | hand hands _ _ inductionHypothesis => exact inductionHypothesis.trans hands.recorded

theorem recordsBack (descent : Descent edits visits message last before after back)
    (result : Outcome × Store) :
    (back result).2.unrecorded = result.2.unrecorded := by
  induction descent with
  | arrive message store => rfl
  | hand hands _ _ inductionHypothesis =>
      exact (hands.recordsBack _).trans inductionHypothesis

/-- The pipeline takes a message just this way. -/
theorem runs (descent : Descent edits visits message last before after back)
    (inner : Entrances) (pipeline : Ref .pipeline) (rest : List (Ref .stage)) :
    descend inner pipeline (visits.map Prod.fst ++ rest) (.message message) before =
      (descend inner pipeline rest (.message last) after).map back := by
  induction descent with
  | arrive message store => rw [Option.map_id]; rfl
  | hand hands _ _ inductionHypothesis =>
      rw [← Option.map_map, ← inductionHypothesis]
      exact hands.runs _

/-- What no edit changes is so of the message at every stage and at the end. -/
theorem keeps
    {property : Message → Prop}
    (descent : Descent edits visits message last before after back)
    (kept : ∀ stage given edited, edits stage given edited → property given → property edited)
    (holds : property message) :
    (∀ visit ∈ visits, property visit.2) ∧ property last := by
  induction descent with
  | arrive message store => exact ⟨by simp, holds⟩
  | hand hands edit _ inductionHypothesis =>
      obtain ⟨atRest, atLast⟩ := inductionHypothesis (kept _ _ _ edit holds)
      refine ⟨fun visit member => ?_, atLast⟩
      rcases List.mem_cons.mp member with rfl | later
      · exact holds
      · exact atRest visit later

theorem view_eq
    {Aspect : Type}
    {view : Message → Aspect}
    (descent : Descent edits visits message last before after back)
    (kept : ∀ stage given edited, edits stage given edited → view edited = view given) :
    view last = view message := by
  have viewed : ∀ stage given edited, edits stage given edited →
      view given = view message → view edited = view message :=
    fun stage given edited edit same => (kept stage given edited edit).trans same
  exact (descent.keeps viewed rfl).2

/-- What nobody edits arrives as it is. -/
theorem eq_of_unedited
    (descent : Descent edits visits message last before after back)
    (unedited : ∀ stage given edited, edits stage given edited → edited = given) :
    last = message := by
  have same : id last = id message := descent.view_eq unedited
  exact same

end Descent

/-! ### What comes of it -/

/-- A stage that passes messages on answers with what comes of them. -/
theorem HandsOn.fst_back
    {stage : Ref .stage}
    {conduct : Conduct}
    {edits : Message → Message → Prop}
    {message edited : Message}
    {before between : Store}
    {back : Outcome × Store → Outcome × Store}
    (hands : HandsOn stage message edited before between back)
    (role : (before.stages.get stage).role = .custom conduct)
    (passesOn : conduct.PassesOn edits)
    (result : Outcome × Store) :
    (back result).1 = result.1 := by
  have finished := hands.runs fun _ _ => some result
  unfold descendStage at finished
  rw [Rule.look_apply, role] at finished
  exact (passesOn message).ends finished

/-- What comes of a message further down is what comes of it at the first one of the stages. -/
theorem Descent.fst_back
    {edits : Ref .stage → Message → Message → Prop}
    {visits : List (Ref .stage × Message)}
    {message last : Message}
    {before after : Store}
    {back : Outcome × Store → Outcome × Store}
    (descent : Descent edits visits message last before after back)
    (passOn : ∀ stage ∈ visits.map Prod.fst, ∃ conduct,
      (before.stages.get stage).role = .custom conduct ∧ conduct.PassesOn (edits stage))
    (result : Outcome × Store) :
    (back result).1 = result.1 := by
  induction descent with
  | arrive message store => rfl
  | @hand stage _ _ _ _ _ _ _ _ onward hands _ _ inductionHypothesis =>
      obtain ⟨conduct, role, passesOn⟩ := passOn stage List.mem_cons_self
      refine (hands.fst_back role passesOn (onward result)).trans (inductionHypothesis ?_)
      intro other member
      rw [Store.role_eq_of_unrecorded hands.recorded]
      exact passOn other (List.mem_cons_of_mem _ member)

/-! ### Stages that hand messages on -/

section Stages

variable {base : Store} {edits : Ref .stage → Message → Message → Prop}

theorem exists_handsOn
    {stage : Ref .stage}
    {conduct : Conduct}
    {before : Store}
    (role : (before.stages.get stage).role = .custom conduct)
    (handsOn : conduct.HandsOn (edits stage))
    (message : Message) :
    ∃ edited between back, edits stage message edited ∧
      HandsOn stage message edited before between back := by
  obtain ⟨_, between, back, ⟨edited, rfl, edit⟩, recorded, recordsBack, runs⟩ :=
    Script.perform_asksOnce (handsOn message) before
  refine ⟨edited, between, back, edit, fun passDown => ?_, recorded, recordsBack⟩
  unfold descendStage
  rw [Rule.look_apply, role]
  exact runs passDown

/-- Down custom stages that hand messages on there is a way through all of them. -/
theorem exists_descent
    {stages : List (Ref .stage)}
    (handOn : ∀ stage ∈ stages, ∃ conduct, (base.stages.get stage).role = .custom conduct ∧
      conduct.HandsOn (edits stage))
    {before : Store}
    (same : before.unrecorded = base.unrecorded)
    (message : Message) :
    ∃ visits last after back, visits.map Prod.fst = stages ∧
      Descent edits visits message last before after back := by
  induction stages generalizing before message with
  | nil => exact ⟨[], message, before, id, rfl, .arrive message before⟩
  | cons stage below inductionHypothesis =>
      obtain ⟨conduct, role, handsOn⟩ := handOn stage List.mem_cons_self
      rw [← Store.role_eq_of_unrecorded same] at role
      obtain ⟨edited, between, back, edit, hands⟩ := exists_handsOn role handsOn message
      obtain ⟨visits, last, after, onward, listed, rest⟩ := inductionHypothesis
        (fun other member => handOn other (List.mem_cons_of_mem _ member))
        (hands.recorded.trans same) edited
      refine ⟨(stage, message) :: visits, last, after, back ∘ onward, ?_, .hand hands edit rest⟩
      rw [List.map_cons, listed]

end Stages

end Delivery

end ChannelMux
