import ChannelMux.Proofs.Batch.Course
import ChannelMux.Proofs.Script

/-!
Contract: the way of traffic up the stack of a group.

Owns the courses of stages that pass traffic on at most once, unchanged or edited message by
message, and what is handed to the members of a group of the traffic that gets to the top of
its stack.
-/

namespace ChannelMux

/-! ### Editing message by message -/

namespace Traffic

theorem editMessages_id (traffic : Traffic) : traffic.editMessages id = traffic := by
  cases traffic with
  | single event => cases event <;> rfl
  | batch whole =>
      change Traffic.batch (whole.derive (whole.messages.map id)) = .batch whole
      rw [List.map_id]
      rfl

theorem editMessages_editMessages (traffic : Traffic) (first second : Message → Message) :
    (traffic.editMessages first).editMessages second =
      traffic.editMessages fun message => second (first message) := by
  cases traffic with
  | single event => cases event <;> rfl
  | batch whole =>
      change Traffic.batch (whole.derive ((whole.messages.map first).map second)) = _
      rw [List.map_map]
      rfl

end Traffic

/-- A stage with this conduct edits the messages that come up, one by one, in whatever
traffic they come, and passes the traffic on. It leaves the routing headers as they are. -/
structure Conduct.Edits (conduct : Conduct) (edit : Message → Message) : Prop where
  up : ∀ traffic, (conduct.up traffic).Relays (traffic.editMessages edit)
  routing : ∀ message, (edit message).routing? = message.routing?

/-- The conduct of a role is the one that it is known to be. -/
theorem Conduct.Edits.of_role
    {known conduct : Conduct}
    {edit : Message → Message}
    {role : Role}
    (edits : known.Edits edit)
    (isKnown : role = .custom known)
    (isConduct : role = .custom conduct) :
    conduct.Edits edit := by
  rw [isKnown] at isConduct
  cases isConduct
  exact edits

theorem Conduct.Transparent.edits {conduct : Conduct} (transparent : conduct.Transparent) :
    conduct.Edits id where
  up traffic := by
    rw [Traffic.editMessages_id]
    exact transparent.up traffic
  routing _ := rfl

theorem Conduct.marking_edits (name : String) :
    (Conduct.marking name).Edits (·.mark (Octets.ofString ("^" ++ name))) where
  up _ := ⟨rfl, fun _ => rfl⟩
  routing _ := rfl

namespace Store

/-- How a stage edits messages, if it is one that does. -/
def editAt (store : Store) (edit : Ref .stage → Message → Message) (stage : Ref .stage)
    (message : Message) : Message :=
  match (store.stages.get stage).role with
  | .custom _ => edit stage message
  | _ => message

/-- A message as it is after stages have edited it, in turn. -/
def editAll (store : Store) (edit : Ref .stage → Message → Message)
    (stages : List (Ref .stage)) (message : Message) : Message :=
  stages.foldl (fun edited stage => store.editAt edit stage edited) message

/-- Custom stages edit messages as it is said. -/
def EditsBy (store : Store) (edit : Ref .stage → Message → Message)
    (stages : List (Ref .stage)) : Prop :=
  ∀ stage ∈ stages, ∀ conduct, (store.stages.get stage).role = .custom conduct →
    conduct.Edits (edit stage)

/-- A custom stage need not pass this on as it is. -/
def KeepsBack (store : Store) (stage : Ref .stage) (traffic : Traffic) : Prop :=
  ∃ conduct, (store.stages.get stage).role = .custom conduct ∧
    ¬ (conduct.up traffic).Relays traffic

section Edits

variable {store : Store} {edit : Ref .stage → Message → Message} {stages : List (Ref .stage)}

theorem routing?_editAt
    {stage : Ref .stage}
    (edits : store.EditsBy edit stages)
    (member : stage ∈ stages)
    (message : Message) :
    (store.editAt edit stage message).routing? = message.routing? := by
  unfold editAt
  split
  · rename_i conduct role
    exact (edits stage member conduct role).routing message
  · rfl

theorem editAt_of_not_custom
    {stage : Ref .stage}
    (notCustom : ∀ conduct, (store.stages.get stage).role ≠ .custom conduct)
    (message : Message) :
    store.editAt edit stage message = message := by
  unfold editAt
  split
  · rename_i conduct role
    exact absurd role (notCustom conduct)
  · rfl

theorem routing?_editAll (edits : store.EditsBy edit stages) (message : Message) :
    (store.editAll edit stages message).routing? = message.routing? := by
  induction stages generalizing message with
  | nil => rfl
  | cons stage others inductionHypothesis =>
      refine (inductionHypothesis (fun other member => edits other ?_) _).trans
        (routing?_editAt edits List.mem_cons_self message)
      exact List.mem_cons_of_mem _ member

end Edits

/-! ### What is handed at the top -/

/-- What is handed to the members of a group when traffic gets to the top of its stack. -/
def handedByStack (store : Store) (stack : Ref .stack) : Traffic → Handoffs
  | .single (.message message) =>
      (message.member?.bind (store.liveMember? stack)).toList.map fun fork =>
        (.fork fork, .single (.message message))
  | .single (.viewChange view) =>
      (store.liveForks stack).map fun fork => (.fork fork, .single (.viewChange view))
  | .single _ => []
  | .batch batch =>
      (Delivery.byMember batch.messages).flatMap fun part =>
        (store.liveMember? stack part.1).toList.map fun fork =>
          (.fork fork, .batch (batch.derive part.2))

end Store

namespace Course

variable {base : Store} {depth : Nat}

/-! ### At a stage -/

/-- A script that asks for nothing hands nothing. -/
theorem perform_asksNothing
    {Request Answer : Type}
    {stage : Ref .stage}
    {answer : Request → Run Answer}
    {script : Script StageEntry Request Answer}
    (asksNothing : script.Asks fun _ => False) :
    Course base
      (script.perform (Run.recordStage stage)
        (Run.look fun store => (store.stages.get stage).entries) answer)
      fun handoffs tally _ => handoffs = [] ∧ tally = [] := by
  induction script with
  | finish outcome => exact pure ⟨rfl, rfl⟩
  | record entry next inductionHypothesis =>
      exact recordStage stage entry (inductionHypothesis asksNothing)
  | review next inductionHypothesis =>
      exact look fun store _ => inductionHypothesis _ (asksNothing _)
  | ask request next => exact asksNothing.1.elim

/-- A script that may ask for something takes the course of the answering, or none. -/
theorem perform_mayRelay
    {Request : Type}
    {stage : Ref .stage}
    {answer : Request → Run Outcome}
    {request : Request}
    {post : Handoffs → Tally → Prop}
    {script : Script StageEntry Request Outcome}
    (mayRelay : script.MayRelay request)
    (answers : Course base (answer request) fun handoffs tally _ => post handoffs tally) :
    Course base
      (script.perform (Run.recordStage stage)
        (Run.look fun store => (store.stages.get stage).entries) answer)
      fun handoffs tally _ => post handoffs tally ∨
        (handoffs = [] ∧ tally = [] ∧ ¬ script.Relays request) := by
  induction script with
  | finish outcome => exact pure (Or.inr ⟨rfl, rfl, id⟩)
  | record entry next inductionHypothesis =>
      exact recordStage stage entry (inductionHypothesis mayRelay)
  | review next inductionHypothesis =>
      refine look fun store _ => (inductionHypothesis _ (mayRelay _)).mono ?_
      intro handoffs tally _
      refine Or.imp_right fun ⟨nothing, uncounted, keeps⟩ => ⟨nothing, uncounted, ?_⟩
      exact fun relays => keeps (relays _)
  | ask asked next =>
      obtain ⟨same, asksNothing⟩ := mayRelay
      subst same
      refine bind answers fun handoffs tally outcome holds =>
        (perform_asksNothing (asksNothing outcome)).mono ?_
      rintro _ _ _ ⟨rfl, rfl⟩
      rw [List.append_nil, List.append_nil]
      exact Or.inl holds

theorem ascendStage_mayRelay
    {inner : Entrances}
    {stage : Ref .stage}
    {conduct : Conduct}
    {passUp : Traffic → Run Outcome}
    {traffic passed : Traffic}
    {post : Handoffs → Tally → Prop}
    (role : (base.stages.get stage).role = .custom conduct)
    (mayRelay : (conduct.up traffic).MayRelay passed)
    (passes : Course base (passUp passed) fun handoffs tally _ => post handoffs tally) :
    Course base (Delivery.ascendStage inner stage passUp traffic) fun handoffs tally _ =>
      post handoffs tally ∨
        (handoffs = [] ∧ tally = [] ∧ ¬ (conduct.up traffic).Relays passed) := by
  refine look fun store same => ?_
  rw [(Store.role_custom_iff same stage conduct).mpr role]
  exact perform_mayRelay mayRelay passes

/-- A stage that edits messages passes traffic on as edited. -/
theorem ascendStage_edits
    {inner : Entrances}
    {stage : Ref .stage}
    {edit : Ref .stage → Message → Message}
    {passUp : Traffic → Run Outcome}
    {traffic : Traffic}
    {post : Handoffs → Tally → Prop}
    (custom : base.IsCustom stage)
    (edits : base.EditsBy edit [stage])
    (passes : Course base (passUp (traffic.editMessages (base.editAt edit stage)))
      fun handoffs tally _ => post handoffs tally) :
    Course base (Delivery.ascendStage inner stage passUp traffic) fun handoffs tally _ =>
      post handoffs tally := by
  obtain ⟨conduct, role⟩ := custom
  have relays := (edits stage List.mem_cons_self conduct role).up traffic
  have asEdited : base.editAt edit stage = edit stage := by
    funext message
    unfold Store.editAt
    rw [role]
  rw [asEdited] at passes
  refine (ascendStage_mayRelay role relays.mayRelay passes).mono ?_
  intro handoffs tally _ either
  exact either.resolve_right fun keeps => keeps.2.2 relays

theorem ascendStage_groupBottom
    {inner : Entrances}
    {stage : Ref .stage}
    {group : String}
    {passUp : Traffic → Run Outcome}
    {traffic : Traffic}
    {post : Handoffs → Tally → Outcome → Prop}
    (role : (base.stages.get stage).role = .groupBottom group)
    (passes : Course base (passUp traffic) post) :
    Course base (Delivery.ascendStage inner stage passUp traffic) post := by
  refine look fun store same => ?_
  rw [(Store.role_groupBottom_iff same stage group).mpr role]
  exact passes

/-! ### Through custom stages -/

/-- Custom stages that edit messages. -/
theorem ascend_edits
    {inner : Entrances}
    {pipeline : Ref .pipeline}
    {customs rest : List (Ref .stage)}
    {edit : Ref .stage → Message → Message}
    {traffic : Traffic}
    {post : Handoffs → Tally → Prop}
    (allCustom : ∀ stage ∈ customs, base.IsCustom stage)
    (edits : base.EditsBy edit customs)
    (passes : Course base
      (Delivery.ascend inner pipeline rest (traffic.editMessages (base.editAll edit customs)))
      fun handoffs tally _ => post handoffs tally) :
    Course base (Delivery.ascend inner pipeline (customs ++ rest) traffic)
      fun handoffs tally _ => post handoffs tally := by
  induction customs generalizing traffic with
  | nil =>
      have same : base.editAll edit [] = id := rfl
      rw [same, Traffic.editMessages_id] at passes
      exact passes
  | cons stage others inductionHypothesis =>
      have here : base.EditsBy edit [stage] := by
        intro other member
        rw [List.mem_singleton.mp member]
        exact edits stage List.mem_cons_self
      refine ascendStage_edits (allCustom stage List.mem_cons_self) here ?_
      apply inductionHypothesis
      · exact fun other member => allCustom other (List.mem_cons_of_mem _ member)
      · exact fun other member => edits other (List.mem_cons_of_mem _ member)
      · rw [Traffic.editMessages_editMessages]
        exact passes

/-! ### At the top -/

theorem handFork (fork : Ref .fork) (traffic : Traffic) :
    Course base (Delivery.handFork (Entrances.within depth) fork traffic)
      fun handoffs tally _ => handoffs = [(.fork fork, traffic)] ∧ tally = [] := by
  refine look fun store same => ?_
  exact hand (Store.receiverOf?_eq same (.fork fork)) fun _ => ⟨rfl, rfl⟩

theorem handMember (stack : Ref .stack) (message : Message) :
    Course base (Delivery.handMember (Entrances.within depth) stack message)
      fun handoffs tally _ =>
        handoffs = base.handedByStack stack (.single (.message message)) ∧ tally = [] := by
  have handed : base.handedByStack stack (.single (.message message)) =
      (message.member?.bind (base.liveMember? stack)).toList.map fun fork =>
        (.fork fork, .single (.message message)) := rfl
  rw [handed]
  unfold Delivery.handMember
  cases message.member? with
  | none => exact pure ⟨rfl, rfl⟩
  | some member =>
      refine get fun store same => ?_
      rw [Store.liveMember?_eq same, Option.bind_some]
      cases base.liveMember? stack member with
      | none => exact pure ⟨rfl, rfl⟩
      | some fork => exact handFork fork _

theorem handEveryMember (stack : Ref .stack) (event : Event) :
    Course base (Delivery.handEveryMember (Entrances.within depth) stack event)
      fun handoffs tally _ =>
        handoffs = (base.liveForks stack).map (fun fork => (.fork fork, .single event)) ∧
          tally = [] := by
  refine look fun store same => ?_
  rw [Store.liveForks_eq same, List.map_eq_flatMap]
  exact forM_handing fun fork _ => ignore (handFork fork _)

theorem handMembers (stack : Ref .stack) (batch : Batch) :
    Course base (Delivery.handMembers (Entrances.within depth) stack batch)
      fun handoffs tally _ =>
        handoffs = base.handedByStack stack (.batch batch) ∧ tally = [] := by
  refine forM_handing fun part _ => get fun store same => ?_
  rw [Store.liveMember?_eq same]
  cases base.liveMember? stack part.1 with
  | none => exact pure ⟨rfl, rfl⟩
  | some fork => exact ignore (handFork fork _)

theorem takeAtGroupTop (stack : Ref .stack) (traffic : Traffic) :
    Course base (Delivery.takeAtGroupTop (Entrances.within depth) stack traffic)
      fun handoffs tally _ => handoffs = base.handedByStack stack traffic ∧ tally = [] := by
  cases traffic with
  | single event =>
      cases event with
      | message message => exact handMember stack message
      | viewChange view => exact answer _ (handEveryMember stack _)
      | localAddress address => exact pure ⟨rfl, rfl⟩
      | suspect address => exact pure ⟨rfl, rfl⟩
  | batch batch => exact answer _ (handMembers stack batch)

theorem ascend_groupTop
    {pipeline : Ref .pipeline}
    {stage : Ref .stage}
    {stack : Ref .stack}
    (role : (base.stages.get stage).role = .groupTop stack)
    (traffic : Traffic) :
    Course base (Delivery.ascend (Entrances.within depth) pipeline [stage] traffic)
      fun handoffs tally _ => handoffs = base.handedByStack stack traffic ∧ tally = [] := by
  refine look fun store same => ?_
  rw [(Store.role_groupTop_iff same stage stack).mpr role]
  exact takeAtGroupTop stack traffic

/-! ### Up the stack -/

/-- What enters a stack takes the course of the way up the stack. -/
theorem enterStack
    {stack : Ref .stack}
    {traffic : Traffic}
    {post : Handoffs → Tally → Outcome → Prop}
    (travels : Course base
      (Delivery.travel (Entrances.within depth) (.up (base.groups.get stack).pipeline traffic))
      post) :
    Course base (Delivery.enterStack (Entrances.within (depth + 1)) stack traffic) post := by
  refine look fun store same => ?_
  rw [Store.groups_eq same]
  exact travels

section Stack

variable {shared : Ref .pipeline} {hub : Ref .stage} {group : String} {stack : Ref .stack}

/-- Traffic that goes up the stack of a group is handed to its members as edited there. -/
theorem travel_stack_edits
    {edit : Ref .stage → Message → Message}
    (wired : base.StackWired shared hub group stack)
    (edits : base.EditsBy edit (base.stagesOf (base.groups.get stack).pipeline))
    (traffic : Traffic) :
    Course base
      (Delivery.travel (Entrances.within depth) (.up (base.groups.get stack).pipeline traffic))
      fun handoffs tally _ =>
        handoffs = base.handedByStack stack (traffic.editMessages
          (base.editAll edit (base.stagesOf (base.groups.get stack).pipeline))) ∧
          tally = [] := by
  obtain ⟨bottom, customs, top, stages, _, bottomRole, allCustom, _, topRole⟩ := wired.layers
  -- Neither end of the stack edits anything.
  have ends : base.editAll edit (bottom :: customs ++ [top]) = base.editAll edit customs := by
    funext message
    unfold Store.editAll
    rw [List.foldl_append, List.foldl_cons, Store.editAt_of_not_custom (by simp [topRole]),
      List.foldl_cons, List.foldl_nil, Store.editAt_of_not_custom (by simp [bottomRole])]
  refine look fun store same => ?_
  rw [Store.stagesOf_eq same, stages, ends]
  refine ascendStage_groupBottom bottomRole (ascend_edits allCustom (fun stage member => ?_)
    (ascend_groupTop topRole _))
  apply edits stage
  rw [stages]
  exact List.mem_append_left _ (List.mem_cons_of_mem _ member)

end Stack

end Course

end ChannelMux
