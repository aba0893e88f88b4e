import ChannelMux.Proofs.Batch.Telling
import ChannelMux.Proofs.Delivery.Completion
import ChannelMux.Proofs.Delivery.Routing
import ChannelMux.Proofs.Delivery.Stacking

/-!
Contract: the fanning out of views at a demultiplexer.

Owns that a view which comes up to a demultiplexer enters every stack once and then passes,
whatever comes of it in the stacks, and who is handed it: every channel whose stages pass it
on, once, and nobody who is not a channel. Owns that nothing is counted of it but that it was
there, if no agent gives commands, and that other events than views and messages only pass.
-/

namespace ChannelMux

namespace Delivery

/-- One more event has been broadcast. -/
def countBroadcast (counters : DemultiplexerCounters) : DemultiplexerCounters :=
  { counters with broadcasts := counters.broadcasts + 1 }

/-- Lets an event into stacks, one after the other, whatever comes of it. -/
def enterAll (inner : Entrances) (stacked : List (Ref .stack)) (event : Event) : Run Unit :=
  stacked.forM fun stack => (enterStack inner stack (.single event)).ignore

/-- What a demultiplexer does with a view before it passes. -/
def fanOut (inner : Entrances) (hub : Ref .stage) (event : Event) : Run Unit := do
  let stacked ← Run.look fun store => stacksOf store hub
  Run.count hub countBroadcast
  enterAll inner stacked event

theorem broadcast_eq (inner : Entrances) (hub : Ref .stage) (passUp : Traffic → Run Outcome)
    (event : Event) :
    broadcast inner hub passUp event =
      (fanOut inner hub event >>= fun _ => passUp (.single event)) := by
  unfold broadcast fanOut
  rw [bind_assoc]
  rfl

end Delivery

/-! ### Where a view goes -/

namespace Store

/-- The stages of a stack pass this on as it is, once, whatever they answer. -/
def PassesUp (store : Store) (stack : Ref .stack) (traffic : Traffic) : Prop :=
  ∀ stage ∈ store.stagesOf (store.groups.get stack).pipeline,
    ∀ conduct, (store.stages.get stage).role = .custom conduct →
      (conduct.up traffic).Passes traffic

variable {store : Store} {shared : Ref .pipeline} {hub : Ref .stage}

/-- No stack is registered twice. -/
theorem HubWired.nodup_stacksOf (wired : store.HubWired shared hub) :
    (Delivery.stacksOf store hub).Nodup := by
  obtain ⟨state, found⟩ := Option.isSome_iff_exists.mp wired.isHub
  have listed : Delivery.stacksOf store hub = state.groups.values.filter fun _ => true := by
    unfold Delivery.stacksOf
    rw [found, List.filter_true]
  rw [listed]
  apply Registry.nodup_values_filter fun stack => (store.groups.get stack).group
  intro group stack held _
  exact (wired.layout group stack (Option.bind_eq_some_iff.mpr ⟨state, found, held⟩)).named

/-- No fork is bound to two members of a group. -/
theorem HubWired.nodup_liveForks
    (wired : store.HubWired shared hub)
    {group : String}
    {stack : Ref .stack}
    (registered : Delivery.stackOf? store hub group = some stack) :
    (store.liveForks stack).Nodup := by
  apply Registry.nodup_values_filter fun fork => (store.forks.get fork).member
  intro member fork held alive
  have live : store.liveMember? stack member = some fork :=
    Option.filter_eq_some_iff.mpr ⟨held, alive⟩
  exact (wired.members group stack member fork registered live).2

end Store

namespace Store

/-- As a view enters a stack it is handed to nobody but the forks that are bound there and
last, and if the stages pass it on, to each of them, once. -/
structure FansInto (store : Store) (stack : Ref .stack) (view : View) (handoffs : Handoffs) :
    Prop where
  forks : ∀ entry ∈ handoffs, ∃ fork ∈ store.liveForks stack, entry.1 = .fork fork
  passed : store.PassesUp stack (.single (.viewChange view)) →
    handoffs = (store.liveForks stack).map fun fork => (.fork fork, .single (.viewChange view))

/-- What is handed on is handed to channels of the demultiplexer, and a channel whose stages
pass the view on is handed it, once, and nothing else. -/
structure FansOutTo (store : Store) (hub : Ref .stage) (view : View) (handoffs : Handoffs) :
    Prop where
  channels : ∀ entry ∈ handoffs, ∃ group member fork,
    store.channel? hub group member = some fork ∧ entry.1 = .fork fork
  once : ∀ group member stack fork, Delivery.stackOf? store hub group = some stack →
    store.channel? hub group member = some fork →
    store.PassesUp stack (.single (.viewChange view)) →
      handoffs.filter (fun entry => entry.1 = .fork fork) =
        [(.fork fork, .single (.viewChange view))]

end Store

/-! ### Who is handed a view -/

namespace Course

section InTurn

variable {Item : Type} {each : Item → Handoffs → Tally → Prop} {items : List Item}
  {handoffs : Handoffs} {tally : Tally} {keep : Consumer × Traffic → Bool}

/-- If nothing is kept of what is handed for any item then nothing is kept. -/
theorem InTurn.filter_nothing
    (inTurn : InTurn each items handoffs tally)
    (nothing : ∀ item ∈ items, ∀ first counted, each item first counted →
      first.filter keep = []) :
    handoffs.filter keep = [] := by
  induction items generalizing handoffs tally with
  | nil => rw [inTurn.1, List.filter_nil]
  | cons item rest inductionHypothesis =>
      obtain ⟨first, others, counted, later, holds, onward, rfl, rfl⟩ := inTurn
      rw [List.filter_append, nothing item List.mem_cons_self first counted holds,
        List.nil_append]
      exact inductionHypothesis onward fun other member =>
        nothing other (List.mem_cons_of_mem _ member)

/-- If nothing is kept of what is handed for the other items then it is kept what is handed
for one of them. -/
theorem InTurn.filter_alone
    {item : Item}
    (inTurn : InTurn each items handoffs tally)
    (once : items.Nodup)
    (member : item ∈ items)
    (others : ∀ other ∈ items, other ≠ item → ∀ first counted, each other first counted →
      first.filter keep = []) :
    ∃ first counted, each item first counted ∧ handoffs.filter keep = first.filter keep := by
  induction items generalizing handoffs tally with
  | nil => cases member
  | cons head rest inductionHypothesis =>
      obtain ⟨first, following, counted, later, holds, onward, rfl, rfl⟩ := inTurn
      obtain ⟨notAgain, restOnce⟩ := List.nodup_cons.mp once
      rw [List.filter_append]
      rcases List.mem_cons.mp member with rfl | among
      · refine ⟨first, counted, holds, ?_⟩
        rw [onward.filter_nothing, List.append_nil]
        intro other isOther
        exact others other (List.mem_cons_of_mem _ isOther) (ne_of_mem_of_not_mem isOther notAgain)
      · rw [others head List.mem_cons_self (ne_of_mem_of_not_mem among notAgain).symm first counted
          holds, List.nil_append]
        exact inductionHypothesis onward restOnce among fun other isOther =>
          others other (List.mem_cons_of_mem _ isOther)

/-- What is so of everything that is handed for some item is so of all that is handed. -/
theorem InTurn.all
    {property : Consumer × Traffic → Prop}
    (inTurn : InTurn each items handoffs tally)
    (holds : ∀ item ∈ items, ∀ first counted, each item first counted →
      ∀ entry ∈ first, property entry) :
    ∀ entry ∈ handoffs, property entry := by
  induction items generalizing handoffs tally with
  | nil =>
      rw [inTurn.1]
      intro entry member
      cases member
  | cons item rest inductionHypothesis =>
      obtain ⟨first, others, counted, later, here, onward, rfl, rfl⟩ := inTurn
      intro entry member
      rcases List.mem_append.mp member with inFirst | inOthers
      · exact holds item List.mem_cons_self first counted here entry inFirst
      · exact inductionHypothesis onward
          (fun other isOther => holds other (List.mem_cons_of_mem _ isOther)) entry inOthers

end InTurn

/-- Runs are judged by whom they hand things to. -/
def handing (base : Store) (property : Consumer → Prop) : Discipline where
  holds store := store.skeleton = base.skeleton
  agrees := Eq
  judges run _ := Course base run fun handoffs _ _ => ∀ entry ∈ handoffs, property entry.1
  pure _ := pure fun _ member => nomatch member
  bind first second := bind first fun _ _ value holds => (second value).mono
    fun _ _ _ holdsOn entry member => (List.mem_append.mp member).elim (holds entry) (holdsOn entry)
  get _ each := get fun _ same => each same

variable {base : Store} {depth : Nat} {shared : Ref .pipeline} {hub : Ref .stage}
  {group : String} {stack : Ref .stack}

/-- Whatever the stages of a stack make of traffic, nobody is handed anything but the forks
that are bound there and last. -/
theorem travel_stack
    (wired : base.StackWired shared hub group stack)
    (traffic : Traffic) :
    Course base
      (Delivery.travel (Entrances.within depth) (.up (base.groups.get stack).pipeline traffic))
      fun handoffs _ _ => ∀ entry ∈ handoffs, ∃ fork ∈ base.liveForks stack,
        entry.1 = .fork fork := by
  let discipline : Discipline := handing base fun consumer =>
    ∃ fork ∈ base.liveForks stack, consumer = .fork fork
  have hands : discipline.Hands (Entrances.within depth) (Entrances.within depth) True stack := by
    constructor
    · rintro left _ _ rfl
      exact ⟨rfl, rfl⟩
    · intro store fork passed same alive _ _
      rw [Store.liveForks_eq same] at alive
      refine (handFork fork passed).mono ?_
      rintro handoffs _ _ ⟨rfl, _⟩ entry member
      rw [List.mem_singleton.mp member]
      exact ⟨fork, alive, rfl⟩
  have records (stage : Ref .stage) (entry : StageEntry) :
      discipline.judges (Run.recordStage stage entry) (Run.recordStage stage entry) := by
    change Course base (Run.recordStage stage entry) _
    rw [← bind_pure (Run.recordStage stage entry)]
    exact recordStage stage entry (pure fun _ member => nomatch member)
  exact Discipline.travel_stack (fun same => same) Eq.symm wired records
    (fun _ => hands.takeAtGroupTop (Or.inl trivial)) traffic

/-! ### Through stages that pass a view -/

theorem perform_passes
    {Request : Type}
    {stage : Ref .stage}
    {answer : Request → Run Outcome}
    {request : Request}
    {post : Handoffs → Tally → Prop}
    {script : Script StageEntry Request Outcome}
    (passes : script.Passes request)
    (answers : Course base (answer request) fun handoffs tally _ => post handoffs tally) :
    Course base
      (script.perform (Run.recordStage stage)
        (Run.look fun store => (store.stages.get stage).entries) answer)
      fun handoffs tally _ => post handoffs tally := by
  induction script with
  | finish outcome => exact passes.elim
  | record entry next inductionHypothesis =>
      exact recordStage stage entry (inductionHypothesis passes)
  | review next inductionHypothesis =>
      exact look fun store _ => inductionHypothesis _ (passes _)
  | ask asked next =>
      obtain ⟨same, asksNothing⟩ := passes
      subst same
      refine bind answers fun handoffs tally outcome holds =>
        (perform_asksNothing (asksNothing outcome)).mono ?_
      rintro _ _ _ ⟨rfl, rfl⟩
      rwa [List.append_nil, List.append_nil]

theorem ascend_passes
    {inner : Entrances}
    {pipeline : Ref .pipeline}
    {customs rest : List (Ref .stage)}
    {traffic : Traffic}
    {post : Handoffs → Tally → Prop}
    (passes : ∀ stage ∈ customs, ∃ conduct, (base.stages.get stage).role = .custom conduct ∧
      (conduct.up traffic).Passes traffic)
    (onward : Course base (Delivery.ascend inner pipeline rest traffic)
      fun handoffs tally _ => post handoffs tally) :
    Course base (Delivery.ascend inner pipeline (customs ++ rest) traffic)
      fun handoffs tally _ => post handoffs tally := by
  induction customs with
  | nil => exact onward
  | cons stage others inductionHypothesis =>
      obtain ⟨conduct, role, passesOn⟩ := passes stage List.mem_cons_self
      refine look fun store same => ?_
      rw [(Store.role_custom_iff same stage conduct).mpr role]
      refine perform_passes passesOn (inductionHypothesis fun other member => ?_)
      exact passes other (List.mem_cons_of_mem _ member)

/-- What the stages of a stack pass on is handed to the forks that it is for. -/
theorem travel_stack_passes
    {traffic : Traffic}
    (wired : base.StackWired shared hub group stack)
    (passes : base.PassesUp stack traffic) :
    Course base
      (Delivery.travel (Entrances.within depth) (.up (base.groups.get stack).pipeline traffic))
      fun handoffs tally _ => handoffs = base.handedByStack stack traffic ∧ tally = [] := by
  obtain ⟨bottom, customs, top, stages, _, bottomRole, allCustom, _, topRole⟩ := wired.layers
  refine look fun store same => ?_
  rw [Store.stagesOf_eq same, stages]
  refine ascendStage_groupBottom bottomRole (ascend_passes (fun stage member => ?_)
    (ascend_groupTop topRole traffic))
  obtain ⟨conduct, role⟩ := allCustom stage member
  refine ⟨conduct, role, passes stage ?_ conduct role⟩
  rw [stages]
  exact List.mem_append_left _ (List.mem_cons_of_mem _ member)

theorem enterStack_view
    (wired : base.StackWired shared hub group stack)
    (view : View) :
    Course base
      (Delivery.enterStack (Entrances.within (depth + 1)) stack (.single (.viewChange view)))
      fun handoffs _ _ => base.FansInto stack view handoffs := by
  apply enterStack
  by_cases passes : base.PassesUp stack (.single (.viewChange view))
  · refine (travel_stack_passes wired passes).mono ?_
    rintro handoffs _ _ ⟨rfl, _⟩
    refine ⟨fun entry member => ?_, fun _ => rfl⟩
    obtain ⟨fork, alive, rfl⟩ := List.mem_map.mp member
    exact ⟨fork, alive, rfl⟩
  · refine (travel_stack wired _).mono fun handoffs _ _ toForks => ⟨toForks, ?_⟩
    exact fun passesOn => absurd passesOn passes

end Course

namespace Store

variable {store : Store} {shared : Ref .pipeline} {hub : Ref .stage} {view : View}

/-- No fork is bound to two stacks. -/
theorem HubWired.stack_unique
    (wired : store.HubWired shared hub)
    {stack other : Ref .stack}
    {fork : Ref .fork}
    (registered : stack ∈ Delivery.stacksOf store hub)
    (otherRegistered : other ∈ Delivery.stacksOf store hub)
    (bound : fork ∈ store.liveForks stack)
    (alsoBound : fork ∈ store.liveForks other) :
    stack = other := by
  obtain ⟨group, isStack⟩ := mem_stacksOf_iff.mp registered
  obtain ⟨otherGroup, isOther⟩ := mem_stacksOf_iff.mp otherRegistered
  obtain ⟨member, live⟩ := mem_liveForks_iff.mp bound
  obtain ⟨otherMember, otherLive⟩ := mem_liveForks_iff.mp alsoBound
  exact (wired.members group stack member fork isStack live).1.symm.trans
    (wired.members otherGroup other otherMember fork isOther otherLive).1

/-- Of all that is handed as a view enters the stacks in turn, it is for a fork what is handed
as the view enters the stack of the fork. -/
theorem HubWired.fansOutTo
    (wired : store.HubWired shared hub)
    {handoffs : Handoffs}
    {tally : Tally}
    (inTurn : Course.InTurn (fun stack first _ => store.FansInto stack view first)
      (Delivery.stacksOf store hub) handoffs tally) :
    store.FansOutTo hub view handoffs := by
  constructor
  · refine inTurn.all fun stack member first _ fans entry among => ?_
    obtain ⟨group, registered⟩ := mem_stacksOf_iff.mp member
    obtain ⟨fork, alive, isFork⟩ := fans.forks entry among
    obtain ⟨name, live⟩ := mem_liveForks_iff.mp alive
    exact ⟨group, name, fork, Option.bind_eq_some_iff.mpr ⟨stack, registered, live⟩, isFork⟩
  · intro group name stack fork registered found passes
    rw [channel?_of_registered registered] at found
    have alive := mem_liveForks_iff.mpr ⟨name, found⟩
    have isStack := mem_stacksOf_iff.mpr ⟨group, registered⟩
    have elsewhere : ∀ other ∈ Delivery.stacksOf store hub, other ≠ stack →
        ∀ (first : Handoffs) (_ : Tally), store.FansInto other view first →
          first.filter (fun entry => entry.1 = .fork fork) = [] := by
      intro other isOther different first _ fans
      rw [List.filter_eq_nil_iff]
      intro entry among isFork
      obtain ⟨otherFork, otherAlive, isOtherFork⟩ := fans.forks entry among
      rw [isOtherFork] at isFork
      cases of_decide_eq_true isFork
      exact different (wired.stack_unique isOther isStack otherAlive alive)
    obtain ⟨first, _, fans, same⟩ :=
      inTurn.filter_alone wired.nodup_stacksOf isStack elsewhere
    have isConsumer : ((fun entry : Consumer × Traffic => decide (entry.1 = .fork fork)) ∘
        fun fork : Ref .fork =>
          ((.fork fork, .single (.viewChange view)) : Consumer × Traffic)) = (· == fork) := by
      funext other
      simp [Bool.beq_eq_decide_eq]
    rw [same, fans.passed passes, List.filter_map, isConsumer, List.filter_beq,
      List.count_eq_one_of_mem (wired.nodup_liveForks registered) alive]
    rfl

end Store

/-- A view that is fanned out is handed to every channel whose stages pass it on, once. -/
theorem Course.fanOut
    {base : Store}
    {depth : Nat}
    {shared : Ref .pipeline}
    {hub : Ref .stage}
    (wired : base.HubWired shared hub)
    (view : View) :
    Course base (Delivery.fanOut (Entrances.within (depth + 1)) hub (.viewChange view))
      fun handoffs _ _ => base.FansOutTo hub view handoffs := by
  refine look fun store same => ?_
  rw [Store.stacksOf_of_bare_eq (Store.bare_role_eq same hub)]
  refine count [] (fun counters mark => by
    cases mark <;> simp [Delivery.countBroadcast, DemultiplexerCounters.of]) ?_
  refine (forM fun stack member => ?_).mono fun _ _ _ => wired.fansOutTo
  obtain ⟨group, registered⟩ := Store.mem_stacksOf_iff.mp member
  exact ignore (enterStack_view (wired.layout group stack registered) view)

/-! ### What is counted of a view -/

namespace Store

/-- One more broadcast has been counted at a demultiplexer, and nothing else has been counted
anywhere. -/
structure CountsBroadcast (hub : Ref .stage) (before after : Store) : Prop where
  skeleton : after.skeleton = before.skeleton
  nodes : after.nodes = before.nodes
  counted : ∀ state, before.demultiplexer? hub = some state →
    after.demultiplexer? hub =
      some { state with counters := Delivery.countBroadcast state.counters }
  others : ∀ stage, stage ≠ hub →
    (after.stages.get stage).role = (before.stages.get stage).role

/-- Nothing has been counted anywhere. -/
structure CountsNothing (before after : Store) : Prop where
  skeleton : after.skeleton = before.skeleton
  nodes : after.nodes = before.nodes
  roles : ∀ stage, (after.stages.get stage).role = (before.stages.get stage).role

theorem CountsNothing.of_unrecorded
    {before after : Store}
    (same : after.unrecorded = before.unrecorded) :
    CountsNothing before after where
  skeleton := skeleton_eq_of_unrecorded same
  nodes := nodes_eq_of_unrecorded same
  roles := role_eq_of_unrecorded same

theorem CountsNothing.trans
    {before between after : Store}
    (first : CountsNothing before between)
    (second : CountsNothing between after) :
    CountsNothing before after where
  skeleton := second.skeleton.trans first.skeleton
  nodes := second.nodes.trans first.nodes
  roles stage := (second.roles stage).trans (first.roles stage)

theorem CountsBroadcast.after
    {hub : Ref .stage}
    {before between after : Store}
    (counts : CountsBroadcast hub before between)
    (nothing : CountsNothing between after) :
    CountsBroadcast hub before after where
  skeleton := nothing.skeleton.trans counts.skeleton
  nodes := nothing.nodes.trans counts.nodes
  counted state found := by
    have isCounted := demultiplexer?_eq_some.mp (counts.counted state found)
    exact demultiplexer?_eq_some.mpr ((nothing.roles hub).trans isCounted)
  others stage different := (nothing.roles stage).trans (counts.others stage different)

theorem CountsBroadcast.before
    {hub : Ref .stage}
    {before between after : Store}
    (nothing : CountsNothing before between)
    (counts : CountsBroadcast hub between after) :
    CountsBroadcast hub before after where
  skeleton := counts.skeleton.trans nothing.skeleton
  nodes := counts.nodes.trans nothing.nodes
  counted state found := by
    have role := demultiplexer?_eq_some.mp found
    exact counts.counted state (demultiplexer?_eq_some.mpr ((nothing.roles hub).trans role))
  others stage different := (counts.others stage different).trans (nothing.roles stage)

theorem countsBroadcast_count (store : Store) (hub : Ref .stage) :
    ∃ counted, Run.count hub Delivery.countBroadcast store = some ((), counted) ∧
      CountsBroadcast hub store counted := by
  refine ⟨_, rfl, skeleton_eq_of_shape_eq (shape_count store hub _), rfl,
    fun state found => ?_, fun stage different => ?_⟩
  · have issued := issued_of_isSome_demultiplexer? (Option.isSome_iff_exists.mpr ⟨state, found⟩)
    rw [demultiplexer?_eq_some]
    unfold modifyStage
    rw [Table.get_modify_self issued]
    simp only [demultiplexer?_eq_some.mp found]
  · unfold modifyStage
    rw [Table.get_modify_of_ne different]

end Store

/-- In stores of this skeleton nothing is counted. -/
def uncountedRule (base : Store) : Rule where
  holds store := store.skeleton = base.skeleton
  relates := Store.CountsNothing
  refl _ := ⟨rfl, rfl, fun _ => rfl⟩
  trans := Store.CountsNothing.trans
  keeps known related := related.skeleton.trans known

theorem uncountedRule_attends (base : Store) : (uncountedRule base).Attends base where
  known holds := holds
  records stage entry _ :=
    Store.CountsNothing.of_unrecorded (Store.unrecorded_recordStage _ stage entry)
  hears agent notice _ :=
    ⟨Store.skeleton_eq_of_shape_eq (shape_hear _ agent notice), rfl, fun _ => rfl⟩

namespace Store

variable {store : Store} {shared : Ref .pipeline} {hub : Ref .stage} {view : View} {depth : Nat}

/-- Among passive agents a view is fanned out, whatever they and the stages reject, and it is
counted once. -/
theorem HubWired.fanOut_counts
    (wired : store.HubWired shared hub)
    (passive : store.Passive)
    (depth : Nat)
    (view : View)
    {before : Store}
    (known : before.skeleton = store.skeleton) :
    ∃ after, Delivery.fanOut (Entrances.within (depth + 1)) hub (.viewChange view) before =
        some ((), after) ∧ CountsBroadcast hub before after := by
  obtain ⟨counted, counts, counting⟩ := countsBroadcast_count before hub
  have entering : (uncountedRule store).completion.judges
      (Delivery.enterAll (Entrances.within (depth + 1)) (Delivery.stacksOf store hub)
        (.viewChange view))
      (Delivery.enterAll (Entrances.within (depth + 1)) (Delivery.stacksOf store hub)
        (.viewChange view)) := by
    refine (uncountedRule store).completion.forM fun stack member => ?_
    obtain ⟨group, registered⟩ := mem_stacksOf_iff.mp member
    exact (uncountedRule store).completion.ignore
      ((uncountedRule_attends store).completes_enterStack passive
        (wired.layout group stack registered) depth _)
  obtain ⟨_, after, enters, nothing⟩ := entering counted (counting.skeleton.trans known)
  refine ⟨after, ?_, counting.after nothing⟩
  unfold Delivery.fanOut
  rw [Rule.look_apply, stacksOf_of_bare_eq (bare_role_eq known hub), Run.bind_apply, counts]
  exact enters

/-- What becomes of views, and of what is neither a message nor a view, as they come up a
pipeline with a demultiplexer. -/
structure FansOut (store : Store) (shared : Ref .pipeline) (hub : Ref .stage)
    (above : List (Ref .stage)) (depth : Nat) (view : View) : Prop where
  /-- The view is fanned out, and then it goes on up; the outcome is that of the way up. -/
  passes : Forwards store
    (Delivery.travel (Entrances.within (depth + 1)) (.up shared (.single (.viewChange view))))
    (Delivery.fanOut (Entrances.within (depth + 1)) hub (.viewChange view) >>= fun _ =>
      Delivery.ascend (Entrances.within (depth + 1)) shared above (.single (.viewChange view)))
  /-- It enters the stacks that are registered, each of them once. -/
  enters : (∀ before, before.skeleton = store.skeleton →
      Delivery.fanOut (Entrances.within (depth + 1)) hub (.viewChange view) before =
        (Run.count hub Delivery.countBroadcast >>= fun _ =>
          Delivery.enterAll (Entrances.within (depth + 1)) (Delivery.stacksOf store hub)
            (.viewChange view)) before) ∧
    (Delivery.stacksOf store hub).Nodup ∧
    ∀ stack, stack ∈ Delivery.stacksOf store hub ↔
      ∃ group, Delivery.stackOf? store hub group = some stack
  /-- Whatever the agents do, if it has been fanned out it has been handed to the channels. -/
  handed : ∀ before after, before.skeleton = store.skeleton →
    Delivery.fanOut (Entrances.within (depth + 1)) hub (.viewChange view) before =
      some ((), after) →
    ∃ handoffs, store.FansOutTo hub view handoffs ∧ HandedOver store before handoffs after
  /-- If no agent gives commands then it is fanned out, and counted once. -/
  counted : store.Passive → ∀ before, before.skeleton = store.skeleton →
    ∃ after, Delivery.fanOut (Entrances.within (depth + 1)) hub (.viewChange view) before =
        some ((), after) ∧ CountsBroadcast hub before after
  /-- If there is no other demultiplexer above then this is all that is counted of it. -/
  finishes : store.Passive → (∀ stage ∈ above, store.IsCustom stage) →
    ∃ outcome after,
      Delivery.travel (Entrances.within (depth + 1)) (.up shared (.single (.viewChange view)))
        store = some (outcome, after) ∧ CountsBroadcast hub store after
  /-- Anything but views and messages only goes on up. -/
  others : ∀ event, event.message? = none → event.isBroadcast = false → Forwards store
    (Delivery.travel (Entrances.within (depth + 1)) (.up shared (.single event)))
    (Delivery.ascend (Entrances.within (depth + 1)) shared above (.single event))

section Layers

variable {below above : List (Ref .stage)} (isHub : (store.demultiplexer? hub).isSome)
  (layers : store.stagesOf shared = below ++ hub :: above)
  (transparent : ∀ stage ∈ below, store.IsTransparent stage)

include isHub layers transparent

/-- What comes up through transparent stages comes to the demultiplexer as it is. -/
theorem forwards_demultiplex (inner : Entrances) (traffic : Traffic) :
    Forwards store (Delivery.travel inner (.up shared traffic))
      (Delivery.demultiplex inner hub (Delivery.ascend inner shared above) traffic) := by
  refine Forwards.look fun before known => ?_
  rw [stagesOf_eq known, layers]
  refine (Forwards.ascend transparent (hub :: above) traffic).trans
    (Forwards.look fun later knownThen => ?_)
  rw [← isSome_demultiplexer?_of_bare_eq (bare_role_eq knownThen hub)] at isHub
  obtain ⟨state, found⟩ := Option.isSome_iff_exists.mp isHub
  rw [demultiplexer?_eq_some.mp found]
  exact Forwards.refl _

/-- Of a view that comes up through stages without another demultiplexer it is counted at the
demultiplexer that it was there, and nothing else, if no agent gives commands. -/
theorem travel_counts
    (wired : store.HubWired shared hub)
    (passive : store.Passive)
    (customs : ∀ stage ∈ above, store.IsCustom stage) :
    ∃ outcome after,
      Delivery.travel (Entrances.within (depth + 1)) (.up shared (.single (.viewChange view)))
        store = some (outcome, after) ∧ CountsBroadcast hub store after := by
  have attends := uncountedRule_attends store
  have lifts : (uncountedRule store).completion.Lifts (Entrances.within (depth + 1))
      (Entrances.within (depth + 1)) True (· ∈ above) :=
    Discipline.lifts_of_plain (fun holds => attends.known holds) Eq.symm
      (fun stage member => Or.inl (customs stage member))
      fun stage entry _ => attends.completes_recordStage stage entry
  have rises : (uncountedRule store).Completes
      (Delivery.ascend (Entrances.within (depth + 1)) shared above
        (.single (.viewChange view))) :=
    lifts.ascend (fun passed _ => attends.completes_leaveTop passive shared passed)
      (fun _ member => member) (Or.inl trivial)
  obtain ⟨between, recorded, alike⟩ := forwards_demultiplex isHub layers transparent
    (Entrances.within (depth + 1)) (.single (.viewChange view)) store rfl
  have before := CountsNothing.of_unrecorded recorded
  obtain ⟨fanned, fans, counts⟩ :=
    wired.fanOut_counts passive depth view before.skeleton
  obtain ⟨outcome, risen, rose, nothing⟩ :=
    rises fanned (counts.skeleton.trans before.skeleton)
  have whole : Delivery.demultiplex (Entrances.within (depth + 1)) hub
      (Delivery.ascend (Entrances.within (depth + 1)) shared above)
      (.single (.viewChange view)) between = some (outcome, risen) := by
    change Delivery.broadcast _ hub _ _ between = _
    rw [Delivery.broadcast_eq, Run.bind_apply, fans]
    exact rose
  obtain ⟨after, finished, closed⟩ := alike.finishes whole
  exact ⟨outcome, after, finished,
    ((CountsBroadcast.before before counts).after nothing).after (.of_unrecorded closed)⟩

end Layers

/-- A view that comes up a pipeline through transparent stages to a demultiplexer enters every
stack there once, is handed once to every channel whose stages pass it on and to nobody else,
and then goes on up once, whatever was rejected: the outcome is that of the way up. It is
counted once. Events that are neither views nor messages only go on up. -/
theorem view_fansOut
    {below above : List (Ref .stage)}
    (wired : store.HubWired shared hub)
    (layers : store.stagesOf shared = below ++ hub :: above)
    (transparent : ∀ stage ∈ below, store.IsTransparent stage)
    (depth : Nat)
    (view : View) :
    store.FansOut shared hub above depth view where
  passes := by
    rw [← Delivery.broadcast_eq]
    exact forwards_demultiplex wired.isHub layers transparent _ _
  enters := by
    refine ⟨fun before known => ?_, wired.nodup_stacksOf, fun _ => mem_stacksOf_iff⟩
    unfold Delivery.fanOut
    rw [Rule.look_apply, stacksOf_of_bare_eq (bare_role_eq known hub)]
  handed before after known finished := by
    obtain ⟨handoffs, _, fans, handed⟩ :=
      (Course.fanOut wired view before known).handsOver known finished
    exact ⟨handoffs, fans, handed⟩
  counted passive _ known := wired.fanOut_counts passive depth view known
  finishes := travel_counts wired.isHub layers transparent wired
  others event noMessage noBroadcast := by
    cases event with
    | message message => cases noMessage
    | viewChange other => cases noBroadcast
    | localAddress address => exact forwards_demultiplex wired.isHub layers transparent _ _
    | suspect address => exact forwards_demultiplex wired.isHub layers transparent _ _

/-! ### A crowded demultiplexer -/

/-- A node with a demultiplexer between two stages and five forks: one of them refuses
everything, one is let go of, one has no agent, and the last one is behind a stage that
rejects everything. -/
def crowding : List Action :=
  let plan (group member : String) (receiver? : Option (Ref .agent)) : ForkPlan :=
    { node? := some ⟨0⟩, group? := some group, member? := some member,
      receiver? := receiver? }
  [.addAgent .recording, .addAgent .closedQueue, .addAgent .recording, .addAgent .recording,
    .addAgent .recording, .addStage "glass" .transparent, .addStage "lid" .recording,
    .addStage "gate" .refusingUp, .addNode "a" "a" (.filled 1) "net" [⟨0⟩, ⟨1⟩],
    .setReceiver ⟨0⟩ ⟨3⟩, .ensureDemultiplexer ⟨0⟩ true (.above "glass"),
    .buildFork (plan "g" "m" (some ⟨0⟩)) "first", .buildFork (plan "g" "n" (some ⟨1⟩)) "second",
    .buildFork (plan "g" "o" (some ⟨2⟩)) "third", .buildFork (plan "g" "p" none) "fourth",
    .buildFork { plan "e" "m" (some ⟨4⟩) with stages := [⟨2⟩] } "fifth", .dropFork "third"]

/-- The node with its forks. -/
def crowded : Store := (Store.run? {} crowding).getD {}

/-- The view of a node by itself. -/
def solitude : View := { creator := .filled 1, id := 1, members := [.filled 1] }

/-- The first fork and the top of the node get the view, once, although it is refused by the
second fork and rejected in the stack of the fifth one. -/
theorem view_fansOut_crowded :
    crowded.FansOut (crowded.nodes.get ⟨0⟩).pipeline ⟨3⟩ [⟨1⟩] 0 solitude ∧
    (Delivery.travel (Entrances.within 1)
      (.up (crowded.nodes.get ⟨0⟩).pipeline (.single (.viewChange solitude))) crowded).map
        (fun result => (result.1.isOk,
          [0, 1, 2, 3, 4].map fun agent => (result.2.agents.get ⟨agent⟩).entries.length,
          (result.2.demultiplexer? ⟨3⟩).map fun state => state.counters.broadcasts)) =
      some (true, [1, 0, 0, 1, 0], some 1) := by
  have reachable : Reachable (fun _ => True) crowded := by
    apply reachable_made
    simp
  have wired : crowded.HubWired (crowded.nodes.get ⟨0⟩).pipeline ⟨3⟩ :=
    (wired_of_reachable reachable).hubWired (by decide +kernel) (by decide +kernel)
  have layers : crowded.stagesOf (crowded.nodes.get ⟨0⟩).pipeline = [⟨0⟩] ++ ⟨3⟩ :: [⟨1⟩] := by
    decide +kernel
  have glass : (crowded.stages.get ⟨0⟩).role = .custom .transparent := by
    with_unfolding_all rfl
  have transparent : ∀ stage ∈ [(⟨0⟩ : Ref .stage)], crowded.IsTransparent stage := by
    intro stage member
    rw [List.mem_singleton.mp member]
    exact ⟨_, glass, Conduct.transparent_transparent⟩
  exact ⟨view_fansOut wired layers transparent 0 solitude, by decide +kernel⟩

end Store

end ChannelMux
