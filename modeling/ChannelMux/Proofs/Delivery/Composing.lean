import ChannelMux.Delivery.Link
import ChannelMux.Proofs.Delivery.Skeleton

/-!
Contract: a chain of stages is dispatched in parts.

Owns that passing things on from link to link is the same as going through the stages one
after the other, for pipelines of a store too; and `dispatch_composes`: stages above others are
the handler of those, stages below others are their sink, and to begin at a stage is to begin
at the top of the stages up to it.

Whatever handlers and sinks do, they are told the same things, in the same order, in the same
stores: what is claimed is that runs are equal. Nothing that runs changes what is in a
pipeline, so that a pipeline of a store may be taken for the stages that it had before.
-/

namespace ChannelMux

namespace Delivery

namespace Chain

variable {inner : Entrances} {chain : Chain}

/-! ### From link to link -/

theorem passUp_eq (inner : Entrances) (chain : Chain) (index : Nat) :
    chain.passUp inner index =
      (chain.stages.drop (index + 1)).foldr (ascendStage inner) chain.top := by
  generalize size : chain.stages.length - index = remaining
  induction remaining generalizing index with
  | zero =>
      funext traffic
      have above : chain.stages.length ≤ index + 1 := by omega
      rw [passUp, List.drop_eq_nil_of_le above]
      split
      · rename_i found
        rw [List.getElem?_eq_none above] at found
        cases found
      · rfl
  | succ remaining inductionHypothesis =>
      funext traffic
      rw [passUp]
      split
      · rename_i stage found
        obtain ⟨below, same⟩ := List.getElem?_eq_some_iff.mp found
        rw [inductionHypothesis (index + 1) (by omega), List.drop_eq_getElem_cons below, same]
        rfl
      · rename_i missing
        rw [List.drop_eq_nil_of_le (List.getElem?_eq_none_iff.mp missing)]
        rfl

/-- The way up is through the stages, the bottom one first. -/
theorem up_eq (inner : Entrances) (chain : Chain) :
    chain.up inner = chain.stages.foldr (ascendStage inner) chain.top := by
  funext traffic
  unfold up
  cases split : chain.stages with
  | nil => rfl
  | cons first above =>
      rw [passUp_eq, split]
      rfl

theorem passDown_eq
    (chain : Chain)
    {index : Nat}
    (within : index ≤ chain.stages.length) :
    chain.passDown index = (chain.stages.take index).reverse.foldr descendStage chain.bottom := by
  induction index with
  | zero => rfl
  | succ previous inductionHypothesis =>
      funext event
      rw [passDown, takeDown, List.getElem?_eq_getElem within,
        inductionHypothesis (Nat.le_of_succ_le within), List.take_succ_eq_append_getElem within,
        List.reverse_concat, List.foldr_cons]

/-- The way down is through the stages, the top one first. -/
theorem down_eq (chain : Chain) :
    chain.down = chain.stages.reverse.foldr descendStage chain.bottom := by
  have whole := passDown_eq chain (Nat.le_refl _)
  rw [List.take_length] at whole
  rw [← whole]
  funext event
  unfold down
  split
  · rename_i empty
    rw [empty]
    rfl
  · rename_i top size
    rw [size]
    rfl

/-- The lowest stage that is the one to begin at. -/
theorem findIdx?_of_split
    {stage : Ref .stage}
    {front : List (Ref .stage)}
    (first : stage ∉ front)
    (back : List (Ref .stage)) :
    (front ++ stage :: back).findIdx? (fun other => other == stage) = some front.length := by
  induction front with
  | nil => rw [List.nil_append, List.findIdx?_cons, if_pos (beq_self_eq_true stage)]; rfl
  | cons head tail inductionHypothesis =>
      obtain ⟨apart, behind⟩ := not_or.mp (fun member => first (List.mem_cons.mpr member))
      rw [List.cons_append, List.findIdx?_cons, if_neg (by simpa using Ne.symm apart),
        inductionHypothesis behind]
      rfl

/-- To begin at a stage is to begin at the top of the stages up to it. -/
theorem downAt_of_split
    {stage : Ref .stage}
    {front back : List (Ref .stage)}
    (split : chain.stages = front ++ stage :: back)
    (first : stage ∉ front) :
    chain.downAt stage = { chain with stages := front ++ [stage] }.down := by
  funext event
  have within : front.length ≤ chain.stages.length := by
    rw [split, List.length_append]
    omega
  have place : chain.stages[front.length]? = some stage := by
    rw [split, List.getElem?_append_right (Nat.le_refl _), Nat.sub_self]
    rfl
  have found : chain.stages.findIdx? (fun other => other == stage) = some front.length := by
    rw [split, findIdx?_of_split first]
  rw [downAt, found, down_eq, List.reverse_concat, List.foldr_cons]
  simp only [takeDown, place, passDown_eq chain within]
  rw [split, List.take_left]

theorem downAt_of_not_mem
    {stage : Ref .stage}
    (missing : stage ∉ chain.stages)
    (event : Event)
    (store : Store) :
    chain.downAt stage event store =
      some (.error (.detached chain.name (store.stages.get stage).name), store) := by
  have none : chain.stages.findIdx? (fun other => other == stage) = none := by
    apply List.findIdx?_eq_none_iff.mpr
    intro other member
    simpa using ne_of_mem_of_not_mem member missing
  rw [downAt, none]
  rfl

end Chain

/-! ### Pipelines of a store -/

theorem ascend_eq_foldr (inner : Entrances) (pipeline : Ref .pipeline)
    (layers : List (Ref .stage)) :
    ascend inner pipeline layers = layers.foldr (ascendStage inner) (leaveTop inner pipeline) := by
  funext traffic
  induction layers generalizing traffic with
  | nil => rfl
  | cons stage above inductionHypothesis =>
      rw [ascend, funext inductionHypothesis, List.foldr_cons]

theorem descend_eq_foldr (inner : Entrances) (pipeline : Ref .pipeline)
    (layers : List (Ref .stage)) :
    descend inner pipeline layers = layers.foldr descendStage (leaveBottom inner pipeline) := by
  funext event
  induction layers generalizing event with
  | nil => rfl
  | cons stage below inductionHypothesis =>
      rw [descend, funext inductionHypothesis, List.foldr_cons]

theorem upTo?_of_split
    {stage : Ref .stage}
    {front : List (Ref .stage)}
    (first : stage ∉ front)
    (back : List (Ref .stage)) :
    upTo? stage (front ++ stage :: back) = some (front ++ [stage]) := by
  induction front with
  | nil => rw [List.nil_append, upTo?, if_pos rfl, List.nil_append]
  | cons head tail inductionHypothesis =>
      obtain ⟨apart, behind⟩ := not_or.mp (fun member => first (List.mem_cons.mpr member))
      rw [List.cons_append, upTo?, if_neg (Ne.symm apart), inductionHypothesis behind]
      rfl

theorem upTo?_of_not_mem
    {stage : Ref .stage}
    {stages : List (Ref .stage)}
    (missing : stage ∉ stages) :
    upTo? stage stages = none := by
  induction stages with
  | nil => rfl
  | cons head tail inductionHypothesis =>
      obtain ⟨apart, behind⟩ := not_or.mp (fun member => missing (List.mem_cons.mpr member))
      rw [upTo?, if_neg (Ne.symm apart), inductionHypothesis behind]
      rfl

/-- What travels up a pipeline is dispatched from link to link. -/
theorem travel_up_eq (inner : Entrances) (store : Store) (pipeline : Ref .pipeline)
    (traffic : Traffic) :
    travel inner (.up pipeline traffic) store =
      (Chain.ofPipeline inner store pipeline).up inner traffic store := by
  rw [Chain.up_eq]
  exact congrFun (congrFun (ascend_eq_foldr inner pipeline (store.stagesOf pipeline)) traffic) store

theorem travel_down_eq (inner : Entrances) (store : Store) (pipeline : Ref .pipeline)
    (event : Event) :
    travel inner (.down pipeline event) store =
      (Chain.ofPipeline inner store pipeline).down event store := by
  rw [Chain.down_eq]
  exact congrFun
    (congrFun (descend_eq_foldr inner pipeline (store.stagesOf pipeline).reverse) event) store

theorem travel_downFrom_eq (inner : Entrances) (store : Store) (pipeline : Ref .pipeline)
    (stage : Ref .stage) (event : Event) :
    travel inner (.downFrom pipeline stage event) store =
      (Chain.ofPipeline inner store pipeline).downAt stage event store := by
  rw [travel, descendFrom, Rule.get_apply]
  by_cases member : stage ∈ store.stagesOf pipeline
  · obtain ⟨front, back, split, first⟩ := List.eq_append_cons_of_mem member
    rw [split, upTo?_of_split first, Chain.downAt_of_split split first, Chain.down_eq]
    exact congrFun (congrFun (descend_eq_foldr inner pipeline _) event) store
  · rw [upTo?_of_not_mem member, Chain.downAt_of_not_mem member]
    rfl

end Delivery

/-! ### Pipelines in place of stages -/

/-- Two runs are the same in every store with the skeleton of one, and keep it. -/
def Steady {α : Type} (start : Store) (run other : Run α) : Prop :=
  ∀ store, store.skeleton = start.skeleton →
    run store = other store ∧
      ∀ value after, run store = some (value, after) → after.skeleton = start.skeleton

section Steadiness

variable {α β : Type} {start : Store}

theorem Steady.congr
    {run other : Run α}
    (steady : Steady start run run)
    (same : ∀ store, store.skeleton = start.skeleton → run store = other store) :
    Steady start run other :=
  fun store known => ⟨same store known, (steady store known).2⟩

theorem Steady.of_governs
    {run : Run α}
    (governed : skeletonRule.Governs run)
    (start : Store) :
    Steady start run run := by
  intro store same
  exact ⟨rfl, fun value after finished =>
    (governed store value after trivial finished).trans same⟩

theorem Steady.bind
    {run other : Run α}
    {next onward : α → Run β}
    (first : Steady start run other)
    (second : ∀ value, Steady start (next value) (onward value)) :
    Steady start (run >>= next) (other >>= onward) := by
  intro store same
  obtain ⟨alike, kept⟩ := first store same
  rw [Run.bind_apply, Run.bind_apply, ← alike]
  cases ran : run store with
  | none => exact ⟨rfl, fun value after finished => by cases finished⟩
  | some result => exact second result.1 result.2 (kept result.1 result.2 ran)

/-- Runs are judged by whether they are steady. -/
def steadiness (start : Store) : Discipline where
  holds store := store.skeleton = start.skeleton
  agrees := Eq
  judges := Steady start
  pure value := Steady.of_governs (Rule.pure value) start
  bind := Steady.bind
  get same each := by
    intro store known
    rw [Rule.get_apply, Rule.get_apply, same known rfl]
    exact each known store known

theorem steadiness_allows (start : Store) : (steadiness start).Allows where
  same agrees := agrees
  records stage entry := .of_governs (Skeleton.allows.records stage entry) start
  counts stage change := .of_governs (Skeleton.allows.counts stage change) start
  hears agent entry := .of_governs (Skeleton.allows.hears agent entry) start
  changesNode node change unseen :=
    .of_governs (Skeleton.allows.changesNode node change unseen) start
  changesFork fork change unseen :=
    .of_governs (Skeleton.allows.changesFork fork change unseen) start
  puts network name cluster := .of_governs (Skeleton.allows.puts network name cluster) start

theorem steadiness_covers (start : Store) (depth : Nat) :
    (steadiness start).Covers (Entrances.within depth) (Entrances.within depth) where
  travel journey := .of_governs ((Skeleton.covers_within depth).travel journey) start
  call operation := .of_governs ((Skeleton.covers_within depth).call operation) start

/-- The way up through stages is the same if what leaves them at the top comes to the same. -/
theorem steady_up
    (depth : Nat)
    (stages : List (Ref .stage))
    {top other : Traffic → Run Outcome}
    (leaves : ∀ traffic, Steady start (top traffic) (other traffic))
    (traffic : Traffic) :
    Steady start (stages.foldr (Delivery.ascendStage (Entrances.within depth)) top traffic)
      (stages.foldr (Delivery.ascendStage (Entrances.within depth)) other traffic) := by
  have allows := steadiness_allows start
  have lifts : (steadiness start).Lifts _ _ True fun _ => True :=
    (allows.carries (steadiness_covers start depth)).lifts fun stage change _ =>
      allows.counts stage change
  induction stages generalizing traffic with
  | nil => exact leaves traffic
  | cons stage above inductionHypothesis =>
      exact lifts.ascendStage trivial (fun passed _ => inductionHypothesis passed) (.inl trivial)

/-- So is the way down if what leaves them at the bottom does. -/
theorem steady_down
    (stages : List (Ref .stage))
    {bottom other : Event → Run Outcome}
    (leaves : ∀ event, Steady start (bottom event) (other event))
    (event : Event) :
    Steady start (stages.foldr Delivery.descendStage bottom event)
      (stages.foldr Delivery.descendStage other event) := by
  have lowers := ((steadiness_allows start).carries (steadiness_covers start 0)).lowers
  induction stages generalizing event with
  | nil => exact leaves event
  | cons stage below inductionHypothesis =>
      exact lowers.descendStage trivial (fun passed _ => inductionHypothesis passed) (.inl trivial)

end Steadiness

/-! ### Chains that begin or end in a pipeline -/

namespace Delivery

variable (depth : Nat) {start : Store} {whole part : Ref .pipeline}

theorem steady_leaveTop
    (same : (start.pipelines.get part).receiver? = (start.pipelines.get whole).receiver?)
    (traffic : Traffic) :
    Steady start (leaveTop (Entrances.within depth) whole traffic)
      (leaveTop (Entrances.within depth) part traffic) := by
  have carries := (steadiness_allows start).carries (steadiness_covers start depth)
  apply (carries.leavesTop whole traffic (.inl trivial)).congr
  intro store known
  unfold leaveTop
  rw [Rule.look_apply, Rule.look_apply, Store.pipelines_eq known, same]

theorem steady_leaveBottom
    (sameName : (start.pipelines.get part).name = (start.pipelines.get whole).name)
    (sameOutlet : (start.pipelines.get part).outlet? = (start.pipelines.get whole).outlet?)
    (event : Event) :
    Steady start (leaveBottom (Entrances.within depth) whole event)
      (leaveBottom (Entrances.within depth) part event) := by
  have carries := (steadiness_allows start).carries (steadiness_covers start depth)
  apply (carries.leaveBottom (.inl trivial) whole).congr
  intro store known
  unfold leaveBottom
  rw [Rule.look_apply, Rule.look_apply, Store.pipelines_eq known, sameName, sameOutlet]

/-- The stages of a pipeline, with what takes what leaves its like at the top, are as good as
the pipeline. -/
theorem steady_travel_up
    (same : (start.pipelines.get part).receiver? = (start.pipelines.get whole).receiver?)
    (traffic : Traffic) :
    Steady start
      ((start.stagesOf part).foldr (ascendStage (Entrances.within depth))
        (leaveTop (Entrances.within depth) whole) traffic)
      (travel (Entrances.within depth) (.up part traffic)) := by
  have alike := steady_up depth (start.stagesOf part) (steady_leaveTop depth same) traffic
  intro store known
  obtain ⟨equal, kept⟩ := alike store known
  refine ⟨equal.trans ?_, kept⟩
  rw [travel_up_eq, Chain.up_eq]
  unfold Chain.ofPipeline
  rw [Store.stagesOf_eq known]

theorem steady_travel_down
    (sameName : (start.pipelines.get part).name = (start.pipelines.get whole).name)
    (sameOutlet : (start.pipelines.get part).outlet? = (start.pipelines.get whole).outlet?)
    (event : Event) :
    Steady start
      ((start.stagesOf part).reverse.foldr descendStage
        (leaveBottom (Entrances.within depth) whole) event)
      (travel (Entrances.within depth) (.down part event)) := by
  have alike := steady_down (start.stagesOf part).reverse
    (steady_leaveBottom depth sameName sameOutlet) event
  intro store known
  obtain ⟨equal, kept⟩ := alike store known
  refine ⟨equal.trans ?_, kept⟩
  rw [travel_down_eq, Chain.down_eq]
  unfold Chain.ofPipeline
  rw [Store.stagesOf_eq known]

/-- Two pipelines have the same end at the bottom: its outlet, and the name by which it is
missed. -/
def SameBottom (store : Store) (left right : Ref .pipeline) : Prop :=
  (store.pipelines.get left).name = (store.pipelines.get right).name ∧
    (store.pipelines.get left).outlet? = (store.pipelines.get right).outlet?

/-- Dispatch is compositional. Traffic that goes up through some stages and others above them
goes up through the former, with the way up through the latter for a handler; an event goes
down through the latter, with the way down through the former for a sink. To begin at a stage
is to begin at the top of the stages up to where it is first; where there is no such stage
that is refused, and nothing happens. So it is for stages of all kinds, for all handlers and
sinks, and for whatever is entered from within. What travels through a pipeline is dispatched
in this way, and so another pipeline can stand for a part of its stages, however deep pipelines
may be entered. -/
theorem dispatch_composes :
    (∀ (inner : Entrances) (name : String) (lower upper : List (Ref .stage))
      (top : Traffic → Run Outcome) (bottom : Event → Run Outcome),
      (Chain.mk name (lower ++ upper) top bottom).up inner =
        (Chain.mk name lower ((Chain.mk name upper top bottom).up inner) bottom).up inner ∧
      (Chain.mk name (lower ++ upper) top bottom).down =
        (Chain.mk name upper top (Chain.mk name lower top bottom).down).down) ∧
    (∀ (chain : Chain) (stage : Ref .stage),
      (∀ front back, chain.stages = front ++ stage :: back → stage ∉ front →
        chain.downAt stage = { chain with stages := front ++ [stage] }.down) ∧
      (stage ∉ chain.stages → ∀ event store,
        chain.downAt stage event store =
          some (.error (.detached chain.name (store.stages.get stage).name), store))) ∧
    (∀ (inner : Entrances) (store : Store) (pipeline : Ref .pipeline),
      (∀ traffic, travel inner (.up pipeline traffic) store =
        (Chain.ofPipeline inner store pipeline).up inner traffic store) ∧
      (∀ event, travel inner (.down pipeline event) store =
        (Chain.ofPipeline inner store pipeline).down event store) ∧
      (∀ stage event, travel inner (.downFrom pipeline stage event) store =
        (Chain.ofPipeline inner store pipeline).downAt stage event store)) ∧
    (∀ (depth : Nat) (store : Store) (whole lower upper : Ref .pipeline),
      store.stagesOf whole = store.stagesOf lower ++ store.stagesOf upper →
      ((store.pipelines.get upper).receiver? = (store.pipelines.get whole).receiver? →
        ∀ traffic, (Entrances.within (depth + 1)).travel (.up whole traffic) store =
          { Chain.ofPipeline (Entrances.within depth) store lower with
            top := fun passed => (Entrances.within (depth + 1)).travel (.up upper passed) }.up
              (Entrances.within depth) traffic store) ∧
      (SameBottom store lower whole →
        ∀ event, (Entrances.within (depth + 1)).travel (.down whole event) store =
          { Chain.ofPipeline (Entrances.within depth) store upper with
            bottom := fun passed =>
              (Entrances.within (depth + 1)).travel (.down lower passed) }.down event store)) ∧
    (∀ (depth : Nat) (store : Store) (whole part : Ref .pipeline) (stage : Ref .stage)
      (front back : List (Ref .stage)),
      store.stagesOf whole = front ++ stage :: back → stage ∉ front →
      store.stagesOf part = front ++ [stage] → SameBottom store part whole →
        ∀ event, (Entrances.within (depth + 1)).travel (.downFrom whole stage event) store =
          (Entrances.within (depth + 1)).travel (.down part event) store) := by
  refine ⟨?_, ?_, ?_, ?_, ?_⟩
  · intro inner name lower upper top bottom
    constructor
    · simp only [Chain.up_eq, List.foldr_append]
    · simp only [Chain.down_eq, List.reverse_append, List.foldr_append]
  · intro chain stage
    exact ⟨fun front back split first => Chain.downAt_of_split split first,
      fun missing event store => Chain.downAt_of_not_mem missing event store⟩
  · intro inner store pipeline
    exact ⟨travel_up_eq inner store pipeline, travel_down_eq inner store pipeline,
      travel_downFrom_eq inner store pipeline⟩
  · intro depth store whole lower upper split
    constructor
    · intro same traffic
      have parts := steady_up depth (store.stagesOf lower)
        (steady_travel_up depth same) traffic store rfl
      refine Eq.trans ?_ (parts.1.trans ?_)
      · refine (travel_up_eq _ store whole traffic).trans ?_
        rw [Chain.up_eq]
        unfold Chain.ofPipeline
        rw [split, List.foldr_append]
      · rw [Chain.up_eq]
        rfl
    · intro same event
      have parts := steady_down (store.stagesOf upper).reverse
        (steady_travel_down depth same.1 same.2) event store rfl
      refine Eq.trans ?_ (parts.1.trans ?_)
      · refine (travel_down_eq _ store whole event).trans ?_
        rw [Chain.down_eq]
        unfold Chain.ofPipeline
        rw [split, List.reverse_append, List.foldr_append]
      · rw [Chain.down_eq]
        rfl
  · intro depth store whole part stage front back split first upTo same event
    have parts := steady_travel_down depth same.1 same.2 event store rfl
    refine Eq.trans ?_ parts.1
    refine (travel_downFrom_eq _ store whole stage event).trans ?_
    rw [Chain.downAt_of_split split first, Chain.down_eq, upTo]
    rfl

/-- A pipeline of two stages that keep a record, and each of the stages in a pipeline of its
own; no pipeline has an outlet. -/
def halves : Store where
  pipelines := ((Table.add {} { name := "p", stages := [⟨0⟩, ⟨1⟩] }).add
    { name := "p", stages := [⟨0⟩] }).add { name := "p", stages := [⟨1⟩] }
  stages := (Table.add {} { name := "low", role := .custom .recording }).add
    { name := "high", role := .custom .recording }

/-- In parts as in the whole, both stages are passed, and the outlet is missed by its name. -/
theorem dispatch_composes_halves :
    { Chain.ofPipeline (Entrances.within 0) halves ⟨2⟩ with
      bottom := fun passed => (Entrances.within 1).travel (.down ⟨1⟩ passed) }.down
        (.suspect (.filled 9)) halves =
      some (.error (.noOutlet "p"),
        (halves.modifyStage ⟨1⟩ fun stage =>
            { stage with entries := [.down (.suspect (.filled 9))] }).modifyStage ⟨0⟩ fun stage =>
          { stage with entries := [.down (.suspect (.filled 9))] }) := by
  obtain ⟨_, _, _, parts, _⟩ := dispatch_composes
  rw [← (parts 0 halves ⟨0⟩ ⟨1⟩ ⟨2⟩ rfl).2 ⟨rfl, rfl⟩ (.suspect (.filled 9))]
  rfl

end Delivery

end ChannelMux
