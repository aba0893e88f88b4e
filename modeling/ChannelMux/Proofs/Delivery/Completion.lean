import ChannelMux.Proofs.Delivery.Departing
import ChannelMux.Proofs.Delivery.Hearing
import ChannelMux.Proofs.Delivery.Moving
import ChannelMux.Proofs.Delivery.Skeleton
import ChannelMux.Proofs.Network.Holdings

/-!
Contract: runs among passive agents come to an end.

Owns the runs that finish from every store with a property and leave behind what is related to
it, and the discipline of these. Owns that agents who give no command let everything come to
an end that goes up a stack or up the pipeline of a node and everything that is sent, whatever the
stages do with it, and that connecting, disconnecting and closing come to an end.
-/

namespace ChannelMux

variable {α β : Type}

namespace Rule

/-- From every store with the property the run finishes, and what it leaves behind is related
to what it began with. -/
def Completes (rule : Rule) (run : Run α) : Prop :=
  ∀ before, rule.holds before →
    ∃ value after, run before = some (value, after) ∧ rule.relates before after

variable {rule : Rule}

namespace Completes

theorem pure (value : α) : rule.Completes (Pure.pure value) :=
  fun before _ => ⟨value, before, rfl, rule.refl before⟩

theorem bind
    {run : Run α}
    {next : α → Run β}
    (first : rule.Completes run)
    (second : ∀ value, rule.Completes (next value)) :
    rule.Completes (run >>= next) := by
  intro before holds
  obtain ⟨passed, between, ran, related⟩ := first before holds
  obtain ⟨value, after, onward, relatedOn⟩ :=
    second passed between (rule.keeps holds related)
  refine ⟨value, after, ?_, rule.trans related relatedOn⟩
  rw [Run.bind_apply, ran]
  exact onward

theorem get
    {next : Store → Run β}
    (each : ∀ {store}, rule.holds store → rule.Completes (next store)) :
    rule.Completes (MonadState.get >>= next) :=
  fun before holds => each holds before holds

theorem modify
    {change : Store → Store}
    (related : ∀ store, rule.holds store → rule.relates store (change store)) :
    rule.Completes (MonadState.modifyGet fun store : Store => ((), change store)) :=
  fun before holds => ⟨(), change before, rfl, related before holds⟩

/-- What completes is governed as well. -/
theorem governs {run : Run α} (completes : rule.Completes run) : rule.Governs run := by
  intro before value after holds finished
  obtain ⟨reached, left, ran, related⟩ := completes before holds
  rw [finished] at ran
  cases ran
  exact related

end Completes

/-- Runs are judged by whether they complete. -/
def completion (rule : Rule) : Discipline where
  holds := rule.holds
  agrees := Eq
  judges run _ := rule.Completes run
  pure := Completes.pure
  bind := Completes.bind
  get _ each := Completes.get each

/-- The rule allows for what stages record and passive agents hear, and holds of stores of one
skeleton. -/
structure Attends (rule : Rule) (base : Store) : Prop where
  known : ∀ {store}, rule.holds store → store.skeleton = base.skeleton
  records : ∀ {store} stage (entry : StageEntry), rule.holds store →
    rule.relates store (store.modifyStage stage fun record =>
      { record with entries := entry :: record.entries })
  hears : ∀ {store} agent notice, rule.holds store →
    rule.relates store (store.modifyAgent agent (·.hear notice))

namespace Attends

variable {base : Store} {inner : Entrances} (attends : rule.Attends base)

include attends

theorem completes_recordStage (stage : Ref .stage) (entry : StageEntry) :
    rule.Completes (Run.recordStage stage entry) :=
  .modify fun _ holds => attends.records stage entry holds

/-! ### Handing to passive agents -/

section Passive

variable (passive : base.Passive)

include passive

theorem completes_tell (agent : Ref .agent) (notice : Notice) :
    rule.Completes (Delivery.tell inner agent notice) := by
  intro before holds
  have isPassive := passive.of_skeleton_eq (attends.known holds) agent
  exact ⟨_, _, tell_of_passive isPassive inner notice, attends.hears agent notice holds⟩

theorem completes_leaveTop (pipeline : Ref .pipeline) (traffic : Traffic) :
    rule.Completes (Delivery.leaveTop inner pipeline traffic) := by
  refine .get fun {store} _ => ?_
  dsimp only
  cases (store.pipelines.get pipeline).receiver? with
  | none => exact .pure _
  | some agent => exact attends.completes_tell passive agent _

/-- What comes up in a closed region can be judged, if it can be what is counted there. -/
theorem oversees
    {region : Region}
    (closed : region.Closed base)
    (counts : ∀ {store stage} change, stage ∈ region.stages → rule.holds store →
      (store.demultiplexer? stage).isSome → rule.Completes (Run.count stage change)) :
    rule.completion.Oversees region inner inner where
  closed holds := closed.of_skeleton_eq (attends.known holds)
  same := by
    rintro left _ _ rfl
    exact .refl _ _
  conducts _ _ _ _ :=
    (Script.asks_of_all (fun _ => trivial) _).admits (attends.completes_recordStage _)
  counts := counts
  tells agent _ traffic := attends.completes_tell passive agent (.up traffic)

/-- What enters a stack comes to an end, whatever the stages do with it. -/
theorem completes_enterStack
    {shared : Ref .pipeline}
    {hub : Ref .stage}
    {group : String}
    {stack : Ref .stack}
    (wired : base.StackWired shared hub group stack)
    (depth : Nat)
    (traffic : Traffic) :
    rule.Completes
      (Delivery.enterStack (Entrances.within (depth + 1)) stack traffic) := by
  have noHub {store : Store} {stage : Ref .stage}
      (inside : stage ∈ (base.stackHoldings stack).stages) (holds : rule.holds store) :
      (store.demultiplexer? stage).isSome = false := by
    obtain ⟨pipeline, isPipeline, layer⟩ := List.mem_flatMap.mp inside
    rw [List.mem_singleton.mp isPipeline] at layer
    rw [Store.isSome_demultiplexer?_of_bare_eq (Store.bare_role_eq (attends.known holds) stage),
      Store.isSome_demultiplexer?, (wired.roles layer).1]
    rfl
  have oversees : rule.completion.Oversees (base.stackHoldings stack)
      (Entrances.within depth) (Entrances.within depth) :=
    attends.oversees passive wired.closed_stackHoldings fun _ inside holds isHub => by
      rw [noHub inside holds] at isHub
      cases isHub
  exact oversees.enterStack_of_flat (fun holds => attends.known holds) wired.flat_stackHoldings
    (List.mem_singleton_self stack) traffic

/-- What goes up the pipeline of a node comes to an end. -/
theorem completes_travel
    {node : Ref .node}
    (counts : ∀ {store stage} change, rule.holds store →
      (store.demultiplexer? stage).isSome → rule.Completes (Run.count stage change))
    (wired : base.Wired)
    (sole : base.SoleHubs)
    (issued : base.nodes.Issued node)
    (depth : Nat)
    (traffic : Traffic) :
    rule.Completes (Delivery.travel (Entrances.within (depth + 1))
      (.up (base.nodes.get node).pipeline traffic)) := by
  have oversees (depth : Nat) : rule.completion.Oversees (base.holdings node)
      (Entrances.within depth) (Entrances.within depth) :=
    attends.oversees passive (Store.closed_holdings wired sole issued)
      fun change _ holds isHub => counts change holds isHub
  exact (oversees (depth + 1)).travel_of_flat (fun holds => attends.known holds)
    (Store.flat_holdings wired sole issued) (oversees depth) Store.pipeline_mem_holdings traffic

end Passive

end Attends

end Rule

/-! ### Sending -/

/-- In stores of one skeleton, nothing is asked of what becomes of the rest. -/
def sturdyRule (base : Store) : Rule :=
  { skeletonRule.toRule with
    holds := fun store => store.skeleton = base.skeleton
    keeps := fun known same => same.trans known }

namespace Sturdy

variable {base : Store}

theorem attends (base : Store) : (sturdyRule base).Attends base where
  known known := known
  records stage entry _ := Store.skeleton_eq_of_shape_eq (Store.shape_recordStage _ stage entry)
  hears agent notice _ := Store.skeleton_eq_of_shape_eq (shape_hear _ agent notice)

variable (passive : base.Passive) (wired : base.Wired) (sole : base.SoleHubs)

include passive wired sole

/-- What goes up the pipeline of a node that lasts comes to an end. -/
theorem completes_climb
    {store : Store}
    {node : Ref .node}
    (known : store.skeleton = base.skeleton)
    (alive : base.isNodeAlive node = true)
    (depth : Nat)
    (traffic : Traffic) :
    (sturdyRule base).Completes ((Entrances.within (depth + 2)).travel
      (.up (store.nodes.get node).pipeline traffic)) := by
  have travels := (attends base).completes_travel passive (fun change _ _ =>
    .modify fun store _ => Store.skeleton_eq_of_shape_eq (Store.shape_count store _ change))
    wired sole (wired.issued_of_isNodeAlive alive) depth traffic
  rw [← Store.nodePipeline_eq known] at travels
  exact travels

theorem departs (depth : Nat) :
    (sturdyRule base).completion.Departs base (fun _ => Eq) (Entrances.within (depth + 2))
      (Entrances.within (depth + 2)) where
  tables _ agrees := .of_eq agrees
  counts node change unseen := by
    refine .modify fun store _ => Store.skeleton_modifyNode (fun record => ?_) store node
    have same := congrArg Node.still (unseen record)
    exact same
  receives {store} node message known alive := by
    rw [Delivery.ignore_receive]
    refine .bind (.modify fun store _ => ?_) fun _ => .get fun {store} knownThen => ?_
    · apply Store.skeleton_modifyNode
      intro record
      rfl
    · rw [Store.isNodeAlive_eq known] at alive
      exact (completes_climb passive wired sole knownThen alive depth _).bind fun _ => .pure _
  known known := known
  lowers :=
    { ways := by
        rintro _ _ _ _ _ rfl
        rfl
      entries := by
        rintro _ _ _ _ _ rfl
        rfl
      conducts := fun _ _ _ _ => ((Script.asks_of_all (fun _ => trivial) _).admits
        ((attends base).completes_recordStage _)).mono (fun _ completes => completes)
          (fun _ _ same => same) fun _ _ => Or.inl trivial }

/-- Whatever stages and agents make of it, what is sent comes to an end. -/
theorem completes_call
    {operation : Operation}
    (can : base.canCall operation = true)
    (sends : operation.sends = true)
    (depth : Nat) :
    (sturdyRule base).Completes ((Entrances.within (depth + 5)).call operation) := by
  have departs := departs passive wired sole
  refine (departs (depth + 2)).call wired can sends (fun node issued event => ?_)
    fun node hub group stack issued found stackWired event => ?_
  · exact (departs (depth + 1)).travel_down (wired.nodes node issued) event
  · have layer := (Store.mem_of_hub? found).1
    refine (departs (depth + 1)).travel_down_stack stackWired layer (fun passed => ?_) event
    exact (departs depth).travel_downFrom (wired.nodes node issued) layer passed

/-! ### Connecting, disconnecting and closing -/

theorem moves (depth : Nat) :
    (sturdyRule base).completion.Moves (Entrances.within (depth + 2))
      (Entrances.within (depth + 2)) where
  tables _ agrees := .of_eq agrees
  changesNode node change still :=
    .modify fun store _ => Store.skeleton_modifyNode still store node
  changesFork fork change still :=
    .modify fun store _ => Store.skeleton_modifyFork still store fork
  puts network name cluster := .modify fun _ _ => rfl
  tells agent notice := ((attends base).completes_tell passive agent notice).bind fun _ => .pure _
  climbs node traffic known alive knownThen := by
    rw [Store.isNodeAlive_eq known] at alive
    exact (completes_climb passive wired sole knownThen alive depth traffic).bind fun _ => .pure _

/-- Whatever stages and agents make of the views that are given, a node that is connected,
disconnected or closed is so in the end. -/
theorem completes_move
    {operation : Operation}
    (calls : operation.sends = false)
    (depth : Nat) :
    (sturdyRule base).Completes ((Entrances.within (depth + 3)).call operation) := by
  have moves := moves passive wired sole depth
  cases operation with
  | connect node name => exact (moves.connect node name).bind fun _ => .pure _
  | disconnect node => exact (moves.disconnect node).bind fun _ => .pure _
  | close node => exact (moves.close node).bind fun _ => .pure _
  | sendFork fork message => cases calls
  | sendNode node message => cases calls

end Sturdy

end ChannelMux
