import ChannelMux.Proofs.Delivery.Climbing
import ChannelMux.Proofs.Delivery.Region

/-!
Contract: judging what comes up into a region.

Owns what has to be judged of a closed region, which is what its stages record and count and
what its agents do when something comes up to them, and that nothing else is needed to judge
what comes up its pipelines and enters its stacks. Owns the two ways in which stacks at
different depths are judged: one after the other, if runs that go too deep are judged anyway,
and at once, if the stacks of the region lead to no further ones.
-/

namespace ChannelMux

/-- No stage of a stack of the region leads to another stack. -/
def Region.Flat (region : Region) (store : Store) : Prop :=
  ∀ stack ∈ region.groups, ∀ stage ∈ store.stagesOf (store.groups.get stack).pipeline,
    Delivery.stacksOf store stage = []

namespace Discipline

/-- What the stages and agents of a closed region do with what comes up can be judged, and
stores that agree have the same in the region. -/
structure Oversees (discipline : Discipline) (region : Region) (inner other : Entrances) :
    Prop where
  closed : ∀ {store}, discipline.holds store → region.Closed store
  same : ∀ {left right}, discipline.holds left → discipline.agrees left right →
    region.SameIn left right
  conducts : ∀ {store stage conduct} traffic, stage ∈ region.stages → discipline.holds store →
    (store.stages.get stage).role = .custom conduct →
      (conduct.up traffic).Admits
        (fun entry =>
          discipline.judges (Run.recordStage stage entry) (Run.recordStage stage entry)) Eq
        fun _ => True
  counts : ∀ {store stage} change, stage ∈ region.stages → discipline.holds store →
    (store.demultiplexer? stage).isSome →
      discipline.judges (Run.count stage change) (Run.count stage change)
  tells : ∀ agent ∈ region.agents, ∀ traffic,
    discipline.judges (Delivery.tell inner agent (.up traffic))
      (Delivery.tell other agent (.up traffic))

variable {discipline : Discipline} {region : Region} {inner other : Entrances}

namespace Oversees

section Here

variable (oversees : discipline.Oversees region inner other)

include oversees

/-! ### To the agents -/

theorem hand
    {receiver? : Option (Ref .agent)}
    (inside : ∀ agent ∈ receiver?, agent ∈ region.agents)
    (traffic : Traffic) :
    discipline.judges (Delivery.hand inner receiver? traffic)
      (Delivery.hand other receiver? traffic) := by
  cases receiver? with
  | none => exact discipline.pure _
  | some agent => exact oversees.tells agent (inside agent rfl) traffic

theorem handFork {fork : Ref .fork} (inside : fork ∈ region.forks) (traffic : Traffic) :
    discipline.judges (Delivery.handFork inner fork traffic)
      (Delivery.handFork other fork traffic) :=
  discipline.look (fun holds agrees => (oversees.same holds agrees).takers fork inside)
    fun holds => oversees.hand ((oversees.closed holds).takers fork inside) traffic

theorem leaveTop
    {pipeline : Ref .pipeline}
    (inside : pipeline ∈ region.pipelines)
    (traffic : Traffic) :
    discipline.judges (Delivery.leaveTop inner pipeline traffic)
      (Delivery.leaveTop other pipeline traffic) :=
  discipline.look (fun holds agrees => (oversees.same holds agrees).receivers pipeline inside)
    fun holds => oversees.hand ((oversees.closed holds).receivers pipeline inside) traffic

/-! ### Up the pipelines -/

theorem lifts
    {stages : Ref .stage → Prop}
    (inside : ∀ stage, stages stage → stage ∈ region.stages)
    (enters : ∀ {store stage stack} traffic, stages stage → discipline.holds store →
      stack ∈ Delivery.stacksOf store stage →
        discipline.judges (Delivery.enterStack inner stack traffic)
          (Delivery.enterStack other stack traffic)) :
    discipline.Lifts inner other True stages where
  roles allowed holds agrees := by
    rw [((oversees.same holds agrees).stages _ (inside _ allowed)).content]
  entries allowed holds agrees := by
    rw [((oversees.same holds agrees).stages _ (inside _ allowed)).content]
  conducts allowed holds custom _ :=
    (oversees.conducts _ (inside _ allowed) holds custom).mono (fun _ judged => judged)
      (fun _ _ same => same) fun _ _ => Or.inl trivial
  counts change allowed holds isHub := oversees.counts change (inside _ allowed) holds isHub
  enters allowed holds registered _ := enters _ allowed holds registered
  members := by
    intro store left right stage stack allowed holds isTop holdsLeft agrees
    have isGroup := (oversees.closed holds).groups stage (inside stage allowed) stack
      (Role.mem_leadsTo_of_groupTop isTop)
    have same := oversees.same holdsLeft agrees
    exact ⟨funext (same.liveMember?_eq (oversees.closed holdsLeft) isGroup),
      same.liveForks_eq (oversees.closed holdsLeft) isGroup⟩
  hands := by
    intro store later stage stack fork traffic allowed holds isTop holdsLater alive _ _
    have isGroup := (oversees.closed holds).groups stage (inside stage allowed) stack
      (Role.mem_leadsTo_of_groupTop isTop)
    exact oversees.handFork
      ((oversees.closed holdsLater).forks stack isGroup fork (List.mem_filter.mp alive).1) traffic

/-- What comes up a pipeline of the region can be judged, if it can be where stages let it
into stacks. -/
theorem travel
    {pipeline : Ref .pipeline}
    (inside : pipeline ∈ region.pipelines)
    (enters : ∀ {start store stage stack} traffic, discipline.holds start →
      stage ∈ start.stagesOf pipeline → discipline.holds store →
      stack ∈ Delivery.stacksOf store stage →
        discipline.judges (Delivery.enterStack inner stack traffic)
          (Delivery.enterStack other stack traffic))
    (traffic : Traffic) :
    discipline.judges (Delivery.travel inner (.up pipeline traffic))
      (Delivery.travel other (.up pipeline traffic)) := by
  refine discipline.look
    (fun holds agrees => (oversees.same holds agrees).pipelines pipeline inside)
    fun {start} holds => ?_
  have lifts := oversees.lifts ((oversees.closed holds).stages pipeline inside)
    (fun entering allowed holdsThen => enters entering holds allowed holdsThen)
  exact lifts.ascend (fun passed _ => oversees.leaveTop inside passed) (fun _ layer => layer)
    (Or.inl trivial)

section Groups

variable (enters : ∀ stack ∈ region.groups, ∀ traffic,
  discipline.judges (Delivery.enterStack inner stack traffic)
    (Delivery.enterStack other stack traffic))

include enters

/-- The stages of the region let traffic into stacks of the region alone. -/
theorem ascend_of_groups
    {pipeline : Ref .pipeline}
    {layers : List (Ref .stage)}
    (inside : ∀ stage ∈ layers, stage ∈ region.stages)
    (leaves : ∀ traffic, discipline.judges (Delivery.leaveTop inner pipeline traffic)
      (Delivery.leaveTop other pipeline traffic))
    (traffic : Traffic) :
    discipline.judges (Delivery.ascend inner pipeline layers traffic)
      (Delivery.ascend other pipeline layers traffic) := by
  have lifts := oversees.lifts inside fun {_ stage stack} entering allowed holds found =>
    enters stack ((oversees.closed holds).groups stage (inside stage allowed) stack
      (Store.mem_leadsTo_of_stacksOf found)) entering
  exact lifts.ascend (fun passed _ => leaves passed) (fun _ layer => layer) (Or.inl trivial)

theorem travel_of_groups
    {pipeline : Ref .pipeline}
    (inside : pipeline ∈ region.pipelines)
    (traffic : Traffic) :
    discipline.judges (Delivery.travel inner (.up pipeline traffic))
      (Delivery.travel other (.up pipeline traffic)) :=
  discipline.look
    (fun holds agrees => (oversees.same holds agrees).pipelines pipeline inside)
    fun holds => oversees.ascend_of_groups enters ((oversees.closed holds).stages pipeline inside)
      (oversees.leaveTop inside) traffic

end Groups

end Here

/-! ### Into the stacks -/

section Depths

variable {depth beside : Nat}

/-- What enters a stack can be judged one level deeper. -/
theorem enterStack
    {stack : Ref .stack}
    {traffic : Traffic}
    (oversees : discipline.Oversees region (Entrances.within depth) (Entrances.within beside))
    (inside : stack ∈ region.groups)
    (travels : ∀ pipeline ∈ region.pipelines,
      (∃ store, discipline.holds store ∧ (store.groups.get stack).pipeline = pipeline) →
      discipline.judges (Delivery.travel (Entrances.within depth) (.up pipeline traffic))
        (Delivery.travel (Entrances.within beside) (.up pipeline traffic))) :
    discipline.judges (Delivery.enterStack (Entrances.within (depth + 1)) stack traffic)
      (Delivery.enterStack (Entrances.within (beside + 1)) stack traffic) :=
  discipline.look (fun holds agrees => by rw [(oversees.same holds agrees).groups stack inside])
    fun {store} holds =>
      travels _ ((oversees.closed holds).pipelines stack inside) ⟨store, holds, rfl⟩

/-- A discipline that takes no exception to runs that go too deep judges what enters the
stacks of a region at every depth, if it judges at every depth what the agents there do. -/
theorem enterStack_of_all
    (slack : Nat)
    (halts : ∀ {other : Run Outcome}, discipline.judges (fun _ => none) other)
    (oversees : ∀ depth,
      discipline.Oversees region (Entrances.within depth) (Entrances.within (depth + slack)))
    (depth : Nat)
    {stack : Ref .stack}
    (inside : stack ∈ region.groups)
    (traffic : Traffic) :
    discipline.judges (Delivery.enterStack (Entrances.within depth) stack traffic)
      (Delivery.enterStack (Entrances.within (depth + slack)) stack traffic) := by
  induction depth generalizing stack traffic with
  | zero =>
      refine discipline.look (fun holds agrees => ?_) fun _ => halts
      rw [((oversees 0).same holds agrees).groups stack inside]
  | succ depth inductionHypothesis =>
      rw [Nat.succ_add]
      exact (oversees depth).enterStack inside fun pipeline isPipeline _ =>
        (oversees depth).travel_of_groups (fun _ => inductionHypothesis) isPipeline traffic

end Depths

/-! ### Where stacks lead no further -/

section Flat

variable {base : Store} {depth beside : Nat}
  (known : ∀ {store}, discipline.holds store → store.skeleton = base.skeleton)
  (flat : region.Flat base)

include known flat

theorem enterStack_of_flat
    {stack : Ref .stack}
    (oversees : discipline.Oversees region (Entrances.within depth) (Entrances.within beside))
    (inside : stack ∈ region.groups)
    (traffic : Traffic) :
    discipline.judges (Delivery.enterStack (Entrances.within (depth + 1)) stack traffic)
      (Delivery.enterStack (Entrances.within (beside + 1)) stack traffic) := by
  refine oversees.enterStack inside fun pipeline isPipeline ⟨store, holds, isOf⟩ => ?_
  refine oversees.travel isPipeline (fun {start later stage deeper} _ holdsStart layer holdsThen
    found => ?_) traffic
  rw [Store.groups_eq (known holds)] at isOf
  rw [Store.stagesOf_eq (known holdsStart), ← isOf] at layer
  rw [Store.stacksOf_of_bare_eq (Store.bare_role_eq (known holdsThen) stage),
    flat stack inside stage layer] at found
  cases found

/-- What comes up a pipeline of the region needs to be judged to a depth of two. -/
theorem travel_of_flat
    {pipeline : Ref .pipeline}
    (above : discipline.Oversees region (Entrances.within (depth + 1))
      (Entrances.within (beside + 1)))
    (oversees : discipline.Oversees region (Entrances.within depth) (Entrances.within beside))
    (inside : pipeline ∈ region.pipelines)
    (traffic : Traffic) :
    discipline.judges
      (Delivery.travel (Entrances.within (depth + 1)) (.up pipeline traffic))
      (Delivery.travel (Entrances.within (beside + 1)) (.up pipeline traffic)) :=
  above.travel_of_groups (fun _ isStack => oversees.enterStack_of_flat known flat isStack)
    inside traffic

end Flat

end Oversees

end Discipline

end ChannelMux
