import ChannelMux.Proofs.Delivery.Skeleton

/-!
Contract: regions of a store.

Owns regions, which are some of the things that exist, what it is for a region to be closed,
so that whatever comes up into it stays in it, and what it is for two stores to have the same
in a region. Two stores may be those before and after something has happened, and they may
be those of two runs.

Does not own what goes down: a pipeline of a region may have any outlet.
-/

namespace ChannelMux

/-! ### The same thing in two tables -/

namespace Table

variable {kind : Kind} {α : Type} [Inhabited α]

/-- Two tables have the same under a reference. -/
structure SameAt (ref : Ref kind) (left right : Table kind α) : Prop where
  content : right.get ref = left.get ref
  issued : right.Issued ref ↔ left.Issued ref

namespace SameAt

variable {ref : Ref kind} {left middle right : Table kind α}

theorem refl (ref : Ref kind) (table : Table kind α) : SameAt ref table table :=
  ⟨rfl, Iff.rfl⟩

theorem symm (same : SameAt ref left right) : SameAt ref right left :=
  ⟨same.content.symm, same.issued.symm⟩

theorem trans (first : SameAt ref left middle) (second : SameAt ref middle right) :
    SameAt ref left right :=
  ⟨second.content.trans first.content, second.issued.trans first.issued⟩

/-- The same is the same after the same change. -/
theorem modify (same : SameAt ref left right) (other : Ref kind) (change : α → α) :
    SameAt ref (left.modify other change) (right.modify other change) where
  content := by
    by_cases isOther : ref = other
    · subst isOther
      by_cases issued : left.Issued ref
      · rw [get_modify_self issued, get_modify_self (same.issued.mpr issued), same.content]
      · have notRight : ¬ right.Issued ref := fun isIssued => issued (same.issued.mp isIssued)
        rw [get_of_not_issued (fun isIssued => notRight (issued_modify.mp isIssued)),
          get_of_not_issued (fun isIssued => issued (issued_modify.mp isIssued))]
    · rw [get_modify_of_ne isOther, get_modify_of_ne isOther, same.content]
  issued := issued_modify.trans (same.issued.trans issued_modify.symm)

/-- A change of one thing leaves the others as they are. -/
theorem of_modify_ne
    {other : Ref kind}
    (different : ref ≠ other)
    (table : Table kind α)
    (change : α → α) :
    SameAt ref table (table.modify other change) :=
  ⟨get_modify_of_ne different table change, issued_modify⟩

end SameAt

end Table

/-- The stacks that a stage leads to: those of the groups of a demultiplexer, and at the top
of a stack the stack itself. -/
def Role.leadsTo : Role → List (Ref .stack)
  | .demultiplexer state => state.groups.values
  | .groupTop stack => [stack]
  | _ => []

theorem Role.leadsTo_bare (role : Role) : role.bare.leadsTo = role.leadsTo := by
  cases role <;> rfl

theorem Role.mem_leadsTo_of_groupTop {role : Role} {stack : Ref .stack}
    (isTop : role = .groupTop stack) :
    stack ∈ role.leadsTo := by
  rw [isTop]
  exact List.mem_singleton_self stack

theorem Store.mem_leadsTo_of_stacksOf
    {store : Store}
    {stage : Ref .stage}
    {stack : Ref .stack}
    (registered : stack ∈ Delivery.stacksOf store stage) :
    stack ∈ (store.stages.get stage).role.leadsTo := by
  unfold Delivery.stacksOf at registered
  split at registered
  · rename_i state found
    rw [demultiplexer?_eq_some.mp found]
    exact registered
  · cases registered

/-- Some of the things that exist. -/
structure Region where
  groups : List (Ref .stack) := []
  pipelines : List (Ref .pipeline) := []
  stages : List (Ref .stage) := []
  forks : List (Ref .fork) := []
  agents : List (Ref .agent) := []
deriving Repr

namespace Region

/-- Whatever comes up into the region stays in it. -/
structure Closed (region : Region) (store : Store) : Prop where
  pipelines : ∀ stack ∈ region.groups, (store.groups.get stack).pipeline ∈ region.pipelines
  /-- The forks that are bound to a stack, whether they last or not. -/
  forks : ∀ stack ∈ region.groups, ∀ fork ∈ (store.groups.get stack).members.values,
    fork ∈ region.forks
  stages : ∀ pipeline ∈ region.pipelines, ∀ stage ∈ store.stagesOf pipeline,
    stage ∈ region.stages
  receivers : ∀ pipeline ∈ region.pipelines,
    ∀ agent ∈ (store.pipelines.get pipeline).receiver?, agent ∈ region.agents
  groups : ∀ stage ∈ region.stages, ∀ stack ∈ (store.stages.get stage).role.leadsTo,
    stack ∈ region.groups
  takers : ∀ fork ∈ region.forks, ∀ agent ∈ (store.forks.get fork).receiver?,
    agent ∈ region.agents

instance (region : Region) (store : Store) : Decidable (region.Closed store) :=
  decidable_of_iff
    ((∀ stack ∈ region.groups, (store.groups.get stack).pipeline ∈ region.pipelines) ∧
      (∀ stack ∈ region.groups, ∀ fork ∈ (store.groups.get stack).members.values,
        fork ∈ region.forks) ∧
      (∀ pipeline ∈ region.pipelines, ∀ stage ∈ store.stagesOf pipeline,
        stage ∈ region.stages) ∧
      (∀ pipeline ∈ region.pipelines,
        ∀ agent ∈ (store.pipelines.get pipeline).receiver?, agent ∈ region.agents) ∧
      (∀ stage ∈ region.stages, ∀ stack ∈ (store.stages.get stage).role.leadsTo,
        stack ∈ region.groups) ∧
      ∀ fork ∈ region.forks, ∀ agent ∈ (store.forks.get fork).receiver?,
        agent ∈ region.agents)
    ⟨fun ⟨pipelines, forks, stages, receivers, groups, takers⟩ =>
        ⟨pipelines, forks, stages, receivers, groups, takers⟩,
      fun closed => ⟨closed.pipelines, closed.forks, closed.stages, closed.receivers,
        closed.groups, closed.takers⟩⟩

/-- Two stores have the same in the region, as far as it matters to what comes up. -/
structure SameIn (region : Region) (left right : Store) : Prop where
  groups : ∀ stack ∈ region.groups, right.groups.get stack = left.groups.get stack
  pipelines : ∀ pipeline ∈ region.pipelines, right.stagesOf pipeline = left.stagesOf pipeline
  receivers : ∀ pipeline ∈ region.pipelines,
    (right.pipelines.get pipeline).receiver? = (left.pipelines.get pipeline).receiver?
  stages : ∀ stage ∈ region.stages, Table.SameAt stage left.stages right.stages
  living : ∀ fork ∈ region.forks, right.isForkAlive fork = left.isForkAlive fork
  takers : ∀ fork ∈ region.forks,
    (right.forks.get fork).receiver? = (left.forks.get fork).receiver?
  agents : ∀ agent ∈ region.agents, Table.SameAt agent left.agents right.agents

variable {region : Region} {left middle right before after : Store}

namespace SameIn

theorem refl (region : Region) (store : Store) : region.SameIn store store where
  groups _ _ := rfl
  pipelines _ _ := rfl
  receivers _ _ := rfl
  stages stage _ := .refl stage _
  living _ _ := rfl
  takers _ _ := rfl
  agents agent _ := .refl agent _

theorem symm (same : region.SameIn left right) : region.SameIn right left where
  groups stack inside := (same.groups stack inside).symm
  pipelines pipeline inside := (same.pipelines pipeline inside).symm
  receivers pipeline inside := (same.receivers pipeline inside).symm
  stages stage inside := (same.stages stage inside).symm
  living fork inside := (same.living fork inside).symm
  takers fork inside := (same.takers fork inside).symm
  agents agent inside := (same.agents agent inside).symm

theorem trans (first : region.SameIn left middle) (second : region.SameIn middle right) :
    region.SameIn left right where
  groups stack inside := (second.groups stack inside).trans (first.groups stack inside)
  pipelines pipeline inside :=
    (second.pipelines pipeline inside).trans (first.pipelines pipeline inside)
  receivers pipeline inside :=
    (second.receivers pipeline inside).trans (first.receivers pipeline inside)
  stages stage inside := (first.stages stage inside).trans (second.stages stage inside)
  living fork inside := (second.living fork inside).trans (first.living fork inside)
  takers fork inside := (second.takers fork inside).trans (first.takers fork inside)
  agents agent inside := (first.agents agent inside).trans (second.agents agent inside)

theorem liveMember?_eq
    (closed : region.Closed left)
    (same : region.SameIn left right)
    {stack : Ref .stack}
    (inside : stack ∈ region.groups)
    (member : String) :
    right.liveMember? stack member = left.liveMember? stack member := by
  unfold Store.liveMember?
  rw [same.groups stack inside]
  cases bound : (left.groups.get stack).members.get? member with
  | none => rfl
  | some fork =>
      have listed : fork ∈ (left.groups.get stack).members.values :=
        Registry.mem_values_iff.mpr ⟨member, bound⟩
      rw [Option.filter_some, Option.filter_some,
        same.living fork (closed.forks stack inside fork listed)]

theorem liveForks_eq
    (closed : region.Closed left)
    (same : region.SameIn left right)
    {stack : Ref .stack}
    (inside : stack ∈ region.groups) :
    right.liveForks stack = left.liveForks stack := by
  unfold Store.liveForks
  rw [same.groups stack inside]
  apply List.filter_congr
  intro fork listed
  exact same.living fork (closed.forks stack inside fork listed)

/-- A stage that is the same in both stores may be changed in both. -/
theorem modifyStage (same : region.SameIn left right) (stage : Ref .stage)
    (change : Stage → Stage) :
    region.SameIn (left.modifyStage stage change) (right.modifyStage stage change) :=
  { same with stages := fun other inside => (same.stages other inside).modify stage change }

theorem modifyAgent (same : region.SameIn left right) (agent : Ref .agent)
    (change : Agent → Agent) :
    region.SameIn (left.modifyAgent agent change) (right.modifyAgent agent change) :=
  { same with agents := fun other inside => (same.agents other inside).modify agent change }

/-- What is changed of a stage outside changes nothing inside. -/
theorem of_modifyStage
    {stage : Ref .stage}
    (outside : stage ∉ region.stages)
    (store : Store)
    (change : Stage → Stage) :
    region.SameIn store (store.modifyStage stage change) :=
  { refl region store with
    stages := fun _ inside =>
      .of_modify_ne (ne_of_mem_of_not_mem inside outside) store.stages change }

theorem of_modifyAgent
    {agent : Ref .agent}
    (outside : agent ∉ region.agents)
    (store : Store)
    (change : Agent → Agent) :
    region.SameIn store (store.modifyAgent agent change) :=
  { refl region store with
    agents := fun _ inside =>
      .of_modify_ne (ne_of_mem_of_not_mem inside outside) store.agents change }

end SameIn

namespace Closed

/-- Whether a region is closed depends on what is in it. -/
theorem of_sameIn (closed : region.Closed left) (same : region.SameIn left right) :
    region.Closed right where
  pipelines stack inside := by
    rw [same.groups stack inside]
    exact closed.pipelines stack inside
  forks stack inside := by
    rw [same.groups stack inside]
    exact closed.forks stack inside
  stages pipeline inside := by
    rw [same.pipelines pipeline inside]
    exact closed.stages pipeline inside
  receivers pipeline inside := by
    rw [same.receivers pipeline inside]
    exact closed.receivers pipeline inside
  groups stage inside := by
    rw [(same.stages stage inside).content]
    exact closed.groups stage inside
  takers fork inside := by
    rw [same.takers fork inside]
    exact closed.takers fork inside

/-- Nothing that runs changes whether a region is closed. -/
theorem of_skeleton_eq (closed : region.Closed before)
    (same : after.skeleton = before.skeleton) :
    region.Closed after where
  pipelines := by
    rw [Store.groups_eq same]
    exact closed.pipelines
  forks := by
    rw [Store.groups_eq same]
    exact closed.forks
  stages pipeline inside := by
    rw [Store.stagesOf_eq same]
    exact closed.stages pipeline inside
  receivers := by
    rw [Store.pipelines_eq same]
    exact closed.receivers
  groups stage inside := by
    rw [← Role.leadsTo_bare, Store.bare_role_eq same, Role.leadsTo_bare]
    exact closed.groups stage inside
  takers fork inside := by
    have fields := congrArg Fork.receiver? (Store.still_fork_eq same fork)
    change (after.forks.get fork).receiver? = (before.forks.get fork).receiver? at fields
    rw [fields]
    exact closed.takers fork inside

end Closed

end Region

end ChannelMux
