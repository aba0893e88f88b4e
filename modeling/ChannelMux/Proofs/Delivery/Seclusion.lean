import ChannelMux.Proofs.Delivery.Determinacy

/-!
Contract: a group among the others at a demultiplexer.

Owns tenants, which are the groups at a demultiplexer seen with what belongs to them, and
their neighborhoods, which are the demultiplexer with what belongs to the other groups and
what lies above it. Owns what it is for a tenant to be secluded from its neighborhood, and
that whatever goes on in the neighborhood then, whatever its stages make of the traffic and
its agents reject, leaves what belongs to the tenant as it is.
-/

namespace ChannelMux

/-- A group, its stack, and what belongs to it. -/
structure Tenant where
  group : String
  stack : Ref .stack
  own : Region

/-- What is around a group: the demultiplexer, the pipeline that this is a stage of, and what
belongs to the other groups and lies above the demultiplexer. -/
structure Neighborhood where
  hub : Ref .stage
  shared : Ref .pipeline
  others : Region

/-- The stages of a pipeline above the first occurrence of one of them. -/
def Store.stagesAbove (store : Store) (pipeline : Ref .pipeline) (stage : Ref .stage) :
    List (Ref .stage) :=
  ((store.stagesOf pipeline).dropWhile (· != stage)).tail

/-- Takes traffic that comes up to the demultiplexer. -/
def Neighborhood.take (around : Neighborhood) (depth : Nat) (traffic : Traffic) :
    Run Outcome := do
  let above ← Run.look fun store => store.stagesAbove around.shared around.hub
  Delivery.ascendStage (Entrances.within depth) around.hub
    (Delivery.ascend (Entrances.within depth) around.shared above) traffic

/-- If the demultiplexer is at the bottom of its pipeline, this is what becomes of whatever
comes up the pipeline. -/
theorem Neighborhood.travel_eq_take
    {around : Neighborhood}
    {store : Store}
    {above : List (Ref .stage)}
    (lowest : store.stagesOf around.shared = around.hub :: above)
    (depth : Nat)
    (traffic : Traffic) :
    (Entrances.within (depth + 1)).travel (.up around.shared traffic) store =
      around.take depth traffic store := by
  have isAbove : store.stagesAbove around.shared around.hub = above := by
    unfold Store.stagesAbove
    rw [lowest, List.dropWhile_cons_of_neg (by simp)]
    rfl
  change Delivery.ascend _ around.shared (store.stagesOf around.shared) traffic store =
    Delivery.ascendStage _ around.hub
      (Delivery.ascend _ around.shared (store.stagesAbove around.shared around.hub)) traffic store
  rw [lowest, isAbove]
  rfl

/-- Whatever the agents of a region are told, in a store that differs from a given one in no
more than what traffic changes, they leave what is in another region as it is. -/
def Region.Spares (others own : Region) (base : Store) : Prop :=
  ∀ depth, ∀ agent ∈ others.agents, ∀ notice before outcome after,
    before.skeleton = base.skeleton →
    Delivery.tell (Entrances.within depth) agent notice before = some (outcome, after) →
      own.SameIn before after

/-- Agents that give no command leave everything as it is but what they record. -/
theorem Region.spares_of_passive
    {others own : Region}
    {base : Store}
    (passive : ∀ agent ∈ others.agents, (base.agents.get agent).manner.Passive)
    (apart : ∀ agent ∈ others.agents, agent ∉ own.agents) :
    others.Spares own base := by
  intro depth agent inside notice before outcome after same finished
  rw [tell_of_passive (by rw [Store.manner_eq same]; exact passive agent inside)] at finished
  cases finished
  exact SameIn.of_modifyAgent (apart agent inside) before _

/-- What is so of every stack that is listed is so of those that are registered. -/
theorem Store.of_stackOf?
    {store : Store}
    {hub : Ref .stage}
    {property : String → Ref .stack → Prop}
    (listed : ∀ state ∈ store.demultiplexer? hub, ∀ entry ∈ state.groups.entries,
      property entry.1 entry.2)
    (group : String)
    (stack : Ref .stack)
    (registered : Delivery.stackOf? store hub group = some stack) :
    property group stack := by
  obtain ⟨state, found, held⟩ := Option.bind_eq_some_iff.mp registered
  exact listed state found (group, stack) (Registry.get?_eq_some_iff.mp held)

namespace Tenant

/-- Nothing leads from the neighborhood to what belongs to the tenant, but that the tenant's
stack is registered under the tenant's group. The agents of the neighborhood may give
commands, as long as these do not come back through the demultiplexer, or in any other way,
to what belongs to the tenant. -/
structure SecludedIn (tenant : Tenant) (around : Neighborhood) (store : Store) : Prop where
  registered : Delivery.stackOf? store around.hub tenant.group = some tenant.stack
  others : ∀ group stack, Delivery.stackOf? store around.hub group = some stack →
    group ≠ tenant.group → stack ∈ around.others.groups
  above : ∀ stage ∈ store.stagesAbove around.shared around.hub, stage ∈ around.others.stages
  receiver : ∀ agent ∈ (store.pipelines.get around.shared).receiver?,
    agent ∈ around.others.agents
  closed : around.others.Closed store
  spares : around.others.Spares tenant.own store
  hubApart : around.hub ∉ tenant.own.stages
  apart : ∀ stage ∈ around.others.stages, stage ∉ tenant.own.stages

variable {tenant : Tenant} {around : Neighborhood} {before after : Store} {depth : Nat}

/-- Nothing that runs leads out of seclusion. -/
theorem SecludedIn.of_skeleton_eq
    (secluded : tenant.SecludedIn around before)
    (same : after.skeleton = before.skeleton) :
    tenant.SecludedIn around after where
  registered := by
    rw [Store.stackOf?_of_bare_eq (Store.bare_role_eq same around.hub)]
    exact secluded.registered
  others group stack := by
    rw [Store.stackOf?_of_bare_eq (Store.bare_role_eq same around.hub)]
    exact secluded.others group stack
  above := by
    unfold Store.stagesAbove
    rw [Store.stagesOf_eq same]
    exact secluded.above
  receiver := by
    rw [Store.pipelines_eq same]
    exact secluded.receiver
  closed := secluded.closed.of_skeleton_eq same
  spares depth agent inside notice first outcome last sameFirst :=
    secluded.spares depth agent inside notice first outcome last (sameFirst.trans same)
  hubApart := secluded.hubApart
  apart := secluded.apart

/-! ### What goes on in the neighborhood -/

/-- What belongs to the tenant stays as it is. -/
def rule (tenant : Tenant) (around : Neighborhood) : Rule where
  holds := tenant.SecludedIn around
  relates before after := after.skeleton = before.skeleton ∧ tenant.own.SameIn before after
  refl store := ⟨rfl, .refl _ store⟩
  trans first second := ⟨second.1.trans first.1, first.2.trans second.2⟩
  keeps secluded related := secluded.of_skeleton_eq related.1

/-- What stages record and demultiplexers count is not in the skeleton. -/
theorem governs_bookkeeping
    {stage : Ref .stage}
    {change : Stage → Stage}
    (unseen : ∀ record, (change record).bare = record.bare)
    (outside : ∀ store, tenant.SecludedIn around store → stage ∉ tenant.own.stages) :
    (tenant.rule around).Governs (modify fun store : Store => store.modifyStage stage change) :=
  Rule.modify fun store secluded =>
    ⟨Store.skeleton_eq_of_shape_eq (Store.shape_modifyStage unseen store stage),
      .of_modifyStage (outside store secluded) store change⟩

theorem governs_count
    {stage : Ref .stage}
    (outside : ∀ store, tenant.SecludedIn around store → stage ∉ tenant.own.stages)
    (change : DemultiplexerCounters → DemultiplexerCounters) :
    (tenant.rule around).Governs (Run.count stage change) :=
  governs_bookkeeping (Stage.bare_counted change) outside

/-- What becomes of traffic among the other groups can be judged. -/
theorem oversees (depth : Nat) :
    (tenant.rule around).discipline.Oversees around.others (Entrances.within depth)
      (Entrances.within depth) where
  closed secluded := secluded.closed
  same := by
    rintro left _ _ rfl
    exact .refl _ _
  conducts := by
    intro store stage conduct traffic inside _ _
    refine (Script.asks_of_all (fun _ => trivial) _).admits fun entry => ?_
    exact governs_bookkeeping (fun _ => rfl) fun _ secluded => secluded.apart stage inside
  counts change inside _ _ := governs_count (fun _ secluded => secluded.apart _ inside) change
  tells := by
    intro agent inside traffic before outcome after secluded finished
    have kept := Skeleton.governs_tell depth agent (.up traffic)
      before outcome after trivial finished
    exact ⟨kept, secluded.spares depth agent inside (.up traffic) before outcome after rfl
      finished⟩

/-- Whatever enters the stack of another group, the tenant keeps what it has. -/
theorem governs_enterStack
    (depth : Nat)
    {stack : Ref .stack}
    (inside : stack ∈ around.others.groups)
    (traffic : Traffic) :
    (tenant.rule around).Governs
      (Delivery.enterStack (Entrances.within depth) stack traffic) :=
  Discipline.Oversees.enterStack_of_all 0 Rule.none oversees depth inside traffic

/-- Whatever passes the demultiplexer, the tenant keeps what it has. -/
theorem governs_passing
    {above : List (Ref .stage)}
    (inside : ∀ stage ∈ above, stage ∈ around.others.stages)
    (depth : Nat)
    (traffic : Traffic) :
    (tenant.rule around).Governs
      (Delivery.ascend (Entrances.within depth) around.shared above traffic) := by
  refine (oversees depth).ascend_of_groups (fun _ => governs_enterStack depth) inside
    (fun passed => ?_) traffic
  exact Rule.look fun _ secluded => (oversees depth).hand secluded.receiver passed

end Tenant

end ChannelMux
