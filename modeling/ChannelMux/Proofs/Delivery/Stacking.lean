import ChannelMux.Proofs.Delivery.Climbing
import ChannelMux.Proofs.Network.Wiring

/-!
Contract: judging the way up the stack of a group.

Owns that in a store in which a stack is wired it is all there is to the way up the stack what
its stages record and what becomes of traffic at its top, whatever the stages do with it.

This is about disciplines by which stores agree only if they are the same.
-/

namespace ChannelMux.Discipline

variable {discipline : Discipline} {base : Store} {inner other : Entrances}

/-- A stage that neither is a demultiplexer nor ends a stack at its top. -/
def IsPlain (base : Store) (stage : Ref .stage) : Prop :=
  base.IsCustom stage ∨ ∃ group, (base.stages.get stage).role = .groupBottom group

section Known

variable (known : ∀ {store}, discipline.holds store → store.skeleton = base.skeleton)
  (same : ∀ {left right}, discipline.agrees left right → right = left)

include known same

/-- Of plain stages it has to be judged what they record, and that is all. -/
theorem lifts_of_plain
    {stages : Ref .stage → Prop}
    (plain : ∀ stage, stages stage → IsPlain base stage)
    (records : ∀ stage entry, stages stage →
      discipline.judges (Run.recordStage stage entry) (Run.recordStage stage entry)) :
    discipline.Lifts inner other True stages := by
  have noHub {store : Store} {stage : Ref .stage} (allowed : stages stage)
      (holds : discipline.holds store) : store.demultiplexer? stage = none := by
    have none : (store.demultiplexer? stage).isSome = false := by
      rw [Store.isSome_demultiplexer?_of_bare_eq (Store.bare_role_eq (known holds) stage),
        Store.isSome_demultiplexer?]
      rcases plain stage allowed with ⟨conduct, role⟩ | ⟨group, role⟩ <;> rw [role] <;> rfl
    exact Option.isNone_iff_eq_none.mp (Option.isSome_eq_false_iff.mp none)
  have noTop {store : Store} {stage : Ref .stage} {stack : Ref .stack} (allowed : stages stage)
      (holds : discipline.holds store) :
      (store.stages.get stage).role ≠ .groupTop stack := by
    intro isTop
    rw [Store.role_groupTop_iff (known holds)] at isTop
    rcases plain stage allowed with ⟨conduct, role⟩ | ⟨group, role⟩ <;> rw [isTop] at role <;>
      cases role
  constructor
  · intro left right stage _ _ agrees
    rw [same agrees]
  · intro left right stage _ _ agrees
    rw [same agrees]
  · intro store stage conduct traffic allowed _ _ _
    exact (Script.asks_of_all (fun _ => Or.inl trivial) _).admits fun entry =>
      records stage entry allowed
  · intro store stage change allowed holds isHub
    rw [noHub allowed holds] at isHub
    cases isHub
  · intro store stage stack traffic allowed holds registered _
    unfold Delivery.stacksOf at registered
    rw [noHub allowed holds] at registered
    cases registered
  · intro store left right stage stack allowed holds isTop _ _
    exact absurd isTop (noTop allowed holds)
  · intro store later stage stack fork traffic allowed holds isTop _ _ _ _
    exact absurd isTop (noTop allowed holds)

/-- The way up a stack can be judged if what its stages record can be and what becomes of
traffic at its top. -/
theorem travel_stack
    {shared : Ref .pipeline}
    {hub : Ref .stage}
    {group : String}
    {stack : Ref .stack}
    (wired : base.StackWired shared hub group stack)
    (records : ∀ stage entry,
      discipline.judges (Run.recordStage stage entry) (Run.recordStage stage entry))
    (takes : ∀ traffic, discipline.judges (Delivery.takeAtGroupTop inner stack traffic)
      (Delivery.takeAtGroupTop other stack traffic))
    (traffic : Traffic) :
    discipline.judges
      (Delivery.travel inner (.up (base.groups.get stack).pipeline traffic))
      (Delivery.travel other (.up (base.groups.get stack).pipeline traffic)) := by
  obtain ⟨bottom, customs, top, stages, _, bottomRole, allCustom, _, topRole⟩ := wired.layers
  have plain (stage : Ref .stage) (member : stage ∈ bottom :: customs) :
      IsPlain base stage := by
    rcases List.mem_cons.mp member with rfl | isCustom
    · exact Or.inr ⟨group, bottomRole⟩
    · exact Or.inl (allCustom stage isCustom)
  have lifts : discipline.Lifts inner other True fun stage => stage ∈ bottom :: customs :=
    lifts_of_plain known same plain fun stage entry _ => records stage entry
  refine discipline.look (fun _ agrees => by rw [same agrees]) fun holds => ?_
  rw [Store.stagesOf_eq (known holds), stages]
  refine lifts.ascend_append _ (fun passed _ => ?_) (fun _ member => member) (Or.inl trivial)
  refine discipline.look (fun _ agrees => by rw [same agrees]) fun holdsThen => ?_
  rw [(Store.role_groupTop_iff (known holdsThen) top stack).mpr topRole]
  exact takes passed

end Known

end ChannelMux.Discipline
