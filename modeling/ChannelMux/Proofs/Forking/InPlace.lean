import ChannelMux.Fork.InPlace
import ChannelMux.Proofs.Network.Ensuring

/-!
Contract: nothing has to be taken back when a fork is not built.

Owns `buildForkInPlace_eq`: a building that makes its changes one after the other comes to
the same as one that makes them all at once or not at all. Each step changes nothing if it
is refused itself. That what was changed before it is nothing either is an argument across
the steps: a demultiplexer that has just been inserted has no groups, so that the stack of a
group is not refused after it, and a stack that has just been made has no members, so that
no binding is refused after that.
-/

namespace ChannelMux

namespace Store

variable {α : Type} {store : Store}

/-- What comes of something that is done all at once or not at all. -/
def conclude (store : Store) (result : Except ForkRefusal (α × Store)) :
    Except ForkRefusal α × Store :=
  match result with
  | .ok (value, after) => (.ok value, after)
  | .error refusal => (.error refusal, store)

/-! ### Across the steps -/

/-- A demultiplexer that is inserted has no groups. -/
theorem eq_or_empty_of_ensureDemultiplexer
    {spliced : Store}
    {pipeline : Ref .pipeline}
    {create : Bool}
    {placement : Placement}
    {hub : Ref .stage}
    (ensured : store.ensureDemultiplexer pipeline create placement = .ok (hub, spliced)) :
    (spliced.demultiplexer? hub).isSome ∧
      (spliced = store ∨ ∀ group, Delivery.stackOf? spliced hub group = none) := by
  rcases ensureDemultiplexer_cases ensured with ⟨found, same⟩ | ⟨_, isNext, index, _, same⟩
  · subst same
    have property := List.find?_some found
    exact ⟨property, Or.inl rfl⟩
  · subst same
    subst isNext
    have role := role_freshDemultiplexer store
    refine ⟨?_, Or.inr fun group => ?_⟩
    · rw [isSome_demultiplexer?]
      exact congrArg (fun role => role.groups?.isSome) role
    · rw [stackOf?_eq_bind]
      exact congrArg (fun role => role.groups?.bind (·.get? group)) role

/-- The stack of a group that is refused is there already. -/
theorem exists_stack_of_ensureStack_error
    {hub : Ref .stage}
    {shared : Ref .pipeline}
    {group : String}
    {stages : List (Ref .stage)}
    {requireFresh : Bool}
    {refusal : ForkRefusal}
    (demultiplexer : (store.demultiplexer? hub).isSome)
    (refused : store.ensureStack hub shared group stages requireFresh = .error refusal) :
    ∃ stack, Delivery.stackOf? store hub group = some stack := by
  obtain ⟨state, found⟩ := Option.isSome_iff_exists.mp demultiplexer
  unfold ensureStack at refused
  unfold Delivery.stackOf?
  rw [found] at refused ⊢
  cases registered : state.groups.get? group with
  | some stack => exact ⟨stack, registered⟩
  | none =>
      simp only [registered] at refused
      cases refused

/-- A stack that is made has no members. -/
theorem eq_or_free_of_ensureStack
    {stacked : Store}
    {hub : Ref .stage}
    {shared : Ref .pipeline}
    {group : String}
    {stages : List (Ref .stage)}
    {requireFresh : Bool}
    {stack : Ref .stack}
    (ensured : store.ensureStack hub shared group stages requireFresh = .ok (stack, stacked)) :
    (stacked = store ∧ Delivery.stackOf? store hub group = some stack) ∨
      ∀ member, stacked.liveMember? stack member = none := by
  rcases ensureStack_cases ensured with ⟨registered, same, _⟩ | ⟨_, isNext, same⟩
  · exact Or.inl ⟨same, registered⟩
  · subst same
    subst isNext
    refine Or.inr fun member => ?_
    have record : ((store.makeStack shared hub group stages).2.registerStack hub group
        store.groups.next).groups.get store.groups.next = _ := Table.get_add_next _ _
    unfold liveMember?
    rw [record]
    rfl

end Store

namespace Work

variable {α β : Type} {store after : Store}

theorem run_bind (work : Work α) (next : α → Work β) (store : Store) :
    (work >>= next) store = (ExceptT.bindCont next (work store).1) (work store).2 := rfl

theorem bind_of_ok
    {work : Work α}
    {value : α}
    (done : work store = (.ok value, after))
    (next : α → Work β) :
    (work >>= next) store = next value after := by
  rw [run_bind, done]
  rfl

theorem bind_of_error
    {work : Work α}
    {refusal : ForkRefusal}
    (refused : work store = (.error refusal, after))
    (next : α → Work β) :
    (work >>= next) store = (.error refusal, after) := by
  rw [run_bind, refused]
  rfl

theorem bind_get (next : Store → Work β) (store : Store) :
    ((get : Work Store) >>= next) store = next store store := rfl

/-- What follows a step in place comes to what follows it when all is done at once, if the
store was as at the beginning wherever the step is refused. -/
theorem bind_eq_conclude
    {start : Store}
    {work : Work α}
    {next : α → Work β}
    {result : Except ForkRefusal (α × Store)}
    {rest : α × Store → Except ForkRefusal (β × Store)}
    (runs : work store = store.conclude result)
    (unchanged : ∀ refusal, result = .error refusal → store = start)
    (continues : ∀ value between, result = .ok (value, between) →
      next value between = start.conclude (rest (value, between))) :
    (work >>= next) store = start.conclude (result >>= rest) := by
  cases result with
  | error refusal =>
      rw [← unchanged refusal rfl]
      exact bind_of_error runs next
  | ok found => exact (bind_of_ok runs next).trans (continues found.1 found.2 rfl)

/-- The same of a step that gives nothing. -/
theorem bind_unit_eq_conclude
    {start : Store}
    {work : Work Unit}
    {next : Unit → Work β}
    {result : Except ForkRefusal Store}
    {rest : Store → Except ForkRefusal (β × Store)}
    (runs : work store = store.conclude (result.map fun after => ((), after)))
    (unchanged : ∀ refusal, result = .error refusal → store = start)
    (continues : ∀ between, result = .ok between →
      next () between = start.conclude (rest between)) :
    (work >>= next) store = start.conclude (result >>= rest) := by
  cases result with
  | error refusal =>
      rw [← unchanged refusal rfl]
      exact bind_of_error runs next
  | ok between => exact (bind_of_ok runs next).trans (continues between rfl)

theorem lift_bind_eq_conclude
    {next : α → Work β}
    {result : Except ForkRefusal α}
    {rest : α → Except ForkRefusal (β × Store)}
    (continues : ∀ value, result = .ok value →
      next value store = store.conclude (rest value)) :
    ((liftM result : Work α) >>= next) store = store.conclude (result >>= rest) := by
  cases result with
  | error refusal => rfl
  | ok value => exact continues value rfl

/-! ### Each step by itself -/

theorem spliceDemultiplexer_eq (pipeline : Ref .pipeline) (create : Bool)
    (placement : Placement) (store : Store) :
    spliceDemultiplexer pipeline create placement store =
      store.conclude (store.ensureDemultiplexer pipeline create placement) := by
  have search : store.findStage? pipeline (fun stage => stage.demultiplexer?.isSome) =
      store.findDemultiplexer? pipeline := rfl
  unfold spliceDemultiplexer Store.ensureDemultiplexer Store.findOrInsert
  rw [search]
  refine (bind_get _ store).trans ?_
  cases store.findDemultiplexer? pipeline with
  | some hub => cases create <;> rfl
  | none =>
      cases create with
      | false => rfl
      | true =>
          refine (bind_get _ store).trans ?_
          cases store.insertionIndex pipeline placement with
          | error refusal => rfl
          | ok index => rfl

theorem registerIfAbsent_of_registered
    {hub : Ref .stage}
    {group : String}
    {stack : Ref .stack}
    (registered : Delivery.stackOf? store hub group = some stack)
    (shared : Ref .pipeline)
    (stages : List (Ref .stage)) :
    registerIfAbsent hub shared group stages store = (.ok (stack, false), store) := by
  unfold registerIfAbsent
  refine (bind_get _ store).trans ?_
  rw [registered]
  rfl

theorem registerIfAbsent_of_unregistered
    {hub : Ref .stage}
    {group : String}
    (unregistered : Delivery.stackOf? store hub group = none)
    (shared : Ref .pipeline)
    (stages : List (Ref .stage)) :
    registerIfAbsent hub shared group stages store =
      (.ok (store.groups.next, true),
        (store.makeStack shared hub group stages).2.registerStack hub group
          store.groups.next) := by
  unfold registerIfAbsent
  refine (bind_get _ store).trans ?_
  rw [unregistered]
  rfl

theorem spliceStack_eq (hub : Ref .stage) (shared : Ref .pipeline) (group : String)
    (stages : List (Ref .stage)) (requireFresh : Bool) (store : Store) :
    spliceStack hub shared group stages requireFresh store =
      store.conclude (store.ensureStack hub shared group stages requireFresh) := by
  unfold spliceStack Store.ensureStack
  refine (bind_get _ store).trans ?_
  cases found : store.demultiplexer? hub with
  | none => rfl
  | some state =>
      have lookup : Delivery.stackOf? store hub group = state.groups.get? group := by
        unfold Delivery.stackOf?
        rw [found]
        rfl
      cases registered : state.groups.get? group with
      | some stack =>
          rw [registered] at lookup
          refine (bind_of_ok (registerIfAbsent_of_registered lookup shared stages) _).trans ?_
          cases requireFresh <;> simp only [registered] <;> rfl
      | none =>
          rw [registered] at lookup
          refine (bind_of_ok (registerIfAbsent_of_unregistered lookup shared stages) _).trans ?_
          simp only [registered]
          rfl

theorem bind_eq (stack : Ref .stack) (member : String) (fork : Ref .fork) (store : Store) :
    bind stack member fork store =
      store.conclude ((store.bind stack member fork).map fun bound => ((), bound)) := by
  unfold bind Store.bind
  refine (bind_get _ store).trans ?_
  cases store.liveMember? stack member with
  | some other => rfl
  | none => rfl

end Work

namespace Store

/-- A building that makes its changes one after the other comes to the same as one that
makes them all at once or not at all. -/
theorem buildForkInPlace_eq (store : Store) (plan : ForkPlan) :
    store.buildForkInPlace plan = store.conclude (store.buildFork plan) := by
  unfold buildForkInPlace Work.buildFork buildFork
  cases plan.node? with
  | none => rfl
  | some given =>
  refine Work.lift_bind_eq_conclude fun node _ => ?_
  refine Work.lift_bind_eq_conclude fun group _ => ?_
  refine Work.lift_bind_eq_conclude fun member _ => ?_
  refine (Work.bind_get _ store).trans ?_
  refine Work.bind_eq_conclude (Work.spliceDemultiplexer_eq _ _ _ store) (fun _ _ => rfl) ?_
  intro hub spliced ensuredHub
  obtain ⟨isHub, hubUnchanged⟩ := eq_or_empty_of_ensureDemultiplexer ensuredHub
  refine Work.bind_eq_conclude (Work.spliceStack_eq hub _ group _ _ spliced) ?_ ?_
  · -- The group that is refused is there, so that the demultiplexer is not new.
    intro refusal refused
    obtain ⟨stack, registered⟩ := exists_stack_of_ensureStack_error isHub refused
    refine hubUnchanged.resolve_right fun empty => ?_
    rw [empty group] at registered
    cases registered
  · intro stack stacked ensuredStack
    refine (Work.bind_get _ stacked).trans ?_
    refine Work.bind_unit_eq_conclude (Work.bind_eq stack member _ stacked) ?_ fun _ _ => rfl
    -- The member that is refused is bound, so that neither the stack nor the demultiplexer
    -- is new.
    intro refusal refused
    have taken : stacked.liveMember? stack member ≠ none := by
      intro free
      unfold bind at refused
      rw [free] at refused
      cases refused
    obtain ⟨stackUnchanged, registered⟩ :=
      (eq_or_free_of_ensureStack ensuredStack).resolve_right fun free => taken (free member)
    have hubAsItWas : spliced = store := by
      refine hubUnchanged.resolve_right fun empty => ?_
      rw [empty group] at registered
      cases registered
    rw [stackUnchanged, hubAsItWas]

end Store

end ChannelMux
