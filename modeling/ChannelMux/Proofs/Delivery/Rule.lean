import ChannelMux.Delivery.Entrance
import ChannelMux.Proofs.Script

/-!
Contract: rules that hold along everything that runs.

Owns the rules about what becomes of a store, and their extension from the steps of a run
to the whole of it.
-/

namespace ChannelMux

variable {α β : Type}

/-- What follows a run takes up what the run gives and leaves behind. -/
theorem Run.bind_apply (run : Run α) (next : α → Run β) (before : Store) :
    (run >>= next) before = (run before).bind fun result => next result.1 result.2 := rfl

theorem Run.bind_assoc (run : Run α) {γ : Type} (next : α → Run β) (last : β → Run γ)
    (before : Store) :
    ((run >>= next) >>= last) before = (run >>= fun value => next value >>= last) before := by
  rw [Run.bind_apply, Run.bind_apply, Run.bind_apply, Option.bind_assoc]
  rfl

/-- A rule about what becomes of stores with a property, which the stores keep. -/
structure Rule where
  holds : Store → Prop
  relates : Store → Store → Prop
  refl : ∀ store, relates store store
  trans : ∀ {first second third}, relates first second → relates second third →
    relates first third
  keeps : ∀ {before after}, holds before → relates before after → holds after

namespace Rule

variable (rule : Rule)

/-- Whatever a run leaves behind when it finishes is related to what it began with. -/
def Governs (run : Run α) : Prop :=
  ∀ before value after, rule.holds before → run before = some (value, after) →
    rule.relates before after

/-! ### Runs step by step -/

theorem bind_eq_some
    {run : Run α}
    {next : α → Run β}
    {before after : Store}
    {value : β}
    (finished : (run >>= next) before = some (value, after)) :
    ∃ passed between, run before = some (passed, between) ∧
      next passed between = some (value, after) := by
  change (run before).bind (fun result => next result.1 result.2) = _ at finished
  obtain ⟨result, first, second⟩ := Option.bind_eq_some_iff.mp finished
  exact ⟨result.1, result.2, first, second⟩

theorem look_apply (view : Store → α) (next : α → Run β) (store : Store) :
    (Run.look view >>= next) store = next (view store) store := rfl

theorem get_apply (next : Store → Run β) (store : Store) :
    (MonadState.get >>= next) store = next store store := rfl

variable {rule}

theorem pure (value : α) : rule.Governs (pure value) := by
  intro before returned after _ finished
  cases finished
  exact rule.refl before

theorem none : rule.Governs (fun _ => Option.none : Run α) := by
  intro before value after _ finished
  cases finished

theorem bind
    {run : Run α}
    {next : α → Run β}
    (first : rule.Governs run)
    (second : ∀ value, rule.Governs (next value)) :
    rule.Governs (run >>= next) := by
  intro before value after holds finished
  obtain ⟨passed, between, firstFinished, secondFinished⟩ := bind_eq_some finished
  have related := first before passed between holds firstFinished
  exact rule.trans related
    (second passed between value after (rule.keeps holds related) secondFinished)

/-- What is looked up is known to be looked up in a store with the property. -/
theorem look
    {view : Store → α}
    {next : α → Run β}
    (each : ∀ store, rule.holds store → rule.Governs (next (view store))) :
    rule.Governs (Run.look view >>= next) := by
  intro before value after holds finished
  exact each before holds before value after holds finished

theorem get
    {next : Store → Run β}
    (each : ∀ store, rule.holds store → rule.Governs (next store)) :
    rule.Governs (MonadState.get >>= next) := by
  intro before value after holds finished
  exact each before holds before value after holds finished

theorem modify
    {change : Store → Store}
    (related : ∀ store, rule.holds store → rule.relates store (change store)) :
    rule.Governs (modify change) := by
  intro before value after holds finished
  cases finished
  exact related before holds

theorem ignore {run : Run α} (governed : rule.Governs run) : rule.Governs run.ignore :=
  bind governed fun _ => pure ()

theorem forM
    {items : List α}
    {action : α → Run Unit}
    (each : ∀ item ∈ items, rule.Governs (action item)) :
    rule.Governs (items.forM action) := by
  induction items with
  | nil => exact pure ()
  | cons head tail inductionHypothesis =>
      change rule.Governs (action head >>= fun _ => tail.forM action)
      refine bind (each head List.mem_cons_self) fun _ => inductionHypothesis ?_
      intro item member
      exact each item (List.mem_cons_of_mem _ member)

end Rule

end ChannelMux
