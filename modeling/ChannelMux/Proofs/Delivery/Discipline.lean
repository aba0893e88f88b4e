import ChannelMux.Proofs.Delivery.Rule
import ChannelMux.Proofs.Store.SameTables

/-!
Contract: judging runs step by step.

Owns disciplines, which are the ways of judging a run by its steps: a run may be judged by
what becomes of one store along it, and by what becomes of two stores that agree, if another
run is made in the second one. What holds of runs by their steps alone is proved once, for all
disciplines. Owns the discipline of a rule.

Owns what a discipline has to judge of an agent that is told something, which is what the agent
records and the operations that its commands come to, whatever its manner is.
-/

namespace ChannelMux

/-- A way of judging runs by their steps. A run is judged together with another one, in which
the same steps are made over other entrances; a discipline that is about one run takes no notice
of the other one. A run may take up in stores of which something is known, and the other one
takes up in stores that agree with these. -/
structure Discipline where
  holds : Store → Prop
  agrees : Store → Store → Prop
  judges : {α : Type} → Run α → Run α → Prop
  pure : ∀ {α : Type} (value : α), judges (Pure.pure value : Run α) (Pure.pure value)
  bind : ∀ {α β : Type} {run other : Run α} {next onward : α → Run β},
    judges run other → (∀ value, judges (next value) (onward value)) →
      judges (run >>= next) (other >>= onward)
  /-- What is looked at in a store must not tell apart stores that agree. -/
  get : ∀ {β : Type} {next onward : Store → Run β},
    (∀ {left right}, holds left → agrees left right → onward right = onward left) →
      (∀ {store}, holds store → judges (next store) (onward store)) →
        judges (MonadState.get >>= next) (MonadState.get >>= onward)

namespace Discipline

variable {α β : Type} (discipline : Discipline)

theorem look
    {view : Store → α}
    {next onward : α → Run β}
    (same : ∀ {left right}, discipline.holds left → discipline.agrees left right →
      view right = view left)
    (each : ∀ {store}, discipline.holds store →
      discipline.judges (next (view store)) (onward (view store))) :
    discipline.judges (Run.look view >>= next) (Run.look view >>= onward) := by
  change discipline.judges (MonadState.get >>= fun store => next (view store))
    (MonadState.get >>= fun store => onward (view store))
  exact discipline.get (fun holds agrees => congrArg onward (same holds agrees)) each

theorem ignore {run other : Run α} (judged : discipline.judges run other) :
    discipline.judges run.ignore other.ignore :=
  discipline.bind judged fun _ => discipline.pure ()

theorem forM
    {items : List α}
    {action beside : α → Run Unit}
    (each : ∀ item ∈ items, discipline.judges (action item) (beside item)) :
    discipline.judges (items.forM action) (items.forM beside) := by
  induction items with
  | nil => exact discipline.pure ()
  | cons head tail inductionHypothesis =>
      change discipline.judges (action head >>= fun _ => tail.forM action)
        (beside head >>= fun _ => tail.forM beside)
      refine discipline.bind (each head List.mem_cons_self) fun _ => inductionHypothesis ?_
      intro item member
      exact each item (List.mem_cons_of_mem _ member)

/-- A script is judged by what it may record and ask for. -/
theorem perform
    {Entry Request Answer : Type}
    {add : Entry → Run Unit}
    {entries : Store → List Entry}
    {answer beside : Request → Run Answer}
    {alike : List Entry → List Entry → Prop}
    {property : Request → Prop}
    {script : Script Entry Request Answer}
    (admits : script.Admits (fun entry => discipline.judges (add entry) (add entry)) alike
      property)
    (reviews : ∀ {left right}, discipline.holds left → discipline.agrees left right →
      alike (entries left) (entries right))
    (answers : ∀ request, property request →
      discipline.judges (answer request) (beside request)) :
    discipline.judges (script.perform add (Run.look entries) answer)
      (script.perform add (Run.look entries) beside) := by
  induction script with
  | finish outcome => exact discipline.pure outcome
  | record entry next inductionHypothesis =>
      exact discipline.bind admits.1 fun _ => inductionHypothesis admits.2
  | review next inductionHypothesis =>
      obtain ⟨unseen, onward⟩ := admits
      refine discipline.get (fun holds agrees => ?_) fun _ => inductionHypothesis _ (onward _)
      rw [unseen _ _ (reviews holds agrees)]
  | ask request next inductionHypothesis =>
      exact discipline.bind (answers request admits.1) fun given =>
        inductionHypothesis given (admits.2 given)

/-! ### Agents -/

section Agents

variable {inner other : Entrances}
  (tables : ∀ {left right}, discipline.holds left → discipline.agrees left right →
    Store.SameTables left right)
  (calls : ∀ {store} command operation, discipline.holds store →
    Delivery.operation? store command = some operation →
      discipline.judges (inner.call operation) (other.call operation))

include tables calls

theorem obey (command : Command) :
    discipline.judges (Delivery.obey inner command) (Delivery.obey other command) := by
  refine discipline.get
    (fun holds agrees => by rw [(tables holds agrees).operation?_eq]) fun holds => ?_
  split
  · rename_i operation asked
    exact discipline.bind (calls command operation holds asked) fun _ => discipline.pure _
  · exact discipline.pure _

/-- The agent has to be the same in stores that agree. -/
theorem tell
    {agent : Ref .agent}
    (same : ∀ {left right}, discipline.holds left → discipline.agrees left right →
      right.agents.get agent = left.agents.get agent)
    (records : ∀ entry,
      discipline.judges (Run.recordAgent agent entry) (Run.recordAgent agent entry))
    (notice : Notice) :
    discipline.judges (Delivery.tell inner agent notice) (Delivery.tell other agent notice) := by
  refine discipline.look (fun holds agrees => by rw [same holds agrees]) fun {store} _ => ?_
  have asks : ((store.agents.get agent).manner notice).Asks fun _ => True :=
    Script.asks_of_all (fun _ => trivial) _
  exact discipline.perform (asks.admits records) (fun holds agrees => by rw [same holds agrees])
    fun command _ => discipline.obey tables calls command

end Agents

end Discipline

/-- Runs are judged by whether a rule governs them. -/
def Rule.discipline (rule : Rule) : Discipline where
  holds := rule.holds
  agrees := Eq
  judges run _ := rule.Governs run
  pure := Rule.pure
  bind := Rule.bind
  get _ each := Rule.get fun _ => each

end ChannelMux
