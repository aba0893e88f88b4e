import ChannelMux.Delivery.Enter
import ChannelMux.Proofs.Batch.Books
import ChannelMux.Proofs.Delivery.Rule

/-!
Contract: runs that hand traffic to its consumers, whatever those do with it.

Owns what a course of a run is: between handing one thing and the next nothing happens but
that stages record and count, and the run goes on whatever comes of what was handed. Owns
the composition of courses.

Of what the agents do meanwhile nothing is said but that it leaves the skeleton of the store
as it is, which holds of everything they can do.
-/

namespace ChannelMux

variable {α β : Type}

/-! ### Courses -/

/-- From this store the run keeps books and hands traffic to consumers, in turn, and whatever
comes of it, what it hands, counts and gives in all is as it is said to be. -/
inductive Unfolds (base : Store) {α : Type} :
    Run α → Store → (Handoffs → Tally → α → Prop) → Prop where
  | ends {run : Run α} {before after : Store} {tally : Tally} {value : α}
      {post : Handoffs → Tally → α → Prop}
      (finishes : run before = some (value, after))
      (books : Bookkept tally before after)
      (holds : post [] tally value) :
      Unfolds base run before post
  | hands {run : Run α} {before between : Store} {tally : Tally} {depth : Nat}
      {consumer : Consumer} {traffic : Traffic} {next : Outcome → Run α}
      {post : Handoffs → Tally → α → Prop}
      (goesOn : run before =
        (Delivery.hand (Entrances.within depth) (base.receiverOf? consumer) traffic >>= next)
          between)
      (books : Bookkept tally before between)
      (unfolds : ∀ outcome heard, heard.skeleton = base.skeleton →
        Unfolds base (next outcome) heard fun handoffs counted value =>
          post ((consumer, traffic) :: handoffs) (tally ++ counted) value) :
      Unfolds base run before post

/-- From every store of this skeleton the run takes such a course. -/
def Course (base : Store) (run : Run α) (post : Handoffs → Tally → α → Prop) : Prop :=
  ∀ before, before.skeleton = base.skeleton → Unfolds base run before post

namespace Unfolds

variable {base : Store}

theorem mono
    {run : Run α}
    {before : Store}
    {post weaker : Handoffs → Tally → α → Prop}
    (unfolds : Unfolds base run before post)
    (implies : ∀ handoffs tally value, post handoffs tally value →
      weaker handoffs tally value) :
    Unfolds base run before weaker := by
  induction unfolds generalizing weaker with
  | ends finishes books holds => exact ends finishes books (implies _ _ _ holds)
  | hands goesOn books _ inductionHypothesis =>
      refine hands goesOn books fun outcome heard same => ?_
      exact inductionHypothesis outcome heard same fun _ _ _ holds => implies _ _ _ holds

/-- Books may be kept before. -/
theorem prepend
    {run later : Run α}
    {before between : Store}
    {tally : Tally}
    {post : Handoffs → Tally → α → Prop}
    (same : run before = later between)
    (books : Bookkept tally before between)
    (unfolds : Unfolds base later between fun handoffs counted value =>
      post handoffs (tally ++ counted) value) :
    Unfolds base run before post := by
  cases unfolds with
  | ends finishes booksLater holds =>
      exact ends (same.trans finishes) (books.trans booksLater) holds
  | hands goesOn booksLater unfolds =>
      refine hands (same.trans goesOn) (books.trans booksLater) fun outcome heard known => ?_
      refine (unfolds outcome heard known).mono fun handoffs counted value holds => ?_
      rwa [List.append_assoc]

theorem bind
    {run : Run α}
    {next : α → Run β}
    {before : Store}
    {first : Handoffs → Tally → α → Prop}
    {second : Handoffs → Tally → β → Prop}
    (known : before.skeleton = base.skeleton)
    (unfolds : Unfolds base run before first)
    (continues : ∀ handoffs tally value, first handoffs tally value →
      Course base (next value) fun others counted result =>
        second (handoffs ++ others) (tally ++ counted) result) :
    Unfolds base (run >>= next) before second := by
  induction unfolds generalizing second with
  | ends finishes books holds =>
      refine prepend ?_ books (continues _ _ _ holds _ (books.skeleton.trans known))
      rw [Run.bind_apply, finishes]
      rfl
  | @hands run before between _ depth consumer traffic onward _ goesOn books _
      inductionHypothesis =>
      have goesOnFurther : (run >>= next) before =
          (Delivery.hand (Entrances.within depth) (base.receiverOf? consumer) traffic >>=
            fun outcome => onward outcome >>= next) between := by
        rw [Run.bind_apply, goesOn, ← Run.bind_apply, Run.bind_assoc]
      refine hands goesOnFurther books fun outcome heard same => ?_
      refine inductionHypothesis outcome heard same same ?_
      intro handoffs tally value holds after knownAfter
      refine (continues _ _ _ holds after knownAfter).mono ?_
      intro others counted result
      rw [List.cons_append, List.append_assoc]
      exact id

end Unfolds

namespace Course

variable {base : Store}

theorem mono
    {run : Run α}
    {post weaker : Handoffs → Tally → α → Prop}
    (course : Course base run post)
    (implies : ∀ handoffs tally value, post handoffs tally value →
      weaker handoffs tally value) :
    Course base run weaker :=
  fun before same => (course before same).mono implies

theorem pure {value : α} {post : Handoffs → Tally → α → Prop} (holds : post [] [] value) :
    Course base (pure value) post :=
  fun before _ => .ends rfl (Bookkept.refl before) holds

theorem bind
    {run : Run α}
    {next : α → Run β}
    {first : Handoffs → Tally → α → Prop}
    {second : Handoffs → Tally → β → Prop}
    (course : Course base run first)
    (continues : ∀ handoffs tally value, first handoffs tally value →
      Course base (next value) fun others counted result =>
        second (handoffs ++ others) (tally ++ counted) result) :
    Course base (run >>= next) second :=
  fun before same => (course before same).bind same continues

theorem look
    {view : Store → α}
    {next : α → Run β}
    {post : Handoffs → Tally → β → Prop}
    (each : ∀ store, store.skeleton = base.skeleton → Course base (next (view store)) post) :
    Course base (Run.look view >>= next) post := by
  intro before same
  have looked : (Run.look view >>= next) before = next (view before) before := rfl
  exact .prepend looked (Bookkept.refl before) (each before same before same)

theorem get
    {next : Store → Run β}
    {post : Handoffs → Tally → β → Prop}
    (each : ∀ store, store.skeleton = base.skeleton → Course base (next store) post) :
    Course base (MonadState.get >>= next) post := by
  intro before same
  have got : (MonadState.get >>= next) before = next before before := rfl
  exact .prepend got (Bookkept.refl before) (each before same before same)

/-- What follows a step that keeps books. -/
theorem after
    {run : Run Unit}
    {next : Unit → Run β}
    {tally : Tally}
    {post : Handoffs → Tally → β → Prop}
    (keeps : ∀ before, ∃ after, run before = some ((), after) ∧ Bookkept tally before after)
    (continues : Course base (next ()) fun handoffs counted value =>
      post handoffs (tally ++ counted) value) :
    Course base (run >>= next) post := by
  intro before same
  obtain ⟨after, runs, books⟩ := keeps before
  refine Unfolds.prepend ?_ books (continues after (books.skeleton.trans same))
  rw [Run.bind_apply, runs]
  rfl

theorem recordStage
    (stage : Ref .stage)
    (entry : StageEntry)
    {next : Unit → Run β}
    {post : Handoffs → Tally → β → Prop}
    (continues : Course base (next ()) post) :
    Course base (Run.recordStage stage entry >>= next) post :=
  after (fun before => ⟨_, rfl, Bookkept.recordStage before stage entry⟩) continues

theorem count
    {stage : Ref .stage}
    {change : DemultiplexerCounters → DemultiplexerCounters}
    {next : Unit → Run β}
    {post : Handoffs → Tally → β → Prop}
    (marks : List Mark)
    (counts : ∀ counters mark,
      (change counters).of mark = counters.of mark + UInt64.ofNat (marks.count mark))
    (continues : Course base (next ()) fun handoffs counted value =>
      post handoffs (marks.map (stage, ·) ++ counted) value) :
    Course base (Run.count stage change >>= next) post :=
  after (fun before => Bookkept.count counts before stage) continues

/-- Traffic is handed to a consumer, whatever comes of it. -/
theorem hand
    {depth : Nat}
    {receiver? : Option (Ref .agent)}
    {consumer : Consumer}
    {traffic : Traffic}
    {post : Handoffs → Tally → Outcome → Prop}
    (receives : receiver? = base.receiverOf? consumer)
    (holds : ∀ outcome, post [(consumer, traffic)] [] outcome) :
    Course base (Delivery.hand (Entrances.within depth) receiver? traffic) post := by
  intro before _
  have whole : Delivery.hand (Entrances.within depth) receiver? traffic before =
      (Delivery.hand (Entrances.within depth) (base.receiverOf? consumer) traffic >>=
        Pure.pure) before := by
    rw [← receives, bind_pure]
  exact .hands whole (Bookkept.refl before) fun outcome heard _ =>
    .ends rfl (Bookkept.refl heard) (holds outcome)

/-- The answer is given whatever has come of the run. -/
theorem answer
    {run : Run α}
    {post : Handoffs → Tally → Prop}
    (value : β)
    (course : Course base run fun handoffs tally _ => post handoffs tally) :
    Course base (run >>= fun _ => Pure.pure value) fun handoffs tally _ =>
      post handoffs tally := by
  refine bind course fun handoffs tally _ holds => pure ?_
  rwa [List.append_nil, List.append_nil]

theorem ignore
    {run : Run α}
    {post : Handoffs → Tally → Prop}
    (course : Course base run fun handoffs tally _ => post handoffs tally) :
    Course base run.ignore fun handoffs tally _ => post handoffs tally :=
  answer () course

/-- What is handed and counted in all, if it is known of every item. -/
def InTurn (each : α → Handoffs → Tally → Prop) : List α → Handoffs → Tally → Prop
  | [], handoffs, tally => handoffs = [] ∧ tally = []
  | item :: rest, handoffs, tally => ∃ first others counted later,
      each item first counted ∧ InTurn each rest others later ∧
        handoffs = first ++ others ∧ tally = counted ++ later

theorem forM
    {items : List α}
    {action : α → Run Unit}
    {each : α → Handoffs → Tally → Prop}
    (courses : ∀ item ∈ items, Course base (action item) fun handoffs tally _ =>
      each item handoffs tally) :
    Course base (items.forM action) fun handoffs tally _ => InTurn each items handoffs tally := by
  induction items with
  | nil => exact pure ⟨rfl, rfl⟩
  | cons item rest inductionHypothesis =>
      change Course base (action item >>= fun _ => rest.forM action) _
      refine bind (courses item List.mem_cons_self) fun first counted _ holds => ?_
      refine (inductionHypothesis fun other member =>
        courses other (List.mem_cons_of_mem _ member)).mono ?_
      intro others later _ inTurn
      exact ⟨first, others, counted, later, holds, inTurn, rfl, rfl⟩

/-- If every item may be held, then those that are not are handed. -/
theorem InTurn.passed
    {handed : α → Handoffs}
    {held : α → Prop}
    {items : List α}
    {handoffs : Handoffs}
    {tally : Tally}
    (inTurn : InTurn (fun item first _ => first = handed item ∨ (first = [] ∧ held item))
      items handoffs tally) :
    ∃ passed : List α, passed.Sublist items ∧ handoffs = passed.flatMap handed ∧
      ∀ item ∈ items, item ∉ passed → held item := by
  induction items generalizing handoffs tally with
  | nil => exact ⟨[], .slnil, inTurn.1, fun item member => nomatch member⟩
  | cons item rest inductionHypothesis =>
      obtain ⟨first, others, counted, later, either, onward, rfl, rfl⟩ := inTurn
      obtain ⟨passed, sublist, rfl, allHeld⟩ := inductionHypothesis onward
      rcases either with rfl | ⟨rfl, isHeld⟩
      · refine ⟨item :: passed, sublist.cons_cons item, rfl, fun other member notPassed => ?_⟩
        rcases List.mem_cons.mp member with rfl | among
        · exact absurd List.mem_cons_self notPassed
        · exact allHeld other among fun isPassed => notPassed (List.mem_cons_of_mem _ isPassed)
      · refine ⟨passed, sublist.cons item, rfl, fun other member notPassed => ?_⟩
        rcases List.mem_cons.mp member with rfl | among
        · exact isHeld
        · exact allHeld other among notPassed

theorem InTurn.eq_flatMap
    {handed : α → Handoffs}
    {counted : α → Tally}
    {items : List α}
    {handoffs : Handoffs}
    {tally : Tally}
    (inTurn : InTurn (fun item first marks => first = handed item ∧ marks = counted item)
      items handoffs tally) :
    handoffs = items.flatMap handed ∧ tally = items.flatMap counted := by
  induction items generalizing handoffs tally with
  | nil => exact inTurn
  | cons item rest inductionHypothesis =>
      obtain ⟨_, _, _, _, ⟨rfl, rfl⟩, later, rfl, rfl⟩ := inTurn
      obtain ⟨rfl, rfl⟩ := inductionHypothesis later
      exact ⟨rfl, rfl⟩

/-- Doing something for every item hands and counts, in order, what each doing does. -/
theorem forM_flatMap
    {items : List α}
    {action : α → Run Unit}
    {handed : α → Handoffs}
    {counted : α → Tally}
    (each : ∀ item ∈ items, Course base (action item) fun handoffs tally _ =>
      handoffs = handed item ∧ tally = counted item) :
    Course base (items.forM action) fun handoffs tally _ =>
      handoffs = items.flatMap handed ∧ tally = items.flatMap counted :=
  (forM each).mono fun _ _ _ => InTurn.eq_flatMap

theorem forM_handing
    {items : List α}
    {action : α → Run Unit}
    {handed : α → Handoffs}
    (each : ∀ item ∈ items, Course base (action item) fun handoffs tally _ =>
      handoffs = handed item ∧ tally = []) :
    Course base (items.forM action) fun handoffs tally _ =>
      handoffs = items.flatMap handed ∧ tally = [] := by
  refine (forM_flatMap each).mono ?_
  rintro handoffs tally _ ⟨handed, uncounted⟩
  exact ⟨handed, uncounted.trans (by simp)⟩

end Course

end ChannelMux
