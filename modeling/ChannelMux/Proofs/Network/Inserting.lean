import ChannelMux.Pipeline.InPlace
import ChannelMux.Proofs.Network.Splicing

/-!
Contract: stages put into a pipeline, one edit after the other.

Owns where a placement puts a stage, said of lists and not of indices; that both ways of
putting a stage into a pipeline put it there, or are refused before anything is changed; and
`edits_exact`: along any number of edits the stages keep their order, and what is looked for
again is found again.

A stage that is given, or made, may be in the pipeline already, and names may repeat. What is
made while it is looked for cannot touch the pipeline, which is locked, nor the stages there
are.
-/

namespace ChannelMux

/-! ### Where a placement puts a stage -/

namespace Placement

/-- A placement that names no neighbor, or one of these names. -/
def Finds (placement : Placement) (names : List String) : Prop :=
  ∀ neighbor ∈ placement.neighbor?, neighbor ∈ names

/-- A stage is put where a placement says: at an end, or right beside the first stage from the
bottom that bears the neighbor's name. -/
inductive Puts (named : Ref .stage → String) (stage : Ref .stage) :
    Placement → List (Ref .stage) → List (Ref .stage) → Prop where
  | top (stages : List (Ref .stage)) :
      Puts named stage ⟨.above, none⟩ stages (stages ++ [stage])
  | bottom (stages : List (Ref .stage)) :
      Puts named stage ⟨.below, none⟩ stages (stage :: stages)
  | above {front back : List (Ref .stage)} {neighbor : Ref .stage}
      (first : ∀ other ∈ front, named other ≠ named neighbor) :
      Puts named stage (.above (named neighbor)) (front ++ neighbor :: back)
        (front ++ neighbor :: stage :: back)
  | below {front back : List (Ref .stage)} {neighbor : Ref .stage}
      (first : ∀ other ∈ front, named other ≠ named neighbor) :
      Puts named stage (.below (named neighbor)) (front ++ neighbor :: back)
        (front ++ stage :: neighbor :: back)

theorem insertIdx_length_append
    {α : Type}
    (front back : List α)
    (item : α) :
    (front ++ back).insertIdx front.length item = front ++ item :: back := by
  induction front with
  | nil => exact List.insertIdx_zero
  | cons head tail inductionHypothesis =>
      rw [List.cons_append, List.length_cons, List.insertIdx_succ_cons, inductionHypothesis,
        List.cons_append]

/-- The first of some things that bears a name, with those in front of it. -/
theorem exists_split_of_findIdx?
    {α : Type}
    {named : α → String}
    {items : List α}
    {name : String}
    {index : Nat}
    (found : (items.map named).findIdx? (fun other => other == name) = some index) :
    ∃ front item back,
      items = front ++ item :: back ∧ front.length = index ∧ named item = name ∧
        ∀ other ∈ front, named other ≠ named item := by
  induction items generalizing index with
  | nil => cases found
  | cons head tail inductionHypothesis =>
      rw [List.map_cons, List.findIdx?_cons] at found
      split at found
      · rename_i bears
        cases found
        exact ⟨[], head, tail, rfl, rfl, beq_iff_eq.mp bears, by simp⟩
      · rename_i otherwise
        obtain ⟨index, foundBehind, rfl⟩ := Option.map_eq_some_iff.mp found
        obtain ⟨front, item, back, rfl, length, bears, first⟩ := inductionHypothesis foundBehind
        refine ⟨head :: front, item, back, rfl, by rw [List.length_cons, length], bears, ?_⟩
        rw [bears] at first ⊢
        exact List.forall_mem_cons.mpr ⟨by simpa using otherwise, first⟩

/-- An index is where a placement puts a stage. -/
theorem puts_of_index?
    {placement : Placement}
    {named : Ref .stage → String}
    {stages : List (Ref .stage)}
    {index : Nat}
    (found : placement.index? (stages.map named) = some index)
    (stage : Ref .stage) :
    index ≤ stages.length ∧ Puts named stage placement stages (stages.insertIdx index stage) := by
  obtain ⟨side, neighbor?⟩ := placement
  cases neighbor? with
  | none =>
      cases side with
      | above =>
          cases found
          rw [List.length_map, List.insertIdx_length_self]
          exact ⟨Nat.le_refl _, .top stages⟩
      | below =>
          cases found
          exact ⟨Nat.zero_le _, .bottom stages⟩
  | some name =>
      obtain ⟨place, foundAt, same⟩ := Option.map_eq_some_iff.mp found
      obtain ⟨front, neighbor, back, rfl, rfl, rfl, first⟩ := exists_split_of_findIdx? foundAt
      cases side with
      | above =>
          obtain rfl : front.length + 1 = index := same
          have behind := insertIdx_length_append (front ++ [neighbor]) back stage
          rw [List.length_append, List.length_singleton, List.append_assoc,
            List.singleton_append, List.append_assoc, List.singleton_append] at behind
          rw [behind, List.length_append, List.length_cons]
          exact ⟨by omega, .above first⟩
      | below =>
          obtain rfl : front.length = index := same
          rw [insertIdx_length_append, List.length_append]
          exact ⟨by omega, .below first⟩

/-- There is an index just if the neighbor, if one is named, is there. -/
theorem index?_isSome_iff (placement : Placement) (names : List String) :
    (placement.index? names).isSome ↔ placement.Finds names := by
  obtain ⟨side, neighbor?⟩ := placement
  cases neighbor? with
  | none => cases side <;> simp [index?, Finds]
  | some name => simp [index?, Finds]

end Placement

namespace Store

variable {store : Store} {pipeline : Ref .pipeline}

/-- The name that a stage bears. -/
def stageName (store : Store) (stage : Ref .stage) : String := (store.stages.get stage).name

/-- A placement has an index and puts a stage there, or it is refused for its neighbor. -/
theorem insertionIndex_cases (store : Store) (pipeline : Ref .pipeline) (placement : Placement) :
    (∃ index,
      store.insertionIndex pipeline placement = .ok index ∧
        placement.Finds (store.stageNames pipeline) ∧
          index ≤ (store.stagesOf pipeline).length ∧
          ∀ stage, placement.Puts store.stageName stage (store.stagesOf pipeline)
            ((store.stagesOf pipeline).insertIdx index stage)) ∨
    (store.insertionIndex pipeline placement =
        .error (.neighborMissing (placement.neighbor?.getD "")) ∧
      ¬ placement.Finds (store.stageNames pipeline)) := by
  have finds := placement.index?_isSome_iff (store.stageNames pipeline)
  unfold insertionIndex
  cases found : placement.index? (store.stageNames pipeline) with
  | none =>
      rw [found] at finds
      exact .inr ⟨rfl, fun there => absurd (finds.mpr there) (by simp)⟩
  | some index =>
      rw [found] at finds
      obtain ⟨within, _⟩ := Placement.puts_of_index? found ⟨0⟩
      exact .inl ⟨index, rfl, finds.mp rfl, within, fun stage =>
        (Placement.puts_of_index? found stage).2⟩

end Store

/-! ### The two ways of putting a stage into a pipeline -/

namespace Editing

variable {store : Store}

theorem run_bind {α β : Type} (work : Editing α) (next : α → Editing β) (store : Store) :
    (work >>= next) store = (ExceptT.bindCont next (work store).1) (work store).2 := rfl

theorem bind_get {β : Type} (next : Store → Editing β) (store : Store) :
    ((get : Editing Store) >>= next) store = next store store := rfl

/-- Change by change a stage is inserted as it is when that is done all at once. -/
theorem insertStage_eq (pipeline : Ref .pipeline) (stage : Ref .stage) (placement : Placement)
    (store : Store) :
    insertStage pipeline stage placement store =
      settle store ((store.insertStage pipeline stage placement).map fun after => ((), after)) := by
  unfold insertStage Store.insertStage
  refine (bind_get _ store).trans ?_
  cases store.insertionIndex pipeline placement with
  | error refusal => rfl
  | ok index => rfl

/-- So is one that is looked for. -/
theorem findOrInsert_eq (pipeline : Ref .pipeline) (property : Stage → Bool)
    (make : Store → Ref .stage × Store) (placement : Placement) (store : Store) :
    findOrInsert pipeline property make placement store =
      settle store ((store.findOrInsert pipeline property make placement).map
        fun result => ((result.1, result.2.1), result.2.2)) := by
  unfold findOrInsert Store.findOrInsert
  refine (bind_get _ store).trans ?_
  cases store.findStage? pipeline property with
  | some stage => rfl
  | none =>
      refine (bind_get _ store).trans ?_
      cases store.insertionIndex pipeline placement with
      | error refusal => rfl
      | ok index => rfl

end Editing

namespace Edit

open Store

variable {store : Store} {pipeline : Ref .pipeline}

/-- What making a stage for a pipeline leaves as it was: the pipeline, which is locked, and
the stages there are. -/
structure Spares (pipeline : Ref .pipeline) (before after : Store) : Prop where
  issued : before.pipelines.Issued pipeline → after.pipelines.Issued pipeline
  stagesOf_eq : after.stagesOf pipeline = before.stagesOf pipeline
  stages : Table.Keeps id before.stages after.stages

/-- An edit that can be made: the stage is there, or making it spares what there is. -/
def Sound (pipeline : Ref .pipeline) : Edit → Store → Prop
  | insert stage _, store => store.stages.Issued stage
  | ensure _ make _, store =>
      Spares pipeline store (make store).2 ∧ (make store).2.stages.Issued (make store).1

/-- What putting a stage into a pipeline comes to. It succeeds exactly if the placement names
no neighbor or one that is there; the stage is then where the placement puts it, and otherwise
nothing is changed. -/
structure Inserts (store : Store) (pipeline : Ref .pipeline) (placement : Placement)
    (stage : Ref .stage) (result : Except Refusal (Ref .stage × Bool) × Store) : Prop where
  succeeds_iff :
    (∃ answer, result.1 = .ok answer) ↔ placement.Finds (store.stageNames pipeline)
  placed : ∀ answer, result.1 = .ok answer →
    answer = (stage, true) ∧
      placement.Puts store.stageName stage (store.stagesOf pipeline) (result.2.stagesOf pipeline)
  unchanged : ∀ refusal, result.1 = .error refusal →
    refusal = .neighborMissing (placement.neighbor?.getD "") ∧ result.2 = store

/-- What comes of the attempt to put a stage into a pipeline: it is refused before anything is
made, or the stage is inserted at an index that was known before. -/
structure Attempts (store : Store) (pipeline : Ref .pipeline) (placement : Placement)
    (stage : Ref .stage) (made : Store) (result : Except Refusal (Ref .stage × Bool) × Store) :
    Prop where
  of_error : ∀ refusal, store.insertionIndex pipeline placement = .error refusal →
    result = (.error refusal, store)
  of_ok : ∀ index, store.insertionIndex pipeline placement = .ok index →
    result = (.ok (stage, true), made.insertAt pipeline index stage)

theorem Spares.refl (pipeline : Ref .pipeline) (store : Store) :
    Spares pipeline store store where
  issued := id
  stagesOf_eq := rfl
  stages := Table.Keeps.refl _ _

theorem Spares.stagesOf_insertAt
    {made : Store}
    (spares : Spares pipeline store made)
    (issued : store.pipelines.Issued pipeline)
    (index : Nat)
    (stage : Ref .stage) :
    (made.insertAt pipeline index stage).stagesOf pipeline =
      (store.stagesOf pipeline).insertIdx index stage := by
  rw [stagesOf_insertAt_self (spares.issued issued), spares.stagesOf_eq]

theorem Attempts.inserts
    {placement : Placement}
    {stage : Ref .stage}
    {made : Store}
    {result : Except Refusal (Ref .stage × Bool) × Store}
    (attempts : Attempts store pipeline placement stage made result)
    (issued : store.pipelines.Issued pipeline)
    (spares : Spares pipeline store made) :
    Inserts store pipeline placement stage result := by
  rcases store.insertionIndex_cases pipeline placement with
    ⟨index, found, finds, _, placed⟩ | ⟨refused, missing⟩
  · rw [attempts.of_ok index found]
    refine ⟨⟨fun _ => finds, fun _ => ⟨_, rfl⟩⟩, ?_, ?_⟩
    · intro answer same
      cases same
      rw [spares.stagesOf_insertAt issued]
      exact ⟨rfl, placed stage⟩
    · intro refusal same
      cases same
  · rw [attempts.of_error _ refused]
    refine ⟨⟨?_, fun finds => absurd finds missing⟩, ?_, ?_⟩
    · rintro ⟨answer, same⟩
      cases same
    · intro answer same
      cases same
    · intro refusal same
      cases same
      exact ⟨rfl, rfl⟩

theorem attempts_insert (store : Store) (pipeline : Ref .pipeline) (stage : Ref .stage)
    (placement : Placement) :
    Attempts store pipeline placement stage store
      ((insert stage placement).perform pipeline store) := by
  rw [perform, Editing.run_bind, Editing.insertStage_eq, insertStage]
  constructor
  · intro refusal refused
    rw [refused]
    rfl
  · intro index found
    rw [found]
    rfl

theorem attempts_ensure
    {property : Stage → Bool}
    (missing : store.findStage? pipeline property = none)
    (make : Store → Ref .stage × Store)
    (placement : Placement) :
    Attempts store pipeline placement (make store).1 (make store).2
      ((ensure property make placement).perform pipeline store) := by
  rw [perform, Editing.findOrInsert_eq, findOrInsert, missing]
  constructor
  · intro refusal refused
    simp only [refused]
    rfl
  · intro index found
    simp only [found]
    rfl

theorem perform_ensure_of_found
    {property : Stage → Bool}
    {stage : Ref .stage}
    (found : store.findStage? pipeline property = some stage)
    (make : Store → Ref .stage × Store)
    (placement : Placement) :
    (ensure property make placement).perform pipeline store = (.ok (stage, false), store) := by
  rw [perform, Editing.findOrInsert_eq, findOrInsert, found]
  rfl

/-! ### Edits one after the other -/

/-- What one edit comes to: everything is as it was, or a stage that is there then is in the
pipeline as it was. -/
inductive Comes (store : Store) (pipeline : Ref .pipeline) :
    Except Refusal (Ref .stage × Bool) × Store → Prop where
  | unchanged {answer : Except Refusal (Ref .stage × Bool)}
      (nothing : ∀ stage, answer ≠ .ok (stage, true)) :
      Comes store pipeline (answer, store)
  | inserted {stage : Ref .stage} {made : Store} {index : Nat}
      (spares : Spares pipeline store made)
      (issued : made.stages.Issued stage)
      (within : index ≤ (store.stagesOf pipeline).length) :
      Comes store pipeline (.ok (stage, true), made.insertAt pipeline index stage)

theorem Attempts.comes
    {placement : Placement}
    {stage : Ref .stage}
    {made : Store}
    {result : Except Refusal (Ref .stage × Bool) × Store}
    (attempts : Attempts store pipeline placement stage made result)
    (spares : Spares pipeline store made)
    (issued : made.stages.Issued stage) :
    Comes store pipeline result := by
  rcases store.insertionIndex_cases pipeline placement with
    ⟨index, found, _, within, _⟩ | ⟨refused, _⟩
  · rw [attempts.of_ok index found]
    exact .inserted spares issued within
  · rw [attempts.of_error _ refused]
    exact .unchanged fun _ same => by cases same

theorem perform_comes
    {edit : Edit}
    (sound : edit.Sound pipeline store) :
    Comes store pipeline (edit.perform pipeline store) := by
  cases edit with
  | insert stage placement =>
      exact (attempts_insert store pipeline stage placement).comes
        (Spares.refl pipeline store) sound
  | ensure property make placement =>
      cases found : store.findStage? pipeline property with
      | none => exact (attempts_ensure found make placement).comes sound.1 sound.2
      | some stage =>
          rw [perform_ensure_of_found found]
          exact .unchanged fun _ same => by cases same

/-- A pipeline that there is, of stages that there are. -/
structure Furnished (store : Store) (pipeline : Ref .pipeline) : Prop where
  issued : store.pipelines.Issued pipeline
  listed : ∀ stage ∈ store.stagesOf pipeline, store.stages.Issued stage

section Steps

variable {result : Except Refusal (Ref .stage × Bool) × Store}

theorem Comes.furnished
    (comes : Comes store pipeline result)
    (furnished : Furnished store pipeline) :
    Furnished result.2 pipeline := by
  cases comes with
  | unchanged nothing => exact furnished
  | inserted spares issued within =>
      refine ⟨Table.issued_modify.mpr (spares.issued furnished.issued), ?_⟩
      intro other member
      rw [spares.stagesOf_insertAt furnished.issued] at member
      rcases List.eq_or_mem_of_mem_insertIdx member with new | old
      · rw [new]
        exact issued
      · exact (spares.stages other (furnished.listed other old)).1

theorem Comes.sublist
    (comes : Comes store pipeline result)
    (furnished : Furnished store pipeline) :
    (store.stagesOf pipeline).Sublist (result.2.stagesOf pipeline) := by
  cases comes with
  | unchanged nothing => exact List.Sublist.refl _
  | inserted spares issued within =>
      rw [spares.stagesOf_insertAt furnished.issued]
      exact List.sublist_insertIdx _ _ _

theorem Spares.findStage?_eq
    {made : Store}
    (spares : Spares pipeline store made)
    (furnished : Furnished store pipeline)
    (property : Stage → Bool) :
    store.findStage? pipeline property =
      (store.stagesOf pipeline).find? (fun other => property (made.stages.get other)) := by
  apply List.find?_congr
  intro other member
  have same : made.stages.get other = store.stages.get other :=
    (spares.stages other (furnished.listed other member)).2
  rw [same]

theorem Spares.findStage?_insertAt
    {made : Store}
    (spares : Spares pipeline store made)
    (furnished : Furnished store pipeline)
    (property : Stage → Bool)
    (index : Nat)
    (stage : Ref .stage) :
    (made.insertAt pipeline index stage).findStage? pipeline property =
      ((store.stagesOf pipeline).insertIdx index stage).find?
        (fun other => property (made.stages.get other)) := by
  rw [findStage?, spares.stagesOf_insertAt furnished.issued]
  rfl

/-- A stage that was found is found again, if the one that was inserted has not got the
property. -/
theorem Comes.found_again
    (comes : Comes store pipeline result)
    (furnished : Furnished store pipeline)
    {property : Stage → Bool}
    {stage : Ref .stage}
    (found : store.findStage? pipeline property = some stage)
    (without : ∀ other, result.1 = .ok (other, true) →
      property (result.2.stages.get other) = false) :
    result.2.findStage? pipeline property = some stage := by
  cases comes with
  | unchanged nothing => exact found
  | @inserted other made index spares issued within =>
      have otherwise : property (made.stages.get other) = false := without other rfl
      rw [spares.findStage?_insertAt furnished,
        find?_insertIdx_of_not (fun layer => property (made.stages.get layer)) otherwise,
        ← spares.findStage?_eq furnished, found]

end Steps

/-- Something holds of each of some edits when it is made. -/
def Along (pipeline : Ref .pipeline) (holds : Edit → Store → Prop) : List Edit → Store → Prop
  | [], _ => True
  | edit :: edits, store =>
      holds edit store ∧ Along pipeline holds edits (edit.perform pipeline store).2

/-- Whatever an edit puts into the pipeline has not got a property. -/
def InsertsNo (pipeline : Ref .pipeline) (property : Stage → Bool) (edit : Edit)
    (store : Store) : Prop :=
  ∀ stage, (edit.perform pipeline store).1 = .ok (stage, true) →
    property ((edit.perform pipeline store).2.stages.get stage) = false

theorem Furnished.performAll
    {edits : List Edit}
    (furnished : Furnished store pipeline)
    (sound : Along pipeline (Sound pipeline) edits store) :
    Furnished (performAll pipeline edits store) pipeline := by
  induction edits generalizing store with
  | nil => exact furnished
  | cons edit edits inductionHypothesis =>
      obtain ⟨first, others⟩ := sound
      exact inductionHypothesis ((perform_comes first).furnished furnished) others

/-- Stages keep their order along edits. -/
theorem sublist_performAll
    {edits : List Edit}
    (furnished : Furnished store pipeline)
    (sound : Along pipeline (Sound pipeline) edits store) :
    (store.stagesOf pipeline).Sublist ((performAll pipeline edits store).stagesOf pipeline) := by
  induction edits generalizing store with
  | nil => exact List.Sublist.refl _
  | cons edit edits inductionHypothesis =>
      obtain ⟨first, others⟩ := sound
      have comes := perform_comes first
      exact (comes.sublist furnished).trans
        (inductionHypothesis (comes.furnished furnished) others)

theorem findStage?_performAll
    {property : Stage → Bool}
    {stage : Ref .stage}
    {edits : List Edit}
    (furnished : Furnished store pipeline)
    (sound : Along pipeline (Sound pipeline) edits store)
    (without : Along pipeline (InsertsNo pipeline property) edits store)
    (found : store.findStage? pipeline property = some stage) :
    (performAll pipeline edits store).findStage? pipeline property = some stage := by
  induction edits generalizing store with
  | nil => exact found
  | cons edit edits inductionHypothesis =>
      obtain ⟨first, others⟩ := sound
      obtain ⟨firstWithout, othersWithout⟩ := without
      have comes := perform_comes first
      exact inductionHypothesis (comes.furnished furnished) others othersWithout
        (comes.found_again furnished found firstWithout)

/-- What a search with an insertion behind it gives is found from then on, if it has the
property that was looked for. -/
theorem found_of_perform_ensure
    {property : Stage → Bool}
    {make : Store → Ref .stage × Store}
    {placement : Placement}
    {stage : Ref .stage}
    {inserted : Bool}
    {after : Store}
    (furnished : Furnished store pipeline)
    (spares : Spares pipeline store (make store).2)
    (performed : (ensure property make placement).perform pipeline store =
      (.ok (stage, inserted), after))
    (having : inserted = true → property (after.stages.get stage) = true) :
    after.findStage? pipeline property = some stage := by
  cases found : store.findStage? pipeline property with
  | some first =>
      rw [perform_ensure_of_found found] at performed
      cases performed
      exact found
  | none =>
      have attempts := attempts_ensure found make placement
      rcases store.insertionIndex_cases pipeline placement with
        ⟨index, placed, _, within, _⟩ | ⟨refused, _⟩
      · rw [attempts.of_ok index placed] at performed
        cases performed
        rw [spares.findStage?_eq furnished] at found
        rw [spares.findStage?_insertAt furnished]
        exact find?_insertIdx_of_none (fun layer => property ((make store).2.stages.get layer))
          (having rfl) within found
      · rw [attempts.of_error _ refused] at performed
        cases performed

/-- After any edits of a pipeline: putting a stage into it succeeds exactly if the placement
names no neighbor or one that is there, and the stage is then where the placement puts it.
Looking for a stage gives the first one from the bottom, whatever the placement, and changes
nothing; if there is none, the stage that is made is put into the pipeline in the same way.
What is refused changes nothing. Whatever is done later, the stages keep their order. And what
was looked for, once it is there, is found again, and nothing is inserted for it, as long as
nothing else of its kind is inserted. -/
theorem edits_exact
    {store : Store}
    {pipeline : Ref .pipeline}
    (furnished : Furnished store pipeline)
    {edits : List Edit}
    (sound : Along pipeline (Sound pipeline) edits store)
    {reached : Store}
    (reaches : performAll pipeline edits store = reached) :
    (∀ stage placement,
      Inserts reached pipeline placement stage
        ((insert stage placement).perform pipeline reached)) ∧
    (∀ property make placement, (ensure property make placement).Sound pipeline reached →
      (∀ front stage back, reached.stagesOf pipeline = front ++ stage :: back →
        property (reached.stages.get stage) = true →
        (∀ other ∈ front, property (reached.stages.get other) = false) →
          (ensure property make placement).perform pipeline reached =
            (.ok (stage, false), reached)) ∧
      ((∀ other ∈ reached.stagesOf pipeline, property (reached.stages.get other) = false) →
        Inserts reached pipeline placement (make reached).1
          ((ensure property make placement).perform pipeline reached))) ∧
    (∀ later, Along pipeline (Sound pipeline) later reached →
      (reached.stagesOf pipeline).Sublist
        ((performAll pipeline later reached).stagesOf pipeline)) ∧
    (∀ property make placement stage inserted after,
      (ensure property make placement).Sound pipeline reached →
      (ensure property make placement).perform pipeline reached =
        (.ok (stage, inserted), after) →
      (inserted = true → property (after.stages.get stage) = true) →
      ∀ between, Along pipeline (Sound pipeline) between after →
        Along pipeline (InsertsNo pipeline property) between after →
        ∀ makeAgain placementAgain,
          (ensure property makeAgain placementAgain).perform pipeline
              (performAll pipeline between after) =
            (.ok (stage, false), performAll pipeline between after)) := by
  have stillFurnished : Furnished reached pipeline := reaches ▸ furnished.performAll sound
  refine ⟨?_, ?_, ?_, ?_⟩
  · intro stage placement
    exact (attempts_insert reached pipeline stage placement).inserts stillFurnished.issued
      (Spares.refl pipeline reached)
  · intro property make placement making
    constructor
    · intro front stage back split having first
      apply perform_ensure_of_found
      apply List.find?_eq_some_iff_append.mpr
      exact ⟨having, front, back, split, fun other member => by rw [first other member]; rfl⟩
    · intro missing
      apply (attempts_ensure ?_ make placement).inserts stillFurnished.issued making.1
      apply List.find?_eq_none.mpr
      intro other member
      simp [missing other member]
  · intro later laterSound
    exact sublist_performAll stillFurnished laterSound
  · intro property make placement stage inserted after making performed having between
      betweenSound without makeAgain placementAgain
    have afterFurnished := (perform_comes making).furnished stillFurnished
    rw [performed] at afterFurnished
    apply perform_ensure_of_found
    apply findStage?_performAll afterFurnished betweenSound without
    exact found_of_perform_ensure stillFurnished making.1 performed having

/-- A pipeline of two stages that bear one name, and a third stage that is in no pipeline. -/
def twins : Store where
  pipelines := Table.add {} { name := "p", stages := [⟨0⟩, ⟨1⟩] }
  stages := ((Table.add {} { name := "A", role := .custom .transparent }).add
    { name := "A", role := .custom .transparent }).add
      { name := "X", role := .custom .transparent }

theorem issued_twins {index : Nat} (below : index < 3) : twins.stages.Issued ⟨index⟩ := below

theorem furnished_twins : Furnished twins ⟨0⟩ where
  issued := Nat.one_pos
  listed := by
    rw [show twins.stagesOf ⟨0⟩ = [⟨0⟩, ⟨1⟩] from rfl]
    intro stage member
    simp only [List.mem_cons, List.not_mem_nil, or_false] at member
    rcases member with rfl | rfl
    · exact issued_twins (by omega)
    · exact issued_twins (by omega)

/-- The third stage goes between the twins, and is found there from then on, whatever the
placement says. -/
theorem edits_exact_twins :
    (performAll ⟨0⟩ [.insert ⟨2⟩ (.above "A")] twins).stagesOf ⟨0⟩ = [⟨0⟩, ⟨2⟩, ⟨1⟩] ∧
      (ensure (·.name == "X") (fun store => (⟨0⟩, store)) (.below "B")).perform ⟨0⟩
          (performAll ⟨0⟩ [.insert ⟨2⟩ (.above "A")] twins) =
        (.ok (⟨2⟩, false), performAll ⟨0⟩ [.insert ⟨2⟩ (.above "A")] twins) := by
  have sound : Along ⟨0⟩ (Sound ⟨0⟩) [.insert ⟨2⟩ (.above "A")] twins :=
    ⟨issued_twins (by omega), trivial⟩
  have order : (performAll ⟨0⟩ [.insert ⟨2⟩ (.above "A")] twins).stagesOf ⟨0⟩ =
      [⟨0⟩, ⟨2⟩, ⟨1⟩] := by with_unfolding_all rfl
  have lower : (performAll ⟨0⟩ [.insert ⟨2⟩ (.above "A")] twins).stages.Issued ⟨0⟩ :=
    (furnished_twins.performAll sound).listed ⟨0⟩ (by rw [order]; exact List.mem_cons_self)
  obtain ⟨_, searches, _, _⟩ := edits_exact furnished_twins sound rfl
  refine ⟨order, (searches _ _ _ ⟨Spares.refl ⟨0⟩ _, lower⟩).1 [⟨0⟩] ⟨2⟩ [⟨1⟩] order ?_ ?_⟩
  · with_unfolding_all rfl
  · intro other member
    rw [List.mem_singleton.mp member]
    with_unfolding_all rfl

end Edit

end ChannelMux
