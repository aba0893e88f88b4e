import ChannelMux.Demo.Run

/-!
Contract: how a demonstration goes through its steps.

Owns what becomes of steps that are done one after the other, for each number below a count or
for each item of a list: what the first ones have brought about holds when the next one begins,
and the first that is refused ends it all.
-/

namespace ChannelMux.Demo

/-- A play is refused in a store, for whatever reason. -/
def IsRefused {α : Type} (action : Play α) (store : Store) : Prop :=
  ∃ refusal, action store = .error (.refused refusal)

namespace Play

variable {α β : Type} {store between : Store}

theorem bind_of_ok
    {action : Play α}
    {value : α}
    (done : action store = .ok (value, between))
    (next : α → Play β) :
    (action >>= next) store = next value between := by
  change (action store).bind _ = _
  rw [done]
  rfl

theorem isRefused_bind
    {action : Play α}
    (refused : IsRefused action store)
    (next : α → Play β) :
    IsRefused (action >>= next) store := by
  obtain ⟨refusal, ended⟩ := refused
  refine ⟨refusal, ?_⟩
  change (action store).bind _ = _
  rw [ended]
  rfl

theorem isRefused_of_bind
    {action : Play α}
    {value : α}
    {next : α → Play β}
    (done : action store = .ok (value, between))
    (refused : IsRefused (next value) between) :
    IsRefused (action >>= next) store := by
  unfold IsRefused
  rw [bind_of_ok done]
  exact refused

/-- An operation that is called well leaves behind what it leaves behind. -/
theorem call_of_ok
    {operation : Operation}
    {after : Store}
    (called : store.call operation = some (.ok (), after)) :
    call operation store = .ok ((), after) := by
  have looks : (get : Play Store) store = .ok (store, store) := rfl
  unfold call
  rw [bind_of_ok looks, called]
  rfl

section Gathering

variable {action : Nat → Play α} {holds : Nat → List α → Store → Prop}

theorem gatherFrom_ok
    {count first : Nat}
    {gathered : List α}
    (each : ∀ number items store, first ≤ number → number < first + count →
      holds number items store → ∃ item after, action number store = .ok (item, after) ∧
        holds (number + 1) (items ++ [item]) after)
    (start : holds first gathered.reverse store) :
    ∃ items after, gatherFrom action count first gathered store = .ok (items, after) ∧
      holds (first + count) items after := by
  induction count generalizing first gathered store with
  | zero => exact ⟨_, store, rfl, start⟩
  | succ count inductionHypothesis =>
      obtain ⟨item, between, done, kept⟩ :=
        each first gathered.reverse store (Nat.le_refl _) (by omega) start
      rw [← List.reverse_cons] at kept
      obtain ⟨items, after, rest, all⟩ := inductionHypothesis
        (fun number items store lower upper => each number items store (by omega) (by omega)) kept
      refine ⟨items, after, ?_, ?_⟩
      · unfold gatherFrom
        rw [bind_of_ok done]
        exact rest
      · rw [show first + (count + 1) = first + 1 + count by omega]
        exact all

/-- What holds before the first number, and after each if it holds before it, holds in the end. -/
theorem gather_ok
    (holds : Nat → List α → Store → Prop)
    {count : Nat}
    (each : ∀ number items store, number < count → holds number items store →
      ∃ item after, action number store = .ok (item, after) ∧
        holds (number + 1) (items ++ [item]) after)
    (start : holds 0 [] store) :
    ∃ items after, gather count action store = .ok (items, after) ∧ holds count items after := by
  have whole : ∃ items after, gatherFrom action count 0 [] store = .ok (items, after) ∧
      holds (0 + count) items after := by
    refine gatherFrom_ok (fun number items store _ upper => ?_) start
    exact each number items store (by omega)
  rwa [Nat.zero_add] at whole

theorem gatherFrom_refused
    {count first failing : Nat}
    {gathered : List α}
    (each : ∀ number items store, first ≤ number → number < first + failing →
      holds number items store → ∃ item after, action number store = .ok (item, after) ∧
        holds (number + 1) (items ++ [item]) after)
    (inCount : failing < count)
    (refused : ∀ items store, holds (first + failing) items store →
      IsRefused (action (first + failing)) store)
    (start : holds first gathered.reverse store) :
    IsRefused (gatherFrom action count first gathered) store := by
  induction failing generalizing count first gathered store with
  | zero =>
      obtain ⟨rest, rfl⟩ := Nat.exists_eq_succ_of_ne_zero (Nat.ne_of_gt inCount)
      exact isRefused_bind (refused _ _ start) _
  | succ failing inductionHypothesis =>
      obtain ⟨rest, rfl⟩ := Nat.exists_eq_succ_of_ne_zero (Nat.ne_zero_of_lt inCount)
      obtain ⟨item, between, done, kept⟩ :=
        each first gathered.reverse store (Nat.le_refl _) (by omega) start
      rw [← List.reverse_cons] at kept
      apply isRefused_of_bind done
      apply inductionHypothesis _ (Nat.lt_of_succ_lt_succ inCount) _ kept
      · intro number items store lower upper
        exact each number items store (by omega) (by omega)
      · intro items store before
        rw [show first + 1 + failing = first + (failing + 1) by omega] at before ⊢
        exact refused items store before

/-- If what is done for some number is refused then nothing is gathered. -/
theorem gather_refused
    (holds : Nat → List α → Store → Prop)
    {count failing : Nat}
    (each : ∀ number items store, number < failing → holds number items store →
      ∃ item after, action number store = .ok (item, after) ∧
        holds (number + 1) (items ++ [item]) after)
    (inCount : failing < count)
    (refused : ∀ items store, holds failing items store → IsRefused (action failing) store)
    (start : holds 0 [] store) :
    IsRefused (gather count action) store := by
  apply gatherFrom_refused (fun number items store _ upper => each number items store (by omega))
    inCount _ start
  rw [Nat.zero_add]
  exact refused

theorem gather_refused_at_once
    {count : Nat}
    (isSome : 0 < count)
    (refused : IsRefused (action 0) store) :
    IsRefused (gather count action) store := by
  apply gather_refused (fun _ _ other => other = store) _ isSome _ rfl
  · intro number _ _ below
    exact absurd below (Nat.not_lt_zero number)
  · rintro _ _ rfl
    exact refused

end Gathering

/-- The same for the items of a list, of which some have been done. -/
theorem mapM_ok
    {action : α → Play β}
    {holds : List α → List β → Store → Prop}
    {done items : List α}
    {results : List β}
    (each : ∀ done item results store, holds done results store →
      ∃ result after, action item store = .ok (result, after) ∧
        holds (done ++ [item]) (results ++ [result]) after)
    (start : holds done results store) :
    ∃ found after, items.mapM action store = .ok (found, after) ∧
      holds (done ++ items) (results ++ found) after := by
  induction items generalizing done results store with
  | nil =>
      refine ⟨[], store, rfl, ?_⟩
      rw [List.append_nil, List.append_nil]
      exact start
  | cons item rest inductionHypothesis =>
      obtain ⟨result, between, first, kept⟩ := each done item results store start
      obtain ⟨found, after, others, all⟩ := inductionHypothesis kept
      refine ⟨result :: found, after, ?_, ?_⟩
      · rw [List.mapM_cons, bind_of_ok first, bind_of_ok others]
        rfl
      · rw [List.append_assoc, List.append_assoc] at all
        exact all

theorem forM_flatMap
    {action : β → Play Unit}
    (items : List α)
    (parts : α → List β) :
    (items.flatMap parts).forM action = items.forM fun item => (parts item).forM action := by
  induction items with
  | nil => rfl
  | cons item rest inductionHypothesis =>
      rw [List.flatMap_cons]
      refine List.forM_append.trans ?_
      exact congrArg (fun others => (parts item).forM action >>= fun _ => others)
        inductionHypothesis

/-- What is only done for the items of a list may go by which of them have been done. -/
theorem forM_ok
    (holds : List α → Store → Prop)
    {action : α → Play Unit}
    {all : List α}
    (each : ∀ done item rest store, all = done ++ item :: rest → holds done store →
      ∃ after, action item store = .ok ((), after) ∧ holds (done ++ [item]) after)
    (start : holds [] store) :
    ∃ after, all.forM action store = .ok ((), after) ∧ holds all after := by
  have onward (items done : List α) (store : Store) (split : all = done ++ items)
      (before : holds done store) :
      ∃ after, items.forM action store = .ok ((), after) ∧ holds all after := by
    induction items generalizing done store with
    | nil =>
        rw [List.append_nil] at split
        rw [split]
        exact ⟨store, rfl, before⟩
    | cons item rest inductionHypothesis =>
        obtain ⟨between, first, kept⟩ := each done item rest store split before
        have splitOn : all = (done ++ [item]) ++ rest := by
          rw [split, List.append_assoc, List.singleton_append]
        obtain ⟨after, others, inTheEnd⟩ := inductionHypothesis _ between splitOn kept
        refine ⟨after, ?_, inTheEnd⟩
        change (action item >>= fun _ => rest.forM action) store = _
        rw [bind_of_ok first]
        exact others
  exact onward all [] store rfl start

end Play

end ChannelMux.Demo
