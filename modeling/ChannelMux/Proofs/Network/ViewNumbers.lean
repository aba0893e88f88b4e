import ChannelMux.Proofs.Network.ViewHistory

/-!
Contract: the numbers of the views of a cluster.

Owns that the views of a cluster are numbered from one on as long as the cluster has members,
and that the numbering begins anew when everybody has left and somebody joins again.
-/

namespace ChannelMux.Store

variable {store after : Store} {network name : String} {actions : List Action}

/-- A cluster without members is forgotten altogether. -/
theorem cluster_eq_of_members
    (reachable : Reachable Action.MakesPassive store)
    (nobody : (store.cluster network name).members = []) :
    store.cluster network name = {} := by
  induction reachable with
  | empty => rfl
  | step reachable _ acted inductionHypothesis =>
      rcases cluster_act_cases (composed_of_reachable reachable) acted network name with
        ⟨_, _, _, members, _, _⟩ | ⟨_, same | emptied⟩
      · exact absurd nobody members
      · rw [same] at nobody ⊢
        exact inductionHypothesis nobody
      · exact emptied

/-- From the first joining on, and as long as a cluster has members, its views are numbered
one, two, three and so on. -/
theorem viewNumbers_count
    (reachable : Reachable Action.MakesPassive store)
    (nobody : (store.cluster network name).members = [])
    (permitted : ∀ action ∈ actions, action.MakesPassive)
    (ran : store.run? actions = some after)
    (lives : AfterEach (fun between => (between.cluster network name).members ≠ []) store
      actions)
    (fewViews : (viewsOf network name (store.announcements actions)).length < UInt64.size) :
    let numbers := (viewsOf network name (store.announcements actions)).map
      fun view => view.id.toNat
    numbers = List.range' 1 numbers.length ∧ numbers.Pairwise (· < ·) := by
  have counted : (viewsOf network name (store.announcements actions)).map
      (fun view => view.id.toNat) =
        List.range' 1 (viewsOf network name (store.announcements actions)).length := by
    have numbered := getElem_numbers (isChain_numbers reachable permitted ran lives)
    rw [cluster_eq_of_members reachable nobody] at numbered
    apply List.ext_getElem (by simp)
    intro index inside _
    have number := numbered index (by simpa using inside)
    rw [List.length_map] at inside
    have small : (index + 1) % UInt64.size = index + 1 := Nat.mod_eq_of_lt (by omega)
    rw [List.getElem_map] at number
    rw [List.getElem_map, List.getElem_range', number]
    change (0 + UInt64.ofNat (index + 1)).toNat = _
    rw [UInt64.zero_add, UInt64.toNat_ofNat']
    unfold UInt64.size at small
    omega
  dsimp only
  rw [counted, List.length_range']
  refine ⟨rfl, ?_⟩
  apply List.pairwise_lt_range'
  exact Nat.one_pos

/-- Two nodes, of which one has joined a cluster and left it. -/
def departed : Store :=
  (run? {} [.addNode "a" "a" (.filled 1) "net" [], .addNode "b" "b" (.filled 2) "net" [],
    .call (.connect ⟨0⟩ "c"), .call (.disconnect ⟨0⟩)]).getD {}

/-- The other one joins the cluster, then the first one again, and the other one leaves. -/
def returning : List Action :=
  [.call (.connect ⟨1⟩ "c"), .call (.connect ⟨0⟩ "c"), .call (.close ⟨1⟩)]

/-- Where everybody has left the numbering begins with one. -/
theorem viewNumbers_count_departed :
    (departed.cluster "net" "c").members = [] ∧
      ∃ after, departed.run? returning = some after ∧
        ((viewsOf "net" "c" (departed.announcements returning)).map
          fun view => view.id.toNat) = [1, 2, 3] := by
  have reachable : Reachable Action.MakesPassive departed := by
    refine reachable_made fun action member => ?_
    simp only [List.mem_cons, List.not_mem_nil, or_false] at member
    rcases member with rfl | rfl | rfl | rfl <;> trivial
  have passive : ∀ action ∈ returning, action.MakesPassive := by
    intro action member
    simp only [returning, List.mem_cons, List.not_mem_nil, or_false] at member
    rcases member with rfl | rfl | rfl <;> trivial
  have nobody : (departed.cluster "net" "c").members = [] := by decide +kernel
  have lives : AfterEach (fun between => (between.cluster "net" "c").members ≠ []) departed
      returning := by decide +kernel
  obtain ⟨after, ran⟩ := Option.isSome_iff_exists.mp
    (by decide +kernel : (departed.run? returning).isSome = true)
  have counted := (viewNumbers_count reachable nobody passive ran lives (by decide +kernel)).1
  refine ⟨nobody, after, ran, ?_⟩
  rw [counted]
  decide +kernel

/-- A node that joins a cluster, leaves it and joins it again. -/
def comingBack : List Action :=
  [.addNode "a" "a" (.filled 1) "net" [], .call (.connect ⟨0⟩ "c"),
    .call (.disconnect ⟨0⟩), .call (.connect ⟨0⟩ "c")]

/-- Over the whole of a run the numbers of the views of a cluster are not ascending. -/
theorem viewNumbers_not_ascending :
    (run? {} comingBack).isSome = true ∧
      (viewsOf "net" "c" (({} : Store).announcements comingBack)).map View.id = [1, 1] ∧
        ¬ ((viewsOf "net" "c" (({} : Store).announcements comingBack)).map
          View.id).Pairwise (· < ·) := by
  decide +kernel

end ChannelMux.Store
