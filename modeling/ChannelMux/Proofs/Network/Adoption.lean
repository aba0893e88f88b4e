import ChannelMux.Proofs.Delivery.Lifecycle
import ChannelMux.Proofs.Network.Growth

/-!
Contract: which status forks have.

Owns what telling the listeners of a node of a status comes to, and the agreement of the
forks that last with the nodes they are over: once the listeners of a node have been told of
its status, the forks over it have it.
-/

namespace ChannelMux.Store

/-- Every fork that lasts has the status of its node. -/
def Mirrors (store : Store) : Prop :=
  ∀ fork, store.isForkAlive fork = true →
    (store.forks.get fork).status = (store.nodes.get (store.forks.get fork).node).status

section Adoption

variable {entered : Status} {fork : Ref .fork}

theorem adoptBy_fork_of_alive
    {store : Store}
    (alive : store.isForkAlive fork = true)
    (entered : Status) :
    store.adoptBy entered (.fork fork) =
      store.modifyFork fork fun record => { record with status := entered } := if_pos alive

theorem adoptBy_fork_of_not_alive
    {store : Store}
    (notAlive : ¬ store.isForkAlive fork = true)
    (entered : Status) :
    store.adoptBy entered (.fork fork) = store := if_neg notAlive

/-- Telling a listener concerns one fork at most. -/
theorem fork_adoptBy_of_ne
    {listener : Listener}
    (different : listener ≠ .fork fork)
    (store : Store)
    (entered : Status) :
    (store.adoptBy entered listener).forks.get fork = store.forks.get fork := by
  cases listener with
  | agent agent => rfl
  | fork told =>
      by_cases alive : store.isForkAlive told = true
      · rw [adoptBy_fork_of_alive alive]
        have otherFork : fork ≠ told := by
          intro same
          rw [same] at different
          exact different rfl
        exact Table.get_modify_of_ne otherFork _ _
      · rw [adoptBy_fork_of_not_alive alive]

theorem status_adoptBy_self
    {store : Store}
    (alive : store.isForkAlive fork = true)
    (entered : Status) :
    ((store.adoptBy entered (.fork fork)).forks.get fork).status = entered := by
  rw [adoptBy_fork_of_alive alive]
  unfold modifyFork
  rw [Table.get_modify_self (Table.issued_of_isNamed alive)]

theorem skeleton_adoptBy (store : Store) (entered : Status) (listener : Listener) :
    (store.adoptBy entered listener).skeleton = store.skeleton := by
  cases listener with
  | agent agent => rfl
  | fork told =>
      by_cases alive : store.isForkAlive told = true
      · rw [adoptBy_fork_of_alive alive]
        unfold skeleton modifyFork
        dsimp only
        rw [Table.map_modify]
        intro record
        rfl
      · rw [adoptBy_fork_of_not_alive alive]

theorem nodes_adoptBy (store : Store) (entered : Status) (listener : Listener) :
    (store.adoptBy entered listener).nodes = store.nodes ∧
      (store.adoptBy entered listener).networks = store.networks := by
  cases listener with
  | agent agent => exact ⟨rfl, rfl⟩
  | fork told =>
      by_cases alive : store.isForkAlive told = true
      · rw [adoptBy_fork_of_alive alive]
        exact ⟨rfl, rfl⟩
      · rw [adoptBy_fork_of_not_alive alive]
        exact ⟨rfl, rfl⟩

/-- The listeners of a list have been told of a status. -/
def adoptAll (store : Store) (entered : Status) (entries : List (UInt64 × Listener)) : Store :=
  entries.foldl (fun adopted entry => adopted.adoptBy entered entry.2) store

theorem skeleton_adoptAll (store : Store) (entered : Status)
    (entries : List (UInt64 × Listener)) :
    (store.adoptAll entered entries).skeleton = store.skeleton := by
  induction entries generalizing store with
  | nil => rfl
  | cons entry rest inductionHypothesis =>
      exact (inductionHypothesis _).trans (skeleton_adoptBy store entered entry.2)

theorem nodes_adoptAll (store : Store) (entered : Status) (entries : List (UInt64 × Listener)) :
    (store.adoptAll entered entries).nodes = store.nodes ∧
      (store.adoptAll entered entries).networks = store.networks := by
  induction entries generalizing store with
  | nil => exact ⟨rfl, rfl⟩
  | cons entry rest inductionHypothesis =>
      obtain ⟨nodes, networks⟩ := nodes_adoptBy store entered entry.2
      obtain ⟨restNodes, restNetworks⟩ := inductionHypothesis (store.adoptBy entered entry.2)
      exact ⟨restNodes.trans nodes, restNetworks.trans networks⟩

theorem fork_adoptAll_of_not_listed
    {entries : List (UInt64 × Listener)}
    (notListed : ∀ token, (token, .fork fork) ∉ entries)
    (store : Store)
    (entered : Status) :
    (store.adoptAll entered entries).forks.get fork = store.forks.get fork := by
  induction entries generalizing store with
  | nil => rfl
  | cons entry rest inductionHypothesis =>
      have different : entry.2 ≠ .fork fork := by
        intro same
        apply notListed entry.1
        rw [← same]
        exact List.mem_cons_self
      refine (inductionHypothesis ?_ (store.adoptBy entered entry.2)).trans
        (fork_adoptBy_of_ne different store entered)
      intro token member
      exact notListed token (List.mem_cons_of_mem _ member)

theorem status_adoptAll
    {token : UInt64}
    {entries : List (UInt64 × Listener)}
    (listed : (token, .fork fork) ∈ entries)
    {store : Store}
    (alive : store.isForkAlive fork = true)
    (entered : Status) :
    ((store.adoptAll entered entries).forks.get fork).status = entered := by
  induction entries generalizing store token with
  | nil => cases listed
  | cons entry rest inductionHypothesis =>
      have stillAlive : (store.adoptBy entered entry.2).isForkAlive fork = true :=
        (isForkAlive_eq (skeleton_adoptBy store entered entry.2) fork).trans alive
      by_cases again : ∃ later, (later, .fork fork) ∈ rest
      · obtain ⟨later, inRest⟩ := again
        exact inductionHypothesis inRest stillAlive
      · -- The fork is told for the last time.
        have isEntry : (token, .fork fork) = entry := by
          rcases List.mem_cons.mp listed with same | inRest
          · exact same
          · exact absurd ⟨token, inRest⟩ again
        have kept : ((store.adoptBy entered entry.2).adoptAll entered rest).forks.get fork =
            (store.adoptBy entered entry.2).forks.get fork :=
          fork_adoptAll_of_not_listed (fun later inRest => again ⟨later, inRest⟩) _ _
        change (((store.adoptBy entered entry.2).adoptAll entered rest).forks.get fork).status = _
        rw [kept, ← isEntry]
        exact status_adoptBy_self alive entered

end Adoption

/-- Once the listeners of a node have been told of its status, every fork that lasts has the
status of its node, if those over other nodes had it before. -/
theorem mirrors_adopt
    {store : Store}
    {node : Ref .node}
    (wired : store.Wired)
    (issued : store.nodes.Issued node)
    (others : ∀ fork, store.isForkAlive fork = true → (store.forks.get fork).node ≠ node →
      (store.forks.get fork).status =
        (store.nodes.get (store.forks.get fork).node).status) :
    (store.adopt node (store.nodes.get node).status).Mirrors := by
  intro fork alive
  change (store.adoptAll _ _).isForkAlive fork = true at alive
  change ((store.adoptAll _ _).forks.get fork).status =
    ((store.adoptAll _ _).nodes.get ((store.adoptAll _ _).forks.get fork).node).status
  have skeleton := skeleton_adoptAll store (store.nodes.get node).status
    (store.nodes.get node).listeners
  rw [isForkAlive_eq skeleton] at alive
  have sameNode := congrArg Fork.node (still_fork_eq skeleton fork)
  change ((store.adoptAll _ _).forks.get fork).node = (store.forks.get fork).node at sameNode
  rw [sameNode, (nodes_adoptAll store _ _).1]
  by_cases onNode : (store.forks.get fork).node = node
  · have listens := (wired.bound fork alive).listens
    rw [onNode] at listens ⊢
    exact status_adoptAll listens alive _
  · have notListed : ∀ token, (token, .fork fork) ∉ (store.nodes.get node).listeners := by
      intro token listed
      exact onNode ((wired.nodes node issued).listeners token fork listed).2.1
    rw [fork_adoptAll_of_not_listed notListed]
    exact others fork alive onNode

end ChannelMux.Store
