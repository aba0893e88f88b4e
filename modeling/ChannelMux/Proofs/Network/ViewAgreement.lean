import ChannelMux.Proofs.Network.ViewHistory

/-!
Contract: the members of a cluster agree with it, and with each other.

Owns that in a network in which no two nodes have one address a node that lasts is connected
to a cluster if and only if its address is among the members, that it has a view if and only
if it is connected, and that all that last in a cluster have one view, of the members in the
order in which they joined. Owns what they are given in the course of time: consecutive views
from their own joining on, and no two different views of one number.
-/

namespace ChannelMux.Store

variable {store after : Store} {node : Ref .node} {network name : String} {action : Action}

/-! ### Members -/

/-- The addresses of a cluster without that of a node that is in it. -/
def membersWithout (store : Store) (node : Ref .node) (network name : String) : List Address :=
  let record := store.nodes.get node
  if record.status = .connected ∧ record.network = network ∧ record.cluster? = some name then
    (store.clusterMembers network name).filter (· != record.address)
  else store.clusterMembers network name

/-- The members of a cluster after an action: whoever joins becomes the last of them, and
whoever leaves is taken out. -/
def membersAfter (store : Store) (action : Action) (network name : String) : List Address :=
  match action with
  | .call (.connect node joined) =>
      let record := store.nodes.get node
      if record.status = .opened ∧ record.network = network ∧ joined = name then
        store.clusterMembers network name ++ [record.address]
      else store.clusterMembers network name
  | .call (.disconnect node) => store.membersWithout node network name
  | .call (.close node) => store.membersWithout node network name
  | _ => store.clusterMembers network name

theorem clusterMembers_enter (store : Store) (node : Ref .node) (joined network name : String) :
    (store.enter node joined).clusterMembers network name =
      if (store.nodes.get node).network = network ∧ joined = name then
        store.clusterMembers network name ++ [(store.nodes.get node).address]
      else store.clusterMembers network name := by
  unfold clusterMembers
  split
  · rename_i here
    obtain ⟨rfl, rfl⟩ := here
    rw [members_enter_self, List.map_append]
    rfl
  · rename_i elsewhere
    rw [cluster_enter_of_ne fun sameNetwork sameName =>
      elsewhere ⟨sameNetwork.symm, sameName.symm⟩]

theorem clusterMembers_exit (store : Store) (node : Ref .node) (network name : String) :
    (store.exit node).clusterMembers network name =
      if (store.nodes.get node).network = network ∧
          (store.nodes.get node).cluster? = some name then
        (store.clusterMembers network name).filter (· != (store.nodes.get node).address)
      else store.clusterMembers network name := by
  unfold clusterMembers
  obtain ⟨inNetwork, inCluster, members⟩ | ⟨elsewhere, members⟩ :=
    members_exit_cases store node network name
  · rw [if_pos ⟨inNetwork.symm, inCluster⟩, members, List.filter_map]
    rfl
  · rw [if_neg fun here => elsewhere ⟨here.1.symm, here.2⟩, members]

theorem clusterMembers_moved_exit
    {operation : Operation}
    (moved : store.moved operation =
      if (store.nodes.get node).status = .connected then store.exit node else store)
    (network name : String) :
    (store.moved operation).clusterMembers network name =
      store.membersWithout node network name := by
  rw [moved]
  unfold membersWithout
  dsimp only
  by_cases connected : (store.nodes.get node).status = .connected
  · rw [if_pos connected, clusterMembers_exit]
    simp only [connected, true_and]
  · rw [if_neg connected, if_neg fun here => connected here.1]

theorem members_act
    (composed : store.Composed)
    (acted : store.act? action = some after)
    (network name : String) :
    after.clusterMembers network name = store.membersAfter action network name := by
  have stands := stands_act composed acted
  unfold clusterMembers
  rw [stands.cluster]
  change (store.rearranged action).clusterMembers network name = _
  have reseated (operation : Operation) :
      (store.reseated operation).clusterMembers network name =
        (store.moved operation).clusterMembers network name := by
    unfold clusterMembers
    rw [cluster_reseated]
  cases action with
  | call operation =>
      refine (reseated operation).trans ?_
      cases operation with
      | connect node joined =>
          unfold membersAfter moved
          dsimp only
          by_cases opened : (store.nodes.get node).status = .opened
          · rw [if_pos opened, clusterMembers_enter]
            simp only [opened, true_and]
          · rw [if_neg opened, if_neg fun here => opened here.1]
      | disconnect node => exact clusterMembers_moved_exit rfl network name
      | close node => exact clusterMembers_moved_exit rfl network name
      | sendFork fork message => rfl
      | sendNode sender message => rfl
  | _ => rfl

/-! ### Agreement -/

/-- In a network those that last are in the clusters that list them, and have their views. -/
structure AgreesIn (network : String) (store : Store) : Prop where
  /-- Whoever is connected to a cluster is a member of it, and nobody else is. -/
  members : ∀ node name, store.isNodeAlive node = true →
    (store.nodes.get node).network = network →
      ((store.nodes.get node).status = .connected ∧
          (store.nodes.get node).cluster? = some name ↔
        (store.nodes.get node).address ∈ store.clusterMembers network name)
  /-- A member is listed once. -/
  once : ∀ node name, store.isNodeAlive node = true →
    (store.nodes.get node).network = network →
      (store.nodes.get node).address ∈ store.clusterMembers network name →
        (store.clusterMembers network name).count (store.nodes.get node).address = 1
  /-- A member of a cluster is in no other one. -/
  only : ∀ node name other, store.isNodeAlive node = true →
    (store.nodes.get node).network = network →
      (store.nodes.get node).address ∈ store.clusterMembers network name →
        (store.nodes.get node).address ∈ store.clusterMembers network other → other = name
  /-- Whoever is connected has a view, and nobody else has. -/
  viewed : ∀ node, store.isNodeAlive node = true → (store.nodes.get node).network = network →
    ((store.nodes.get node).view?.isSome = true ↔ (store.nodes.get node).status = .connected)
  /-- All that are connected to a cluster have one view, of its members. -/
  views : ∀ name, ∃ view, view.members = store.clusterMembers network name ∧
    ∀ node, store.isNodeAlive node = true → (store.nodes.get node).network = network →
      (store.nodes.get node).status = .connected →
        (store.nodes.get node).cluster? = some name →
          (store.nodes.get node).view? = some view ∧ view.members.head? = some view.creator

/-- A member with the address of a node is the entry of that node. -/
theorem seat_of_address
    (listed : store.Listed)
    (distinct : store.DistinctIn network)
    (issued : store.nodes.Issued node)
    (inNetwork : (store.nodes.get node).network = network)
    (member : (store.nodes.get node).address ∈ store.clusterMembers network name) :
    (store.nodes.get node).status = .connected ∧
      (store.nodes.get node).cluster? = some name := by
  obtain ⟨entry, isEntry, sameAddress⟩ := List.mem_map.mp member
  have seated := listed.seated network name entry isEntry
  have isNode := distinct entry.node node seated.issued issued seated.network inNetwork
    (seated.address.trans sameAddress)
  rw [← isNode]
  exact ⟨seated.status, seated.cluster⟩

/-- No address is listed twice. -/
theorem nodup_clusterMembers
    (listed : store.Listed)
    (distinct : store.DistinctIn network)
    (name : String) :
    (store.clusterMembers network name).Nodup := by
  have once := listed.once network name
  unfold clusterMembers List.Nodup at *
  rw [List.pairwise_map, List.Pairwise.and_mem] at once
  rw [List.pairwise_map]
  refine once.imp fun ⟨isLeft, isRight, apart⟩ sameAddress => ?_
  have left := listed.seated network name _ isLeft
  have right := listed.seated network name _ isRight
  refine apart (distinct _ _ left.issued right.issued left.network right.network ?_)
  exact left.address.trans (sameAddress.trans right.address.symm)

theorem agreesIn_of_reachable
    (reachable : Reachable Action.MakesPassive store)
    (distinct : store.DistinctIn network) :
    AgreesIn network store := by
  have composed := composed_of_reachable reachable
  have listed := composed.agreed.listed
  have poised := poised_of_reachable reachable
  have seated := seatedIn_of_reachable reachable distinct
  have issued {node : Ref .node} (alive : store.isNodeAlive node = true) :
      store.nodes.Issued node := composed.wired.issued_of_isNodeAlive alive
  have member {node : Ref .node} {name : String}
      (inNetwork : (store.nodes.get node).network = network)
      (inCluster : (store.nodes.get node).cluster? = some name) :
      (store.nodes.get node).address ∈ store.clusterMembers network name := by
    obtain ⟨entry, isEntry, isNode⟩ := List.mem_map.mp (seated.seats node name inNetwork inCluster)
    subst isNode
    rw [(listed.seated network name entry isEntry).address]
    exact List.mem_map_of_mem isEntry
  refine ⟨fun node name alive inNetwork => ⟨fun here => member inNetwork here.2,
      seat_of_address listed distinct (issued alive) inNetwork⟩,
    fun node name _ _ isMember => ?_, fun node name other alive inNetwork here there => ?_,
    fun node alive inNetwork => ⟨fun viewed => ?_, fun connected => ?_⟩,
    fun name => ⟨(store.cluster network name).view, rfl,
      fun node alive inNetwork _ inCluster => ⟨?_, ?_⟩⟩⟩
  · exact List.count_eq_one_of_mem (nodup_clusterMembers listed distinct name) isMember
  · have first := (seat_of_address listed distinct (issued alive) inNetwork here).2
    have second := (seat_of_address listed distinct (issued alive) inNetwork there).2
    exact Option.some.inj (second.symm.trans first)
  · by_contra notConnected
    rw [poised.unseen node notConnected] at viewed
    cases viewed
  · obtain ⟨name, inCluster⟩ :=
      Option.isSome_iff_exists.mp ((poised.coherent node).clustered.mp connected)
    rw [seated.views node name alive inNetwork inCluster]
    rfl
  · exact seated.views node name alive inNetwork inCluster
  · have isMember := member inNetwork inCluster
    change (store.clusterMembers network name).head? =
      some ((store.clusterMembers network name).headD default)
    cases members : store.clusterMembers network name with
    | nil =>
        rw [members] at isMember
        cases isMember
    | cons first others => rfl

/-- Where nobody gives commands, and whatever stages and agents refuse: in a network without
two nodes of one address those that last are in the clusters that list them, and have their
views; clusters list their members in the order in which they joined; and nodes are given the
views that are announced, in turn, and no others. Whoever connects and stays is given
consecutive views, first that of its own joining, and no two different views of one cluster
have one number as long as the cluster has members and there are not more views than
numbers. -/
theorem members_agree_on_views (reachable : Reachable Action.MakesPassive store) :
    (∀ network, store.DistinctIn network → AgreesIn network store) ∧
    (∀ action after network name, store.act? action = some after →
      after.clusterMembers network name = store.membersAfter action network name) ∧
    (∀ actions after, (∀ action ∈ actions, action.settlesNodes = true) →
      store.run? actions = some after →
        Interleaved GivesView GivesNoView
          ((store.announcements actions).flatMap Announcement.gifts) store after) ∧
    (∀ node network name joined rest after, (store.nodes.get node).status = .opened →
      store.act? (.call (.connect node name)) = some joined →
        Stays node network name joined after rest →
          ∃ own later,
            viewsFor node (store.announcements (.call (.connect node name) :: rest)) =
                own :: later ∧
              own = (joined.cluster network name).view ∧
                own.members =
                    store.clusterMembers network name ++ [(store.nodes.get node).address] ∧
                  (own :: later).IsChain fun before next => next.id = before.id + 1) ∧
    ∀ actions after network name, (∀ action ∈ actions, action.MakesPassive) →
      store.run? actions = some after →
        AfterEach (fun between => (between.cluster network name).members ≠ []) store actions →
          (viewsOf network name (store.announcements actions)).length ≤ UInt64.size →
            ∀ left ∈ store.announcements actions, ∀ right ∈ store.announcements actions,
              left.isOf network name = true → right.isOf network name = true →
                left.view.id = right.view.id → left.view = right.view := by
  have composed := composed_of_reachable reachable
  refine ⟨fun network distinct => agreesIn_of_reachable reachable distinct,
    fun action after network name acted => members_act composed acted network name,
    fun actions after settle ran => interleaved_run reachable settle ran,
    fun node network name joined rest after opened acted stays =>
      views_of_membership reachable opened acted stays,
    fun actions after network name permitted ran lives fewViews left isLeft right isRight
      leftOf rightOf => ?_⟩
  have viewOf {announcement : Announcement} (member : announcement ∈ store.announcements actions)
      (isOf : announcement.isOf network name = true) :
      announcement.view ∈ viewsOf network name (store.announcements actions) :=
    List.mem_map_of_mem (List.mem_filter.mpr ⟨member, isOf⟩)
  exact view_eq_of_id_eq reachable permitted ran lives fewViews (viewOf isLeft leftOf)
    (viewOf isRight rightOf)

/-! ### Three nodes, of which one refuses all views -/

/-- Three nodes of one network; a stage of the second one refuses everything. -/
def manning : List Action :=
  [.addStage "failing" .refusingUp, .addNode "a" "a" (.filled 1) "net" [],
    .addNode "b" "b" (.filled 2) "net" [⟨0⟩], .addNode "c" "c" (.filled 3) "net" []]

/-- Three nodes of one network, in no cluster. -/
def crew : Store := (run? {} manning).getD {}

/-- Two more nodes join the first one; one of them goes over to another cluster, and the other
one is let go of. -/
def comings : List Action :=
  [.call (.connect ⟨1⟩ "k"), .call (.connect ⟨2⟩ "k"), .call (.disconnect ⟨1⟩),
    .call (.connect ⟨1⟩ "l"), .dropNode "c"]

theorem reachable_crew : Reachable Action.MakesPassive crew := by
  refine reachable_made fun action member => ?_
  simp only [manning, List.mem_cons, List.not_mem_nil, or_false] at member
  rcases member with rfl | rfl | rfl | rfl <;> trivial

/-- The first node is given four consecutive views, although the second one refuses its own,
and in the end those that are left agree with their clusters. -/
theorem members_agree_on_views_crew :
    ∃ joined after own later,
      crew.act? (.call (.connect ⟨0⟩ "k")) = some joined ∧ joined.run? comings = some after ∧
      AgreesIn "net" after ∧ after.clusterMembers "net" "k" = [.filled 1, .filled 3] ∧
      after.clusterMembers "net" "l" = [.filled 2] ∧
      viewsFor ⟨0⟩ (crew.announcements (.call (.connect ⟨0⟩ "k") :: comings)) = own :: later ∧
      own.members = [.filled 1] ∧ later.map View.id = [2, 3, 4] ∧
      (own :: later).IsChain fun before next => next.id = before.id + 1 := by
  obtain ⟨_, _, _, given, _⟩ := members_agree_on_views reachable_crew
  obtain ⟨joined, acted⟩ := Option.isSome_iff_exists.mp
    (by decide +kernel : (crew.act? (.call (.connect ⟨0⟩ "k"))).isSome = true)
  have isJoined : joined = (crew.act? (.call (.connect ⟨0⟩ "k"))).getD {} := by
    rw [acted]
    rfl
  obtain ⟨after, ran⟩ := Option.isSome_iff_exists.mp
    (by rw [isJoined]; decide +kernel : (joined.run? comings).isSome = true)
  have isAfter : after = (joined.run? comings).getD {} := by
    rw [ran]
    rfl
  have passive : ∀ action ∈ comings, action.MakesPassive := by
    intro action member
    simp only [comings, List.mem_cons, List.not_mem_nil, or_false] at member
    rcases member with rfl | rfl | rfl | rfl | rfl <;> trivial
  have reachableJoined : Reachable Action.MakesPassive joined := by
    have connects : (Action.call (.connect ⟨0⟩ "k")).MakesPassive := trivial
    exact .step reachable_crew connects acted
  have distinct : after.DistinctIn "net" := by
    rw [isAfter, isJoined]
    decide +kernel
  have stays : Stays ⟨0⟩ "net" "k" joined after comings := by
    refine ⟨ran, passive, distinct, ?_, ?_, ?_, ?_⟩ <;> rw [isJoined] <;> decide +kernel
  obtain ⟨own, later, views, _, members, chain⟩ :=
    given ⟨0⟩ "net" "k" joined comings after (by decide +kernel) acted stays
  have agrees := (members_agree_on_views
    (reachable_of_run? reachableJoined passive ran)).1 "net" distinct
  refine ⟨joined, after, own, later, acted, ran, agrees, ?_, ?_, views, ?_, ?_, chain⟩
  · rw [isAfter, isJoined]
    decide +kernel
  · rw [isAfter, isJoined]
    decide +kernel
  · rw [members]
    decide +kernel
  · have ids : (own :: later).map View.id = [1, 2, 3, 4] := by
      rw [← views]
      decide +kernel
    exact (List.cons.inj ids).2

end ChannelMux.Store
