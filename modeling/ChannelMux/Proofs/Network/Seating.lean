import ChannelMux.Proofs.Network.Movement

/-!
Contract: who is seated in which cluster, and which view they have.

Owns that status, cluster and view of a node go together: none is ever about to be connected,
those that are connected are in a cluster, and the others have no view. Owns the agreement of
nodes with clusters in a network in which no two nodes have one address: whoever is in a
cluster is a member of it, and whoever lasts there has the view of the cluster.
-/

namespace ChannelMux.Store

variable {store after : Store} {node : Ref .node} {network name : String}

/-! ### Who is given a view -/

/-- Whoever is given a view lasts. -/
theorem isNodeAlive_of_recipient
    {operation : Operation}
    {announcement : Announcement}
    (announced : store.announcement? operation = some announcement)
    (recipient : node ∈ announcement.recipients) :
    store.isNodeAlive node = true := by
  rcases announcement_cases store operation with
    ⟨silent, _⟩ | ⟨other, same, announces⟩
  · rw [silent] at announced
    cases announced
  · rw [same] at announced
    cases announced
    rw [announces.recipients] at recipient
    exact (List.mem_filter.mp recipient).2

/-- Whoever is given a view has its seat in the cluster that the view is of. -/
theorem seated_of_recipient
    {moved : Store}
    {announcement : Announcement}
    (announces : Announces store moved announcement)
    (listed : moved.Listed)
    (recipient : node ∈ announcement.recipients) :
    (moved.nodes.get node).network = announcement.network ∧
      (moved.nodes.get node).status = .connected ∧
        (moved.nodes.get node).cluster? = some announcement.cluster := by
  rw [announces.recipients] at recipient
  obtain ⟨member, isMember, isNode⟩ := List.mem_map.mp (List.mem_filter.mp recipient).1
  have seated := listed.seated _ _ member isMember
  subst isNode
  exact ⟨seated.network, seated.status, seated.cluster⟩

/-- Of those that last, whoever has its seat in a cluster is given a view if it is one of the
cluster. -/
theorem mem_recipients_iff
    {moved : Store}
    {announcement : Announcement}
    {network name : String}
    (announces : Announces store moved announcement)
    (listed : moved.Listed)
    (alive : store.isNodeAlive node = true)
    (seat : node ∈ (moved.cluster network name).members.map Member.node) :
    node ∈ announcement.recipients ↔
      announcement.network = network ∧ announcement.cluster = name := by
  constructor
  · intro recipient
    obtain ⟨ofNetwork, _, ofCluster⟩ := seated_of_recipient announces listed recipient
    obtain ⟨member, isMember, isNode⟩ := List.mem_map.mp seat
    have own := listed.seated network name member isMember
    subst isNode
    exact ⟨ofNetwork.symm.trans own.network, Option.some.inj (ofCluster.symm.trans own.cluster)⟩
  · rintro ⟨rfl, rfl⟩
    rw [announces.recipients]
    exact List.mem_filter.mpr ⟨seat, alive⟩

/-- An action that calls no operation announces nothing and moves nobody. -/
theorem action_cases (store : Store) (action : Action) :
    (∃ operation, action = .call operation) ∨
      store.rearranged action = store ∧ store.movedBy action = store ∧
        store.announcedBy? action = none := by
  cases action with
  | call operation => exact Or.inl ⟨operation, rfl⟩
  | _ => exact Or.inr ⟨rfl, rfl, rfl⟩

/-! ### Status, cluster and view -/

/-- Status and cluster go together. -/
structure Coherent (record : Node) : Prop where
  settled : record.status ≠ .connecting
  clustered : record.status = .connected ↔ record.cluster?.isSome = true

/-- Status, cluster and view of every node go together. -/
structure Poised (store : Store) : Prop where
  coherent : ∀ node, Coherent (store.nodes.get node)
  unseen : ∀ node, (store.nodes.get node).status ≠ .connected →
    (store.nodes.get node).view? = none

theorem coherent_moved
    (coherent : Coherent (store.nodes.get node))
    (operation : Operation) :
    Coherent ((store.moved operation).nodes.get node) := by
  cases nodeMove_moved store operation node with
  | stays same =>
      rw [same]
      exact coherent
  | enters name _ _ same =>
      rw [same]
      exact ⟨fun impossible => (nomatch impossible), by simp⟩
  | exits _ _ same =>
      rw [same]
      exact ⟨fun impossible => (nomatch impossible), by simp⟩

theorem coherent_reseated
    (coherent : Coherent (store.nodes.get node))
    (operation : Operation) :
    Coherent ((store.reseated operation).nodes.get node) := by
  have moved := coherent_moved coherent operation
  rcases node_reseated_cases store operation node with same | ⟨notConnected, same⟩
  · rw [same]
    exact moved
  · rw [same]
    refine ⟨fun impossible => (nomatch impossible), ?_⟩
    rw [← moved.clustered]
    exact ⟨fun impossible => (nomatch impossible), fun connected => absurd connected notConnected⟩

theorem Poised.unseen_moved
    {operation : Operation}
    (poised : store.Poised)
    (listed : (store.moved operation).Listed)
    (notConnected : ((store.moved operation).nodes.get node).status ≠ .connected) :
    Announcement.given (store.announcement? operation) node
      ((store.moved operation).nodes.get node).view? = none := by
  have unseen : ((store.moved operation).nodes.get node).view? = none := by
    cases nodeMove_moved store operation node with
    | stays same =>
        rw [same] at notConnected ⊢
        exact poised.unseen node notConnected
    | enters name _ _ same =>
        rw [same] at notConnected
        exact absurd rfl notConnected
    | exits _ _ same => rw [same]
  rcases announcement_cases store operation with ⟨silent, _⟩ | ⟨announcement, announced, announces⟩
  · rw [silent]
    exact unseen
  · rw [announced]
    have notGiven : node ∉ announcement.recipients := fun recipient =>
      notConnected (seated_of_recipient announces listed recipient).2.1
    exact (if_neg notGiven).trans unseen

/-- Whatever is done, status, cluster and view of every node go together. -/
theorem poised_act
    {action : Action}
    (poised : store.Poised)
    (composed : store.Composed)
    (acted : store.act? action = some after) :
    after.Poised := by
  have stands := stands_act composed acted
  obtain ⟨wired, passive, agreed⟩ := composed
  have atRest {node : Ref .node} (notIssued : ¬ store.nodes.Issued node) :
      (after.nodes.get node).AtRest := fresh_act wired acted notIssued
  have standing {node : Ref .node} (issued : store.nodes.Issued node) :
      (after.nodes.get node).status = ((store.rearranged action).nodes.get node).status ∧
        (after.nodes.get node).cluster? =
          ((store.rearranged action).nodes.get node).cluster? := by
    have issuedThere : (store.rearranged action).nodes.Issued node := by
      rcases action_cases store action with ⟨operation, rfl⟩ | ⟨still, _⟩
      · exact (issued_reseated operation).mpr issued
      · rw [still]
        exact issued
    exact ⟨stands.status issuedThere, stands.inCluster issuedThere⟩
  refine ⟨fun node => ?_, fun node notConnected => ?_⟩
  · by_cases issued : store.nodes.Issued node
    · have coherent : Coherent ((store.rearranged action).nodes.get node) := by
        rcases action_cases store action with ⟨operation, rfl⟩ | ⟨still, _⟩
        · exact coherent_reseated (poised.coherent node) operation
        · rw [still]
          exact poised.coherent node
      obtain ⟨status, inCluster⟩ := standing issued
      refine ⟨?_, ?_⟩
      · rw [status]
        exact coherent.settled
      · rw [status, inCluster]
        exact coherent.clustered
    · obtain ⟨status, inCluster, _⟩ := atRest issued
      exact ⟨by simp [status], by simp [status, inCluster]⟩
  · by_cases issued : store.nodes.Issued node
    · rw [views_act wired passive acted issued]
      rw [(standing issued).1] at notConnected
      rcases action_cases store action with ⟨operation, rfl⟩ | ⟨still, unmoved, silent⟩
      · obtain ⟨can, _⟩ := given_eq_some.mp acted
        refine poised.unseen_moved (listed_moved wired agreed.listed can) ?_
        rcases node_reseated_cases store operation node with same | ⟨otherwise, _⟩
        · exact fun connected => notConnected ((congrArg Node.status same).trans connected)
        · exact otherwise
      · rw [still] at notConnected
        rw [unmoved, silent]
        exact poised.unseen node notConnected
    · exact (atRest issued).view

theorem poised_of_reachable (reachable : Reachable Action.MakesPassive store) : store.Poised := by
  induction reachable with
  | empty =>
      refine ⟨fun node => ⟨fun impossible => (nomatch impossible), ?_⟩, fun _ _ => rfl⟩
      exact ⟨fun impossible => (nomatch impossible), fun impossible => (nomatch impossible)⟩
  | step reachable _ acted inductionHypothesis =>
      exact poised_act inductionHypothesis (composed_of_reachable reachable) acted

/-! ### Seats in a network without two nodes of one address -/

/-- No two nodes of a network have one address. -/
def DistinctIn (store : Store) (network : String) : Prop :=
  ∀ left right, store.nodes.Issued left → store.nodes.Issued right →
    (store.nodes.get left).network = network → (store.nodes.get right).network = network →
      (store.nodes.get left).address = (store.nodes.get right).address → left = right

instance (store : Store) (network : String) : Decidable (store.DistinctIn network) :=
  decidable_of_iff (∀ left ∈ store.nodes.refs, ∀ right ∈ store.nodes.refs,
      (store.nodes.get left).network = network → (store.nodes.get right).network = network →
        (store.nodes.get left).address = (store.nodes.get right).address → left = right)
    ⟨fun distinct left right leftIssued rightIssued =>
        distinct left (Table.mem_refs.mpr leftIssued) right (Table.mem_refs.mpr rightIssued),
      fun distinct left leftListed right rightListed =>
        distinct left right (Table.mem_refs.mp leftListed) (Table.mem_refs.mp rightListed)⟩

theorem DistinctIn.of_descends
    (distinct : after.DistinctIn network)
    (descends : Descends store after) :
    store.DistinctIn network := by
  intro left right leftIssued rightIssued leftIn rightIn sameAddress
  obtain ⟨leftNetwork, leftAddress⟩ := descends.place_eq leftIssued
  obtain ⟨rightNetwork, rightAddress⟩ := descends.place_eq rightIssued
  refine distinct left right (descends.nodes left leftIssued).1
    (descends.nodes right rightIssued).1 (leftNetwork.trans leftIn) (rightNetwork.trans rightIn) ?_
  rw [leftAddress, rightAddress]
  exact sameAddress

/-- Whoever is in a cluster of a network is a member of it, and has its view as long as it
lasts. -/
structure SeatedIn (network : String) (store : Store) : Prop where
  seats : ∀ node name, (store.nodes.get node).network = network →
    (store.nodes.get node).cluster? = some name →
      node ∈ (store.cluster network name).members.map Member.node
  views : ∀ node name, store.isNodeAlive node = true →
    (store.nodes.get node).network = network →
      (store.nodes.get node).cluster? = some name →
        (store.nodes.get node).view? = some (store.cluster network name).view

theorem issued_of_cluster?
    (inCluster : (store.nodes.get node).cluster? = some name) :
    store.nodes.Issued node := by
  by_contra notIssued
  rw [Table.get_of_not_issued notIssued] at inCluster
  cases inCluster

theorem mem_enter
    (member : node ∈ (store.cluster network name).members.map Member.node)
    (moving : Ref .node)
    (joined : String) :
    node ∈ ((store.enter moving joined).cluster network name).members.map Member.node := by
  by_cases here : network = (store.nodes.get moving).network ∧ name = joined
  · obtain ⟨rfl, rfl⟩ := here
    rw [members_enter_self, List.map_append]
    exact List.mem_append.mpr (Or.inl member)
  · rw [cluster_enter_of_ne fun sameNetwork sameName => here ⟨sameNetwork, sameName⟩]
    exact member

/-- Whoever leaves takes nobody along who has another address. -/
theorem mem_exit
    {moving : Ref .node}
    (listed : store.Listed)
    (distinct : store.DistinctIn network)
    (issued : store.nodes.Issued moving)
    (different : node ≠ moving)
    (member : node ∈ (store.cluster network name).members.map Member.node) :
    node ∈ ((store.exit moving).cluster network name).members.map Member.node := by
  obtain ⟨inNetwork, _, members⟩ | ⟨_, members⟩ :=
    members_exit_cases store moving network name
  · rw [members]
    obtain ⟨entry, isEntry, isNode⟩ := List.mem_map.mp member
    subst isNode
    have seated := listed.seated network name entry isEntry
    refine List.mem_map.mpr ⟨entry, List.mem_filter.mpr ⟨isEntry, ?_⟩, rfl⟩
    rw [bne_iff_ne, ← seated.address]
    intro sameAddress
    exact different
      (distinct _ _ seated.issued issued seated.network inNetwork.symm sameAddress)
  · rw [members]
    exact member

namespace SeatedIn

variable {operation : Operation}

/-- Whoever is in a cluster after a node has been moved is a member of it. -/
theorem seats_moved
    (seated : SeatedIn network store)
    (listed : store.Listed)
    (distinct : store.DistinctIn network)
    (inNetwork : (store.nodes.get node).network = network)
    (inCluster : ((store.moved operation).nodes.get node).cluster? = some name) :
    node ∈ ((store.moved operation).cluster network name).members.map Member.node := by
  cases store.move_moved operation with
  | stays same =>
      rw [same] at inCluster ⊢
      exact seated.seats node name inNetwork inCluster
  | enters moving joined _ _ same =>
      rw [same] at inCluster ⊢
      have entered := issued_of_cluster? inCluster
      rw [nodes_enter] at inCluster entered
      by_cases isMoving : node = moving
      · subst isMoving
        rw [Table.get_modify_self (Table.issued_modify.mp entered)] at inCluster
        cases inCluster
        rw [← inNetwork, members_enter_self, List.map_append]
        exact List.mem_append.mpr (Or.inr List.mem_cons_self)
      · rw [Table.get_modify_of_ne isMoving] at inCluster
        exact mem_enter (seated.seats node name inNetwork inCluster) moving joined
  | exits moving _ connected same =>
      rw [same] at inCluster ⊢
      have issued : store.nodes.Issued moving := by
        by_contra notIssued
        rw [Table.get_of_not_issued notIssued] at connected
        cases connected
      have different : node ≠ moving := by
        rintro rfl
        rw [nodes_exit, Table.get_modify_self issued] at inCluster
        cases inCluster
      rw [nodes_exit, Table.get_modify_of_ne different] at inCluster
      exact mem_exit listed distinct issued different
        (seated.seats node name inNetwork inCluster)

end SeatedIn

theorem cluster?_moved_connect
    (opened : (store.nodes.get node).status = .opened)
    (issued : (store.moved (.connect node name)).nodes.Issued node) :
    ((store.moved (.connect node name)).nodes.get node).cluster? = some name := by
  have moves : store.moved (.connect node name) = store.enter node name := if_pos opened
  rw [moves] at issued ⊢
  rw [nodes_enter] at issued ⊢
  rw [Table.get_modify_self (Table.issued_modify.mp issued)]

/-- Whoever connects is announced to the cluster that it enters. -/
theorem announcement?_connect
    (opened : (store.nodes.get node).status = .opened)
    {announcement : Announcement}
    (announced : store.announcement? (.connect node name) = some announcement) :
    announcement.network = (store.nodes.get node).network ∧ announcement.cluster = name := by
  unfold announcement? announce? at announced
  dsimp only at announced
  rw [if_pos opened] at announced
  split at announced
  · cases announced
  · cases announced
    exact ⟨rfl, rfl⟩

namespace SeatedIn

variable {operation : Operation}

/-- Whoever is in a cluster after a node has been moved is given its view, or has it. -/
theorem views_moved
    (seated : SeatedIn network store)
    (listed : store.Listed)
    (listedMoved : (store.moved operation).Listed)
    (distinct : store.DistinctIn network)
    (alive : store.isNodeAlive node = true)
    (inNetwork : (store.nodes.get node).network = network)
    (inCluster : ((store.moved operation).nodes.get node).cluster? = some name) :
    Announcement.given (store.announcement? operation) node
      ((store.moved operation).nodes.get node).view? =
        some ((store.moved operation).cluster network name).view := by
  have seat := seats_moved seated listed distinct inNetwork inCluster
  -- Whoever has not been moved has the view of the cluster, if that is still the same.
  have kept (notEntered : ∀ joined, operation = .connect node joined →
        (store.nodes.get node).status ≠ .opened)
      (same : (store.moved operation).cluster network name = store.cluster network name) :
      ((store.moved operation).nodes.get node).view? =
        some ((store.moved operation).cluster network name).view := by
    rw [same]
    cases nodeMove_moved store operation node with
    | stays still =>
        rw [still] at inCluster ⊢
        exact seated.views node name alive inNetwork inCluster
    | enters joined called opened => exact absurd opened (notEntered joined called)
    | exits _ _ left =>
        rw [left] at inCluster
        cases inCluster
  rcases announcement_cases store operation with
    ⟨silent, unannounced⟩ | ⟨announcement, announced, announces⟩
  · rw [silent]
    refine kept (fun joined called opened => ?_) ?_
    · subst called
      obtain ⟨announcement, announced, _⟩ := announce_enter_cases store node joined
      have speaks : store.announcement? (.connect node joined) = some announcement :=
        (if_pos opened).trans announced
      rw [speaks] at silent
      cases silent
    · refine (unannounced network name).resolve_right fun emptied => ?_
      rw [emptied.1] at seat
      cases seat
  · rw [announced]
    have gives := mem_recipients_iff announces listedMoved alive seat
    by_cases here : announcement.network = network ∧ announcement.cluster = name
    · have given : node ∈ announcement.recipients := gives.mpr here
      obtain ⟨rfl, rfl⟩ := here
      exact (if_pos given).trans (congrArg some announces.view)
    · have notGiven : node ∉ announcement.recipients := fun recipient =>
        here (gives.mp recipient)
      refine (if_neg notGiven).trans (kept (fun joined called opened => ?_) ?_)
      · subst called
        obtain ⟨ofNetwork, ofCluster⟩ := announcement?_connect opened announced
        rw [cluster?_moved_connect opened (issued_of_cluster? inCluster)] at inCluster
        exact here ⟨ofNetwork.trans inNetwork, ofCluster.trans (Option.some.inj inCluster)⟩
      · exact announces.elsewhere network name fun sameNetwork sameName =>
          here ⟨sameNetwork.symm, sameName.symm⟩

end SeatedIn

theorem networks_reseated (store : Store) (operation : Operation) :
    (store.reseated operation).networks = (store.moved operation).networks := by
  cases operation <;> rfl

theorem cluster_reseated (store : Store) (operation : Operation) (network name : String) :
    (store.reseated operation).cluster network name =
      (store.moved operation).cluster network name := by
  unfold Store.cluster
  rw [networks_reseated]

theorem cluster?_reseated (store : Store) (operation : Operation) (node : Ref .node) :
    ((store.reseated operation).nodes.get node).cluster? =
      ((store.moved operation).nodes.get node).cluster? := by
  rcases node_reseated_cases store operation node with same | ⟨_, same⟩ <;> rw [same]

/-- Whatever is done, whoever is in a cluster of the network is a member of it and has its
view. -/
theorem seatedIn_act
    {action : Action}
    (seated : SeatedIn network store)
    (composed : store.Composed)
    (distinct : after.DistinctIn network)
    (acted : store.act? action = some after) :
    SeatedIn network after := by
  have stands := stands_act composed acted
  obtain ⟨wired, passive, agreed⟩ := composed
  have descends := descends_act wired acted
  have distinctBefore := distinct.of_descends descends
  have issuedBefore {node : Ref .node} {name : String}
      (inCluster : (after.nodes.get node).cluster? = some name) : store.nodes.Issued node := by
    by_contra notIssued
    rw [(fresh_act wired acted notIssued).cluster] at inCluster
    cases inCluster
  -- Where the nodes and clusters are is known from before, by whether something is called.
  rcases action_cases store action with ⟨operation, rfl⟩ | ⟨still, unmoved, silent⟩
  · obtain ⟨can, _⟩ := given_eq_some.mp acted
    have clusters (name : String) : after.cluster network name =
        (store.moved operation).cluster network name :=
      (stands.cluster network name).trans (cluster_reseated store operation network name)
    have inMoved {node : Ref .node} {name : String}
        (inCluster : (after.nodes.get node).cluster? = some name) :
        ((store.moved operation).nodes.get node).cluster? = some name := by
      have issued := (issued_reseated operation).mpr (issuedBefore inCluster)
      rw [← cluster?_reseated, ← inCluster]
      exact (stands.inCluster issued).symm
    refine ⟨fun node name inNetwork inCluster => ?_,
      fun node name alive inNetwork inCluster => ?_⟩
    · rw [(descends.place_eq (issuedBefore inCluster)).1] at inNetwork
      rw [clusters]
      exact seated.seats_moved agreed.listed distinctBefore inNetwork (inMoved inCluster)
    · have issued := issuedBefore inCluster
      rw [(descends.place_eq issued).1] at inNetwork
      rw [clusters, views_act wired passive acted issued]
      exact seated.views_moved agreed.listed (listed_moved wired agreed.listed can)
        distinctBefore (descends.isNodeAlive issued alive) inNetwork (inMoved inCluster)
  · rw [still] at stands
    have inBefore {node : Ref .node} {name : String}
        (inCluster : (after.nodes.get node).cluster? = some name) :
        (store.nodes.get node).cluster? = some name :=
      (stands.inCluster (issuedBefore inCluster)).symm.trans inCluster
    refine ⟨fun node name inNetwork inCluster => ?_,
      fun node name alive inNetwork inCluster => ?_⟩
    · rw [(descends.place_eq (issuedBefore inCluster)).1] at inNetwork
      rw [stands.cluster]
      exact seated.seats node name inNetwork (inBefore inCluster)
    · have issued := issuedBefore inCluster
      rw [(descends.place_eq issued).1] at inNetwork
      rw [stands.cluster, views_act wired passive acted issued, silent, unmoved]
      exact seated.views node name (descends.isNodeAlive issued alive) inNetwork
        (inBefore inCluster)

theorem seatedIn_of_reachable
    (reachable : Reachable Action.MakesPassive store)
    (distinct : store.DistinctIn network) :
    SeatedIn network store := by
  induction reachable with
  | empty =>
      exact ⟨fun _ _ _ impossible => (nomatch impossible),
        fun _ _ _ _ impossible => (nomatch impossible)⟩
  | step reachable _ acted inductionHypothesis =>
      have composed := composed_of_reachable reachable
      have before := distinct.of_descends (descends_act composed.wired acted)
      exact seatedIn_act (inductionHypothesis before) composed distinct acted

end ChannelMux.Store
