import ChannelMux.Proofs.Network.ViewAgreement
import ChannelMux.Proofs.Selection

/-!
Contract: who is listed in views, told by the course of connections alone.

Owns the attendance of a cluster: its connected nodes in the order in which they became
connected, kept up by looking at the records of the nodes after each action. Owns that members
and views list the attendance, whether or not those in it still exist, and that a view is given
to those of them that do.
-/

namespace ChannelMux.Store

variable {store after : Store} {node : Ref .node} {network name : String} {action : Action}

/-- Whether a node is connected to a cluster of a network, as its record says. -/
def isIn (store : Store) (network name : String) (node : Ref .node) : Bool :=
  let record := store.nodes.get node
  record.network == network && record.status == .connected && record.cluster? == some name

/-- Who is in a cluster, after who has been listed before: those that still are, as they stood,
and behind them those that newly are. -/
def attended (store : Store) (network name : String) (listed : List (Ref .node)) :
    List (Ref .node) :=
  listed.filter (store.isIn network name) ++
    store.nodes.refs.filter fun node => store.isIn network name node && !listed.contains node

/-- Who is in a cluster in the end, in the order in which they joined, where some have been in
it before several actions. -/
def attendance (network name : String) (store : Store) (listed : List (Ref .node)) :
    List Action → List (Ref .node)
  | [] => listed
  | action :: rest =>
      match store.act? action with
      | none => listed
      | some after => after.attendance network name (after.attended network name listed) rest

/-- The nodes that a cluster lists. -/
def roll (store : Store) (network name : String) : List (Ref .node) :=
  (store.cluster network name).members.map Member.node

theorem isIn_iff :
    store.isIn network name node = true ↔
      (store.nodes.get node).network = network ∧ (store.nodes.get node).status = .connected ∧
        (store.nodes.get node).cluster? = some name := by
  unfold isIn
  rw [Bool.and_eq_true, Bool.and_eq_true, beq_iff_eq, beq_iff_eq, beq_iff_eq, and_assoc]

/-! ### One action -/

/-- Whoever is in a cluster of a network is listed there, once, and nobody else is. -/
structure Enrolls (store : Store) (network name : String) (listed : List (Ref .node)) :
    Prop where
  once : listed.Nodup
  belongs : ∀ node, node ∈ listed ↔ store.isIn network name node = true

theorem enrolls_roll
    (reachable : Reachable Action.MakesPassive store)
    (distinct : store.DistinctIn network)
    (name : String) :
    store.Enrolls network name (store.roll network name) := by
  have listed := (composed_of_reachable reachable).agreed.listed
  refine ⟨listed.once network name, fun node => ?_⟩
  rw [isIn_iff]
  constructor
  · intro member
    obtain ⟨entry, isEntry, rfl⟩ := List.mem_map.mp member
    have seated := listed.seated network name entry isEntry
    exact ⟨seated.network, seated.status, seated.cluster⟩
  · rintro ⟨inNetwork, _, inCluster⟩
    exact (seatedIn_of_reachable reachable distinct).seats node name inNetwork inCluster

/-- Who has been listed before: some of them leave, or one more comes in last. -/
theorem roll_act_cases
    (composed : store.Composed)
    (acted : store.act? action = some after)
    (network name : String) :
    (after.roll network name).Sublist (store.roll network name) ∨
      ∃ node, after.roll network name = store.roll network name ++ [node] := by
  have stands := stands_act composed acted
  unfold roll
  rw [stands.cluster]
  rcases action_cases store action with ⟨operation, rfl⟩ | ⟨still, _⟩
  · have clusters : (store.rearranged (.call operation)).cluster network name =
        (store.moved operation).cluster network name :=
      cluster_reseated store operation network name
    rw [clusters]
    cases store.move_moved operation with
    | stays same =>
        rw [same]
        exact Or.inl (List.Sublist.refl _)
    | enters node joined _ _ same =>
        rw [same]
        by_cases here : network = (store.nodes.get node).network ∧ name = joined
        · obtain ⟨rfl, rfl⟩ := here
          rw [members_enter_self, List.map_append]
          exact Or.inr ⟨node, rfl⟩
        · rw [cluster_enter_of_ne fun sameNetwork sameName => here ⟨sameNetwork, sameName⟩]
          exact Or.inl (List.Sublist.refl _)
    | exits node _ _ same =>
        rw [same]
        obtain ⟨_, _, members⟩ | ⟨_, members⟩ := members_exit_cases store node network name
        · rw [members]
          exact Or.inl (List.filter_sublist.map Member.node)
        · rw [members]
          exact Or.inl (List.Sublist.refl _)
  · rw [still]
    exact Or.inl (List.Sublist.refl _)

/-- After an action a cluster lists who is in it after who has been listed before. -/
theorem roll_act
    (reachable : Reachable Action.MakesPassive store)
    (permitted : action.MakesPassive)
    (distinct : after.DistinctIn network)
    (acted : store.act? action = some after)
    (name : String) :
    after.roll network name = after.attended network name (store.roll network name) := by
  have composed := composed_of_reachable reachable
  have before := enrolls_roll reachable
    (distinct.of_descends (descends_act composed.wired acted)) name
  have now := enrolls_roll (.step reachable permitted acted) distinct name
  unfold attended
  rcases roll_act_cases composed acted network name with part | ⟨node, joined⟩
  · rw [filter_eq_of_sublist before.once part fun other _ => (now.belongs other).symm]
    refine (List.append_nil _).symm.trans (congrArg _ (Eq.symm ?_))
    refine List.filter_eq_nil_iff.mpr fun other _ isNew => ?_
    simp only [Bool.and_eq_true, Bool.not_eq_true', List.contains_eq_mem,
      decide_eq_false_iff_not] at isNew
    exact isNew.2 (part.subset ((now.belongs other).mpr isNew.1))
  · have kept : (store.roll network name).filter (after.isIn network name) =
        store.roll network name := by
      refine List.filter_eq_self.mpr fun other member => (now.belongs other).mp ?_
      rw [joined]
      exact List.mem_append_left _ member
    rw [joined, kept]
    refine congrArg _ (Eq.symm ?_)
    have apart : node ∉ store.roll network name := by
      have once := now.once
      rw [joined, List.nodup_append] at once
      exact fun member => once.2.2 node member node List.mem_cons_self rfl
    have isHere : after.isIn network name node = true := by
      rw [← now.belongs, joined]
      exact List.mem_append_right _ List.mem_cons_self
    have issued : after.nodes.Issued node := issued_of_cluster? (isIn_iff.mp isHere).2.2
    refine filter_eq_of_sublist after.nodes.nodup_refs ?_ fun other _ => ?_
    · exact List.singleton_sublist.mpr (Table.mem_refs.mpr issued)
    · rw [Bool.and_eq_true, ← now.belongs, joined, List.mem_append, Bool.not_eq_true',
        List.contains_eq_mem, decide_eq_false_iff_not]
      constructor
      · rintro ⟨old | isNew, notOld⟩
        · exact absurd old notOld
        · exact isNew
      · intro isNew
        exact ⟨Or.inr isNew, List.mem_singleton.mp isNew ▸ apart⟩

/-! ### Several actions -/

theorem attendance_cons
    {rest : List Action}
    (acted : store.act? action = some after)
    (listed : List (Ref .node)) :
    store.attendance network name listed (action :: rest) =
      after.attendance network name (after.attended network name listed) rest := by
  rw [attendance, acted]

/-- A cluster lists those in attendance. -/
theorem roll_eq_attendance
    {actions : List Action}
    (reachable : Reachable Action.MakesPassive store)
    (permitted : ∀ action ∈ actions, action.MakesPassive)
    (ran : store.run? actions = some after)
    (distinct : after.DistinctIn network)
    (name : String) :
    after.roll network name =
      store.attendance network name (store.roll network name) actions := by
  induction actions generalizing store with
  | nil =>
      cases ran
      rfl
  | cons action rest inductionHypothesis =>
      obtain ⟨between, acted, ranOn⟩ := Option.bind_eq_some_iff.mp ran
      have reachableBetween := Reachable.step reachable (permitted action List.mem_cons_self) acted
      have distinctBetween := distinct.of_descends
        (descends_run (wired_of_reachable reachableBetween) ranOn)
      rw [inductionHypothesis reachableBetween
          (fun other member => permitted other (List.mem_cons_of_mem _ member)) ranOn,
        roll_act reachable (permitted action List.mem_cons_self) distinctBetween acted,
        attendance_cons acted]

/-- The members of a cluster are those that it lists, by their addresses. -/
theorem clusterMembers_eq_roll
    (listed : store.Listed)
    (network name : String) :
    store.clusterMembers network name =
      (store.roll network name).map fun node => (store.nodes.get node).address := by
  unfold clusterMembers roll
  rw [List.map_map]
  refine List.map_congr_left fun member isMember => ?_
  exact (listed.seated network name member isMember).address.symm

/-- An announced view lists whom the cluster lists then, is credited to the first of them, and
is given to those of them that last. -/
theorem announced_act
    {announcement : Announcement}
    (composed : store.Composed)
    (acted : store.act? action = some after)
    (announced : store.announcedBy? action = some announcement)
    (isOf : announcement.isOf network name = true) :
    announcement.view.members = after.clusterMembers network name ∧
      announcement.view.members.head? = some announcement.view.creator ∧
        announcement.recipients = (after.roll network name).filter after.isNodeAlive := by
  have stands := stands_act composed acted
  rcases action_cases store action with ⟨operation, rfl⟩ | ⟨_, _, silent⟩
  · rcases announcement_cases store operation with ⟨silent, _⟩ | ⟨other, speaks, announces⟩
    · exact nomatch silent.symm.trans announced
    · cases speaks.symm.trans announced
      obtain ⟨rfl, rfl⟩ := Announcement.isOf_iff.mp isOf
      have clusters : after.cluster announcement.network announcement.cluster =
          (store.moved operation).cluster announcement.network announcement.cluster :=
        (stands.cluster _ _).trans (cluster_reseated store operation _ _)
      have lasting : after.isNodeAlive = store.isNodeAlive := by
        obtain ⟨_, acted⟩ := given_eq_some.mp acted
        obtain ⟨⟨_, _⟩, finished, rfl⟩ := Option.map_eq_some_iff.mp acted
        exact funext (isNodeAlive_eq (skeleton_eq_of_call finished))
      have occupied := announces.members
      rw [announces.view, announces.recipients, lasting]
      unfold clusterMembers roll
      rw [clusters]
      refine ⟨rfl, ?_, rfl⟩
      unfold Cluster.view
      cases members : ((store.moved operation).cluster announcement.network
          announcement.cluster).members with
      | nil => exact absurd members occupied
      | cons first others => rfl
  · exact nomatch silent.symm.trans announced

/-- In a network in which no two nodes have one address a cluster lists those that have joined
it and have not left it since, in the order in which they joined, each once. A view that is
announced lists those that are then in attendance, the first of them being its creator, and is
given to those of them that still exist; it lists no others just if none of those in attendance
has ended. -/
theorem views_listAttendance
    {actions : List Action}
    (permitted : ∀ action ∈ actions, action.MakesPassive)
    (ran : run? {} actions = some after)
    (distinct : after.DistinctIn network)
    (name : String) :
    let listed := attendance network name {} [] actions
    after.clusterMembers network name =
        listed.map (fun node => (after.nodes.get node).address) ∧
      listed.Nodup ∧
      (∀ node, node ∈ listed ↔ after.isIn network name node = true) ∧
      ∀ action last announcement, action.MakesPassive → after.act? action = some last →
        last.DistinctIn network → after.announcedBy? action = some announcement →
          announcement.isOf network name = true →
            let now := last.attended network name listed
            announcement.view.members = now.map (fun node => (last.nodes.get node).address) ∧
              announcement.view.members.head? = some announcement.view.creator ∧
              announcement.recipients = now.filter last.isNodeAlive ∧
              (announcement.view.members =
                  announcement.recipients.map (fun node => (last.nodes.get node).address) ↔
                ∀ node ∈ now, last.isNodeAlive node = true) := by
  have reachable : Reachable Action.MakesPassive after :=
    reachable_of_run? Reachable.empty permitted ran
  have rolled := roll_eq_attendance Reachable.empty permitted ran distinct name
  have enrolls := enrolls_roll reachable distinct name
  have composed := composed_of_reachable reachable
  dsimp only
  change after.roll network name = attendance network name {} [] actions at rolled
  rw [← rolled]
  refine ⟨clusterMembers_eq_roll composed.agreed.listed network name, enrolls.once,
    enrolls.belongs, ?_⟩
  intro action last announcement passive acted distinctThen announced isOf
  have reachableThen := Reachable.step reachable passive acted
  obtain ⟨members, creator, recipients⟩ := announced_act composed acted announced isOf
  rw [clusterMembers_eq_roll (composed_of_reachable reachableThen).agreed.listed] at members
  rw [roll_act reachable passive distinctThen acted] at members recipients
  refine ⟨members, creator, recipients, ?_⟩
  rw [members, recipients]
  constructor
  · intro same
    have lengths := congrArg List.length same
    rw [List.length_map, List.length_map] at lengths
    exact List.length_filter_eq_length_iff.mp lengths.symm
  · intro lasts
    rw [List.filter_eq_self.mpr lasts]

/-! ### A node that is let go of while it is connected -/

/-- Three nodes of one network, of which two join a cluster; the first of them is let go of
without leaving it. -/
def desertion : List Action :=
  [.addNode "a" "a" (.filled 1) "net" [], .addNode "b" "b" (.filled 2) "net" [],
    .addNode "c" "c" (.filled 3) "net" [], .call (.connect ⟨0⟩ "k"), .call (.connect ⟨1⟩ "k"),
    .dropNode "a"]

/-- What becomes of them. -/
def deserted : Store := (run? {} desertion).getD {}

theorem passive_desertion : ∀ action ∈ desertion, action.MakesPassive := by
  intro action member
  simp only [desertion, List.mem_cons, List.not_mem_nil, or_false] at member
  rcases member with rfl | rfl | rfl | rfl | rfl | rfl <;> trivial

/-- The view of the third node's joining lists all three, and is given to the two of them that
still exist. -/
theorem views_listAttendance_deserted :
    run? {} desertion = some deserted ∧ ∃ last announcement,
      deserted.act? (.call (.connect ⟨2⟩ "k")) = some last ∧
        deserted.announcedBy? (.call (.connect ⟨2⟩ "k")) = some announcement ∧
          announcement.view.members = [.filled 1, .filled 2, .filled 3] ∧
            announcement.recipients = [⟨1⟩, ⟨2⟩] := by
  have ran : run? {} desertion = some deserted := by
    obtain ⟨after, ran⟩ := Option.isSome_iff_exists.mp
      (by decide +kernel : (run? {} desertion).isSome = true)
    rw [deserted, ran]
    rfl
  obtain ⟨last, acted⟩ := Option.isSome_iff_exists.mp
    (by decide +kernel : (deserted.act? (.call (.connect ⟨2⟩ "k"))).isSome = true)
  have isLast : last = (deserted.act? (.call (.connect ⟨2⟩ "k"))).getD {} := by
    rw [acted]
    rfl
  obtain ⟨announcement, announced⟩ := Option.isSome_iff_exists.mp
    (by decide +kernel : (deserted.announcedBy? (.call (.connect ⟨2⟩ "k"))).isSome = true)
  have isOf : announcement.isOf "net" "k" = true := by
    have all : (deserted.announcedBy? (.call (.connect ⟨2⟩ "k"))).all
        (Announcement.isOf "net" "k") = true := by decide +kernel
    rw [announced] at all
    exact all
  have distinct : deserted.DistinctIn "net" := by decide +kernel
  have distinctThen : last.DistinctIn "net" := by
    rw [isLast]
    decide +kernel
  have passive : (Action.call (.connect ⟨2⟩ "k")).MakesPassive := trivial
  obtain ⟨members, _, recipients, _⟩ :=
    (views_listAttendance passive_desertion ran distinct "k").2.2.2 _ last announcement passive
      acted distinctThen announced isOf
  refine ⟨ran, last, announcement, acted, announced, ?_, ?_⟩
  · rw [members, isLast]
    decide +kernel
  · rw [recipients, isLast]
    decide +kernel

/-- A view may list, as its creator even, a node that does not exist any more, and so may the
members of a cluster. -/
theorem views_list_ended :
    run? {} desertion = some deserted ∧
      (∀ node ∈ deserted.nodes.refs, deserted.isNodeAlive node = true →
        (deserted.nodes.get node).address ≠ (deserted.nodes.get ⟨0⟩).address) ∧
      deserted.clusterMembers "net" "k" = [(deserted.nodes.get ⟨0⟩).address, .filled 2] ∧
        (deserted.announcedBy? (.call (.connect ⟨2⟩ "k"))).map
            (fun announcement => (announcement.view.creator, announcement.view.members)) =
          some ((deserted.nodes.get ⟨0⟩).address,
            [(deserted.nodes.get ⟨0⟩).address, .filled 2, .filled 3]) := by
  refine ⟨?_, by decide +kernel, by decide +kernel, by decide +kernel⟩
  obtain ⟨after, ran⟩ := Option.isSome_iff_exists.mp
    (by decide +kernel : (run? {} desertion).isSome = true)
  rw [deserted, ran]
  rfl

end ChannelMux.Store
