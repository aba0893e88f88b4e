import Mathlib.Data.List.Chain
import ChannelMux.Proofs.Interleaving
import ChannelMux.Proofs.Network.Seating

/-!
Contract: which views are given in the course of several actions.

Owns that a run gives nodes the views that its operations announce, in that order, and no
others. Owns how the views of one cluster are numbered as long as the cluster has members, and
which of them a node is given as long as it is connected: all from its own joining on, until it
ends.
-/

namespace ChannelMux

/-- Whether an announcement is of the cluster of a network under a name. -/
def Announcement.isOf (network name : String) (announcement : Announcement) : Bool :=
  announcement.network == network && announcement.cluster == name

theorem Announcement.isOf_iff {network name : String} {announcement : Announcement} :
    announcement.isOf network name = true ↔
      announcement.network = network ∧ announcement.cluster = name := by
  unfold isOf
  rw [Bool.and_eq_true_iff, beq_iff_eq, beq_iff_eq]

/-- The views that an announcement gives, and to whom, in turn. -/
def Announcement.gifts (announcement : Announcement) : List (Ref .node × View) :=
  announcement.recipients.map fun node => (node, announcement.view)

/-- Whether an action connects, disconnects or closes a node, makes one, or lets go of one or of
a fork. -/
def Action.settlesNodes : Action → Bool
  | .addNode _ _ _ _ _ => true
  | .dropNode _ => true
  | .dropFork _ => true
  | .call operation => !operation.sends
  | _ => false

theorem Action.makesPassive_of_settlesNodes
    {action : Action}
    (settles : action.settlesNodes = true) :
    action.MakesPassive := by
  cases action with
  | addAgent manner => cases settles
  | _ => trivial

namespace Store

/-- What is announced in the course of several actions, in turn. -/
def announcements (store : Store) : List Action → List Announcement
  | [] => []
  | action :: rest =>
      (store.announcedBy? action).toList ++
        match store.act? action with
        | some after => after.announcements rest
        | none => []

/-- The views of a cluster that are announced, in turn. -/
def viewsOf (network name : String) (announced : List Announcement) : List View :=
  (announced.filter (Announcement.isOf network name)).map Announcement.view

/-- The views that are given to a node, in turn. -/
def viewsFor (node : Ref .node) (announced : List Announcement) : List View :=
  (announced.filter fun announcement => announcement.recipients.contains node).map
    Announcement.view

/-- A property holds after each of several actions. -/
def AfterEach (property : Store → Prop) (store : Store) : List Action → Prop
  | [] => True
  | action :: rest => ∀ after, store.act? action = some after →
      property after ∧ AfterEach property after rest

instance decidableAfterEach (property : Store → Prop) [DecidablePred property] :
    (store : Store) → (actions : List Action) → Decidable (AfterEach property store actions)
  | _, [] => .isTrue trivial
  | store, action :: rest =>
      match acted : store.act? action with
      | none => .isTrue fun _ impossible => nomatch acted.symm.trans impossible
      | some after =>
          have := decidableAfterEach property after rest
          decidable_of_iff (property after ∧ AfterEach property after rest)
            ⟨fun holds _ same => Option.some.inj (acted.symm.trans same) ▸ holds,
              fun holds => holds after acted⟩

variable {store after : Store} {node : Ref .node} {network name : String} {action : Action}
  {rest actions : List Action}

theorem announcements_cons (acted : store.act? action = some after) :
    store.announcements (action :: rest) =
      (store.announcedBy? action).toList ++ after.announcements rest := by
  rw [announcements, acted]

/-! ### The giving of views -/

/-- A node is given a view: the view becomes its own, and nobody else's, and from then on the change
travels up its pipeline, whatever comes of that. It is given from within an operation, so one depth
below the limit. -/
structure GivesView (gift : Ref .node × View) (before after : Store) : Prop where
  travels : ∃ outcome, (Entrances.within 999999).travel
      (.up (before.nodes.get gift.1).pipeline (.single (.viewChange gift.2)))
      (before.modifyNode gift.1 fun record => { record with view? := some gift.2 }) =
    some (outcome, after)
  own : (after.nodes.get gift.1).view? = some gift.2
  others : ∀ other, other ≠ gift.1 → before.nodes.Issued other →
    (after.nodes.get other).view? = (before.nodes.get other).view?

/-- Nothing comes up a pipeline: no stage records or counts anything, and no node is given a
view, though one may lose the view that it has. -/
structure GivesNoView (before after : Store) : Prop where
  stages : after.stages = before.stages
  views : ∀ node, before.nodes.Issued node → after.nodes.Issued node ∧
    ((after.nodes.get node).view? = (before.nodes.get node).view? ∨
      (after.nodes.get node).view? = none)

theorem GivesNoView.refl (store : Store) : GivesNoView store store :=
  ⟨rfl, fun _ issued => ⟨issued, Or.inl rfl⟩⟩

theorem GivesNoView.trans
    (first second third : Store)
    (earlier : GivesNoView first second)
    (later : GivesNoView second third) :
    GivesNoView first third := by
  refine ⟨later.stages.trans earlier.stages, fun node issued => ?_⟩
  obtain ⟨issuedBetween, either⟩ := earlier.views node issued
  obtain ⟨issuedAfter, now⟩ := later.views node issuedBetween
  refine ⟨issuedAfter, ?_⟩
  rcases now with same | lost
  · rw [same]
    exact either
  · exact Or.inr lost

theorem givesView_giveView
    {base : Store}
    {view : View}
    (passive : base.Passive)
    (same : store.skeleton = base.skeleton)
    (issued : store.nodes.Issued node)
    (gives : Delivery.giveView (Entrances.within 999999) view node store = some ((), after)) :
    GivesView (node, view) store after := by
  have announced := Announced.giveView passive same gives
  obtain ⟨_, viewed, isViewed, looks⟩ := Rule.bind_eq_some gives
  cases isViewed
  obtain ⟨pipeline, unchanged, looked, ignores⟩ := Rule.bind_eq_some looks
  cases looked
  obtain ⟨outcome, arrived, travelled, ended⟩ := Rule.bind_eq_some ignores
  cases ended
  have samePipeline : ((store.modifyNode node fun record =>
      { record with view? := some view }).nodes.get node).pipeline =
        (store.nodes.get node).pipeline := by
    refine Table.read_modify Node.pipeline (fun record => ?_) _ _ _
    rfl
  dsimp only at travelled
  rw [samePipeline] at travelled
  refine ⟨⟨outcome, travelled⟩, ?_, fun other isOther issuedOther => ?_⟩
  · rw [announced.views node issued, if_pos List.mem_cons_self]
  · rw [announced.views other issuedOther, if_neg (by simpa using isOther)]

theorem interleaved_forM
    {base : Store}
    {recipients : List (Ref .node)}
    {view : View}
    (passive : base.Passive)
    (same : store.skeleton = base.skeleton)
    (issued : ∀ node ∈ recipients, base.nodes.Issued node)
    (gives : recipients.forM (Delivery.giveView (Entrances.within 999999) view) store =
      some ((), after)) :
    Interleaved GivesView GivesNoView (recipients.map fun node => (node, view)) store after := by
  induction recipients generalizing store with
  | nil =>
      cases gives
      exact .rest (GivesNoView.refl _)
  | cons node others inductionHypothesis =>
      obtain ⟨_, given, first, onward⟩ := Rule.bind_eq_some gives
      have issuedNow := (issued_node_iff same node).mpr (issued node List.mem_cons_self)
      have sameThen := (Announced.giveView passive same first).skeleton.trans same
      exact .deal (GivesNoView.refl _) (givesView_giveView passive same issuedNow first)
        (inductionHypothesis sameThen (fun other member =>
          issued other (List.mem_cons_of_mem _ member)) onward)

theorem interleaved_announce
    {base : Store}
    {announcement? : Option Announcement}
    (passive : base.Passive)
    (same : store.skeleton = base.skeleton)
    (issued : ∀ announcement ∈ announcement?, ∀ node ∈ announcement.recipients,
      base.nodes.Issued node)
    (announces : Delivery.announce (Entrances.within 999999) announcement? store =
      some ((), after)) :
    Interleaved GivesView GivesNoView (announcement?.toList.flatMap Announcement.gifts)
      store after := by
  cases announcement? with
  | none =>
      cases announces
      exact .rest (GivesNoView.refl _)
  | some announcement =>
      rw [Option.toList_some, List.flatMap_cons, List.flatMap_nil, List.append_nil]
      exact interleaved_forM passive same (issued announcement rfl) announces

theorem givesNoView_moved (store : Store) (operation : Operation) :
    GivesNoView store (store.moved operation) where
  stages := by
    cases store.move_moved operation with
    | stays same => rw [same]
    | enters _ _ _ _ same =>
        rw [same]
        rfl
    | exits node _ _ same =>
        rw [same]
        exact stages_exit store node
  views node issued := by
    refine ⟨(issued_node_iff (store.skeleton_moved operation) node).mpr issued, ?_⟩
    cases nodeMove_moved store operation node with
    | stays same => exact Or.inl (congrArg Node.view? same)
    | enters _ _ _ same => exact Or.inl (by rw [same])
    | exits _ _ same => exact Or.inr (by rw [same])

theorem givesNoView_of_unstirred
    (unstirred : Unstirred store.nodes after.nodes)
    (stages : after.stages = store.stages) :
    GivesNoView store after := by
  refine ⟨stages, fun node issued => ?_⟩
  obtain ⟨still, same⟩ := unstirred.kept node issued
  have views := congrArg Node.view? same
  exact ⟨still, Or.inl views⟩

/-- An action on nodes gives the views that it announces, in turn, and no others. -/
theorem interleaved_act
    (composed : store.Composed)
    (settles : action.settlesNodes = true)
    (acted : store.act? action = some after) :
    Interleaved GivesView GivesNoView
      ((store.announcedBy? action).toList.flatMap Announcement.gifts) store after := by
  obtain ⟨wired, passive, agreed⟩ := composed
  cases action with
  | addNode label name address network stages =>
      refine .rest (givesNoView_of_unstirred (unstirred_act wired rfl acted) ?_)
      obtain ⟨_, acted⟩ := given_eq_some.mp acted
      cases acted
      rfl
  | dropNode label =>
      refine .rest (givesNoView_of_unstirred (unstirred_act wired rfl acted) ?_)
      cases acted
      rfl
  | dropFork label =>
      refine .rest (givesNoView_of_unstirred (unstirred_act wired rfl acted) ?_)
      cases acted
      exact (dropFork_tables store label).1
  | call operation =>
      obtain ⟨_, acted⟩ := given_eq_some.mp acted
      obtain ⟨⟨reply, left⟩, finished, isAfter⟩ := Option.map_eq_some_iff.mp acted
      cases isAfter
      obtain ⟨given, announces, views, stages⟩ := (passive.accounts finished).given
      have shape := (Accounts.announce passive (store.skeleton_moved operation) announces).1
      have same : left.skeleton = given.skeleton := by
        rw [skeleton_eq_of_shape_eq shape, skeleton_moved]
        exact skeleton_eq_of_call finished
      have told : GivesNoView given left := by
        refine ⟨stages (Bool.not_eq_true' _ |>.mp settles), fun node issued => ?_⟩
        exact ⟨(issued_node_iff same node).mpr issued, Or.inl (views node)⟩
      have issued (announcement : Announcement)
          (announced : announcement ∈ store.announcement? operation)
          (recipient : Ref .node)
          (member : recipient ∈ announcement.recipients) :
          store.nodes.Issued recipient :=
        wired.issued_of_isNodeAlive (isNodeAlive_of_recipient announced member)
      exact ((interleaved_announce passive (store.skeleton_moved operation) issued
        announces).rest_right GivesNoView.trans told).rest_left GivesNoView.trans
          (givesNoView_moved store operation)
  | _ => cases settles

/-- A run of such actions gives the views that they announce, in turn, and no others. -/
theorem interleaved_run
    (reachable : Reachable Action.MakesPassive store)
    (settle : ∀ action ∈ actions, action.settlesNodes = true)
    (ran : store.run? actions = some after) :
    Interleaved GivesView GivesNoView
      ((store.announcements actions).flatMap Announcement.gifts) store after := by
  induction actions generalizing store with
  | nil =>
      cases ran
      exact .rest (GivesNoView.refl _)
  | cons action rest inductionHypothesis =>
      obtain ⟨between, acted, ranOn⟩ := Option.bind_eq_some_iff.mp ran
      have settles := settle action List.mem_cons_self
      have first := interleaved_act (composed_of_reachable reachable) settles acted
      have later := inductionHypothesis
        (Reachable.step reachable (Action.makesPassive_of_settlesNodes settles) acted)
        (fun other member => settle other (List.mem_cons_of_mem _ member)) ranOn
      rw [announcements_cons acted, List.flatMap_append]
      exact first.append GivesNoView.trans later

/-! ### The numbers of the views of a cluster -/

/-- What an action makes of a cluster: it has the view that is announced, or nothing is
announced of it and it stays the same or is left by everyone. -/
theorem cluster_act_cases
    (composed : store.Composed)
    (acted : store.act? action = some after)
    (network name : String) :
    (∃ announcement, store.announcedBy? action = some announcement ∧
        announcement.isOf network name = true ∧
          (after.cluster network name).members ≠ [] ∧
            announcement.view = (after.cluster network name).view ∧
              announcement.view.id = (store.cluster network name).lastView + 1) ∨
      ((store.announcedBy? action).toList.filter (Announcement.isOf network name) = [] ∧
        (after.cluster network name = store.cluster network name ∨
          after.cluster network name = {})) := by
  have stands := stands_act composed acted
  rcases action_cases store action with ⟨operation, rfl⟩ | ⟨still, _, silent⟩
  · have clusters : after.cluster network name = (store.moved operation).cluster network name :=
      (stands.cluster network name).trans (cluster_reseated store operation network name)
    change (∃ announcement, store.announcement? operation = some announcement ∧ _) ∨
      ((store.announcement? operation).toList.filter _ = [] ∧ _)
    rw [clusters]
    rcases announcement_cases store operation with
      ⟨silent, unannounced⟩ | ⟨announcement, announced, announces⟩
    · right
      rw [silent]
      exact ⟨rfl, (unannounced network name).imp_right And.left⟩
    · by_cases here : announcement.isOf network name = true
      · left
        refine ⟨announcement, announced, here, ?_⟩
        obtain ⟨rfl, rfl⟩ := Announcement.isOf_iff.mp here
        exact ⟨announces.members, announces.view, announces.number⟩
      · right
        rw [announced, Option.toList_some, List.filter_cons_of_neg here]
        refine ⟨rfl, Or.inl (announces.elsewhere network name fun sameNetwork sameName => ?_)⟩
        exact here (Announcement.isOf_iff.mpr ⟨sameNetwork.symm, sameName.symm⟩)
  · right
    rw [still] at stands
    rw [silent]
    exact ⟨rfl, Or.inl (stands.cluster network name)⟩

/-- As long as a cluster has members, its views are numbered from its latest one on. -/
theorem isChain_numbers
    (reachable : Reachable Action.MakesPassive store)
    (permitted : ∀ action ∈ actions, action.MakesPassive)
    (ran : store.run? actions = some after)
    (lives : AfterEach (fun between => (between.cluster network name).members ≠ []) store
      actions) :
    ((store.cluster network name).lastView ::
      (viewsOf network name (store.announcements actions)).map View.id).IsChain
        fun earlier later => later = earlier + 1 := by
  induction actions generalizing store with
  | nil => exact List.IsChain.singleton _
  | cons action rest inductionHypothesis =>
      obtain ⟨between, acted, ranOn⟩ := Option.bind_eq_some_iff.mp ran
      obtain ⟨occupied, livesOn⟩ := lives between acted
      have chain := inductionHypothesis
        (Reachable.step reachable (permitted action List.mem_cons_self) acted)
        (fun other member => permitted other (List.mem_cons_of_mem _ member)) ranOn livesOn
      unfold viewsOf at chain ⊢
      rw [announcements_cons acted, List.filter_append]
      rcases cluster_act_cases (composed_of_reachable reachable) acted network name with
        ⟨announcement, announced, isOf, _, view, number⟩ | ⟨silent, kept⟩
      · have latest : (between.cluster network name).lastView = announcement.view.id :=
          congrArg View.id view.symm
        rw [announced, Option.toList_some, List.filter_cons_of_pos isOf]
        rw [latest] at chain
        exact List.isChain_cons_cons.mpr ⟨number, chain⟩
      · have same : between.cluster network name = store.cluster network name := by
          refine kept.resolve_right fun emptied => occupied ?_
          rw [emptied]
        rw [silent, List.nil_append, ← same]
        exact chain

theorem getElem_numbers
    {start : UInt64}
    {numbers : List UInt64}
    (chain : (start :: numbers).IsChain fun earlier later => later = earlier + 1)
    (index : Nat)
    (inside : index < numbers.length) :
    numbers[index] = start + UInt64.ofNat (index + 1) := by
  induction numbers generalizing start index with
  | nil => cases inside
  | cons first later inductionHypothesis =>
      obtain ⟨next, onward⟩ := List.isChain_cons_cons.mp chain
      cases index with
      | zero => exact next
      | succ index =>
          rw [List.getElem_cons_succ,
            inductionHypothesis onward index (Nat.lt_of_succ_lt_succ inside), next,
            UInt64.ofNat_add (index + 1) 1, UInt64.add_assoc,
            UInt64.add_comm 1 (UInt64.ofNat (index + 1))]
          rfl

/-- As long as there are not more views than numbers, no two views of a cluster that has
members all along have one number. -/
theorem view_eq_of_id_eq
    {left right : View}
    (reachable : Reachable Action.MakesPassive store)
    (permitted : ∀ action ∈ actions, action.MakesPassive)
    (ran : store.run? actions = some after)
    (lives : AfterEach (fun between => (between.cluster network name).members ≠ []) store
      actions)
    (fewViews : (viewsOf network name (store.announcements actions)).length ≤ UInt64.size)
    (leftView : left ∈ viewsOf network name (store.announcements actions))
    (rightView : right ∈ viewsOf network name (store.announcements actions))
    (sameId : left.id = right.id) :
    left = right := by
  have numbered := getElem_numbers (isChain_numbers reachable permitted ran lives)
  obtain ⟨first, firstInside, rfl⟩ := List.getElem_of_mem leftView
  obtain ⟨second, secondInside, rfl⟩ := List.getElem_of_mem rightView
  have firstNumber := numbered first (by simpa using firstInside)
  have secondNumber := numbered second (by simpa using secondInside)
  rw [List.getElem_map] at firstNumber secondNumber
  rw [firstNumber, secondNumber] at sameId
  -- Fewer steps than there are numbers lead from no number to itself.
  have samePlace : first = second := by
    have sameStep := UInt64.toNat_inj.mpr ((UInt64.add_right_inj _).mp sameId)
    rw [UInt64.toNat_ofNat', UInt64.toNat_ofNat'] at sameStep
    unfold UInt64.size at fewViews
    omega
  subst samePlace
  rfl

/-! ### The views that a member is given -/

/-- Whoever stays connected stays in the same cluster. -/
theorem cluster?_of_connected
    (composed : store.Composed)
    (acted : store.act? action = some after)
    (inCluster : (store.nodes.get node).cluster? = some name)
    (connected : (store.nodes.get node).status = .connected)
    (stillConnected : (after.nodes.get node).status = .connected) :
    (after.nodes.get node).cluster? = some name ∧
      ((store.movedBy action).nodes.get node).cluster? = some name := by
  have stands := stands_act composed acted
  have issued := issued_of_cluster? inCluster
  rcases action_cases store action with ⟨operation, rfl⟩ | ⟨still, unmoved, _⟩
  · have issuedThere := (issued_reseated operation).mpr issued
    have moved : ((store.moved operation).nodes.get node).cluster? = some name := by
      cases nodeMove_moved store operation node with
      | stays same =>
          rw [same]
          exact inCluster
      | enters _ _ opened =>
          rw [connected] at opened
          cases opened
      | exits _ _ same =>
          have notConnected : ((store.reseated operation).nodes.get node).status ≠
              .connected := by
            rcases node_reseated_cases store operation node with kept | ⟨_, closed⟩
            · rw [kept, same]
              exact fun impossible => nomatch impossible
            · rw [closed]
              exact fun impossible => nomatch impossible
          exact absurd ((stands.status issuedThere).symm.trans stillConnected) notConnected
    refine ⟨?_, moved⟩
    rw [stands.inCluster issuedThere]
    exact (cluster?_reseated store operation node).trans moved
  · rw [still] at stands
    rw [stands.inCluster issued, unmoved]
    exact ⟨inCluster, inCluster⟩

/-- Whoever has ended is given no view. -/
theorem viewsFor_of_ended
    (wired : store.Wired)
    (issued : store.nodes.Issued node)
    (ended : ¬ store.isNodeAlive node = true)
    (actions : List Action) :
    viewsFor node (store.announcements actions) = [] := by
  induction actions generalizing store with
  | nil => rfl
  | cons action rest inductionHypothesis =>
      have nothing : (store.announcedBy? action).toList.filter
          (fun announcement => announcement.recipients.contains node) = [] := by
        rw [List.filter_eq_nil_iff]
        intro announcement announced isGiven
        have speaks := Option.mem_toList.mp announced
        rcases action_cases store action with ⟨operation, rfl⟩ | ⟨_, _, silent⟩
        · rcases announcement_cases store operation with
            ⟨silent, _⟩ | ⟨other, announcedOther, announces⟩
          · exact nomatch silent.symm.trans speaks
          · cases announcedOther.symm.trans speaks
            have recipient := List.contains_iff_mem.mp isGiven
            rw [announces.recipients] at recipient
            exact ended (List.mem_filter.mp recipient).2
        · exact nomatch silent.symm.trans speaks
      cases acted : store.act? action with
      | none =>
          unfold viewsFor announcements
          rw [acted, List.append_nil, nothing]
          rfl
      | some between =>
          have descends := descends_act wired acted
          have later := inductionHypothesis (wired_act wired acted)
            (descends.nodes node issued).1 fun alive => ended (descends.isNodeAlive issued alive)
          unfold viewsFor at later ⊢
          rw [announcements_cons acted, List.filter_append, nothing]
          exact later

/-- As long as a node lasts and stays in a cluster, it is given every view of it. -/
theorem contains_recipients
    {announcement : Announcement}
    (composed : store.Composed)
    (seated : SeatedIn network store)
    (distinct : store.DistinctIn network)
    (acted : store.act? action = some after)
    (announced : store.announcedBy? action = some announcement)
    (alive : store.isNodeAlive node = true)
    (inNetwork : (store.nodes.get node).network = network)
    (inCluster : ((store.movedBy action).nodes.get node).cluster? = some name) :
    announcement.recipients.contains node = announcement.isOf network name := by
  obtain ⟨wired, _, agreed⟩ := composed
  rcases action_cases store action with ⟨operation, rfl⟩ | ⟨_, _, silent⟩
  · obtain ⟨can, _⟩ := given_eq_some.mp acted
    have listedMoved := listed_moved wired agreed.listed can
    have seat := seated.seats_moved agreed.listed distinct inNetwork inCluster
    rcases announcement_cases store operation with ⟨silent, _⟩ | ⟨other, speaks, announces⟩
    · exact nomatch silent.symm.trans announced
    · cases speaks.symm.trans announced
      rw [Bool.eq_iff_iff, List.contains_iff_mem, Announcement.isOf_iff]
      exact mem_recipients_iff announces listedMoved alive seat
  · exact nomatch silent.symm.trans announced

/-- A membership: a node is in a cluster of its network and stays connected in the course of
several actions, among nodes of different addresses. -/
structure Stays (node : Ref .node) (network name : String) (store after : Store)
    (actions : List Action) : Prop where
  ran : store.run? actions = some after
  permitted : ∀ action ∈ actions, action.MakesPassive
  distinct : after.DistinctIn network
  inNetwork : (store.nodes.get node).network = network
  inCluster : (store.nodes.get node).cluster? = some name
  connected : (store.nodes.get node).status = .connected
  stays : AfterEach (fun between => (between.nodes.get node).status = .connected) store actions

namespace Stays

theorem distinctBefore
    (reachable : Reachable Action.MakesPassive store)
    (stays : Stays node network name store after actions) :
    store.DistinctIn network :=
  stays.distinct.of_descends (descends_run (wired_of_reachable reachable) stays.ran)

/-- Whoever stays for several actions stays for all but the first of them. -/
theorem next
    {between : Store}
    (reachable : Reachable Action.MakesPassive store)
    (stays : Stays node network name store after (action :: rest))
    (acted : store.act? action = some between) :
    Reachable Action.MakesPassive between ∧ Stays node network name between after rest := by
  obtain ⟨ran, permitted, distinct, inNetwork, inCluster, connected, staysOn⟩ := stays
  obtain ⟨other, actedOther, ranOn⟩ := Option.bind_eq_some_iff.mp ran
  cases acted.symm.trans actedOther
  obtain ⟨still, staysLater⟩ := staysOn between acted
  have composed := composed_of_reachable reachable
  have place := (descends_act composed.wired acted).place_eq (issued_of_cluster? inCluster)
  refine ⟨Reachable.step reachable (permitted action List.mem_cons_self) acted, ?_⟩
  exact {
    ran := ranOn
    permitted := fun later member => permitted later (List.mem_cons_of_mem _ member)
    distinct := distinct
    inNetwork := place.1.trans inNetwork
    inCluster := (cluster?_of_connected composed acted inCluster connected still).1
    connected := still
    stays := staysLater }

/-- The cluster of a node that stays has members all along. -/
theorem lives
    (reachable : Reachable Action.MakesPassive store)
    (stays : Stays node network name store after actions) :
    AfterEach (fun between => (between.cluster network name).members ≠ []) store actions := by
  induction actions generalizing store with
  | nil => trivial
  | cons action rest inductionHypothesis =>
      intro between acted
      obtain ⟨reachableBetween, later⟩ := stays.next reachable acted
      have seated := seatedIn_of_reachable reachableBetween (later.distinctBefore reachableBetween)
      have seat := seated.seats node name later.inNetwork later.inCluster
      refine ⟨fun nobody => ?_, inductionHypothesis reachableBetween later⟩
      rw [nobody] at seat
      cases seat

/-- Whoever stays in a cluster is given the views of it, all of them in turn for as long as it
lasts. -/
theorem viewsFor_prefix
    (reachable : Reachable Action.MakesPassive store)
    (stays : Stays node network name store after actions) :
    viewsFor node (store.announcements actions) <+:
      viewsOf network name (store.announcements actions) := by
  induction actions generalizing store with
  | nil => exact List.prefix_rfl
  | cons action rest inductionHypothesis =>
      have composed := composed_of_reachable reachable
      obtain ⟨between, acted, _⟩ := Option.bind_eq_some_iff.mp stays.ran
      obtain ⟨reachableBetween, later⟩ := stays.next reachable acted
      have onward := inductionHypothesis reachableBetween later
      by_cases alive : store.isNodeAlive node = true
      · have distinct := stays.distinctBefore reachable
        have seated := seatedIn_of_reachable reachable distinct
        have inMoved := (cluster?_of_connected composed acted stays.inCluster stays.connected
          later.connected).2
        have same : (store.announcedBy? action).toList.filter
              (fun announcement => announcement.recipients.contains node) =
            (store.announcedBy? action).toList.filter (Announcement.isOf network name) := by
          refine List.filter_congr fun announcement announced => ?_
          exact contains_recipients composed seated distinct acted
            (Option.mem_toList.mp announced) alive stays.inNetwork inMoved
        unfold viewsFor viewsOf at onward ⊢
        rw [announcements_cons acted, List.filter_append, List.filter_append, List.map_append,
          List.map_append, same]
        exact (List.prefix_append_right_inj _).mpr onward
      · rw [viewsFor_of_ended composed.wired (issued_of_cluster? stays.inCluster) alive]
        exact List.nil_prefix

end Stays

/-- A node that connects is announced to the cluster that it enters, itself included. -/
theorem announced_connect
    {joined : Store}
    (composed : store.Composed)
    (opened : (store.nodes.get node).status = .opened)
    (acted : store.act? (.call (.connect node name)) = some joined) :
    ∃ announcement, store.announcedBy? (.call (.connect node name)) = some announcement ∧
      announcement.isOf (store.nodes.get node).network name = true ∧
        announcement.recipients.contains node = true ∧
          announcement.view = (joined.cluster (store.nodes.get node).network name).view ∧
            announcement.view.members =
              store.clusterMembers (store.nodes.get node).network name ++
                [(store.nodes.get node).address] := by
  have stands := stands_act composed acted
  obtain ⟨can, _⟩ := given_eq_some.mp acted
  have moves : store.moved (.connect node name) = store.enter node name := if_pos opened
  have clusters : joined.cluster (store.nodes.get node).network name =
      (store.enter node name).cluster (store.nodes.get node).network name := by
    rw [← moves]
    exact (stands.cluster _ name).trans (cluster_reseated store _ _ name)
  have members := members_enter_self store node name
  obtain ⟨announcement, announced, announces⟩ := announce_enter_cases store node name
  have speaks : store.announcement? (.connect node name) = some announcement :=
    (if_pos opened).trans announced
  obtain ⟨ofNetwork, ofCluster⟩ := announcement?_connect opened speaks
  have view : announcement.view =
      ((store.enter node name).cluster (store.nodes.get node).network name).view := by
    rw [announces.view, ofNetwork, ofCluster]
  refine ⟨announcement, speaks, Announcement.isOf_iff.mpr ⟨ofNetwork, ofCluster⟩, ?_, ?_, ?_⟩
  · rw [List.contains_iff_mem, announces.recipients, ofNetwork, ofCluster]
    refine List.mem_filter.mpr ⟨?_, can⟩
    rw [members, List.map_append]
    exact List.mem_append.mpr (Or.inr List.mem_cons_self)
  · rw [clusters]
    exact view
  · rw [view]
    unfold Cluster.view clusterMembers
    dsimp only
    rw [members, List.map_append]
    rfl

/-- Whoever connects and stays connected is given consecutive views, and first that of its own
joining. -/
theorem views_of_membership
    {joined : Store}
    (reachable : Reachable Action.MakesPassive store)
    (opened : (store.nodes.get node).status = .opened)
    (acted : store.act? (.call (.connect node name)) = some joined)
    (stays : Stays node network name joined after rest) :
    ∃ own later,
      viewsFor node (store.announcements (.call (.connect node name) :: rest)) = own :: later ∧
        own = (joined.cluster network name).view ∧
          own.members = store.clusterMembers network name ++ [(store.nodes.get node).address] ∧
            (own :: later).IsChain fun before next => next.id = before.id + 1 := by
  have composed := composed_of_reachable reachable
  have passive : (Action.call (.connect node name)).MakesPassive := trivial
  have reachableJoined := Reachable.step reachable passive acted
  obtain ⟨announcement, announced, isOf, given, view, members⟩ :=
    announced_connect composed opened acted
  have sameNetwork : (store.nodes.get node).network = network := by
    have issued : store.nodes.Issued node := by
      by_contra notIssued
      have atRest := (fresh_act composed.wired acted notIssued).cluster
      rw [stays.inCluster] at atRest
      cases atRest
    rw [← ((descends_act composed.wired acted).place_eq issued).1]
    exact stays.inNetwork
  rw [sameNetwork] at isOf view members
  refine ⟨announcement.view, viewsFor node (joined.announcements rest), ?_, view, members, ?_⟩
  · unfold viewsFor
    rw [announcements_cons acted, announced, Option.toList_some, List.filter_append]
    simp only [List.filter_cons, given, if_true]
    rfl
  · have chain := isChain_numbers reachableJoined stays.permitted stays.ran
      (stays.lives reachableJoined)
    obtain ⟨others, isPrefix⟩ := stays.viewsFor_prefix reachableJoined
    have latest : (joined.cluster network name).lastView = announcement.view.id :=
      congrArg View.id view.symm
    rw [latest, ← isPrefix, List.map_append, ← List.cons_append, ← List.map_cons] at chain
    exact (List.isChain_map View.id).mp chain.left_of_append

end Store

end ChannelMux
