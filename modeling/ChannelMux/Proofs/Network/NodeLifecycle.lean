import ChannelMux.Proofs.Network.StatusLog

/-!
Contract: the whole course of a node and what is told of it.

Owns the law that a node goes through its statuses by connecting, disconnecting and closing
alone, that whatever is refused changes nothing, that the end is final, and that the log of
every subscription is what the node went through while the subscription lasted.
-/

namespace ChannelMux

namespace Status

/-- Nothing comes after a node is closed. -/
theorem closed_notMem_dropLast
    {statuses : List Status}
    (chain : statuses.IsChain fun earlier later => earlier.leadsTo later = true) :
    .closed ∉ statuses.dropLast := by
  induction statuses with
  | nil => exact List.not_mem_nil
  | cons first rest inductionHypothesis =>
      cases rest with
      | nil => exact List.not_mem_nil
      | cons next others =>
          obtain ⟨leads, onward⟩ := List.isChain_cons_cons.mp chain
          rw [List.dropLast_cons_cons, List.mem_cons, not_or]
          refine ⟨?_, inductionHypothesis onward⟩
          rintro rfl
          cases leads

end Status

namespace Store

variable {store after : Store} {node : Ref .node}

/-- What holds of a node from some moment on, whatever is done with its network. -/
structure Lifecycle (store : Store) (node : Ref .node) : Prop where
  /-- Between two calls nobody finds the node connecting. -/
  settled : (store.nodes.get node).status ≠ .connecting
  /-- The status after an action is the one that its operation, if it calls one, is for: the node
  is connected, disconnected or closed by it, or keeps its status. -/
  steps : ∀ {action after}, store.act? action = some after →
    (after.nodes.get node).status = store.statusAfter action node ∧
      Status.Steps (store.nodes.get node).status (after.nodes.get node).status
  /-- Once the node is closed it is closed for good: nothing connects it, it is in no cluster
  and it has no view. -/
  final : ∀ {actions after}, (∀ action ∈ actions, action.MakesPassive) →
    store.run? actions = some after → (store.nodes.get node).status = .closed →
      (after.nodes.get node).status = .closed ∧ after.Ended node
  /-- Whoever connects the node while it is not open is told how it stands. -/
  refused : ∀ {name}, (store.nodes.get node).status ≠ .opened →
    store.call (.connect node name) =
      some (Delivery.reply (store.standing node name), store)
  /-- Connecting changes nothing if it fails or the node is in the cluster already. -/
  vain : ∀ {name reply after}, store.call (.connect node name) = some (reply, after) →
    reply ≠ .ok () ∨ (store.nodes.get node).cluster? = some name → after = store
  /-- Connecting, disconnecting and closing come to an end. -/
  completes : ∀ {operation}, operation.sends = false →
    ∃ reply after, store.call operation = some (reply, after)
  /-- Each status that the node enters follows the one before, and none follows its being
  closed. -/
  entered : ∀ {actions after}, (∀ action ∈ actions, action.MakesPassive) →
    store.run? actions = some after →
      let statuses := (store.nodes.get node).status :: store.entered node actions
      (statuses.IsChain fun earlier later => earlier.leadsTo later = true) ∧
        .closed ∉ statuses.dropLast
  /-- Agents are told of statuses by the reports to them, one by one, and in no other way. -/
  informed : ∀ {actions after}, (∀ action ∈ actions, action.MakesPassive) →
    store.run? actions = some after → Informed (store.reported actions) store after
  /-- The reports to a subscription that lasts are the statuses that the node has entered since
  it began. -/
  subscription : ∀ {earlier during agent listening subscribed parting token},
    (∀ action ∈ earlier ++ during, action.MakesPassive) →
    store.run? earlier = some listening →
    listening.act? (.listen node agent) = some subscribed →
    subscribed.run? during = some parting →
    token = (listening.nodes.get node).nextToken →
    (∀ action ∈ during, action ≠ .unlisten node token) →
    (store.reported (earlier ++ .listen node agent :: during)).filter (Report.isOf node token) =
      (subscribed.entered node during).map fun entered => ⟨node, token, agent, entered⟩
  /-- The reports to a subscription that has ended are the statuses that the node entered while
  it lasted. -/
  ended : ∀ {earlier during later agent listening subscribed parting after token},
    (∀ action ∈ earlier ++ during ++ later, action.MakesPassive) →
    store.run? earlier = some listening →
    listening.act? (.listen node agent) = some subscribed →
    subscribed.run? during = some parting →
    parting.run? (.unlisten node token :: later) = some after →
    token = (listening.nodes.get node).nextToken →
    (∀ action ∈ during, action ≠ .unlisten node token) →
    (store.reported (earlier ++ .listen node agent :: during ++
        .unlisten node token :: later)).filter (Report.isOf node token) =
      (subscribed.entered node during).map fun entered => ⟨node, token, agent, entered⟩

/-- Every node of every store that can be reached keeps to its lifecycle. -/
theorem node_keepsLifecycle
    (reachable : Reachable Action.MakesPassive store)
    (node : Ref .node) :
    store.Lifecycle node where
  settled := ((poised_of_reachable reachable).coherent node).settled
  steps acted :=
    have composed := composed_of_reachable reachable
    have settled := ((poised_of_reachable reachable).coherent node).settled
    ⟨status_act composed acted node, steps_act composed settled acted⟩
  final permitted ran closed :=
    have closedStill := closed_run reachable permitted ran closed
    ⟨closedStill, ended_of_closed (reachable_of_run? reachable permitted ran) closedStill⟩
  refused notOpened := call_connect_of_not_opened notOpened _
  vain finished inVain := eq_of_connect_refused (poised_of_reachable reachable) finished inVain
  completes calls := call_completes reachable calls
  entered permitted ran :=
    have chain := entered_isChain reachable permitted ran node
    ⟨chain, Status.closed_notMem_dropLast chain⟩
  informed permitted ran := informed_run reachable permitted ran
  subscription permitted ranEarlier acted ranDuring isToken lasts :=
    reported_subscription reachable permitted ranEarlier acted ranDuring isToken lasts
  ended permitted ranEarlier acted ranDuring ranLater isToken lasts :=
    reported_ended_subscription reachable permitted ranEarlier acted ranDuring ranLater isToken
      lasts

/-! ### A node that is listened to for a while -/

/-- A node and two agents, of which the first one listens to it from the beginning. -/
def founding : List Action :=
  [.addAgent .recording, .addAgent .recording, .addNode "a" "a" (.filled 1) "net" [],
    .listen ⟨0⟩ ⟨0⟩]

/-- What becomes of them. -/
def founded : Store := (run? {} founding).getD {}

/-- The node joins a cluster before the second agent subscribes. -/
def overture : List Action := [.call (.connect ⟨0⟩ "k")]

/-- While it is subscribed the node leaves, joins another cluster, does so again, fails to join
the first one besides, and leaves. -/
def residence : List Action :=
  [.call (.disconnect ⟨0⟩), .call (.connect ⟨0⟩ "l"), .call (.connect ⟨0⟩ "l"),
    .call (.connect ⟨0⟩ "k"), .call (.disconnect ⟨0⟩)]

/-- Afterwards the node is closed while it is connected, and cannot be connected again. -/
def sequel : List Action :=
  [.call (.connect ⟨0⟩ "k"), .call (.close ⟨0⟩), .call (.connect ⟨0⟩ "k")]

/-- All that is done with the node. -/
def career : List Action :=
  overture ++ .listen ⟨0⟩ ⟨1⟩ :: residence ++ .unlisten ⟨0⟩ 2 :: sequel

theorem reachable_founded : Reachable Action.MakesPassive founded := by
  refine reachable_made fun action member => ?_
  have passive : Manner.recording.Passive := Manner.recording_quiet.contained.passive
  simp only [founding, List.mem_cons, List.not_mem_nil, or_false] at member
  rcases member with rfl | rfl | rfl | rfl <;> first | exact passive | trivial

theorem passive_career : ∀ action ∈ career, action.MakesPassive := by
  intro action member
  simp only [career, overture, residence, sequel, List.cons_append, List.nil_append,
    List.mem_cons, List.not_mem_nil, or_false] at member
  rcases member with
    rfl | rfl | rfl | rfl | rfl | rfl | rfl | rfl | rfl | rfl | rfl <;> trivial

/-- The second agent hears what happened while it was subscribed, the first one everything, and
the node has come to its end. -/
theorem node_keepsLifecycle_founded :
    ∃ after, founded.run? career = some after ∧ after.Ended ⟨0⟩ ∧
      (founded.reported career).filter (Report.isOf ⟨0⟩ 2) =
        [.opened, .connected, .opened].map (fun entered => ⟨⟨0⟩, 2, ⟨1⟩, entered⟩) ∧
      ∃ notices, after.agents.get ⟨0⟩ = (founded.agents.get ⟨0⟩).hearAll notices ∧
        notices.filter Notice.isStatus =
          [.connected, .opened, .connected, .opened, .connected, .opened, .closed].map
            (fun entered => .status entered entered) := by
  have lifecycle := node_keepsLifecycle reachable_founded ⟨0⟩
  have passive (action : Action) (member : action ∈ overture ++ residence ++ sequel) :
      action.MakesPassive := by
    refine passive_career action ?_
    simp only [career, List.mem_append, List.mem_cons] at member ⊢
    tauto
  obtain ⟨after, ran⟩ := Option.isSome_iff_exists.mp
    (by decide +kernel : (founded.run? career).isSome = true)
  have isAfter : after = (founded.run? career).getD {} := by
    rw [ran]
    rfl
  -- The stores in which the second agent subscribes and in which it parts.
  have stages := ran
  rw [career, run?_append, run?_append] at stages
  obtain ⟨parting, ranTo, ranLater⟩ := Option.bind_eq_some_iff.mp stages
  obtain ⟨listening, ranEarlier, ranOn⟩ := Option.bind_eq_some_iff.mp ranTo
  obtain ⟨subscribed, acted, ranDuring⟩ := Option.bind_eq_some_iff.mp ranOn
  have isSubscribed : subscribed =
      (founded.run? (overture ++ [.listen ⟨0⟩ ⟨1⟩])).getD {} := by
    rw [run?_append, ranEarlier, Option.bind_some, run?, acted]
    rfl
  have isListening : listening = (founded.run? overture).getD {} := by
    rw [ranEarlier]
    rfl
  have isToken : 2 = (listening.nodes.get ⟨0⟩).nextToken := by
    rw [isListening]
    decide +kernel
  have lasts (action : Action) (member : action ∈ residence) : action ≠ .unlisten ⟨0⟩ 2 := by
    simp only [residence, List.mem_cons, List.not_mem_nil, or_false] at member
    rcases member with rfl | rfl | rfl | rfl | rfl <;> simp
  have reachableAfter := reachable_of_run? reachable_founded passive_career ran
  have closed : (after.nodes.get ⟨0⟩).status = .closed := by
    rw [isAfter]
    decide +kernel
  refine ⟨after, ran, ?_, ?_, ?_⟩
  · have still : after.run? [] = some after := rfl
    exact ((node_keepsLifecycle reachableAfter ⟨0⟩).final (List.forall_mem_nil _) still closed).2
  · rw [career, lifecycle.ended passive ranEarlier acted ranDuring ranLater isToken lasts,
      isSubscribed]
    congr 1
    decide +kernel
  · obtain ⟨notices, heard, statuses⟩ :=
      (lifecycle.informed passive_career ran ⟨0⟩ (by decide +kernel)).2
    refine ⟨notices, heard, ?_⟩
    rw [statuses]
    decide +kernel

end Store

end ChannelMux
