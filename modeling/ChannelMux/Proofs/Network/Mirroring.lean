import ChannelMux.Proofs.Network.Seating
import ChannelMux.Proofs.Network.Subscriptions

/-!
Contract: forks keep in step with the node that they are over.

Owns that a fork that lasts has the status of its node, in every store that is reached by
actions that make passive agents, and sends if and only if the node is connected; that it is
subscribed to its node once; and what is heard in the course of an action: a fork is told the
address of its node once whenever the node becomes connected, at no other time, and nothing
once it has ended.
-/

namespace ChannelMux

/-- The address that a fork is told, if that is what is heard. -/
def Hearing.addressFor? (fork : Ref .fork) (hearing : Hearing) : Option Address :=
  hearing.address?.bind fun told => if told.1 = fork then some told.2 else none

namespace Store

variable {store after : Store} {node : Ref .node} {fork : Ref .fork}

/-- The node that a fork is over. -/
def nodeOf (store : Store) (fork : Ref .fork) : Node :=
  store.nodes.get (store.forks.get fork).node

/-! ### Forks that listen -/

theorem livingFork?_of_alive (alive : store.isForkAlive fork = true) :
    store.livingFork? (.fork fork) = some fork := if_pos alive

/-- A fork that lasts listens to the node that it is over, and to no other one. -/
theorem mem_forksOver_iff
    (wired : store.Wired)
    (subscribed : store.Subscribed) :
    fork ∈ store.forksOver node ↔
      store.isForkAlive fork = true ∧ (store.forks.get fork).node = node := by
  unfold forksOver
  rw [List.mem_filterMap]
  constructor
  · rintro ⟨⟨token, listener⟩, listed, living⟩
    cases listener with
    | agent agent => cases living
    | fork listening =>
        have alive := subscribed.alive listed
        cases (livingFork?_of_alive alive).symm.trans living
        have issued : store.nodes.Issued node := by
          by_contra notIssued
          rw [Table.get_of_not_issued notIssued] at listed
          cases listed
        exact ⟨alive, ((wired.nodes node issued).listeners token fork listed).2.1⟩
  · rintro ⟨alive, rfl⟩
    exact ⟨_, (wired.bound fork alive).listens, if_pos alive⟩

theorem nodup_forksOver (wired : store.Wired) (subscribed : store.Subscribed)
    (issued : store.nodes.Issued node) :
    (store.forksOver node).Nodup := by
  have tokens := subscribed.tokens node
  unfold List.Nodup at tokens
  rw [List.pairwise_map, List.Pairwise.and_mem] at tokens
  refine tokens.filterMap _ ?_
  -- A fork listens under its own token, so that two entries of it are one.
  rintro ⟨leftToken, left⟩ ⟨rightToken, right⟩ ⟨leftListed, rightListed, apart⟩ leftFork isLeft
    rightFork isRight rfl
  cases left with
  | agent agent => cases isLeft
  | fork leftListening =>
      cases right with
      | agent agent => cases isRight
      | fork rightListening =>
          cases (livingFork?_of_alive (subscribed.alive leftListed)).symm.trans isLeft
          cases (livingFork?_of_alive (subscribed.alive rightListed)).symm.trans isRight
          have leftOwn := ((wired.nodes node issued).listeners _ _ leftListed).2.2
          have rightOwn := ((wired.nodes node issued).listeners _ _ rightListed).2.2
          exact apart (leftOwn.symm.trans rightOwn)

/-- Of things that are all told one address, each is told it once. -/
theorem filterMap_told
    {forks : List (Ref .fork)}
    (nodup : forks.Nodup)
    (address : Address)
    (fork : Ref .fork) :
    (forks.map fun told => (told, address)).filterMap
        (fun told => if told.1 = fork then some told.2 else none) =
      if fork ∈ forks then [address] else [] := by
  induction forks with
  | nil => rfl
  | cons first rest inductionHypothesis =>
      obtain ⟨notAgain, restNodup⟩ := List.nodup_cons.mp nodup
      rw [List.map_cons, List.filterMap_cons, inductionHypothesis restNodup]
      by_cases isFirst : first = fork
      · subst isFirst
        simp [notAgain]
      · have different : fork ≠ first := fun same => isFirst same.symm
        simp [isFirst, different]

/-! ### Becoming connected -/

/-- A node becomes connected between two stores. -/
def Connects (before after : Store) (node : Ref .node) : Prop :=
  (before.nodes.get node).status ≠ .connected ∧ (after.nodes.get node).status = .connected

instance (before after : Store) (node : Ref .node) : Decidable (Connects before after node) :=
  inferInstanceAs (Decidable (_ ∧ _))

/-- A node becomes connected by being connected, and in no other way. -/
theorem connects_iff
    {action : Action}
    (composed : store.Composed)
    (acted : store.act? action = some after)
    (issued : store.nodes.Issued node) :
    Connects store after node ↔
      ∃ name, action = .call (.connect node name) ∧
        (store.nodes.get node).status = .opened := by
  have stands := stands_act composed acted
  unfold Connects
  rcases action_cases store action with ⟨operation, rfl⟩ | ⟨still, _, silent⟩
  · rw [stands.status ((issued_reseated operation).mpr issued)]
    change _ ∧ ((store.reseated operation).nodes.get node).status = _ ↔ _
    constructor
    · rintro ⟨notConnected, connected⟩
      rcases node_reseated_cases store operation node with same | ⟨_, same⟩
      · rw [same] at connected
        cases nodeMove_moved store operation node with
        | stays unmoved =>
            rw [unmoved] at connected
            exact absurd connected notConnected
        | enters name called opened =>
            subst called
            exact ⟨name, rfl, opened⟩
        | exits _ _ left =>
            rw [left] at connected
            cases connected
      · rw [same] at connected
        cases connected
    · rintro ⟨name, called, opened⟩
      cases called
      refine ⟨by simp [opened], ?_⟩
      have moves : store.reseated (.connect node name) = store.enter node name := if_pos opened
      rw [moves, nodes_enter, Table.get_modify_self issued]
  · rw [still] at stands
    rw [stands.status issued]
    constructor
    · rintro ⟨notConnected, connected⟩
      exact absurd connected notConnected
    · rintro ⟨name, rfl, opened⟩
      obtain ⟨announcement, announced, _⟩ := announce_enter_cases store node name
      have speaks : store.announcedBy? (.call (.connect node name)) = some announcement :=
        (if_pos opened).trans announced
      rw [silent] at speaks
      cases speaks

/-- The forks that are told an address by an action, in turn. -/
def addressedBy (store : Store) : Action → List (Ref .fork × Address)
  | .call operation => store.addressed operation
  | _ => []

/-- A fork is told the address of its node if the node becomes connected. -/
theorem addressedBy_for
    {action : Action}
    (composed : store.Composed)
    (subscribed : store.Subscribed)
    (acted : store.act? action = some after)
    (fork : Ref .fork) :
    (store.addressedBy action).filterMap
        (fun told => if told.1 = fork then some told.2 else none) =
      if store.isForkAlive fork = true ∧ Connects store after (store.forks.get fork).node then
        [(store.nodeOf fork).address]
      else [] := by
  have wired := composed.wired
  have connects (alive : store.isForkAlive fork = true) :=
    connects_iff composed acted (wired.forks fork (Table.issued_of_isNamed alive)).node
  -- Nobody is told anything but by connecting a node, and nobody but the forks over it.
  by_cases connecting : ∃ node name, action = .call (.connect node name) ∧
      (store.nodes.get node).status = .opened
  · obtain ⟨node, name, rfl, opened⟩ := connecting
    obtain ⟨can, _⟩ := given_eq_some.mp acted
    have issued := wired.issued_of_isNodeAlive can
    have addressed : store.addressedBy (.call (.connect node name)) =
        (store.forksOver node).map fun told => (told, (store.nodes.get node).address) :=
      if_pos opened
    rw [addressed, filterMap_told (nodup_forksOver wired subscribed issued)]
    by_cases overNode : fork ∈ store.forksOver node
    · obtain ⟨alive, isNode⟩ := (mem_forksOver_iff wired subscribed).mp overNode
      have becomes : Connects store after (store.forks.get fork).node :=
        (connects alive).mpr ⟨name, by rw [isNode], by rw [isNode]; exact opened⟩
      rw [if_pos overNode, if_pos ⟨alive, becomes⟩]
      unfold nodeOf
      rw [isNode]
    · rw [if_neg overNode, if_neg]
      rintro ⟨alive, becomes⟩
      obtain ⟨_, called, _⟩ := (connects alive).mp becomes
      cases called
      exact overNode ((mem_forksOver_iff wired subscribed).mpr ⟨alive, rfl⟩)
  · have nobody : store.addressedBy action = [] := by
      cases action with
      | call operation =>
          cases operation with
          | connect node name => exact if_neg fun opened => connecting ⟨node, name, rfl, opened⟩
          | _ => rfl
      | _ => rfl
    rw [nobody, if_neg]
    · rfl
    · rintro ⟨alive, becomes⟩
      obtain ⟨name, called, opened⟩ := (connects alive).mp becomes
      exact connecting ⟨_, name, called, opened⟩

/-! ### What is heard -/

/-- What is heard in the course of an action: forks hear things as long as they last, each is
told the address of its node if the node becomes connected, and no agent records anything
else. -/
structure Relays (store after : Store) (hearings : List Hearing) : Prop where
  living : ∀ hearing ∈ hearings, hearing.ForLiving store
  addresses : ∀ fork, hearings.filterMap (Hearing.addressFor? fork) =
    if store.isForkAlive fork = true ∧ Connects store after (store.forks.get fork).node then
      [(store.nodeOf fork).address]
    else []
  heard : ∀ agent, store.agents.Issued agent → after.agents.get agent =
    (store.agents.get agent).hearAll ((Hearing.told store hearings).noticesTo agent)

/-- What neither carries traffic nor calls an operation leaves every agent as it is. -/
theorem keeps_agents_act
    {action : Action}
    (wired : store.Wired)
    (still : action.runs = false)
    (acted : store.act? action = some after) :
    Table.Keeps id store.agents after.agents := by
  cases action with
  | addAgent manner =>
      cases acted
      exact Table.keeps_add _ _ _
  | addStage name conduct =>
      cases acted
      exact Table.Keeps.refl _ _
  | _ =>
      refine (undisturbed_act wired ?_ still acted).agents
      exact trivial

theorem relays_act
    {action : Action}
    (composed : store.Composed)
    (subscribed : store.Subscribed)
    (acted : store.act? action = some after) :
    ∃ hearings, Relays store after hearings := by
  have told := addressedBy_for composed subscribed acted
  obtain ⟨wired, passive, agreed⟩ := composed
  have addresses {hearings : List Hearing}
      (same : hearings.filterMap Hearing.address? = store.addressedBy action)
      (fork : Ref .fork) :
      hearings.filterMap (Hearing.addressFor? fork) =
        if store.isForkAlive fork = true ∧ Connects store after (store.forks.get fork).node then
          [(store.nodeOf fork).address]
        else [] := by
    rw [← told fork, ← same, List.filterMap_filterMap]
    rfl
  have heardAll {hearings : List Hearing} (heard : Heard store hearings store after)
      (agent : Ref .agent) :
      after.agents.get agent =
        (store.agents.get agent).hearAll ((Hearing.told store hearings).noticesTo agent) := by
    unfold Heard at heard
    rw [heard, get_hearAll]
  have ofPassing (passing : Passing store store after)
      (silent : store.addressedBy action = []) :
      ∃ hearings, Relays store after hearings := by
    obtain ⟨_, _, hearings, inPassing, heard⟩ := passing
    refine ⟨hearings, fun hearing member => (inPassing hearing member).forLiving, ?_,
      fun agent _ => heardAll heard agent⟩
    exact addresses ((Hearing.addresses_of_passing inPassing).trans silent.symm)
  cases runs : action.runs with
  | false =>
      have silent : store.addressedBy action = [] := by
        cases action <;> first | rfl | cases runs
      refine ⟨[], by simp, addresses silent.symm, fun agent issued => ?_⟩
      exact (keeps_agents_act wired runs acted agent issued).2
  | true =>
      cases step_of_act wired acted with
      | refused still =>
          rw [still] at runs
          cases runs
      | travel finished => exact ofPassing (passive.passing_of_travel finished) rfl
      | receive finished => exact ofPassing (passive.passing_of_receive finished) rfl
      | call _ finished =>
          obtain ⟨hearings, living, same, heard⟩ := (passive.accounts finished).heard
          exact ⟨hearings, living, addresses same, fun agent _ => heardAll heard agent⟩
      | _ => cases runs

/-! ### Sending -/

/-- A fork sends if its node is connected. If it is not, the fork says so, and nothing else
becomes of it. -/
structure SendsAsConnected (store : Store) (fork : Ref .fork) (message : Message) : Prop where
  refused : (store.nodeOf fork).status ≠ .connected →
    store.call (.sendFork fork message) =
      some (.error (.notConnected (store.nodeOf fork).status), store)
  sends : (store.nodeOf fork).status = .connected → ∀ reply after status,
    store.call (.sendFork fork message) = some (reply, after) →
      reply ≠ .error (.notConnected status)

/-- A fork that does not take its node to be connected does not send. -/
theorem call_sendFork_of_not_connected
    {message : Message}
    (notConnected : (store.forks.get fork).status ≠ .connected) :
    store.call (.sendFork fork message) =
      some (.error (.notConnected (store.forks.get fork).status), store) := by
  change (if (store.forks.get fork).status = .connected then _ else _ : Run Reply) store = _
  rw [if_neg notConnected]
  rfl

theorem sendsAsConnected
    (mirrors : (store.forks.get fork).status = (store.nodeOf fork).status)
    (message : Message) :
    store.SendsAsConnected fork message where
  refused notConnected := by
    rw [← mirrors] at notConnected ⊢
    exact call_sendFork_of_not_connected notConnected
  sends connected := by
    rw [← mirrors] at connected
    intro reply after status finished impossible
    change (if (store.forks.get fork).status = .connected then _ else _ : Run Reply) store = _
      at finished
    rw [if_pos connected] at finished
    obtain ⟨_, looked, isLooked, onward⟩ := Rule.bind_eq_some finished
    obtain ⟨outcome, sent, _, isReply⟩ := Rule.bind_eq_some onward
    cases isReply
    cases outcome <;> cases impossible

/-! ### Forks and their node -/

/-- Listeners have different tokens. The forks among them are those that last over the node,
each under one token. -/
structure ListensOnce (store : Store) : Prop where
  tokens : ∀ node, ((store.nodes.get node).listeners.map Prod.fst).Nodup
  living : ∀ node token fork, (token, .fork fork) ∈ (store.nodes.get node).listeners →
    store.isForkAlive fork = true ∧ (store.forks.get fork).node = node
  once : ∀ fork, store.isForkAlive fork = true →
    ∃! token, (token, .fork fork) ∈ (store.nodeOf fork).listeners

theorem listensOnce (wired : store.Wired) (subscribed : store.Subscribed) :
    store.ListensOnce where
  tokens := subscribed.tokens
  living node token fork listed := by
    have overNode : fork ∈ store.forksOver node :=
      List.mem_filterMap.mpr ⟨_, listed, livingFork?_of_alive (subscribed.alive listed)⟩
    exact (mem_forksOver_iff wired subscribed).mp overNode
  once fork alive := by
    refine ⟨_, (wired.bound fork alive).listens, fun token listed => ?_⟩
    have issued := (wired.forks fork (Table.issued_of_isNamed alive)).node
    exact ((wired.nodes _ issued).listeners token fork listed).2.2.symm

/-- Where nobody gives commands, a fork that lasts has the status of its node, which is never
that of being about to connect, and sends if and only if the node is connected. The listeners
of a node are the forks that last over it, once each, and the agents that have subscribed and
not unsubscribed since. Whenever the node becomes connected, every fork over it is told the
address of the node once, and no fork is told an address otherwise, or anything once it has
ended, which it has for good. -/
theorem forkStatus_mirrors_node (reachable : Reachable Action.MakesPassive store) :
    (∀ fork, store.isForkAlive fork = true →
      (store.forks.get fork).status = (store.nodeOf fork).status ∧
        (store.nodeOf fork).status ≠ .connecting ∧
          ∀ message, store.SendsAsConnected fork message) ∧
    store.ListensOnce ∧
    (∀ action after, store.act? action = some after →
      (∃ hearings, Relays store after hearings) ∧
        ∀ node, after.externals node = store.externalsAfter action node) ∧
    ∀ actions after fork, store.run? actions = some after → store.forks.Issued fork →
      after.isForkAlive fork = true → store.isForkAlive fork = true := by
  have composed := composed_of_reachable reachable
  have subscribed := subscribed_of_reachable reachable
  have poised := poised_of_reachable reachable
  refine ⟨fun fork alive => ?_, listensOnce composed.wired subscribed,
    fun action after acted => ?_, fun actions after fork ran issued alive => ?_⟩
  · have mirrors := composed.agreed.mirrors fork alive
    exact ⟨mirrors, (poised.coherent _).settled, fun message => sendsAsConnected mirrors message⟩
  · exact ⟨relays_act composed subscribed acted,
      fun node => externals_act subscribed composed.wired acted node⟩
  · exact (descends_run composed.wired ran).isForkAlive issued alive

/-! ### A node with two forks, of which one has ended -/

/-- Two forks over a node, listened to by an agent as well; the second one is let go of. -/
def leaving : List Action :=
  let plan (member : String) (agent : Ref .agent) : ForkPlan :=
    { node? := some ⟨0⟩, group? := some "g", member? := some member, receiver? := some agent }
  [.addAgent .recording, .addAgent .recording, .addAgent .recording,
    .addNode "a" "a" (.filled 1) "net" [], .buildFork (plan "x" ⟨0⟩) "fork-x",
    .buildFork (plan "y" ⟨1⟩) "fork-y", .listen ⟨0⟩ ⟨2⟩, .dropFork "fork-y"]

/-- A node with two forks, of which the second has ended. -/
def bereaved : Store := (run? {} leaving).getD {}

theorem reachable_bereaved : Reachable Action.MakesPassive bereaved := by
  refine reachable_made fun action member => ?_
  have passive : Manner.recording.Passive := Manner.recording_quiet.contained.passive
  simp only [leaving, List.mem_cons, List.not_mem_nil, or_false] at member
  rcases member with rfl | rfl | rfl | rfl | rfl | rfl | rfl | rfl <;>
    first | exact passive | trivial

/-- The node becomes connected: the fork that is left is told its address, the other one is
told nothing, and both the fork and the agent still listen. -/
theorem forkStatus_mirrors_node_bereaved :
    ∃ connected hearings,
      bereaved.act? (.call (.connect ⟨0⟩ "k")) = some connected ∧
      Relays bereaved connected hearings ∧
      hearings.filterMap (Hearing.addressFor? ⟨0⟩) = [.filled 1] ∧
      hearings.filterMap (Hearing.addressFor? ⟨1⟩) = [] ∧
      (connected.forks.get ⟨0⟩).status = .connected ∧
      (connected.nodes.get ⟨0⟩).listeners = [(1, .fork ⟨0⟩), (3, .agent ⟨2⟩)] ∧
      bereaved.call (.sendFork ⟨0⟩ { payload := [] }) =
        some (.error (.notConnected .opened), bereaved) := by
  obtain ⟨mirrors, _, acts, _⟩ := forkStatus_mirrors_node reachable_bereaved
  obtain ⟨connected, acted⟩ := Option.isSome_iff_exists.mp
    (by decide +kernel : (bereaved.act? (.call (.connect ⟨0⟩ "k"))).isSome = true)
  obtain ⟨⟨hearings, relays⟩, _⟩ := acts _ _ acted
  have isConnected : connected = (bereaved.act? (.call (.connect ⟨0⟩ "k"))).getD {} := by
    rw [acted]
    rfl
  refine ⟨connected, hearings, acted, relays, ?_, ?_, ?_, ?_, ?_⟩
  · rw [relays.addresses, isConnected]
    decide +kernel
  · rw [relays.addresses, isConnected]
    decide +kernel
  · rw [isConnected]
    decide +kernel
  · rw [isConnected]
    decide +kernel
  · have sends := (mirrors ⟨0⟩ (by decide +kernel)).2.2 { payload := [] }
    have opened : (bereaved.nodeOf ⟨0⟩).status = .opened := by decide +kernel
    rw [← opened]
    exact sends.refused (by rw [opened]; exact fun impossible => nomatch impossible)

end Store

end ChannelMux
