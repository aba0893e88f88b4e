import ChannelMux.Proofs.Network.Calmness

/-!
Contract: every message that is sent reaches everyone whom it is for exactly once.

Owns whom a message of a fork is for: at every member of the cluster that lasts and that it
is addressed to, the fork that is bound to the same group and member there, or the top of
the pipeline where there is no demultiplexer. Owns `send_reachesOnce`: in every store that
is reached by calm actions they are told of the message once and nobody is told of anything
else, and along every run the messages that an agent is told of are those that were sent to
it, in the order in which they were sent.
-/

namespace ChannelMux

/-- The messages in an entry of a record. -/
def AgentEntry.messages : AgentEntry → List Message
  | .event (.message message) => [message]
  | .batch whole => whole.messages
  | _ => []

/-- The messages in the record of an agent, oldest first. -/
def Agent.log (agent : Agent) : List Message := agent.entries.reverse.flatMap AgentEntry.messages

namespace Store

/-- A node that lasts and is listed in a cluster. -/
def IsLiveMember (store : Store) (network cluster : String) (node : Ref .node) : Prop :=
  store.isNodeAlive node = true ∧
    ∃ member ∈ (store.cluster network cluster).members, member.node = node

/-- Who is to get a message for a group and member at a node. -/
structure IsAddressee (store : Store) (node : Ref .node) (group member : String)
    (agent? : Option (Ref .agent)) : Prop where
  top : store.hub? node = none →
    agent? = (store.pipelines.get (store.nodes.get node).pipeline).receiver?
  fork : ∀ hub fork, store.hub? node = some hub → store.IsBoundTo fork node group member →
    agent? = (store.forks.get fork).receiver?
  nobody : ∀ hub, store.hub? node = some hub →
    (∀ fork, ¬ store.IsBoundTo fork node group member) → agent? = none

/-- A message of a fork as others get it. -/
def copyOf (store : Store) (fork : Ref .fork) (message : Message) : Message :=
  store.stamped (store.forks.get fork).node ((store.forks.get fork).tag message)

/-- A message of a fork has reached everyone in a cluster whom it is for, once: the nodes of
the audience are the members of the cluster that it is for, and who is to get it at a node
is told of it for that node. -/
structure ReachesOnce (before after : Store) (fork : Ref .fork) (message : Message)
    (cluster : String) (audience : List (Ref .node))
    (agentAt? : Ref .node → Option (Ref .agent)) : Prop where
  distinct : audience.Nodup
  members : ∀ node, node ∈ audience ↔
    before.IsLiveMember (before.nodes.get (before.forks.get fork).node).network cluster node ∧
      ∀ address, message.destination? = some address →
        (before.nodes.get node).address = address
  addressed : ∀ node, before.IsAddressee node (before.forks.get fork).group
    (before.forks.get fork).member (agentAt? node)
  told : ∀ agent, after.agents.get agent = (before.agents.get agent).hearAll
    (List.replicate (audience.countP fun node => agentAt? node = some agent)
      (.up (.single (.message (before.copyOf fork message)))))
  shape : after.shape = before.shape

/-- The copies of a message of a node that an agent gets. -/
def copiesTo (store : Store) (agent : Ref .agent) (node : Ref .node) (message : Message) :
    List Message :=
  match store.copy? node message with
  | none => []
  | some copy =>
      List.replicate
        ((store.targetsOf node message).countP fun target =>
          store.recipient? target copy = some agent) copy

/-- The messages that an action brings to an agent. -/
def brings (store : Store) (agent : Ref .agent) : Action → List Message
  | .call (.sendFork fork message) =>
      store.copiesTo agent (store.forks.get fork).node ((store.forks.get fork).tag message)
  | .call (.sendNode node message) => store.copiesTo agent node message
  | _ => []

/-- The messages that a run brings to an agent. -/
def brought (store : Store) (agent : Ref .agent) : List Action → List Message
  | [] => []
  | action :: rest =>
      store.brings agent action ++
        match store.act? action with
        | some after => after.brought agent rest
        | none => []

/-! ### Whom a message is for -/

section Audience

variable {store : Store} {node : Ref .node} {message : Message}

theorem nodup_targetsOf (listed : store.Listed) : (store.targetsOf node message).Nodup :=
  (listed.once _ _).sublist (List.filter_sublist.map Member.node)

theorem mem_targetsOf
    {cluster : String}
    (listed : store.Listed)
    (inCluster : (store.nodes.get node).cluster? = some cluster)
    (target : Ref .node) :
    target ∈ store.targetsOf node message ↔
      store.IsLiveMember (store.nodes.get node).network cluster target ∧
        ∀ address, message.destination? = some address →
          (store.nodes.get target).address = address := by
  have addressOf {member : Member}
      (isMember : member ∈ (store.cluster (store.nodes.get node).network cluster).members) :
      (store.nodes.get member.node).address = member.address :=
    (listed.seated _ _ member isMember).address
  unfold targetsOf Delivery.targets
  rw [inCluster, Option.getD_some, List.mem_map]
  constructor
  · intro held
    obtain ⟨member, kept, same⟩ := held
    obtain ⟨isMember, passes⟩ := List.mem_filter.mp kept
    obtain ⟨isFor, alive⟩ := Bool.and_eq_true_iff.mp passes
    subst same
    refine ⟨⟨alive, member, isMember, rfl⟩, ?_⟩
    intro address destination
    rw [destination] at isFor
    rw [addressOf isMember]
    exact (eq_of_beq isFor).symm
  · intro held
    obtain ⟨⟨alive, member, isMember, same⟩, isFor⟩ := held
    subst same
    refine ⟨member, List.mem_filter.mpr ⟨isMember, Bool.and_eq_true_iff.mpr ⟨?_, alive⟩⟩, rfl⟩
    cases destination : message.destination? with
    | none => rfl
    | some address =>
        have same := isFor address destination
        rw [addressOf isMember] at same
        rw [same]
        exact beq_self_eq_true _

theorem isAddressee_recipient?
    {group member : String}
    (wired : store.Wired)
    (routed : message.routing? = some (.between group member))
    (node : Ref .node) :
    store.IsAddressee node group member (store.recipient? node message) where
  top noHub := recipient?_of_no_hub noHub
  fork hub fork found bound := by
    rw [recipient?_of_group found routed rfl]
    change (store.boundFork? node group member).bind _ = _
    rw [wired.boundFork?_eq_some.mpr bound]
    rfl
  nobody hub found none := by
    rw [recipient?_of_group found routed rfl]
    change (store.boundFork? node group member).bind _ = _
    cases bound : store.boundFork? node group member with
    | none => rfl
    | some fork => exact absurd (wired.boundFork?_eq_some.mp bound) (none fork)

end Audience

/-! ### One sending -/

/-- Somebody is told once for every target where the message is for them. -/
theorem noticesTo_handed
    (targets : List (Ref .node))
    (agentAt? : Ref .node → Option (Ref .agent))
    (traffic : Traffic)
    (agent : Ref .agent) :
    Told.noticesTo (targets.flatMap fun target => Yields.handed (agentAt? target) traffic) agent =
      List.replicate (targets.countP fun target => agentAt? target = some agent)
        (.up traffic) := by
  induction targets with
  | nil => rfl
  | cons target rest inductionHypothesis =>
      rw [List.flatMap_cons, Told.noticesTo_append, inductionHypothesis, List.countP_cons]
      cases found : agentAt? target with
      | none => rfl
      | some other =>
          by_cases same : other = agent
          · simp [Yields.handed, Told.noticesTo, same, List.replicate_succ]
          · simp [Yields.handed, Told.noticesTo, same]

theorem messagesTo_carried (store : Store) (agent : Ref .agent) (node : Ref .node)
    (message : Message) :
    (store.carried node message).messagesTo agent = store.copiesTo agent node message := by
  unfold carried copiesTo Told.messagesTo
  cases store.copy? node message with
  | none => rfl
  | some copy =>
      dsimp only
      rw [noticesTo_handed, List.flatMap_replicate]
      exact List.flatten_replicate_singleton

theorem messagesTo_tells (store : Store) (agent : Ref .agent) (action : Action) :
    (store.tells action).messagesTo agent = store.brings agent action := by
  cases action with
  | call operation =>
      cases operation with
      | sendFork fork message => exact messagesTo_carried _ _ _ _
      | sendNode node message => exact messagesTo_carried _ _ _ _
      | connect node cluster => rfl
      | disconnect node => rfl
      | close node => rfl
  | _ => rfl

variable {store : Store}

theorem sendFork_reachesOnce
    {fork : Ref .fork}
    {message : Message}
    {cluster : String}
    {written : Octets}
    (orderly : store.Orderly)
    (alive : store.isForkAlive fork = true)
    (connected : (store.nodes.get (store.forks.get fork).node).status = .connected)
    (inCluster : (store.nodes.get (store.forks.get fork).node).cluster? = some cluster)
    (writes : Encoding.writeMessage (store.copyOf fork message) = .ok written) :
    ∃ after, store.call (.sendFork fork message) = some (.ok (), after) ∧
      store.ReachesOnce after fork message cluster
        (store.targetsOf (store.forks.get fork).node ((store.forks.get fork).tag message))
        (fun node => store.recipient? node (store.copyOf fork message)) := by
  have copied : store.copy? (store.forks.get fork).node ((store.forks.get fork).tag message) =
      some (store.copyOf fork message) :=
    copy?_of_written connected writes (Encoding.hasNoForeignRouting_putRouting _ _)
  obtain ⟨reply, after, finished, effect, well⟩ := call_sendFork orderly alive message
  have isOk : reply = .ok () := by
    apply well
    rw [copied]
    rfl
  rw [isOk] at finished
  have listed := orderly.agreed.listed
  refine ⟨after, finished, nodup_targetsOf listed, mem_targetsOf listed inCluster, ?_, ?_,
    effect.shape⟩
  · apply isAddressee_recipient? orderly.wired
    exact Message.routing?_putRouting _ _
  · intro agent
    rw [effect.agent]
    unfold sent carried
    dsimp only
    rw [copied]
    dsimp only
    rw [noticesTo_handed]

/-! ### Whole runs -/

theorem brought_cons
    {action : Action}
    {after : Store}
    (acted : store.act? action = some after)
    (agent : Ref .agent)
    (rest : List Action) :
    store.brought agent (action :: rest) =
      store.brings agent action ++ after.brought agent rest := by
  rw [brought, acted]

/-- What an agent is told along a run are the messages that the run brings. -/
theorem agents_run
    {actions : List Action}
    {after : Store}
    (orderly : store.Orderly)
    (calm : ∀ action ∈ actions, action.IsCalm ∧ action.isInside = true)
    (ran : store.run? actions = some after)
    {agent : Ref .agent}
    (issued : store.agents.Issued agent) :
    ∃ notices, after.agents.get agent = (store.agents.get agent).hearAll notices ∧
      notices.flatMap Notice.messages = store.brought agent actions := by
  -- The store is orderly before every action of the run, and agents are never taken away.
  induction actions generalizing store with
  | nil =>
      cases ran
      exact ⟨[], rfl, rfl⟩
  | cons action rest inductionHypothesis =>
      obtain ⟨between, acted, ranOn⟩ := Option.bind_eq_some_iff.mp ran
      obtain ⟨isCalm, inside⟩ := calm action List.mem_cons_self
      obtain ⟨told, agents, messages⟩ := agents_act orderly isCalm inside acted
      obtain ⟨stillIssued, same⟩ := agents agent issued
      obtain ⟨later, sameLater, messagesLater⟩ :=
        inductionHypothesis (orderly_act orderly isCalm acted)
          (fun other member => calm other (List.mem_cons_of_mem _ member)) ranOn stillIssued
      refine ⟨told.noticesTo agent ++ later, ?_, ?_⟩
      · rw [sameLater, same, Agent.hearAll_append]
      · rw [List.flatMap_append, messagesLater]
        have first : (told.noticesTo agent).flatMap Notice.messages = store.brings agent action :=
          (messages agent).trans (messagesTo_tells store agent action)
        rw [first, brought_cons acted]

end Store

/-- One who records everything has the messages of what is heard in the record. -/
theorem Agent.log_hear
    {agent : Agent}
    (recording : agent.manner = Manner.recording)
    (notice : Notice) :
    (agent.hear notice).log = agent.log ++ notice.messages := by
  have logged (entry : AgentEntry) (remembers :
      (Manner.recording notice).remember agent.entries = entry :: agent.entries) :
      (agent.hear notice).log = agent.log ++ entry.messages := by
    unfold Agent.log Agent.hear
    dsimp only
    rw [recording, remembers, List.reverse_cons, List.flatMap_append]
    simp
  cases notice with
  | up traffic =>
      cases traffic with
      | single event =>
          rw [logged (.event event) rfl]
          cases event <;> rfl
      | batch whole => exact logged (.batch whole) rfl
  | down event =>
      rw [logged (.event event) rfl]
      cases event <;> rfl
  | status entered now => exact logged (.status entered now) rfl

theorem Agent.log_hearAll
    {agent : Agent}
    (recording : agent.manner = Manner.recording)
    (notices : List Notice) :
    (agent.hearAll notices).log = agent.log ++ notices.flatMap Notice.messages := by
  induction notices generalizing agent with
  | nil => exact (List.append_nil _).symm
  | cons notice rest inductionHypothesis =>
      have still : (agent.hear notice).manner = Manner.recording := recording
      change ((agent.hear notice).hearAll rest).log = _
      rw [inductionHypothesis still, Agent.log_hear recording, List.flatMap_cons,
        List.append_assoc]

namespace Store

/-- In a store that is reached by calm actions a message of a fork that lasts, over a node
that is connected, reaches everyone whom it is for once and nobody else; at most one fork is
bound to a group and member at a node; and along every run of calm actions the messages that
an agent is told of are those that are sent to it, in turn, as is in its record if it keeps
one. -/
theorem send_reachesOnce {store : Store} (reachable : Reachable Action.IsCalm store) :
    (∀ fork message cluster written, store.isForkAlive fork = true →
      (store.nodes.get (store.forks.get fork).node).status = .connected →
      (store.nodes.get (store.forks.get fork).node).cluster? = some cluster →
      Encoding.writeMessage (store.copyOf fork message) = .ok written →
        ∃ after, store.call (.sendFork fork message) = some (.ok (), after) ∧
          store.ReachesOnce after fork message cluster
            (store.targetsOf (store.forks.get fork).node ((store.forks.get fork).tag message))
            (fun node => store.recipient? node (store.copyOf fork message))) ∧
    (∀ left right node group member, store.IsBoundTo left node group member →
      store.IsBoundTo right node group member → left = right) ∧
    (∀ actions after agent, (∀ action ∈ actions, action.IsCalm ∧ action.isInside = true) →
      store.run? actions = some after → store.agents.Issued agent →
        (∃ notices, after.agents.get agent = (store.agents.get agent).hearAll notices ∧
          notices.flatMap Notice.messages = store.brought agent actions) ∧
        ((store.agents.get agent).manner = Manner.recording →
          (after.agents.get agent).log =
            (store.agents.get agent).log ++ store.brought agent actions)) := by
  have orderly := orderly_of_reachable reachable
  refine ⟨?_, ?_, ?_⟩
  · intro fork message cluster written alive connected inCluster writes
    exact sendFork_reachesOnce orderly alive connected inCluster writes
  · intro left right node group member leftBound rightBound
    exact orderly.wired.fork_unique leftBound rightBound
  · intro actions after agent calm ran issued
    obtain ⟨notices, heard, messages⟩ := agents_run orderly calm ran issued
    refine ⟨⟨notices, heard, messages⟩, fun recording => ?_⟩
    rw [heard, Agent.log_hearAll recording, messages]

/-! ### A network of three nodes -/

/-- A message to everyone. -/
def greeting : Message where
  payload := [104, 105]

/-- Three agents who record everything. -/
def hall : Store where
  agents :=
    let recorder : Agent := { manner := .recording }
    ((Table.add {} recorder).add recorder).add recorder

/-- Three nodes, of which two have a fork for the same group and member, all of them
connected to one cluster. -/
def gathering : List Action :=
  let plan (node : Ref .node) (agent : Ref .agent) : ForkPlan :=
    { node? := some node, group? := some "g", member? := some "m", receiver? := some agent }
  [.addNode "a" "a" (.filled 1) "net" [], .addNode "b" "b" (.filled 2) "net" [],
    .addNode "c" "c" (.filled 3) "net" [], .buildFork (plan ⟨0⟩ ⟨0⟩) "fork-a",
    .buildFork (plan ⟨1⟩ ⟨1⟩) "fork-b", .setReceiver ⟨2⟩ ⟨2⟩,
    .call (.connect ⟨0⟩ "k"), .call (.connect ⟨1⟩ "k"), .call (.connect ⟨2⟩ "k")]

/-- The hall after the gathering. -/
def meeting : Store := (hall.run? gathering).getD {}

/-- The gathering, and two greetings of the first fork, between which the second fork is let
go of. -/
def conversation : List Action :=
  gathering ++ [.call (.sendFork ⟨0⟩ greeting), .dropFork "fork-b",
    .call (.sendFork ⟨0⟩ greeting)]

theorem reachable_hall : Reachable Action.IsCalm hall := by
  have made : run? {} (List.replicate 3 (.addAgent .recording)) = some hall := rfl
  refine reachable_of_run? Reachable.empty ?_ made
  intro action member
  rw [List.eq_of_mem_replicate member]
  exact Manner.recording_quiet

theorem reachable_meeting : Reachable Action.IsCalm meeting := by
  obtain ⟨made, ran⟩ := Option.isSome_iff_exists.mp
    (by decide +kernel : (hall.run? gathering).isSome = true)
  have isMeeting : meeting = made := by
    unfold meeting
    rw [ran]
    rfl
  rw [isMeeting]
  refine reachable_of_run? reachable_hall ?_ ran
  simp [gathering, Action.IsCalm]

/-- A greeting of the first fork reaches both forks, and the top of the node without one. The
second greeting finds the second fork gone: nobody gets it in its place. -/
theorem send_reachesOnce_meeting :
    (∃ after, meeting.call (.sendFork ⟨0⟩ greeting) = some (.ok (), after) ∧
      meeting.ReachesOnce after ⟨0⟩ greeting "k"
        (meeting.targetsOf (meeting.forks.get ⟨0⟩).node
          ((meeting.forks.get ⟨0⟩).tag greeting))
        (fun node => meeting.recipient? node (meeting.copyOf ⟨0⟩ greeting))) ∧
    meeting.targetsOf (meeting.forks.get ⟨0⟩).node
      ((meeting.forks.get ⟨0⟩).tag greeting) = [⟨0⟩, ⟨1⟩, ⟨2⟩] ∧
    ([⟨0⟩, ⟨1⟩, ⟨2⟩].map fun node =>
      meeting.recipient? node (meeting.copyOf ⟨0⟩ greeting)) =
        [some ⟨0⟩, some ⟨1⟩, some ⟨2⟩] ∧
    ∃ after, hall.run? conversation = some after ∧
      (after.agents.get ⟨1⟩).log = [meeting.copyOf ⟨0⟩ greeting] ∧
      (after.agents.get ⟨2⟩).log = List.replicate 2 (meeting.copyOf ⟨0⟩ greeting) := by
  obtain ⟨sends, _, _⟩ := send_reachesOnce reachable_meeting
  obtain ⟨_, _, runs⟩ := send_reachesOnce reachable_hall
  refine ⟨?_, by decide +kernel, by decide +kernel, ?_⟩
  · cases writes : Encoding.writeMessage (meeting.copyOf ⟨0⟩ greeting) with
    | error refusal =>
        have succeeds : (Encoding.writeMessage (meeting.copyOf ⟨0⟩ greeting)).toOption.isSome =
            true := by decide +kernel
        rw [writes] at succeeds
        cases succeeds
    | ok written =>
        exact sends ⟨0⟩ greeting "k" written (by decide +kernel) (by decide +kernel)
          (by decide +kernel) writes
  · obtain ⟨after, ran⟩ := Option.isSome_iff_exists.mp
      (by decide +kernel : (hall.run? conversation).isSome = true)
    have calm : ∀ action ∈ conversation, action.IsCalm ∧ action.isInside = true := by
      simp [conversation, gathering, Action.IsCalm, Action.isInside]
    refine ⟨after, ran, ?_, ?_⟩
    · rw [(runs conversation after ⟨1⟩ calm ran (by decide)).2 rfl]
      decide +kernel
    · rw [(runs conversation after ⟨2⟩ calm ran (by decide)).2 rfl]
      decide +kernel

end Store

end ChannelMux
