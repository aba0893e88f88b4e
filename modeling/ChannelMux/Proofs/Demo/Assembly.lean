import ChannelMux.Proofs.Demo.Furnishing

/-!
Contract: the stores in which hosts of a demonstration have been made and nothing else has
happened.

Owns what is so of such a store: it is reached by calm actions, what has been made for one host
is apart from what has been made for another, and only nodes and forks of hosts have names. Owns
that layers and queues can be added to it, and a host, and a channel to the host made last.

Does not own when a fork can be built.
-/

namespace ChannelMux

namespace Table

variable {kind : Kind} {α : Type}

/-- Whatever has a name after one has been given had it before, unless it is the new name. -/
theorem mem_namesOf_of_name
    {table : Table kind α}
    {ref other : Ref kind}
    {name kept : String}
    (issued : table.Issued ref)
    (member : kept ∈ (table.name ref name).namesOf other) :
    kept ∈ table.namesOf other ∨ kept = name := by
  by_cases same : other = ref
  · rw [same, namesOf_name_self issued, List.mem_append, List.mem_singleton] at member
    rcases member with old | new
    · rw [same]
      exact Or.inl (List.mem_filter.mp old).1
    · exact Or.inr new
  · rw [namesOf_name_of_ne same] at member
    exact Or.inl (List.mem_filter.mp member).1

end Table

theorem Manner.queue_quiet : Manner.queue.Quiet := by
  intro notice
  cases notice with
  | up traffic =>
      cases traffic with
      | single event => rfl
      | batch whole => exact Script.settles_forEach fun _ _ => rfl
  | down event => rfl
  | status entered now => rfl

namespace Demo

/-- The place of a channel at its host. -/
def Channel.seat (channel : Channel) : Nat × Nat := (channel.group, channel.member)

/-- Hosts have been made and nothing else has happened. -/
structure Assembled (store : Store) (hosts : List Host) : Prop where
  reachable : store.Reachable Action.IsCalm
  pristine : Pristine store
  furnishes : ∀ host ∈ hosts, Furnishes store host
  nodes : (hosts.map Host.node).Nodup
  queues : (hosts.flatMap Host.queues).Nodup
  nodeLabels : ∀ node, ∀ label ∈ store.nodes.namesOf node,
    ∃ host ∈ hosts, label = nodeName host.number
  forkLabels : ∀ fork, ∀ label ∈ store.forks.namesOf fork,
    ∃ host ∈ hosts, ∃ channel ∈ host.channels,
      label = channelName host.number channel.group channel.member

namespace Assembled

theorem empty : Assembled {} [] where
  reachable := .empty
  pristine := .empty
  furnishes := by simp
  nodes := List.nodup_nil
  queues := List.nodup_nil
  nodeLabels _ _ member := by cases member
  forkLabels _ _ member := by cases member

variable {store : Store} {hosts : List Host} (assembled : Assembled store hosts)

include assembled

theorem wired : store.Wired := Store.wired_of_reachable assembled.reachable

theorem soleHubs : store.SoleHubs := Store.soleHubs_of_reachable assembled.reachable

theorem nodup_hosts : hosts.Nodup := List.Nodup.of_map Host.node assembled.nodes

theorem eq_of_node_eq
    {host other : Host}
    (isHost : host ∈ hosts)
    (isOther : other ∈ hosts)
    (same : other.node = host.node) :
    other = host := List.inj_on_of_nodup_map assembled.nodes isOther isHost same

/-- What leaves every host alone, and names nothing, leaves the store as it should be. -/
theorem of_untouched
    {after : Store}
    (action : Action)
    (calm : action.IsCalm)
    (acted : store.act? action = some after)
    (pristine : Pristine after)
    (untouched : ∀ host, Furnishes store host → Untouched host store after)
    (nodes : after.nodes = store.nodes)
    (forks : after.forks = store.forks) :
    Assembled after hosts where
  reachable := .step assembled.reachable calm acted
  pristine := pristine
  furnishes host member :=
    (untouched host (assembled.furnishes host member)).furnishes (assembled.furnishes host member)
  nodes := assembled.nodes
  queues := assembled.queues
  nodeLabels := by
    rw [nodes]
    exact assembled.nodeLabels
  forkLabels := by
    rw [forks]
    exact assembled.forkLabels

theorem addLayer (name : String) :
    Assembled (store.addStage { name := name, role := .custom .transparent }).2 hosts := by
  have uncounted : Stage.Uncounted { name := name, role := .custom .transparent } := by
    intro state isHub
    cases isHub
  apply assembled.of_untouched (.addStage name .transparent)
  · exact Conduct.transparent_transparent
  · rfl
  · exact assembled.pristine.addStage uncounted
  · exact fun host furnishes => untouched_addStage assembled.wired furnishes _
  · rfl
  · rfl

theorem addQueue : Assembled (store.addAgent { manner := .queue }).2 hosts := by
  apply assembled.of_untouched (.addAgent .queue)
  · exact Manner.queue_quiet
  · rfl
  · exact assembled.pristine.addAgent .queue
  · exact fun host _ => untouched_addAgent _
  · rfl
  · rfl

/-- A queue that is not there yet is nobody's. -/
theorem next_not_mem_queues : store.agents.next ∉ hosts.flatMap Host.queues := by
  intro member
  obtain ⟨host, isHost, ofHost⟩ := List.mem_flatMap.mp member
  exact Table.ne_next ((assembled.furnishes host isHost).queues _ ofHost).1 rfl

/-- A host is made, but for its forks. -/
theorem addHost
    {number : Nat}
    {stages : List (Ref .stage)}
    {queue : Ref .agent}
    (newNumber : number ∉ hosts.map Host.number)
    (customs : ∀ stage ∈ stages, store.IsCustom stage)
    (names : stages.map (fun stage => (store.stages.get stage).name) = layers)
    (queueIssued : store.agents.Issued queue)
    (isQueue : (store.agents.get queue).manner = .queue)
    (newQueue : queue ∉ hosts.flatMap Host.queues) :
    Assembled (withNode store number stages queue)
      (hosts ++ [{ number := number, node := store.nodes.next, queue := queue, channels := [] }])
    := by
  have wired := assembled.wired
  have newName (node : Ref .node) : nodeName number ∉ store.nodes.namesOf node := by
    intro member
    obtain ⟨host, isHost, same⟩ := assembled.nodeLabels node _ member
    rw [nodeName_inj.mp same] at newNumber
    exact newNumber (List.mem_map_of_mem isHost)
  have made : Furnishes (withNode store number stages queue)
      { number := number, node := store.nodes.next, queue := queue, channels := [] } :=
    furnishes_withNode customs names
      (fun fork alive => (wired.forks fork (Table.issued_of_isNamed alive)).node)
      queueIssued isQueue
  refine ⟨?_, ?_, ?_, ?_, ?_, ?_, ?_⟩
  · let added := ((store.addNode (nodeName number) (.ofNat number) "" stages).2.nameNode
      store.nodes.next (nodeName number))
    have addedBy : store.act? (.addNode (nodeName number) (nodeName number) (.ofNat number) ""
        stages) = some added := by
      unfold Store.act?
      rw [Store.given_eq_some]
      exact ⟨Store.all_isCustom_iff.mpr customs, rfl⟩
    have alive : added.isNodeAlive store.nodes.next = true := made.alive
    have pipeline : (added.nodes.get store.nodes.next).pipeline =
        ((store.addNode (nodeName number) (.ofNat number) "" stages).2.nodes.get
          store.nodes.next).pipeline :=
      congrArg Node.pipeline (Table.get_name _ _ _ _)
    have received : added.act? (.setReceiver store.nodes.next queue) =
        some (withNode store number stages queue) := by
      unfold Store.act?
      rw [Store.given_eq_some, pipeline]
      exact ⟨alive, rfl⟩
    exact .step (.step assembled.reachable (by trivial) addedBy) (by trivial) received
  · exact assembled.pristine.addNode _ _ _ _ _ _ _
  · intro host member
    rcases List.mem_append.mp member with old | new
    · have furnishes := assembled.furnishes host old
      exact (untouched_withNode wired furnishes (newName host.node)).furnishes furnishes
    · rw [List.mem_singleton.mp new]
      exact made
  · rw [List.map_append, List.nodup_append]
    refine ⟨assembled.nodes, List.nodup_singleton _, ?_⟩
    intro node old other new same
    obtain ⟨host, isHost, rfl⟩ := List.mem_map.mp old
    rw [List.map_singleton, List.mem_singleton] at new
    exact Table.ne_next ((assembled.furnishes host isHost).issued wired) (same.trans new)
  · rw [List.flatMap_append, List.nodup_append]
    refine ⟨assembled.queues, List.nodup_singleton _, ?_⟩
    intro other old another new same
    obtain rfl : another = queue := List.mem_singleton.mp new
    rw [same] at old
    exact newQueue old
  · intro node label member
    rw [nodes_withNode] at member
    rcases Table.mem_namesOf_of_name (Table.issued_add_next _ _) member with old | new
    · rw [Table.namesOf_add] at old
      obtain ⟨host, isHost, same⟩ := assembled.nodeLabels node label old
      exact ⟨host, List.mem_append_left _ isHost, same⟩
    · exact ⟨_, List.mem_append_right _ List.mem_cons_self, new⟩
  · intro fork label member
    obtain ⟨host, isHost, rest⟩ := assembled.forkLabels fork label member
    exact ⟨host, List.mem_append_left _ isHost, rest⟩

end Assembled

section LastHost

variable {store built : Store} {settings : ForkSettings} {hosts : List Host} {host : Host}
  {channel : Channel} (assembled : Assembled store (hosts ++ [host]))

include assembled

/-- A channel for a place that the last host has none for yet has a label of its own. -/
theorem Assembled.label_fresh
    (label : channel.label = channelName host.number channel.group channel.member)
    (numbers : ((hosts ++ [host]).map Host.number).Nodup)
    (newSeat : channel.seat ∉ host.channels.map Channel.seat)
    (fork : Ref .fork) :
    channel.label ∉ store.forks.namesOf fork := by
  intro known
  obtain ⟨owner, isOwner, old, isOld, same⟩ := assembled.forkLabels fork _ known
  rw [label, channelName_inj] at same
  obtain ⟨sameNumber, sameGroup, sameMember⟩ := same
  have isHost : host ∈ hosts ++ [host] := List.mem_append_right _ List.mem_cons_self
  rw [List.inj_on_of_nodup_map numbers isOwner isHost sameNumber.symm] at isOld
  refine newSeat (List.mem_map.mpr ⟨old, isOld, ?_⟩)
  unfold Channel.seat
  rw [sameGroup, sameMember]

theorem Assembled.node_ne_last
    {other : Host}
    (member : other ∈ hosts) :
    other.node ≠ host.node := by
  have nodup := assembled.nodes
  rw [List.map_append, List.nodup_append] at nodup
  exact nodup.2.2 _ (List.mem_map_of_mem member) _ (List.mem_singleton_self _)

/-- The host made last gets one more channel. -/
theorem Assembled.addChannel
    (isBuilt : store.buildFork
      (channelPlan settings host.node channel.group channel.member channel.queue) =
        .ok (channel.fork, built))
    (label : channel.label = channelName host.number channel.group channel.member)
    (numbers : ((hosts ++ [host]).map Host.number).Nodup)
    (newSeat : channel.seat ∉ host.channels.map Channel.seat)
    (room : host.channels.length + 1 < UInt64.size)
    (queueIssued : store.agents.Issued channel.queue)
    (isQueue : (store.agents.get channel.queue).manner = .queue)
    (newQueue : channel.queue ∉ (hosts ++ [host]).flatMap Host.queues) :
    Assembled (built.nameFork channel.fork channel.label) (hosts ++ [host.with channel]) := by
  have wired := assembled.wired
  have isHost : host ∈ hosts ++ [host] := List.mem_append_right _ List.mem_cons_self
  have furnishes := assembled.furnishes host isHost
  have issued := furnishes.issued wired
  obtain ⟨node, group, member, hub, stack, sameNode, sameGroup, sameMember, _, _, builds⟩ :=
    Store.builds_of_buildFork (fun node isNode => by
      cases isNode
      exact wired.grounded issued) isBuilt
  cases sameNode
  cases sameGroup
  cases sameMember
  have fresh := assembled.label_fresh label numbers newSeat
  have made := furnishes_build wired furnishes builds fresh queueIssued isQueue
  have acted : store.act? (.buildFork
      (channelPlan settings host.node channel.group channel.member channel.queue)
      channel.label) = some (built.nameFork channel.fork channel.label) := by
    unfold Store.act?
    rw [Store.given_eq_some]
    refine ⟨?_, ?_⟩
    · rw [Bool.and_eq_true_iff, Bool.and_eq_true_iff]
      exact ⟨⟨furnishes.alive, furnishes.canSubscribe room⟩, rfl⟩
    · rw [isBuilt]
  have tables := nameFork_built builds fresh
  refine ⟨.step assembled.reachable (by trivial) acted, ?_, ?_, ?_, ?_, ?_, ?_⟩
  · rw [tables]
    exact { assembled.pristine.buildFork isBuilt with }
  · intro other member
    rcases List.mem_append.mp member with old | new
    · have furnishesOther := assembled.furnishes other (List.mem_append_left _ old)
      exact (untouched_build wired builds fresh assembled.soleHubs issued furnishesOther
        (assembled.node_ne_last old)).furnishes furnishesOther
    · rw [List.mem_singleton.mp new]
      exact made
  · have nodes := assembled.nodes
    rw [List.map_append] at nodes ⊢
    exact nodes
  · have split : (hosts ++ [host.with channel]).flatMap Host.queues =
        (hosts ++ [host]).flatMap Host.queues ++ [channel.queue] := by
      simp [Host.with, Host.queues]
    rw [split, List.nodup_append]
    refine ⟨assembled.queues, List.nodup_singleton _, ?_⟩
    intro queue old other new same
    rw [List.mem_singleton.mp new] at same
    rw [same] at old
    exact newQueue old
  · intro other name known
    rw [tables] at known
    change name ∈ built.nodes.namesOf other at known
    rw [builds.nodes, Table.namesOf_modify] at known
    obtain ⟨owner, isOwner, same⟩ := assembled.nodeLabels other name known
    rcases List.mem_append.mp isOwner with old | new
    · exact ⟨owner, List.mem_append_left _ old, same⟩
    · rw [List.mem_singleton.mp new] at same
      exact ⟨_, List.mem_append_right _ List.mem_cons_self, same⟩
  · intro other name known
    rw [tables] at known
    rcases Table.mem_namesOf_of_name (builds.issued_fork.mpr (Or.inr rfl)) known with old | new
    · rw [builds.forks, Table.namesOf_add] at old
      obtain ⟨owner, isOwner, earlier, isEarlier, same⟩ := assembled.forkLabels other name old
      rcases List.mem_append.mp isOwner with old | new
      · exact ⟨owner, List.mem_append_left _ old, earlier, isEarlier, same⟩
      · rw [List.mem_singleton.mp new] at same isEarlier
        exact ⟨_, List.mem_append_right _ List.mem_cons_self, earlier,
          Host.mem_with.mpr (Or.inl isEarlier), same⟩
    · exact ⟨_, List.mem_append_right _ List.mem_cons_self, channel,
        Host.mem_with.mpr (Or.inr rfl), new.trans label⟩

end LastHost

end Demo

end ChannelMux
