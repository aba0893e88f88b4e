import ChannelMux.Proofs.Demo.Assembly
import ChannelMux.Proofs.Demo.Playing
import ChannelMux.Proofs.Forking.Permission

/-!
Contract: the making of the hosts of a demonstration.

Owns the settings under which every fork of a demonstration can be built. Under these every host
is made, with a channel for every member of every group, group by group; under others the making
of the first host is refused.

Does not own what hosts do once they are made.
-/

namespace ChannelMux.Demo

/-- The places of a group of which some members have been seen to. -/
def row (group members : Nat) : List (Nat × Nat) :=
  (List.range members).map fun member => (group, member)

/-- The places of all groups below a number. -/
def rows (plan : Plan) (groups : Nat) : List (Nat × Nat) :=
  (List.range groups).flatMap fun group => row group plan.members

/-- The places of channels at a host, group by group. -/
def Plan.seats (plan : Plan) : List (Nat × Nat) := rows plan plan.groups

theorem Plan.isPositive_iff {plan : Plan} :
    plan.isPositive = true ↔ 0 < plan.nodes ∧ 0 < plan.groups ∧ 0 < plan.members := by
  simp [Plan.isPositive, and_assoc]

/-- Every fork can be built: there may be a demultiplexer where there is a place for one, and no
group that is there has to be joined if it must not be. -/
structure Plan.Feasible (plan : Plan) (settings : ForkSettings) : Prop where
  creates : settings.createIfAbsent = true
  placed : ∀ neighbor, settings.placement.neighbor? = some neighbor → neighbor ∈ layers
  alone : settings.requireFreshGroup = true → plan.members = 1

/-- Settings let a channel of a group be made at a host that has channels at these places. -/
structure Grants (settings : ForkSettings) (seats : List (Nat × Nat)) (group : Nat) : Prop where
  hub : seats = [] → settings.createIfAbsent = true ∧
    ∀ neighbor, settings.placement.neighbor? = some neighbor → neighbor ∈ layers
  stack : settings.requireFreshGroup = true → ∀ seat ∈ seats, seat.1 ≠ group

/-- A host is being made behind others, and has channels at these places so far. -/
structure Making (store : Store) (hosts : List Host) (host : Host) (seats : List (Nat × Nat)) :
    Prop extends Assembled store (hosts ++ [host]) where
  numbers : ((hosts ++ [host]).map Host.number).Nodup
  seated : host.channels.map Channel.seat = seats
  labels : ∀ channel ∈ host.channels,
    channel.label = channelName host.number channel.group channel.member

/-- The hosts of all numbers below a count have been made. -/
structure Made (plan : Plan) (count : Nat) (hosts : List Host) (store : Store) :
    Prop extends Assembled store hosts where
  numbers : hosts.map Host.number = List.range count
  seated : ∀ host ∈ hosts, host.channels.map Channel.seat = plan.seats
  labels : ∀ host ∈ hosts, ∀ channel ∈ host.channels,
    channel.label = channelName host.number channel.group channel.member

/-! ### One channel -/

section Channels

variable {store : Store} {hosts : List Host} {host : Host} {seats : List (Nat × Nat)}
  {settings : ForkSettings} {group member : Nat}

theorem makeQueue_eq (store : Store) :
    makeQueue store = .ok (store.agents.next, (store.addAgent { manner := .queue }).2) := rfl

/-- What comes of making a channel is what comes of building its fork. -/
theorem makeChannel_eq (number : Nat) (node : Ref .node) (store : Store) :
    makeChannel settings number node group member store =
      match (store.addAgent { manner := .queue }).2.buildFork
        (channelPlan settings node group member store.agents.next) with
      | .ok (fork, built) => .ok (
          { group := group, member := member, label := channelName number group member
            fork := fork, queue := store.agents.next },
          built.nameFork fork (channelName number group member))
      | .error refusal => .error (.refused refusal) := by
  unfold makeChannel
  dsimp only
  rw [Play.bind_of_ok (makeQueue_eq store)]
  change (Except.bind (attempt _ _) _) = _
  unfold channelPlan
  cases (store.addAgent { manner := .queue }).2.buildFork _ with
  | ok made => rfl
  | error refusal => rfl

namespace Making

variable (making : Making store hosts host seats)

include making

theorem isHost : Furnishes store host :=
  making.furnishes host (List.mem_append_right _ List.mem_cons_self)

theorem issued : store.nodes.Issued host.node := making.isHost.issued making.wired

theorem addQueue : Making (store.addAgent { manner := .queue }).2 hosts host seats :=
  { making with toAssembled := making.toAssembled.addQueue }

/-- Without a channel there is no demultiplexer yet; with one there is. -/
theorem permits_hub_iff :
    ((store.hub? host.node).isSome ∨ settings.createIfAbsent = true ∧
        (settings.placement.index?
          (store.stageNames (store.nodes.get host.node).pipeline)).isSome) ↔
      (seats = [] → settings.createIfAbsent = true ∧
        ∀ neighbor, settings.placement.neighbor? = some neighbor → neighbor ∈ layers) := by
  have seated := making.seated
  cases channels : host.channels with
  | nil =>
      obtain ⟨noHub, names⟩ := making.isHost.bare channels
      rw [channels] at seated
      simp [noHub, names, ← seated, Placement.isSome_index?_iff]
  | cons channel rest =>
      have isChannel : channel ∈ host.channels := by simp [channels]
      have hub := making.isHost.isSome_hub? isChannel
      rw [channels] at seated
      simp [hub, ← seated]

/-- The fork of a channel is permitted just if the channel may be made. -/
theorem permits_iff (new : (group, member) ∉ seats) :
    store.Permits host.node (groupName group) (memberName member) settings ↔
      Grants settings seats group := by
  have free : store.boundFork? host.node (groupName group) (memberName member) = none := by
    cases found : store.boundFork? host.node (groupName group) (memberName member) with
    | none => rfl
    | some fork =>
        obtain ⟨alive, atNode, ofGroup, asMember⟩ := making.wired.boundFork?_eq_some.mp found
        obtain ⟨channel, isChannel, rfl⟩ := making.isHost.noOthers fork alive atNode
        obtain ⟨_, _, sameGroup, sameMember⟩ := (making.isHost.channels channel isChannel).bound
        rw [ofGroup, groupName_inj] at sameGroup
        rw [asMember, memberName_inj] at sameMember
        refine absurd ?_ new
        rw [← making.seated, sameGroup, sameMember]
        exact List.mem_map_of_mem isChannel
  -- Different groups have different names, so that no other group is taken for this one.
  have unjoined : store.groupStack? host.node (groupName group) = none ↔
      ∀ seat ∈ seats, seat.1 ≠ group := by
    rw [← Option.not_isSome_iff_eq_none, making.isHost.registered]
    simp only [groupName_inj, ← making.seated, List.forall_mem_map, Channel.seat]
    push Not
    exact ⟨fun apart channel member => (apart channel member).symm,
      fun apart channel member => (apart channel member).symm⟩
  refine ⟨fun permits => ⟨making.permits_hub_iff.mp permits.hub, fun requireFresh => ?_⟩,
    fun grants => ⟨making.permits_hub_iff.mpr grants.hub, fun requireFresh => ?_, free⟩⟩
  · exact unjoined.mp (permits.stack requireFresh)
  · exact unjoined.mpr (grants.stack requireFresh)

theorem exists_buildFork_iff (new : (group, member) ∉ seats) (queue : Ref .agent) :
    (∃ made, store.buildFork (channelPlan settings host.node group member queue) = .ok made) ↔
      Grants settings seats group := by
  rw [← making.permits_iff new]
  apply Store.exists_buildFork_iff making.wired making.issued rfl rfl rfl
    (groupName_ne_empty group) (memberName_ne_empty member)
  intro stage listed
  cases listed

/-- A channel that may be made is made. -/
theorem makeChannel_ok
    (new : (group, member) ∉ seats)
    (room : seats.length + 1 < UInt64.size)
    (grants : Grants settings seats group) :
    ∃ channel after, makeChannel settings host.number host.node group member store =
        .ok (channel, after) ∧
      Making after hosts (host.with channel) (seats ++ [(group, member)]) := by
  have queued := making.addQueue
  obtain ⟨⟨fork, built⟩, isBuilt⟩ :=
    (queued.exists_buildFork_iff new store.agents.next).mpr grants
  let channel : Channel :=
    { group := group, member := member, label := channelName host.number group member
      fork := fork, queue := store.agents.next }
  have isNext : (store.addAgent { manner := .queue }).2.agents.get store.agents.next = _ :=
    Table.get_add_next _ _
  have newSeat : channel.seat ∉ host.channels.map Channel.seat := by
    rw [making.seated]
    exact new
  have left : host.channels.length + 1 < UInt64.size := by
    rw [← making.seated, List.length_map] at room
    exact room
  have assembled : Assembled (built.nameFork channel.fork channel.label)
      (hosts ++ [host.with channel]) :=
    queued.toAssembled.addChannel isBuilt rfl making.numbers newSeat left
      (Table.issued_add_next _ _) (congrArg Agent.manner isNext)
      making.toAssembled.next_not_mem_queues
  refine ⟨channel, built.nameFork fork (channelName host.number group member), ?_,
    assembled, ?_, ?_, ?_⟩
  · rw [makeChannel_eq, isBuilt]
  · have numbers := making.numbers
    rw [List.map_append] at numbers ⊢
    exact numbers
  · simp [Host.with, making.seated, channel, Channel.seat]
  · intro other member
    rcases Host.mem_with.mp member with old | rfl
    · exact making.labels other old
    · rfl

/-- A channel that may not be made is not. -/
theorem makeChannel_refused
    (new : (group, member) ∉ seats)
    (denied : ¬ Grants settings seats group) :
    IsRefused (makeChannel settings host.number host.node group member) store := by
  have queued := making.addQueue
  unfold IsRefused
  rw [makeChannel_eq]
  cases isBuilt : (store.addAgent { manner := .queue }).2.buildFork
      (channelPlan settings host.node group member store.agents.next) with
  | error refusal => exact ⟨refusal, rfl⟩
  | ok made => exact absurd ((queued.exists_buildFork_iff new _).mp ⟨made, isBuilt⟩) denied

end Making

end Channels

/-! ### The channels of a host -/

theorem mem_row {group members : Nat} {seat : Nat × Nat} :
    seat ∈ row group members ↔ seat.1 = group ∧ seat.2 < members := by
  unfold row
  rw [List.mem_map]
  constructor
  · rintro ⟨member, inRange, rfl⟩
    exact ⟨rfl, List.mem_range.mp inRange⟩
  · rintro ⟨rfl, inRange⟩
    exact ⟨seat.2, List.mem_range.mpr inRange, rfl⟩

theorem mem_rows {plan : Plan} {groups : Nat} {seat : Nat × Nat} :
    seat ∈ rows plan groups ↔ seat.1 < groups ∧ seat.2 < plan.members := by
  unfold rows
  rw [List.mem_flatMap]
  simp only [mem_row, List.mem_range]
  constructor
  · rintro ⟨group, inRange, rfl, member⟩
    exact ⟨inRange, member⟩
  · rintro ⟨inRange, member⟩
    exact ⟨seat.1, inRange, rfl, member⟩

theorem Plan.mem_seats {plan : Plan} {seat : Nat × Nat} :
    seat ∈ plan.seats ↔ seat.1 < plan.groups ∧ seat.2 < plan.members := mem_rows

theorem Plan.nodup_seats (plan : Plan) : plan.seats.Nodup := by
  unfold Plan.seats rows
  refine List.nodup_flatMap.mpr ⟨fun group _ => ?_, ?_⟩
  · exact List.nodup_range.map fun _ _ same => congrArg Prod.snd same
  · refine List.nodup_range.imp fun different => ?_
    intro seat ofOne ofOther
    exact different ((mem_row.mp ofOne).1.symm.trans (mem_row.mp ofOther).1)

theorem rows_succ (plan : Plan) (groups : Nat) :
    rows plan (groups + 1) = rows plan groups ++ row groups plan.members := by
  unfold rows
  rw [List.range_succ, List.flatMap_append, List.flatMap_singleton]

theorem row_succ (group members : Nat) :
    row group (members + 1) = row group members ++ [(group, members)] := by
  unfold row
  rw [List.range_succ, List.map_append, List.map_singleton]

/-- Before the last channel of a host is made there are fewer than all of them. -/
theorem length_places_lt
    {plan : Plan}
    {group member : Nat}
    (isGroup : group < plan.groups)
    (isMember : member < plan.members) :
    (rows plan group ++ row group member).length + 1 ≤ plan.groups * plan.members := by
  have ofGroups : (rows plan group).length = group * plan.members := by
    unfold rows row
    simp
  have ofGroup : (row group member).length = member := by
    unfold row
    simp
  calc (rows plan group ++ row group member).length + 1
      = group * plan.members + (member + 1) := by
        rw [List.length_append, ofGroups, ofGroup, Nat.add_assoc]
    _ ≤ group * plan.members + plan.members := Nat.add_le_add_left isMember _
    _ = (group + 1) * plan.members := (Nat.succ_mul _ _).symm
    _ ≤ plan.groups * plan.members := Nat.mul_le_mul_right _ isGroup

section Hosts

variable {store : Store} {hosts : List Host} {plan : Plan} {settings : ForkSettings}
  {number : Nat} {node : Ref .node} {queue : Ref .agent}

/-- The channels of a host of which some have been made. -/
def Host.having (number : Nat) (node : Ref .node) (queue : Ref .agent)
    (channels : List Channel) : Host :=
  { number := number, node := node, queue := queue, channels := channels }

/-- The members of a group have got their channels up to a number. -/
def Reached (hosts : List Host) (plan : Plan) (number : Nat) (node : Ref .node)
    (queue : Ref .agent) (earlier : List Channel) (group members : Nat)
    (channels : List Channel) (store : Store) : Prop :=
  Making store hosts (.having number node queue (earlier ++ channels))
    (rows plan group ++ row group members)

theorem Reached.next
    {earlier channels : List Channel}
    {group members : Nat}
    (reached : Reached hosts plan number node queue earlier group members channels store)
    (room : (rows plan group ++ row group members).length + 1 < UInt64.size)
    (grants : Grants settings (rows plan group ++ row group members) group) :
    ∃ channel after, makeChannel settings number node group members store =
        .ok (channel, after) ∧
      Reached hosts plan number node queue earlier group (members + 1) (channels ++ [channel])
        after := by
  have new : (group, members) ∉ rows plan group ++ row group members := by
    simp [mem_rows, mem_row]
  obtain ⟨channel, after, made, making⟩ := reached.makeChannel_ok new room grants
  refine ⟨channel, after, made, ?_⟩
  unfold Reached
  rw [row_succ, ← List.append_assoc, ← List.append_assoc]
  exact making

theorem Reached.refused
    {earlier channels : List Channel}
    {group members : Nat}
    (reached : Reached hosts plan number node queue earlier group members channels store)
    (denied : ¬ Grants settings (rows plan group ++ row group members) group) :
    IsRefused (makeChannel settings number node group members) store := by
  have new : (group, members) ∉ rows plan group ++ row group members := by
    simp [mem_rows, mem_row]
  have refused := Making.makeChannel_refused reached new denied
  exact refused

/-- Under settings under which forks can be built, a member of a group gets its channel. -/
theorem Plan.Feasible.grants
    {group member : Nat}
    (feasible : plan.Feasible settings)
    (inRange : member < plan.members) :
    Grants settings (rows plan group ++ row group member) group where
  hub _ := ⟨feasible.creates, feasible.placed⟩
  stack requireFresh seat isSeat same := by
    have one := feasible.alone requireFresh
    rcases List.mem_append.mp isSeat with earlier | ofGroup
    · exact absurd same (Nat.ne_of_lt (mem_rows.mp earlier).1)
    · have isMember := (mem_row.mp ofGroup).2
      omega

/-- Every channel of a host is made. -/
theorem makeChannels_ok
    (feasible : plan.Feasible settings)
    (fits : plan.groups * plan.members < UInt64.size)
    (making : Making store hosts (.having number node queue []) []) :
    ∃ channels after, makeChannels plan settings number node store = .ok (channels, after) ∧
      Making after hosts (.having number node queue channels) plan.seats := by
  -- Of the groups so far every member has its channel; within a group `Reached` counts members.
  let holds (group : Nat) (lists : List (List Channel)) (store : Store) : Prop :=
    Making store hosts (.having number node queue lists.flatten) (rows plan group)
  obtain ⟨lists, after, gathered, all⟩ : ∃ lists after,
      gather plan.groups (fun group => gather plan.members
        (makeChannel settings number node group)) store = .ok (lists, after) ∧
      holds plan.groups lists after := by
    refine Play.gather_ok holds (fun group lists store isGroup before => ?_) making
    have start : Reached hosts plan number node queue lists.flatten group 0 [] store := by
      have none : row group 0 = [] := rfl
      unfold Reached
      rw [none, List.append_nil, List.append_nil]
      exact before
    obtain ⟨channels, after, gathered, reached⟩ := Play.gather_ok
      (Reached hosts plan number node queue lists.flatten group)
      (fun member channels store isMember reached =>
        reached.next (Nat.lt_of_le_of_lt (length_places_lt isGroup isMember) fits)
          (feasible.grants isMember)) start
    refine ⟨channels, after, gathered, ?_⟩
    unfold holds
    rw [rows_succ, List.flatten_append, List.flatten_singleton]
    exact reached
  refine ⟨lists.flatten, after, ?_, all⟩
  unfold makeChannels
  rw [Play.bind_of_ok gathered]
  rfl

/-- If forks cannot be built then the first or the second channel is refused. -/
theorem makeChannels_refused
    (positive : plan.isPositive = true)
    (infeasible : ¬ plan.Feasible settings)
    (making : Making store hosts (.having number node queue []) []) :
    IsRefused (makeChannels plan settings number node) store := by
  obtain ⟨_, groups, members⟩ := Plan.isPositive_iff.mp positive
  have start : Reached hosts plan number node queue [] 0 0 [] store := making
  apply Play.isRefused_bind
  apply Play.gather_refused_at_once groups
  by_cases first : Grants settings (rows plan 0 ++ row 0 0) 0
  · -- What is wrong is then that a second member may not join the group of the first.
    obtain ⟨creates, placed⟩ := first.hub rfl
    have crowded : ¬ (settings.requireFreshGroup = true → plan.members = 1) :=
      fun alone => infeasible ⟨creates, placed, alone⟩
    obtain ⟨requireFresh, several⟩ := Classical.not_imp.mp crowded
    have denied : ¬ Grants settings (rows plan 0 ++ row 0 1) 0 :=
      fun grants => grants.stack requireFresh (0, 0) (by simp [row]) rfl
    have second : 1 < plan.members := by omega
    have room : (rows plan 0 ++ row 0 0).length + 1 < UInt64.size := by
      change 0 + 1 < UInt64.size
      decide
    refine Play.gather_refused (Reached hosts plan number node queue [] 0)
      (fun member channels store below reached => ?_) second (fun channels store reached => ?_)
      start
    · obtain rfl : member = 0 := by omega
      exact Reached.next reached room first
    · exact reached.refused denied
  · apply Play.gather_refused_at_once members
    exact start.refused first

/-! ### Hosts -/

/-- The layers of a shared pipeline are made. -/
theorem makeLayers_ok (assembled : Assembled store hosts) :
    ∃ stages after, layers.mapM makeLayer store = .ok (stages, after) ∧ Assembled after hosts ∧
      (∀ stage ∈ stages, after.IsCustom stage) ∧
        stages.map (fun stage => (after.stages.get stage).name) = layers := by
  let holds (done : List String) (stages : List (Ref .stage)) (store : Store) : Prop :=
    Assembled store hosts ∧ (∀ stage ∈ stages, store.IsCustom stage) ∧
      stages.map (fun stage => (store.stages.get stage).name) = done
  have each (done : List String) (name : String) (stages : List (Ref .stage)) (store : Store)
      (before : holds done stages store) :
      ∃ stage after, makeLayer name store = .ok (stage, after) ∧
        holds (done ++ [name]) (stages ++ [stage]) after := by
    obtain ⟨assembled, customs, names⟩ := before
    let layer : Stage := { name := name, role := .custom .transparent }
    have new : (store.addStage layer).2.stages.get store.stages.next = layer :=
      Table.get_add_next _ _
    have old (stage : Ref .stage) (member : stage ∈ stages) :
        (store.addStage layer).2.stages.get stage = store.stages.get stage :=
      Table.get_add_of_issued (customs stage member).issued _
    refine ⟨store.stages.next, (store.addStage layer).2, rfl, assembled.addLayer name, ?_, ?_⟩
    · intro stage member
      rcases List.mem_append.mp member with earlier | isNew
      · obtain ⟨conduct, role⟩ := customs stage earlier
        exact ⟨conduct, (congrArg Stage.role (old stage earlier)).trans role⟩
      · rw [List.mem_singleton.mp isNew]
        exact ⟨_, congrArg Stage.role new⟩
    · rw [List.map_append, List.map_singleton, new, ← names]
      congr 1
      exact List.map_congr_left fun stage member => congrArg Stage.name (old stage member)
  have start : holds [] [] store := ⟨assembled, by simp, rfl⟩
  obtain ⟨stages, after, made, all⟩ := Play.mapM_ok each start
  exact ⟨stages, after, made, all⟩

/-- The making of a host comes down to that of its channels. -/
theorem makeHost_eq
    {count : Nat}
    (made : Made plan count hosts store)
    (settings : ForkSettings) :
    ∃ node queue started, Making started hosts (.having count node queue []) [] ∧
      makeHost plan settings count store =
        (makeChannels plan settings count node >>= fun channels =>
          pure (Host.having count node queue channels)) started := by
  obtain ⟨stages, layered, madeLayers, assembled, customs, names⟩ :=
    makeLayers_ok made.toAssembled
  let queued := (layered.addAgent { manner := .queue }).2
  have isNext : queued.agents.get layered.agents.next = _ := Table.get_add_next _ _
  have newNumber : count ∉ hosts.map Host.number := by
    rw [made.numbers]
    simp
  have added : Assembled (withNode queued count stages layered.agents.next)
      (hosts ++ [.having count queued.nodes.next layered.agents.next []]) :=
    assembled.addQueue.addHost newNumber customs names (Table.issued_add_next _ _)
      (congrArg Agent.manner isNext) assembled.next_not_mem_queues
  refine ⟨queued.nodes.next, layered.agents.next, withNode queued count stages
    layered.agents.next, ⟨added, ?_, rfl, by simp [Host.having]⟩, ?_⟩
  · rw [List.map_append, made.numbers, List.map_singleton]
    exact List.range_succ ▸ List.nodup_range
  · unfold makeHost
    rw [Play.bind_of_ok madeLayers, Play.bind_of_ok (makeQueue_eq layered)]
    rfl

theorem makeHost_ok
    {count : Nat}
    (feasible : plan.Feasible settings)
    (fits : plan.groups * plan.members < UInt64.size)
    (made : Made plan count hosts store) :
    ∃ host after, makeHost plan settings count store = .ok (host, after) ∧
      Made plan (count + 1) (hosts ++ [host]) after := by
  obtain ⟨node, queue, started, making, comesDown⟩ := makeHost_eq made settings
  obtain ⟨channels, after, gathered, full⟩ := makeChannels_ok feasible fits making
  refine ⟨.having count node queue channels, after, ?_, full.toAssembled, ?_, ?_, ?_⟩
  · rw [comesDown, Play.bind_of_ok gathered]
    rfl
  · rw [List.map_append, made.numbers, List.map_singleton]
    exact List.range_succ.symm
  · intro host member
    rcases List.mem_append.mp member with old | new
    · exact made.seated host old
    · rw [List.mem_singleton.mp new]
      exact full.seated
  · intro host member
    rcases List.mem_append.mp member with old | new
    · exact made.labels host old
    · rw [List.mem_singleton.mp new]
      exact full.labels

/-! ### All hosts -/

section Made

variable {host : Host} {base : Store} (made : Made plan plan.nodes hosts base)
  (isHost : host ∈ hosts)

include made

theorem Made.length_hosts : hosts.length = plan.nodes := by
  have numbers := congrArg List.length made.numbers
  rwa [List.length_map, List.length_range] at numbers

include isHost

/-- The places of the channels of a host are those of the plan. -/
theorem Made.mem_seats_iff {seat : Nat × Nat} :
    seat ∈ plan.seats ↔ ∃ channel ∈ host.channels, channel.seat = seat := by
  rw [← made.seated host isHost, List.mem_map]

/-- No two channels of a host have one place. -/
theorem Made.nodup_seats : (host.channels.map Channel.seat).Nodup := by
  rw [made.seated host isHost]
  exact plan.nodup_seats

end Made

/-- The hosts of a demonstration are made, if its forks can be built. -/
theorem gather_makeHost_ok
    (feasible : plan.Feasible settings)
    (fits : plan.groups * plan.members < UInt64.size) :
    ∃ hosts store, gather plan.nodes (makeHost plan settings) {} = .ok (hosts, store) ∧
      Made plan plan.nodes hosts store := by
  apply Play.gather_ok (Made plan) fun count hosts store _ made =>
    makeHost_ok feasible fits made
  exact ⟨.empty, rfl, by simp, by simp⟩

/-- If they cannot, the first host is refused. -/
theorem gather_makeHost_refused
    (positive : plan.isPositive = true)
    (infeasible : ¬ plan.Feasible settings) :
    IsRefused (gather plan.nodes (makeHost plan settings)) {} := by
  apply Play.gather_refused_at_once (Plan.isPositive_iff.mp positive).1
  have start : Made plan 0 [] {} := ⟨.empty, rfl, by simp, by simp⟩
  obtain ⟨node, queue, started, making, comesDown⟩ := makeHost_eq start settings
  unfold IsRefused
  rw [comesDown]
  exact Play.isRefused_bind (makeChannels_refused positive infeasible making) _

end Hosts

end ChannelMux.Demo
