import ChannelMux.Proofs.Demo.Joining

/-!
Contract: the hosts of a demonstration speak.

Owns what is said, by hosts for themselves and through their channels, and who hears of it: once
all hosts have joined, everything can be said, every host gets it, and at each host it is for the
queue of the channel at the same place, or of the node. Owns what is charged for it.

Does not own what the whole demonstration comes to.
-/

namespace ChannelMux.Demo

/-! ### What is said -/

/-- Something that is said: a payload, by a host through one of its channels or for itself. -/
structure Speech where
  host : Host
  channel? : Option Channel
  payload : Octets

namespace Speech

/-- The place that a speech is for at every host, if it is for a channel. -/
def seat? (speech : Speech) : Option (Nat × Nat) := speech.channel?.map Channel.seat

def operation (speech : Speech) : Operation :=
  match speech.channel? with
  | some channel => .sendFork channel.fork { payload := speech.payload }
  | none => .sendNode speech.host.node { payload := speech.payload }

/-- The message as it leaves the node. -/
def message (speech : Speech) : Message :=
  match speech.seat? with
  | some (group, member) => ({ payload := speech.payload } : Message).putRouting
      (.between (groupName group) (memberName member))
  | none => { payload := speech.payload }

/-- What the demultiplexers of those who get it count it as. -/
def mark (speech : Speech) : Mark := if speech.seat?.isSome then .routed else .passedThrough

/-- What is charged for a speech: everybody gets it. -/
def charges (speech : Speech) (base : Store) (hosts : List Host) : List Charge :=
  .sent speech.host.node speech.payload.length :: hosts.flatMap fun target =>
    [.received target.node speech.payload.length, .marked (base.hubOf target.node) speech.mark]

/-- A speech by one of the hosts of a demonstration, through one of its channels if through any,
that is short enough. -/
structure IsBy (speech : Speech) (hosts : List Host) : Prop where
  host : speech.host ∈ hosts
  channel : ∀ channel, speech.channel? = some channel → channel ∈ speech.host.channels ∧
    Encoding.HeaderFits
      (.routing (.between (groupName channel.group) (memberName channel.member)))
  short : speech.payload.length ≤ Encoding.maxBodyLength

theorem payload_message (speech : Speech) : speech.message.payload = speech.payload := by
  unfold message
  split <;> rfl

theorem destination_message (speech : Speech) : speech.message.destination? = none := by
  unfold message
  split <;> rfl

theorem routing_message (speech : Speech) :
    speech.message.routing? = speech.seat?.map fun seat =>
      .between (groupName seat.1) (memberName seat.2) := by
  unfold message
  split
  · rename_i group member isSeat
    rw [isSeat, Message.routing?_putRouting]
    rfl
  · rename_i none
    rw [none]
    rfl

theorem hasNoForeignRouting_message (speech : Speech) :
    Encoding.HasNoForeignRouting speech.message := by
  unfold message
  split
  · exact Encoding.hasNoForeignRouting_putRouting _ _
  · intro data member
    cases member

theorem namesGroup_message (speech : Speech) : Store.NamesGroup speech.message := by
  intro routed
  unfold Message.group?
  rw [routing_message] at routed ⊢
  cases isSeat : speech.seat? with
  | none =>
      rw [isSeat] at routed
      cases routed
  | some seat => rfl

theorem writable_stamped
    {speech : Speech}
    {hosts : List Host}
    (isBy : speech.IsBy hosts)
    (store : Store)
    (node : Ref .node) :
    Encoding.Writable (store.stamped node speech.message) := by
  have payload : (store.stamped node speech.message).payload = speech.payload :=
    speech.payload_message
  have headers : (store.stamped node speech.message).headers = speech.message.headers := rfl
  refine ⟨?_, ?_, payload ▸ isBy.short⟩
  · rw [headers]
    unfold message
    split
    · exact (by decide : 1 ≤ Encoding.maxHeaderCount)
    · exact Nat.zero_le _
  · rw [headers]
    unfold message
    split
    · rename_i group member isSeat
      obtain ⟨channel, isChannel, same⟩ := Option.map_eq_some_iff.mp isSeat
      cases same
      intro header listed
      obtain rfl := List.mem_singleton.mp listed
      exact (isBy.channel channel isChannel).2
    · intro header listed
      cases listed

end Speech

/-! ### Listening -/

/-- Who at a host gets what is for a place, or for no place in particular. -/
def Host.ear? (host : Host) : Option (Nat × Nat) → Option (Ref .agent)
  | none => some host.queue
  | some seat => (host.channels.find? fun channel => channel.seat = seat).map Channel.queue

theorem Host.mem_queues_of_ear?
    {host : Host}
    {seat? : Option (Nat × Nat)}
    {queue : Ref .agent}
    (hears : host.ear? seat? = some queue) :
    queue ∈ host.queues := by
  cases seat? with
  | none =>
      cases hears
      exact List.mem_cons_self
  | some seat =>
      obtain ⟨channel, found, rfl⟩ := Option.map_eq_some_iff.mp hears
      exact List.mem_cons_of_mem _ (List.mem_map_of_mem (List.mem_of_find?_eq_some found))

/-- At a host with different queues, who hears of one place hears of no other. -/
theorem Host.ear?_inj
    {host : Host}
    {seat? other? : Option (Nat × Nat)}
    {queue : Ref .agent}
    (distinct : host.queues.Nodup)
    (hears : host.ear? seat? = some queue)
    (hearsOther : host.ear? other? = some queue) :
    other? = seat? := by
  obtain ⟨notFirst, rest⟩ := List.nodup_cons.mp distinct
  have ofSeat {seat : Nat × Nat} (hears : host.ear? (some seat) = some queue) :
      ∃ channel ∈ host.channels, channel.seat = seat ∧ channel.queue = queue := by
    obtain ⟨channel, found, same⟩ := Option.map_eq_some_iff.mp hears
    have isSeat := List.find?_some found
    exact ⟨channel, List.mem_of_find?_eq_some found, of_decide_eq_true isSeat, same⟩
  have apart {seat : Nat × Nat} (hearsNone : host.ear? none = some queue) :
      host.ear? (some seat) ≠ some queue := by
    intro hearsSeat
    obtain ⟨channel, member, _, same⟩ := ofSeat hearsSeat
    cases hearsNone
    exact notFirst (List.mem_map.mpr ⟨channel, member, same⟩)
  cases seat? with
  | none =>
      cases other? with
      | none => rfl
      | some seat => exact absurd hearsOther (apart hears)
  | some seat =>
      cases other? with
      | none => exact absurd hears (apart hearsOther)
      | some other =>
          obtain ⟨channel, member, rfl, same⟩ := ofSeat hears
          obtain ⟨another, isAnother, rfl, sameToo⟩ := ofSeat hearsOther
          rw [List.inj_on_of_nodup_map rest isAnother member (sameToo.trans same.symm)]

section Hearing

variable {plan : Plan} {hosts : List Host} {base store : Store} {cluster : String} {host : Host}
  {speech : Speech}

/-- Of what is said, one who hears of a place is told once if it is for the place, and is not told
otherwise. -/
theorem Made.countP_ear?
    (made : Made plan plan.nodes hosts base)
    (isHost : host ∈ hosts)
    {seat? other? : Option (Nat × Nat)}
    {queue : Ref .agent}
    (hears : host.ear? seat? = some queue) :
    (hosts.countP fun target => target.ear? other? = some queue) =
      if other? = seat? then 1 else 0 := by
  obtain ⟨distinct, apart⟩ := List.nodup_flatMap.mp made.queues
  -- Queues of different hosts are different, so only the one host can count.
  have atHost {target : Host} (isTarget : target ∈ hosts)
      (hearsToo : target.ear? other? = some queue) :
      target = host := by
    by_contra different
    have symmetric : Std.Symm (Function.onFun List.Disjoint Host.queues) :=
      ⟨fun _ _ disjoint _ inOne inOther => disjoint inOther inOne⟩
    have disjoint := apart.forall isTarget isHost different
    exact disjoint (Host.mem_queues_of_ear? hearsToo) (Host.mem_queues_of_ear? hears)
  split
  · rename_i same
    have justHost : (hosts.countP fun target => target.ear? other? = some queue) =
        (hosts.map Host.node).count host.node := by
      rw [List.count, List.countP_map]
      refine List.countP_congr fun target isTarget => ?_
      simp only [decide_eq_true_eq, Function.comp_apply, beq_iff_eq]
      refine ⟨fun hearsToo => congrArg Host.node (atHost isTarget hearsToo), fun sameNode => ?_⟩
      rw [made.eq_of_node_eq isHost isTarget sameNode, same]
      exact hears
    rw [justHost]
    exact List.count_eq_one_of_mem made.nodes (List.mem_map_of_mem isHost)
  · rename_i different
    rw [List.countP_eq_zero]
    intro target isTarget hearsToo
    have hearsToo := of_decide_eq_true hearsToo
    rw [atHost isTarget hearsToo] at hearsToo
    exact different (Host.ear?_inj (distinct host isHost) hears hearsToo)

/-- At a host the channel at a place gets what is for the place. -/
theorem Made.ear?_seat
    (made : Made plan plan.nodes hosts base)
    (isHost : host ∈ hosts)
    {channel : Channel}
    (isChannel : channel ∈ host.channels) :
    host.ear? (some channel.seat) = some channel.queue := by
  have isSome : (host.channels.find? fun other => other.seat = channel.seat).isSome :=
    List.find?_isSome.mpr ⟨channel, isChannel, decide_eq_true rfl⟩
  obtain ⟨other, found⟩ := Option.isSome_iff_exists.mp isSome
  have sameSeat := List.find?_some found
  have same : other = channel := List.inj_on_of_nodup_map (made.nodup_seats isHost)
    (List.mem_of_find?_eq_some found) isChannel (of_decide_eq_true sameSeat)
  unfold Host.ear?
  dsimp only
  rw [found, same]
  rfl

/-- A host has a channel for every place that a speech can be for. -/
theorem Made.exists_channel
    (made : Made plan plan.nodes hosts base)
    (isBy : speech.IsBy hosts)
    (isHost : host ∈ hosts)
    {seat : Nat × Nat}
    (isSeat : speech.seat? = some seat) :
    ∃ channel ∈ host.channels, channel.seat = seat := by
  obtain ⟨spoken, isSpoken, rfl⟩ := Option.map_eq_some_iff.mp isSeat
  refine (made.mem_seats_iff isHost).mp ((made.mem_seats_iff isBy.host).mpr ?_)
  exact ⟨spoken, (isBy.channel spoken isSpoken).1, rfl⟩

end Hearing

section Speaking

variable {plan : Plan} {hosts : List Host} {base store : Store} {cluster : String} {host : Host}
  {speech : Speech} (made : Made plan plan.nodes hosts base) (positive : plan.isPositive = true)
  (underway : Underway base hosts hosts cluster store) (isBy : speech.IsBy hosts)

include made underway in
/-- Once all have joined, what is for everybody goes to all of them. -/
theorem Underway.targetsOf_eq
    {message : Message}
    (isHost : host ∈ hosts)
    (everybody : message.destination? = none) :
    store.targetsOf host.node message = hosts.map Host.node := by
  have network := (underway.furnishes (made.furnishes host isHost)).network
  have inCluster := (underway.connected host isHost).2
  unfold Store.targetsOf Delivery.targets
  rw [network, inCluster, Option.getD_some, everybody, ← underway.members]
  dsimp only
  congr 1
  rw [List.filter_eq_self]
  intro member isMember
  have isNode : member.node ∈ hosts.map Host.node := by
    rw [← underway.members]
    exact List.mem_map_of_mem isMember
  obtain ⟨other, isOther, same⟩ := List.mem_map.mp isNode
  rw [← same]
  exact (underway.furnishes (made.furnishes other isOther)).alive

include made positive underway isBy in
/-- A speech can be sent to everybody. -/
theorem Underway.sendable : store.Sendable base.hubOf speech.host.node speech.message where
  connected := (underway.connected speech.host isBy.host).1
  writable := Speech.writable_stamped isBy store speech.host.node
  noForeign := speech.hasNoForeignRouting_message
  named := speech.namesGroup_message
  clear := by
    rw [underway.targetsOf_eq made isBy.host speech.destination_message]
    intro target isTarget
    obtain ⟨other, isOther, rfl⟩ := List.mem_map.mp isTarget
    exact underway.clearWay (made.furnishes other isOther) (made.hub?_eq positive isOther)

include made positive underway isBy in
theorem Underway.markOf_eq (isHost : host ∈ hosts) :
    store.markOf (base.hubOf host.node) speech.message = speech.mark := by
  have found := made.hub?_eq positive isHost
  unfold Speech.mark
  cases isSeat : speech.seat? with
  | none =>
      unfold Store.markOf
      rw [speech.routing_message, isSeat]
      rfl
  | some seat =>
      obtain ⟨channel, isChannel, rfl⟩ := made.exists_channel isBy isHost isSeat
      have isGroup : speech.message.group? = some (groupName channel.group) := by
        unfold Message.group?
        rw [speech.routing_message, isSeat]
        rfl
      have registered := ((underway.furnishes (made.furnishes host isHost)).registered
        (groupName channel.group)).mpr ⟨channel, isChannel, rfl⟩
      unfold Store.groupStack? at registered
      rw [hub?_of_skeleton_eq underway.skeleton, found, Option.bind_some] at registered
      rw [Store.markOf_of_group isGroup, if_pos registered]
      rfl

include made positive underway isBy in
theorem Underway.postage_eq :
    store.postage base.hubOf speech.host.node speech.message = speech.charges base hosts := by
  unfold Store.postage Speech.charges
  rw [underway.targetsOf_eq made isBy.host speech.destination_message, speech.payload_message,
    List.flatMap_map]
  congr 1
  refine List.flatMap_congr fun target isTarget => ?_
  rw [underway.markOf_eq made positive isBy isTarget]

include made positive underway isBy in
/-- At every host a speech is for whoever hears of its place there. -/
theorem Underway.recipient?_eq (isHost : host ∈ hosts) (node : Ref .node) :
    store.recipient? host.node (store.stamped node speech.message) =
      host.ear? speech.seat? := by
  have furnishes := underway.furnishes (made.furnishes host isHost)
  have routing : (store.stamped node speech.message).routing? = speech.message.routing? := rfl
  rw [speech.routing_message] at routing
  cases isSeat : speech.seat? with
  | none =>
      rw [isSeat] at routing
      rw [Store.recipient?_of_unrouted routing]
      exact furnishes.receiver
  | some seat =>
      obtain ⟨channel, isChannel, rfl⟩ := made.exists_channel isBy isHost isSeat
      rw [isSeat] at routing
      have found : store.hub? host.node = some (base.hubOf host.node) := by
        rw [hub?_of_skeleton_eq underway.skeleton]
        exact made.hub?_eq positive isHost
      obtain ⟨bound, receiver⟩ := furnishes.channels channel isChannel
      rw [Store.recipient?_of_group found routing rfl, made.ear?_seat isHost isChannel]
      change (store.boundFork? host.node (groupName channel.group)
        (memberName channel.member)).bind _ = _
      rw [underway.orderly.wired.boundFork?_eq_some.mpr bound]
      exact receiver

include made positive underway isBy in
theorem Underway.length_copiesTo (agent : Ref .agent) :
    (store.copiesTo agent speech.host.node speech.message).length =
      hosts.countP fun target => target.ear? speech.seat? = some agent := by
  have sendable := underway.sendable made positive isBy
  obtain ⟨written, writes⟩ := (Encoding.writable_iff_writeMessage _).mpr sendable.writable
  have copied := Store.copy?_of_written sendable.connected writes sendable.noForeign
  unfold Store.copiesTo
  rw [copied]
  dsimp only
  rw [List.length_replicate, underway.targetsOf_eq made isBy.host speech.destination_message,
    List.countP_map]
  refine List.countP_congr fun target isTarget => ?_
  simp only [Function.comp_apply, underway.recipient?_eq made positive isBy isTarget]

include made positive underway isBy in
/-- Whether through a channel or not, speaking is sending a message from the node. -/
theorem Underway.call_speech :
    store.canCall speech.operation = true ∧
      store.reseated speech.operation = store ∧
      store.sent speech.operation = store.carried speech.host.node speech.message ∧
      ∃ after, store.call speech.operation = some (.ok (), after) ∧
        Store.Charged (speech.charges base hosts) store after := by
  have furnishes := underway.furnishes (made.furnishes speech.host isBy.host)
  have sendable := underway.sendable made positive isBy
  rw [← underway.postage_eq made positive isBy]
  cases through : speech.channel? with
  | none =>
      have operation : speech.operation =
          .sendNode speech.host.node { payload := speech.payload } := by
        unfold Speech.operation
        rw [through]
      have message : speech.message = { payload := speech.payload } := by
        unfold Speech.message Speech.seat?
        rw [through]
        rfl
      rw [message] at sendable ⊢
      rw [operation]
      exact ⟨furnishes.alive, rfl, rfl,
        Store.call_sendNode_charged underway.orderly furnishes.alive sendable⟩
  | some channel =>
      obtain ⟨⟨alive, atNode, ofGroup, asMember⟩, _⟩ :=
        furnishes.channels channel (isBy.channel channel through).1
      have operation : speech.operation =
          .sendFork channel.fork { payload := speech.payload } := by
        unfold Speech.operation
        rw [through]
      have message : speech.message =
          (store.forks.get channel.fork).tag { payload := speech.payload } := by
        unfold Speech.message Speech.seat? Fork.tag
        rw [through, ofGroup, asMember]
        rfl
      rw [message, ← atNode] at sendable ⊢
      rw [operation]
      exact ⟨alive, rfl, rfl, Store.call_sendFork_charged underway.orderly
        (Store.candid_of_reachable underway.reachable) alive sendable⟩

include made positive underway isBy in
/-- Whoever speaks, once all have joined, is heard. -/
theorem Underway.speak :
    ∃ after, store.call speech.operation = some (.ok (), after) ∧
      Underway base hosts hosts cluster after ∧
      Reckoned (speech.charges base hosts)
        (fun agent => hosts.countP fun target => target.ear? speech.seat? = some agent)
        store after := by
  obtain ⟨can, reseated, sent, after, finished, charged⟩ :=
    underway.call_speech made positive isBy
  refine ⟨after, finished, underway.of_call can finished ?_ ?_ ?_,
    .of_call underway.orderly can finished charged fun agent => ?_⟩
  · rw [reseated]
    exact underway.members
  · rw [reseated]
    exact underway.connected
  · rw [reseated]
    exact underway.waiting
  · rw [sent, Store.messagesTo_carried]
    exact underway.length_copiesTo made positive isBy agent

end Speaking

/-! ### Everything that is said -/

/-- What a channel says in the course of a demonstration. -/
def Channel.speeches (messages : Nat) (host : Host) (channel : Channel) : List Speech :=
  (List.range messages).map fun number =>
    { host := host, channel? := some channel
      payload := forkPayload channel.group channel.member number }

/-- What a host says through its channels. -/
def Host.speeches (messages : Nat) (host : Host) : List Speech :=
  host.channels.flatMap (Channel.speeches messages host)

/-- What a host says for itself. -/
def Host.speech (host : Host) : Speech :=
  { host := host, channel? := none, payload := nodePayload host.number }

/-- What is said in the course of a demonstration, in order. -/
def speeches (plan : Plan) (hosts : List Host) : List Speech :=
  hosts.flatMap (Host.speeches plan.messages) ++ hosts.map Host.speech

/-- The course of a demonstration is that all hosts join and then everything is said. -/
theorem course_eq (plan : Plan) (hosts : List Host) :
    course plan hosts = (do
      hosts.forM fun host => call (.connect host.node plan.cluster)
      (speeches plan hosts).forM fun speech => call speech.operation) := by
  have ofChannel (host : Host) (channel : Channel) : speak plan.messages channel =
      (channel.speeches plan.messages host).forM fun speech => call speech.operation := by
    unfold speak Channel.speeches
    simp only [List.forM_eq_forM, List.forM_map]
    rfl
  have channels : (hosts.flatMap Host.channels).forM (speak plan.messages) =
      (hosts.flatMap (Host.speeches plan.messages)).forM fun speech => call speech.operation := by
    unfold Host.speeches
    simp only [Play.forM_flatMap, ← ofChannel]
  have nodes : (hosts.forM fun host => call (.sendNode host.node
      { payload := nodePayload host.number })) =
        (hosts.map Host.speech).forM fun speech => call speech.operation := by
    simp only [List.forM_eq_forM, List.forM_map]
    rfl
  unfold course speeches
  rw [channels, nodes]
  simp only [List.forM_eq_forM, List.forM_append]

/-- The numbers of a plan are machine integers, and a list of its nodes can be addressed. -/
structure Plan.InRange (plan : Plan) : Prop where
  nodes : plan.isAddressable = true
  groups : plan.groups < Octets.capacity 8
  members : plan.members < Octets.capacity 8
  forks : plan.groups * plan.members < Octets.capacity 8
  messages : plan.messages < Octets.capacity 8
  /-- Nothing is counted that a counter cannot hold. -/
  received : plan.nodes * (plan.groups * plan.members * plan.messages + 1) < Octets.capacity 8

/-- Everything that is said is short enough. -/
theorem Made.isBy
    {plan : Plan}
    {hosts : List Host}
    {base : Store}
    {speech : Speech}
    (made : Made plan plan.nodes hosts base)
    (inRange : plan.InRange)
    (isSpeech : speech ∈ speeches plan hosts) :
    speech.IsBy hosts := by
  rcases List.mem_append.mp isSpeech with ofChannel | ofHost
  · obtain ⟨host, isHost, ofHost⟩ := List.mem_flatMap.mp ofChannel
    obtain ⟨channel, isChannel, ofChannel⟩ := List.mem_flatMap.mp ofHost
    obtain ⟨number, isNumber, rfl⟩ := List.mem_map.mp ofChannel
    have isSeat := (made.mem_seats_iff isHost).mpr ⟨channel, isChannel, rfl⟩
    obtain ⟨group, member⟩ := Plan.mem_seats.mp isSeat
    have groupFits := Nat.lt_trans group inRange.groups
    have memberFits := Nat.lt_trans member inRange.members
    have numberFits := Nat.lt_trans (List.mem_range.mp isNumber) inRange.messages
    refine ⟨isHost, ?_, length_forkPayload_le groupFits memberFits numberFits⟩
    intro other same
    cases same
    exact ⟨isChannel, headerFits_between groupFits memberFits⟩
  · obtain ⟨host, isHost, rfl⟩ := List.mem_map.mp ofHost
    have isNumber : host.number ∈ List.range plan.nodes := by
      rw [← made.numbers]
      exact List.mem_map_of_mem isHost
    have addressable := of_decide_eq_true inRange.nodes
    have below := List.mem_range.mp isNumber
    have fits : host.number < Octets.capacity 8 := by omega
    refine ⟨isHost, ?_, length_nodePayload_le fits⟩
    intro other same
    cases same

/-- Everything can be said, once all have joined. -/
theorem Made.speak_all
    {plan : Plan}
    {hosts : List Host}
    {base store : Store}
    {cluster : String}
    (made : Made plan plan.nodes hosts base)
    (positive : plan.isPositive = true)
    (underway : Underway base hosts hosts cluster store)
    {said : List Speech}
    (areBy : ∀ speech ∈ said, speech.IsBy hosts) :
    ∃ after, (said.forM fun speech => call speech.operation) store = .ok ((), after) ∧
      Underway base hosts hosts cluster after ∧
      Reckoned (said.flatMap fun speech => speech.charges base hosts)
        (fun agent => (said.map fun speech =>
          hosts.countP fun target => target.ear? speech.seat? = some agent).sum) store after := by
  let holds (said : List Speech) (after : Store) : Prop :=
    Underway base hosts hosts cluster after ∧
      Reckoned (said.flatMap fun speech => speech.charges base hosts)
        (fun agent => (said.map fun speech =>
          hosts.countP fun target => target.ear? speech.seat? = some agent).sum) store after
  have start : holds [] store := ⟨underway, .refl store⟩
  refine Play.forM_ok holds (fun earlier speech rest between split before => ?_) start
  obtain ⟨underwayThen, reckoned⟩ := before
  obtain ⟨after, called, onward, bill⟩ := underwayThen.speak made positive
    (areBy speech (by simp [split]))
  refine ⟨after, Play.call_of_ok called, onward, ?_⟩
  have whole := reckoned.trans bill
  rw [List.flatMap_append, List.flatMap_singleton]
  simp only [List.map_append, List.map_singleton, List.sum_append, List.sum_singleton]
  exact whole

end ChannelMux.Demo
