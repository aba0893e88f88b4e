import ChannelMux.Proofs.Batch.Splitting

/-!
Contract: what a demultiplexer shares out of messages, one by one or as a batch.

Owns what of a message a consumer gets from a demultiplexer over stacks that edit messages
one by one, and what the demultiplexer counts the message as. Owns what it is for messages to
be shared out, and that they are by a batch that is split, and by a single message that goes
up the stack of its group.
-/

namespace ChannelMux

namespace Traffic

theorem messages_editMessages (traffic : Traffic) (edit : Message → Message) :
    (traffic.editMessages edit).messages = traffic.messages.map edit := by
  cases traffic with
  | single event => cases event <;> rfl
  | batch whole => rfl

theorem carriesMessage_editMessages (traffic : Traffic) (edit : Message → Message) :
    (traffic.editMessages edit).carriesMessage = traffic.carriesMessage := by
  cases traffic with
  | single event => cases event <;> rfl
  | batch whole => rfl

end Traffic

namespace Handoffs

/-- What is handed, edited for whoever is handed it. -/
def editedFor (handoffs : Handoffs) (edit : Consumer → Message → Message) : Handoffs :=
  handoffs.map fun entry => (entry.1, entry.2.editMessages (edit entry.1))

theorem messagesTo_editedFor (handoffs : Handoffs) (edit : Consumer → Message → Message)
    (consumer : Consumer) :
    (handoffs.editedFor edit).messagesTo consumer =
      (handoffs.messagesTo consumer).map (edit consumer) := by
  unfold messagesTo editedFor
  rw [List.filter_map, List.flatMap_map, List.map_flatMap]
  apply List.flatMap_congr
  intro entry member
  have isConsumer := of_decide_eq_true (List.mem_filter.mp member).2
  rw [Traffic.messages_editMessages, isConsumer]

theorem editedFor_flatMap
    {α : Type}
    (items : List α)
    (handed : α → Handoffs)
    (edit : Consumer → Message → Message) :
    editedFor (items.flatMap handed) edit =
      items.flatMap fun item => (handed item).editedFor edit :=
  List.map_flatMap ..

end Handoffs

/-! ### Messages edited on the way up a stack -/

theorem Delivery.byMember_map
    {change : Message → Message}
    (kept : ∀ message, (change message).member? = message.member?)
    (messages : List Message) :
    byMember (messages.map change) =
      (byMember messages).map fun part => (part.1, part.2.map change) := by
  have named : (messages.map change).filter (fun message => message.member?.isSome) =
      (messages.filter fun message => message.member?.isSome).map change := by
    rw [List.filter_map]
    congr 1
    apply List.filter_congr
    intro message _
    exact congrArg Option.isSome (kept message)
  unfold byMember
  rw [named]
  apply Registry.entries_gather_map
  intro message
  rw [kept]

namespace Store

variable {store : Store} {edit : Ref .stage → Message → Message} {shared : Ref .pipeline}
  {hub : Ref .stage}

/-- How messages are edited in the stack of the fork that takes them. -/
def editFor (store : Store) (edit : Ref .stage → Message → Message) :
    Consumer → Message → Message
  | .fork fork =>
      store.editAll edit
        (store.stagesOf (store.groups.get (store.forks.get fork).stack).pipeline)
  | .top _ => id

/-- The stages of the stacks at a demultiplexer edit messages as it is said. -/
def EditsHub (store : Store) (edit : Ref .stage → Message → Message) (hub : Ref .stage) :
    Prop :=
  ∀ group stack, Delivery.stackOf? store hub group = some stack →
    store.EditsBy edit (store.stagesOf (store.groups.get stack).pipeline)

theorem handedByStack_editMessages
    {change : Message → Message}
    (kept : ∀ message, (change message).member? = message.member?)
    (stack : Ref .stack)
    (traffic : Traffic) :
    store.handedByStack stack (traffic.editMessages change) =
      (store.handedByStack stack traffic).map fun entry =>
        (entry.1, entry.2.editMessages change) := by
  cases traffic with
  | single event =>
      cases event with
      | message message =>
          simp only [Traffic.editMessages, Event.editMessage, handedByStack, kept, List.map_map]
          rfl
      | viewChange view =>
          simp only [Traffic.editMessages, Event.editMessage, handedByStack, List.map_map]
          rfl
      | localAddress address => rfl
      | suspect address => rfl
  | batch whole =>
      simp only [Traffic.editMessages, handedByStack, Batch.derive, Delivery.byMember_map kept,
        List.flatMap_map, List.map_flatMap, List.map_map]
      rfl

/-- Messages are handed at the top of a stack to forks that last. -/
theorem mem_handedByStack
    {stack : Ref .stack}
    {traffic : Traffic}
    {entry : Consumer × Traffic}
    (carries : traffic.carriesMessage = true)
    (handed : entry ∈ store.handedByStack stack traffic) :
    ∃ member fork, store.liveMember? stack member = some fork ∧ entry.1 = .fork fork ∧
      entry.2.carriesMessage = true := by
  cases traffic with
  | single event =>
      cases event with
      | message message =>
          obtain ⟨fork, found, rfl⟩ := List.mem_map.mp handed
          obtain ⟨member, _, live⟩ := Option.bind_eq_some_iff.mp (Option.mem_toList.mp found)
          exact ⟨member, fork, live, rfl, rfl⟩
      | viewChange view => cases carries
      | localAddress address => cases carries
      | suspect address => cases carries
  | batch whole =>
      obtain ⟨part, _, among⟩ := List.mem_flatMap.mp handed
      obtain ⟨fork, found, rfl⟩ := List.mem_map.mp among
      exact ⟨part.1, fork, Option.mem_toList.mp found, rfl, rfl⟩

/-- What is handed at the top of a stack has been edited for whoever gets it. -/
theorem HubWired.handedByStack_edits
    (wired : store.HubWired shared hub)
    {group : String}
    {stack : Ref .stack}
    (registered : Delivery.stackOf? store hub group = some stack)
    (edits : store.EditsHub edit hub)
    {traffic : Traffic}
    (carries : traffic.carriesMessage = true) :
    store.handedByStack stack (traffic.editMessages
        (store.editAll edit (store.stagesOf (store.groups.get stack).pipeline))) =
      (store.handedByStack stack traffic).editedFor (store.editFor edit) := by
  have kept (message : Message) :
      (store.editAll edit (store.stagesOf (store.groups.get stack).pipeline) message).member? =
        message.member? := by
    unfold Message.member?
    rw [routing?_editAll (edits group stack registered)]
  rw [handedByStack_editMessages kept]
  apply List.map_congr_left
  intro entry handed
  obtain ⟨member, fork, live, isFork, _⟩ := mem_handedByStack carries handed
  rw [isFork, editFor, (wired.members group stack member fork registered live).1]

/-! ### At a demultiplexer -/

/-- What a demultiplexer counts a message as. -/
def markOf (store : Store) (hub : Ref .stage) (message : Message) : Mark :=
  match message.routing? with
  | none => .passedThrough
  | some _ =>
      if (message.group?.bind (Delivery.stackOf? store hub)).isSome then .routed else .missed

/-- What of a message a consumer gets from a demultiplexer. -/
def taken? (store : Store) (edit : Ref .stage → Message → Message) (hub : Ref .stage) :
    Consumer → Message → Option Message
  | .fork fork, message =>
      if store.taker? hub [] message = some fork then
        some (store.editFor edit (.fork fork) message)
      else none
  | .top _, _ => none

/-- Messages have been shared out by a demultiplexer: everybody has been handed what it gets
of them, in order, and they have been counted. -/
structure SharesOut (store : Store) (edit : Ref .stage → Message → Message) (hub : Ref .stage)
    (messages : List Message) (handoffs : Handoffs) (tally : Tally) : Prop where
  taken : ∀ consumer,
    handoffs.messagesTo consumer = messages.filterMap (store.taken? edit hub consumer)
  counted : tally.Perm (messages.map fun message => (hub, store.markOf hub message))
  handed : ∀ entry ∈ handoffs, entry.2.carriesMessage = true ∧
    ∃ group member fork, store.channel? hub group member = some fork ∧ entry.1 = .fork fork

/-- Only messages with a routing header get anywhere from a demultiplexer. -/
theorem taken?_of_unrouted
    {message : Message}
    (unrouted : message.routing? = none)
    (consumer : Consumer) :
    store.taken? edit hub consumer message = none := by
  cases consumer with
  | top pipeline => rfl
  | fork fork =>
      apply if_neg
      unfold taker? Message.group?
      rw [unrouted]
      exact Option.some_ne_none fork |>.symm

/-- Where nothing has a routing header nothing is shared out. -/
theorem sharesOut_of_unrouted
    {messages : List Message}
    (unrouted : ∀ message ∈ messages, message.routing? = none) :
    store.SharesOut edit hub messages []
      (List.replicate messages.length (hub, .passedThrough)) where
  taken consumer := by
    refine Eq.symm (List.filterMap_eq_nil_iff.mpr fun message member => ?_)
    exact taken?_of_unrouted (unrouted message member) consumer
  counted := by
    rw [← List.map_const']
    refine List.Perm.of_eq (List.map_congr_left fun message member => ?_)
    unfold markOf
    rw [unrouted message member]
  handed _ member := absurd member List.not_mem_nil

theorem markOf_of_group
    {message : Message}
    {group : String}
    (isGroup : message.group? = some group) :
    store.markOf hub message =
      if (Delivery.stackOf? store hub group).isSome then .routed else .missed := by
  unfold markOf
  cases routed : message.routing? with
  | none =>
      unfold Message.group? at isGroup
      rw [routed] at isGroup
      cases isGroup
  | some header =>
      rw [isGroup]
      rfl

/-- What the parts of a batch and the rest of it are counted as. -/
theorem tally_perm (store : Store) (hub : Ref .stage) {batch : Batch}
    (named : batch.NamesGroups) :
    List.Perm
      (batch.parts.flatMap (fun part => List.replicate part.2.length
        (hub, if (Delivery.stackOf? store hub part.1).isSome then Mark.routed else Mark.missed)) ++
        List.replicate batch.unrouted.length (hub, Mark.passedThrough))
      (batch.messages.map fun message => (hub, store.markOf hub message)) := by
  have marked : ∀ part ∈ batch.parts, (List.replicate part.2.length
      (hub, if (Delivery.stackOf? store hub part.1).isSome then Mark.routed else Mark.missed)) =
      part.2.map fun message => (hub, store.markOf hub message) := by
    rintro ⟨group, part⟩ listed
    obtain ⟨rfl, _⟩ := (Batch.mem_parts_iff named).mp listed
    rw [← List.map_const']
    refine List.map_congr_left fun message member => ?_
    rw [markOf_of_group (of_decide_eq_true (List.mem_filter.mp member).2)]
  have unmarked : List.replicate batch.unrouted.length (hub, Mark.passedThrough) =
      batch.unrouted.map fun message => (hub, store.markOf hub message) := by
    rw [← List.map_const']
    refine List.map_congr_left fun message member => ?_
    unfold markOf
    rw [Option.isNone_iff_eq_none.mp (List.mem_filter.mp member).2]
  rw [List.flatMap_congr marked, unmarked, ← List.map_flatMap, ← List.map_append]
  refine List.Perm.map _ ?_
  have gathered : (batch.parts.flatMap Prod.snd).Perm
      (batch.messages.filter fun message => message.routing?.isSome) :=
    Registry.gather_perm _ _
  refine (gathered.append_right _).trans ?_
  have split := List.filter_append_perm (fun message : Message => message.routing?.isSome)
    batch.messages
  unfold Batch.unrouted
  simpa using split

/-- What is handed of a batch that is split, as edited, is shared out. -/
theorem sharesOut_of_splits
    {batch : Batch}
    {handoffs : Handoffs}
    {tally : Tally}
    (wired : store.HubWired shared hub)
    (splits : store.Splits hub batch [] handoffs)
    (counted : tally.Perm (batch.messages.map fun message => (hub, store.markOf hub message))) :
    store.SharesOut edit hub batch.messages (handoffs.editedFor (store.editFor edit)) tally where
  taken consumer := by
    rw [Handoffs.messagesTo_editedFor]
    cases consumer with
    | fork fork =>
        rw [splits.messagesTo_fork wired, ← List.filterMap_eq_map, List.filterMap_filter]
        apply List.filterMap_congr
        intro message _
        simp [taken?]
    | top pipeline =>
        have notHanded : Consumer.top pipeline ∉ handoffs.map Prod.fst := by
          intro among
          obtain ⟨⟨_, traffic⟩, isHanded, rfl⟩ := List.mem_map.mp among
          obtain ⟨_, _, _, _, _, _, isFork, _⟩ := (splits.handed _ traffic).mp isHanded
          cases isFork
        rw [Handoffs.messagesTo_of_not_mem notHanded]
        exact Eq.symm (List.filterMap_eq_nil_iff.mpr fun _ _ => rfl)
  counted := counted
  handed entry member := by
    obtain ⟨⟨consumer, traffic⟩, isHanded, rfl⟩ := List.mem_map.mp member
    obtain ⟨group, name, fork, found, _, _, isFork, isShare⟩ :=
      (splits.handed consumer traffic).mp isHanded
    rw [isShare]
    exact ⟨rfl, group, name, fork, found, isFork⟩

/-- What is handed of a single message at the top of a stack, as edited, is shared out. -/
theorem sharesOut_of_stack
    {message : Message}
    {group : String}
    {stack : Ref .stack}
    (isGroup : message.group? = some group)
    (registered : Delivery.stackOf? store hub group = some stack) :
    store.SharesOut edit hub [message]
      ((store.handedByStack stack (.single (.message message))).editedFor (store.editFor edit))
      [(hub, .routed)] where
  taken consumer := by
    have takes : store.taker? hub [] message = message.member?.bind (store.liveMember? stack) := by
      unfold taker? channel?
      rw [isGroup, Option.bind_some, if_neg List.not_mem_nil, registered]
      rfl
    have handed : store.handedByStack stack (.single (.message message)) =
        (store.taker? hub [] message).toList.map fun fork =>
          (.fork fork, .single (.message message)) := by
      rw [takes]
      rfl
    rw [Handoffs.messagesTo_editedFor, handed]
    cases consumer with
    | top pipeline =>
        rw [Handoffs.messagesTo_of_not_mem (by simp)]
        rfl
    | fork fork =>
        cases taken : store.taker? hub [] message with
        | none => simp [taken?, taken, Handoffs.messagesTo]
        | some other =>
            by_cases same : other = fork <;>
              simp [taken?, taken, same, Handoffs.messagesTo, Traffic.messages]
  counted := by
    rw [List.map_singleton, markOf_of_group isGroup, registered]
    rfl
  handed entry member := by
    obtain ⟨⟨consumer, traffic⟩, isHanded, rfl⟩ := List.mem_map.mp member
    obtain ⟨name, fork, live, isFork, carries⟩ := mem_handedByStack rfl isHanded
    refine ⟨?_, group, name, fork, ?_, isFork⟩
    · exact (Traffic.carriesMessage_editMessages _ _).trans carries
    · exact Option.bind_eq_some_iff.mpr ⟨stack, registered, live⟩

/-- A message for a group that there is not is shared out to nobody. -/
theorem sharesOut_of_unregistered
    {message : Message}
    {group : String}
    (isGroup : message.group? = some group)
    (unregistered : Delivery.stackOf? store hub group = none) :
    store.SharesOut edit hub [message] [] [(hub, .missed)] where
  taken consumer := by
    cases consumer with
    | top pipeline => rfl
    | fork fork =>
        have nobody : store.taker? hub [] message = none := by
          unfold taker? channel?
          rw [isGroup, Option.bind_some, if_neg List.not_mem_nil, unregistered]
          cases message.member? <;> rfl
        simp [taken?, nobody, Handoffs.messagesTo]
  counted := by
    rw [List.map_singleton, markOf_of_group isGroup, unregistered]
    rfl
  handed _ member := absurd member List.not_mem_nil

end Store

end ChannelMux
