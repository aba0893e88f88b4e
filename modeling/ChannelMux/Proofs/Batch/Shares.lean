import ChannelMux.Proofs.Batch.Stack
import ChannelMux.Proofs.Gathering

/-!
Contract: what a batch holds for whom at a demultiplexer.

Owns the channels of a demultiplexer, the share of a batch that is for one of them, and what
it is for a batch to be split among them. Owns that gathering a batch by groups and what it
holds for a group by members splits it, whichever groups are held back: every channel of the
others is handed its share, once, and every message is in one place.
-/

namespace ChannelMux

namespace Batch

/-- What a batch holds for a group. -/
def groupShare (batch : Batch) (group : String) : List Message :=
  batch.messages.filter fun message => message.group? = some group

/-- What a batch holds for a member of a group. -/
def share (batch : Batch) (group member : String) : List Message :=
  batch.messages.filter fun message =>
    message.group? = some group ∧ message.member? = some member

/-- The messages of a batch without a routing header. -/
def unrouted (batch : Batch) : List Message :=
  batch.messages.filter fun message => message.routing?.isNone

/-- What a batch holds for every group, group by group. -/
def parts (batch : Batch) : List (String × List Message) :=
  Delivery.byGroup (batch.messages.filter fun message => message.routing?.isSome)

/-- Every routing header in the batch names a group. -/
def NamesGroups (batch : Batch) : Prop :=
  ∀ message ∈ batch.messages, message.routing?.isSome → message.group?.isSome

end Batch

namespace Store

/-- The fork that lasts and is bound to a member of a group at a demultiplexer. -/
def channel? (store : Store) (hub : Ref .stage) (group member : String) :
    Option (Ref .fork) :=
  (Delivery.stackOf? store hub group).bind (store.liveMember? · member)

/-- What is registered at a demultiplexer is wired to it. -/
structure HubWired (store : Store) (shared : Ref .pipeline) (hub : Ref .stage) : Prop where
  isHub : (store.demultiplexer? hub).isSome
  layout : ∀ group stack, Delivery.stackOf? store hub group = some stack →
    store.StackWired shared hub group stack
  members : ∀ group stack member fork, Delivery.stackOf? store hub group = some stack →
    store.liveMember? stack member = some fork →
      (store.forks.get fork).stack = stack ∧ (store.forks.get fork).member = member

/-- The fork that takes a message at a demultiplexer if these groups are held back. -/
def taker? (store : Store) (hub : Ref .stage) (heldBack : List String) (message : Message) :
    Option (Ref .fork) :=
  message.group?.bind fun group =>
    if group ∈ heldBack then none else message.member?.bind (store.channel? hub group)

/-- A stage of the stack of a group need not pass on what the batch holds for the group. -/
def KeepsShareBack (store : Store) (hub : Ref .stage) (batch : Batch) (group : String) :
    Prop :=
  ∃ stack, Delivery.stackOf? store hub group = some stack ∧
    ∃ stage ∈ store.stagesOf (store.groups.get stack).pipeline,
      store.KeepsBack stage (.batch (batch.derive (batch.groupShare group)))

/-- What is handed to the members of a group of a part of a batch. -/
def partHandoffs (store : Store) (hub : Ref .stage) (batch : Batch)
    (part : String × List Message) : Handoffs :=
  match Delivery.stackOf? store hub part.1 with
  | none => []
  | some stack => store.handedByStack stack (.batch (batch.derive part.2))

/-- What is handed is what the batch holds for the channels of a demultiplexer, except for
those of some groups, which are held back. -/
structure Splits (store : Store) (hub : Ref .stage) (batch : Batch) (heldBack : List String)
    (handoffs : Handoffs) : Prop where
  /-- What is held back is kept back by a stage. -/
  keptBack : ∀ group ∈ heldBack, store.KeepsShareBack hub batch group
  /-- Nobody is handed anything twice. -/
  once : (handoffs.map Prod.fst).Nodup
  /-- A channel is handed its share, if there is any, as a batch of the same description. -/
  handed : ∀ consumer traffic, (consumer, traffic) ∈ handoffs ↔
    ∃ group member fork, store.channel? hub group member = some fork ∧ group ∉ heldBack ∧
      batch.share group member ≠ [] ∧ consumer = .fork fork ∧
        traffic = .batch (batch.derive (batch.share group member))
  /-- A message is handed to one channel, or is left to pass, or nobody takes it. -/
  partition : (handoffs.flatMap (fun entry => entry.2.messages) ++ batch.unrouted ++
    batch.messages.filter (fun message =>
      message.routing?.isSome && (store.taker? hub heldBack message).isNone)).Perm batch.messages

end Store

/-! ### Who gets which share -/

namespace Batch

variable {batch : Batch} {group member : String} {part : List Message}

theorem share_eq (batch : Batch) (group member : String) :
    batch.share group member =
      (batch.groupShare group).filter fun message => message.member? = some member := by
  unfold share groupShare
  rw [List.filter_filter]
  apply List.filter_congr
  intro message _
  rw [Bool.decide_and, Bool.and_comm]

theorem mem_parts_iff (named : batch.NamesGroups) :
    (group, part) ∈ batch.parts ↔ part = batch.groupShare group ∧ part ≠ [] := by
  have routed (message : Message) (isGroup : message.group? = some group) :
      message.routing?.isSome = true := by
    unfold Message.group? at isGroup
    obtain ⟨header, found, _⟩ := Option.bind_eq_some_iff.mp isGroup
    rw [found]
    rfl
  have sameShare : ((batch.messages.filter fun message => message.routing?.isSome).filter
      fun message => message.group? = some group) = batch.groupShare group := by
    rw [List.filter_filter]
    apply List.filter_congr
    intro message _
    have routedThen := routed message
    by_cases isGroup : message.group? = some group <;> simp [isGroup, routedThen]
  unfold parts Delivery.byGroup
  rw [Registry.mem_gather_getD_iff, sameShare]
  intro message among
  obtain ⟨listed, hasHeader⟩ := List.mem_filter.mp among
  exact named message listed hasHeader

theorem mem_byMember_iff {messages : List Message} :
    (member, part) ∈ Delivery.byMember messages ↔
      part = (messages.filter fun message => message.member? = some member) ∧ part ≠ [] := by
  have sameShare : ((messages.filter fun message => message.member?.isSome).filter
      fun message => message.member? = some member) =
      messages.filter fun message => message.member? = some member := by
    rw [List.filter_filter]
    apply List.filter_congr
    intro message _
    by_cases isMember : message.member? = some member <;> simp [isMember]
  unfold Delivery.byMember
  rw [Registry.mem_gather_getD_iff, sameShare]
  intro message among
  exact (List.mem_filter.mp among).2

end Batch

namespace Store

variable {store : Store} {shared : Ref .pipeline} {hub : Ref .stage} {batch : Batch}

/-- A fork is the channel of one member of one group. -/
theorem HubWired.channel_unique
    (wired : store.HubWired shared hub)
    {group member otherGroup otherMember : String}
    {fork : Ref .fork}
    (found : store.channel? hub group member = some fork)
    (alsoFound : store.channel? hub otherGroup otherMember = some fork) :
    group = otherGroup ∧ member = otherMember := by
  obtain ⟨stack, registered, live⟩ := Option.bind_eq_some_iff.mp found
  obtain ⟨otherStack, otherRegistered, otherLive⟩ := Option.bind_eq_some_iff.mp alsoFound
  obtain ⟨inStack, isMember⟩ := wired.members _ _ _ _ registered live
  obtain ⟨inOther, isOtherMember⟩ := wired.members _ _ _ _ otherRegistered otherLive
  have named := (wired.layout _ _ registered).named
  have otherNamed := (wired.layout _ _ otherRegistered).named
  rw [← inStack] at named
  rw [← inOther] at otherNamed
  exact ⟨named.symm.trans otherNamed, isMember.symm.trans isOtherMember⟩

theorem mem_partHandoffs_iff
    {part : String × List Message}
    {consumer : Consumer}
    {traffic : Traffic} :
    (consumer, traffic) ∈ store.partHandoffs hub batch part ↔
      ∃ member fork share, store.channel? hub part.1 member = some fork ∧
        (member, share) ∈ Delivery.byMember part.2 ∧ consumer = .fork fork ∧
          traffic = .batch (batch.derive share) := by
  unfold partHandoffs channel?
  cases Delivery.stackOf? store hub part.1 with
  | none => simp
  | some stack =>
      change (consumer, traffic) ∈ (Delivery.byMember part.2).flatMap (fun share =>
        (store.liveMember? stack share.1).toList.map fun fork =>
          (.fork fork, .batch (batch.derive share.2))) ↔ _
      rw [List.mem_flatMap]
      constructor
      · rintro ⟨⟨member, share⟩, listed, among⟩
        obtain ⟨fork, found, same⟩ := List.mem_map.mp among
        cases same
        exact ⟨member, fork, share, Option.mem_toList.mp found, listed, rfl, rfl⟩
      · rintro ⟨member, fork, share, found, listed, rfl, rfl⟩
        refine ⟨(member, share), listed, List.mem_map.mpr ⟨fork, ?_, rfl⟩⟩
        exact Option.mem_toList.mpr found

/-- No member of a group is handed anything twice. -/
theorem nodup_partHandoffs (wired : store.HubWired shared hub) (part : String × List Message) :
    ((store.partHandoffs hub batch part).map Prod.fst).Nodup := by
  unfold partHandoffs
  cases registered : Delivery.stackOf? store hub part.1 with
  | none => exact List.nodup_nil
  | some stack =>
      change (((Delivery.byMember part.2).flatMap fun share =>
        (store.liveMember? stack share.1).toList.map fun fork =>
          (Consumer.fork fork, Traffic.batch (batch.derive share.2))).map Prod.fst).Nodup
      rw [List.map_flatMap]
      refine nodup_flatMap_of_names (Registry.names_nodup _) (fun share _ => ?_) ?_
      · cases store.liveMember? stack share.1 <;> simp
      · intro left _ right _ consumer inLeft inRight
        have memberOf {share : String × List Message}
            (among : consumer ∈ ((store.liveMember? stack share.1).toList.map fun fork =>
              (Consumer.fork fork, Traffic.batch (batch.derive share.2))).map Prod.fst) :
            ∃ fork, consumer = .fork fork ∧ (store.forks.get fork).member = share.1 := by
          simp only [List.map_map, List.mem_map, Option.mem_toList] at among
          obtain ⟨fork, live, same⟩ := among
          exact ⟨fork, same.symm, (wired.members _ _ _ _ registered live).2⟩
        obtain ⟨leftFork, isLeft, leftMember⟩ := memberOf inLeft
        obtain ⟨rightFork, isRight, rightMember⟩ := memberOf inRight
        rw [isLeft] at isRight
        cases isRight
        exact leftMember.symm.trans rightMember

/-! ### Every message in one place -/

theorem taker?_eq_some_iff {heldBack : List String} {message : Message} {fork : Ref .fork} :
    store.taker? hub heldBack message = some fork ↔
      ∃ group member, message.group? = some group ∧ message.member? = some member ∧
        group ∉ heldBack ∧ store.channel? hub group member = some fork := by
  unfold taker?
  rw [Option.bind_eq_some_iff]
  constructor
  · rintro ⟨group, isGroup, found⟩
    split at found
    · cases found
    · rename_i notHeld
      obtain ⟨member, isMember, channel⟩ := Option.bind_eq_some_iff.mp found
      exact ⟨group, member, isGroup, isMember, notHeld, channel⟩
  · rintro ⟨group, member, isGroup, isMember, notHeld, channel⟩
    refine ⟨group, isGroup, ?_⟩
    rw [if_neg notHeld, isMember]
    exact channel

/-- Only messages with a routing header are taken. -/
theorem isSome_routing?_of_taken
    {heldBack : List String}
    {message : Message}
    (taken : (store.taker? hub heldBack message).isSome) :
    message.routing?.isSome := by
  obtain ⟨fork, found⟩ := Option.isSome_iff_exists.mp taken
  obtain ⟨group, _, isGroup, _⟩ := taker?_eq_some_iff.mp found
  unfold Message.group? at isGroup
  obtain ⟨header, isHeader, _⟩ := Option.bind_eq_some_iff.mp isGroup
  exact Option.isSome_iff_exists.mpr ⟨header, isHeader⟩

/-- The share of a channel is what its fork takes. -/
theorem HubWired.share_eq_taken
    (wired : store.HubWired shared hub)
    {heldBack : List String}
    {group member : String}
    {fork : Ref .fork}
    (found : store.channel? hub group member = some fork)
    (notHeld : group ∉ heldBack) :
    batch.share group member =
      batch.messages.filter fun message => store.taker? hub heldBack message = some fork := by
  apply List.filter_congr
  intro message _
  rw [decide_eq_decide, taker?_eq_some_iff]
  constructor
  · rintro ⟨isGroup, isMember⟩
    exact ⟨group, member, isGroup, isMember, notHeld, found⟩
  · rintro ⟨otherGroup, otherMember, isGroup, isMember, _, alsoFound⟩
    obtain ⟨rfl, rfl⟩ := wired.channel_unique found alsoFound
    exact ⟨isGroup, isMember⟩

/-- The messages of a batch are those that are taken, those without a routing header and
the others. -/
theorem messages_perm (store : Store) (hub : Ref .stage) (batch : Batch)
    (heldBack : List String) :
    (batch.messages.filter (fun message => (store.taker? hub heldBack message).isSome) ++
      batch.unrouted ++ batch.messages.filter (fun message =>
        message.routing?.isSome && (store.taker? hub heldBack message).isNone)).Perm
      batch.messages := by
  have unrouted : (batch.messages.filter fun message =>
      !(store.taker? hub heldBack message).isSome).filter
        (fun message => message.routing?.isNone) = batch.unrouted := by
    unfold Batch.unrouted
    rw [List.filter_filter]
    apply List.filter_congr
    intro message _
    have routed (taken : (store.taker? hub heldBack message).isSome) :
        message.routing?.isSome := isSome_routing?_of_taken taken
    cases isTaken : (store.taker? hub heldBack message).isSome with
    | false => simp
    | true => simpa using routed isTaken
  have others : (batch.messages.filter fun message =>
      !(store.taker? hub heldBack message).isSome).filter
        (fun message => !message.routing?.isNone) =
      batch.messages.filter fun message =>
        message.routing?.isSome && (store.taker? hub heldBack message).isNone := by
    rw [List.filter_filter]
    apply List.filter_congr
    intro message _
    simp
  have inner := List.filter_append_perm (fun message : Message => message.routing?.isNone)
    (batch.messages.filter fun message => !(store.taker? hub heldBack message).isSome)
  rw [unrouted, others] at inner
  rw [List.append_assoc]
  exact (inner.append_left _).trans (List.filter_append_perm _ _)

/-- What is handed is what is taken, if every channel is handed its share, once. -/
theorem handed_perm
    (wired : store.HubWired shared hub)
    {heldBack : List String}
    {handoffs : Handoffs}
    (once : (handoffs.map Prod.fst).Nodup)
    (handed : ∀ consumer traffic, (consumer, traffic) ∈ handoffs ↔
      ∃ group member fork, store.channel? hub group member = some fork ∧ group ∉ heldBack ∧
        batch.share group member ≠ [] ∧ consumer = .fork fork ∧
          traffic = .batch (batch.derive (batch.share group member))) :
    (handoffs.flatMap fun entry => entry.2.messages).Perm
      (batch.messages.filter fun message => (store.taker? hub heldBack message).isSome) := by
  have shares : (handoffs.flatMap fun entry => entry.2.messages) =
      ((handoffs.map Prod.fst).map some).flatMap fun consumer? =>
        batch.messages.filter fun message =>
          (store.taker? hub heldBack message).map Consumer.fork = consumer? := by
    rw [List.map_map, List.flatMap_map]
    apply List.flatMap_congr
    intro entry member
    obtain ⟨group, name, fork, found, notHeld, _, isFork, isShare⟩ :=
      (handed entry.1 entry.2).mp member
    rw [isShare, Function.comp_apply, isFork]
    refine (wired.share_eq_taken found notHeld).trans ?_
    apply List.filter_congr
    intro message _
    cases store.taker? hub heldBack message <;> simp
  have distinct : ((handoffs.map Prod.fst).map some).Nodup :=
    once.map fun _ _ => Option.some.inj
  rw [shares]
  refine (flatMap_fibers_perm _ _ distinct).trans (List.Perm.of_eq ?_)
  apply List.filter_congr
  intro message among
  cases taken : store.taker? hub heldBack message with
  | none => simp
  | some fork =>
      obtain ⟨group, name, isGroup, isMember, notHeld, found⟩ := taker?_eq_some_iff.mp taken
      have inShare : message ∈ batch.share group name :=
        List.mem_filter.mpr ⟨among, decide_eq_true ⟨isGroup, isMember⟩⟩
      have isHanded := (handed (.fork fork) _).mpr
        ⟨group, name, fork, found, notHeld, List.ne_nil_of_mem inShare, rfl, rfl⟩
      have isConsumer : Consumer.fork fork ∈ handoffs.map Prod.fst :=
        List.mem_map.mpr ⟨_, isHanded, rfl⟩
      simpa using isConsumer

/-- Nobody is handed anything twice of several parts. -/
theorem nodup_handoffs
    {passed : List (String × List Message)}
    (wired : store.HubWired shared hub)
    (distinct : (passed.map Prod.fst).Nodup) :
    ((passed.flatMap (store.partHandoffs hub batch)).map Prod.fst).Nodup := by
  rw [List.map_flatMap]
  refine nodup_flatMap_of_names distinct (fun part _ => nodup_partHandoffs wired part) ?_
  intro left _ right _ consumer inLeft inRight
  obtain ⟨⟨_, _⟩, leftHanded, rfl⟩ := List.mem_map.mp inLeft
  obtain ⟨⟨_, _⟩, rightHanded, same⟩ := List.mem_map.mp inRight
  obtain ⟨_, leftFork, _, leftFound, _, isLeft, _⟩ := mem_partHandoffs_iff.mp leftHanded
  obtain ⟨_, rightFork, _, rightFound, _, isRight, _⟩ := mem_partHandoffs_iff.mp rightHanded
  rw [isRight, isLeft] at same
  cases same
  exact (wired.channel_unique leftFound rightFound).1

section Passed

variable {passed : List (String × List Message)} {heldBack : List String}

/-- Of the parts whose groups are not held back every channel is handed its share. -/
theorem mem_handoffs_iff
    (isPassed : ∀ group part, (group, part) ∈ passed ↔
      part = batch.groupShare group ∧ part ≠ [] ∧ group ∉ heldBack)
    {consumer : Consumer}
    {traffic : Traffic} :
    (consumer, traffic) ∈ passed.flatMap (store.partHandoffs hub batch) ↔
      ∃ group member fork, store.channel? hub group member = some fork ∧ group ∉ heldBack ∧
        batch.share group member ≠ [] ∧ consumer = .fork fork ∧
          traffic = .batch (batch.derive (batch.share group member)) := by
  rw [List.mem_flatMap]
  constructor
  · rintro ⟨⟨group, part⟩, inPassed, isHanded⟩
    obtain ⟨rfl, _, notHeld⟩ := (isPassed _ _).mp inPassed
    obtain ⟨member, fork, share, found, listed, isFork, isShare⟩ :=
      mem_partHandoffs_iff.mp isHanded
    rw [Batch.mem_byMember_iff, ← batch.share_eq] at listed
    obtain ⟨rfl, notEmpty⟩ := listed
    exact ⟨group, member, fork, found, notHeld, notEmpty, isFork, isShare⟩
  · rintro ⟨group, member, fork, found, notHeld, notEmpty, isFork, isShare⟩
    have someShare : batch.groupShare group ≠ [] := by
      intro empty
      rw [batch.share_eq, empty] at notEmpty
      exact notEmpty rfl
    refine ⟨(group, batch.groupShare group), (isPassed _ _).mpr ⟨rfl, someShare, notHeld⟩, ?_⟩
    refine mem_partHandoffs_iff.mpr ⟨member, fork, _, found, ?_, isFork, isShare⟩
    exact Batch.mem_byMember_iff.mpr ⟨batch.share_eq group member, notEmpty⟩

/-- The parts whose groups are not held back are split. -/
theorem splits_of_passed
    (wired : store.HubWired shared hub)
    (sublist : passed.Sublist batch.parts)
    (isPassed : ∀ group part, (group, part) ∈ passed ↔
      part = batch.groupShare group ∧ part ≠ [] ∧ group ∉ heldBack)
    (keptBack : ∀ group ∈ heldBack, store.KeepsShareBack hub batch group) :
    store.Splits hub batch heldBack (passed.flatMap (store.partHandoffs hub batch)) := by
  have once : ((passed.flatMap (store.partHandoffs hub batch)).map Prod.fst).Nodup :=
    nodup_handoffs wired ((Registry.names_nodup _).sublist (sublist.map Prod.fst))
  refine ⟨keptBack, once, fun _ _ => mem_handoffs_iff isPassed, ?_⟩
  have taken := handed_perm wired once fun _ _ => mem_handoffs_iff isPassed
  exact ((taken.append_right _).append_right _).trans (messages_perm store hub batch _)

end Passed

/-- If nothing is held back, all parts are split. -/
theorem splits_parts
    (wired : store.HubWired shared hub)
    (named : batch.NamesGroups) :
    store.Splits hub batch [] (batch.parts.flatMap (store.partHandoffs hub batch)) := by
  refine splits_of_passed wired (List.Sublist.refl _) (fun group part => ?_)
    fun group among => absurd among List.not_mem_nil
  rw [Batch.mem_parts_iff named]
  simp

/-- A fork is handed what it takes. -/
theorem Splits.messagesTo_fork
    {heldBack : List String}
    {handoffs : Handoffs}
    (splits : store.Splits hub batch heldBack handoffs)
    (wired : store.HubWired shared hub)
    (fork : Ref .fork) :
    handoffs.messagesTo (.fork fork) =
      batch.messages.filter fun message => store.taker? hub heldBack message = some fork := by
  by_cases some : Consumer.fork fork ∈ handoffs.map Prod.fst
  · obtain ⟨⟨_, traffic⟩, isHanded, rfl⟩ := List.mem_map.mp some
    rw [Handoffs.messagesTo_of_once splits.once isHanded]
    obtain ⟨group, member, _, found, notHeld, _, same, isShare⟩ :=
      (splits.handed _ traffic).mp isHanded
    cases same
    rw [isShare]
    exact wired.share_eq_taken found notHeld
  · rw [Handoffs.messagesTo_of_not_mem some, eq_comm, List.filter_eq_nil_iff]
    intro message among taken
    obtain ⟨group, member, isGroup, isMember, notHeld, found⟩ :=
      taker?_eq_some_iff.mp (of_decide_eq_true taken)
    have inShare : message ∈ batch.share group member :=
      List.mem_filter.mpr ⟨among, decide_eq_true ⟨isGroup, isMember⟩⟩
    have isHanded := (splits.handed (.fork fork) _).mpr
      ⟨group, member, fork, found, notHeld, List.ne_nil_of_mem inShare, rfl, rfl⟩
    exact some (List.mem_map.mpr ⟨_, isHanded, rfl⟩)

/-- What is registered at the demultiplexer of a node is wired to it. -/
theorem Wired.hubWired
    (wired : store.Wired)
    {node : Ref .node}
    (issued : store.nodes.Issued node)
    (found : store.hub? node = some hub) :
    store.HubWired (store.nodes.get node).pipeline hub where
  isHub := (mem_of_hub? found).2
  layout group stack registered :=
    (wired.nodes node issued).stackWired hub group stack found registered
  members group stack member fork registered live := by
    have stackWired := (wired.nodes node issued).stackWired hub group stack found registered
    have bound := (Option.filter_eq_some_iff.mp live).1
    exact (wired.members stack member fork stackWired.issued bound).2

end Store

end ChannelMux
