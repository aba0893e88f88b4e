import ChannelMux.Proofs.Batch.Arrival

/-!
Contract: the course of messages up a pipeline, one by one or as a batch.

Owns that traffic which goes up stages that edit messages one by one hands every consumer
just what gets there of its messages, in order, and counts just what is to be counted of
them, whether it is one message or a batch of them.
-/

namespace ChannelMux

/-- Nothing has a routing header, or what is registered at the demultiplexer is wired to it
and edits messages as it is said. -/
def Store.Serves (store : Store) (edit : Ref .stage → Message → Message) (hub : Ref .stage)
    (messages : List Message) : Prop :=
  (∀ message ∈ messages, message.routing? = none) ∨
    ∃ shared, store.HubWired shared hub ∧ store.EditsHub edit hub

namespace Course

variable {base : Store} {depth : Nat} {edit : Ref .stage → Message → Message}
  {shared pipeline : Ref .pipeline} {hub : Ref .stage} {layers : List (Ref .stage)}

/-! ### Sharing out a batch -/

section Batch

variable {batch : Batch}

/-- What a batch holds for a group is handed to its members as edited in their stack. -/
theorem routePart_edits
    (wired : base.HubWired shared hub)
    (edits : base.EditsHub edit hub)
    (part : String × List Message) :
    Course base (Delivery.routePart (Entrances.within (depth + 1)) hub batch part)
      fun handoffs tally _ =>
        handoffs = (base.partHandoffs hub batch part).editedFor (base.editFor edit) ∧
          tally = List.replicate part.2.length
            (hub, if (Delivery.stackOf? base hub part.1).isSome then .routed else .missed) := by
  have travels (stack : Ref .stack)
      (registered : Delivery.stackOf? base hub part.1 = some stack) :
      Course base
        (Delivery.travel (Entrances.within depth)
          (.up (base.groups.get stack).pipeline (.batch (batch.derive part.2))))
        fun handoffs tally _ =>
          handoffs = (base.handedByStack stack (.batch (batch.derive part.2))).editedFor
            (base.editFor edit) ∧ tally = [] := by
    rw [← wired.handedByStack_edits registered edits rfl]
    exact travel_stack_edits (wired.layout _ stack registered) (edits _ stack registered) _
  refine (routePart travels).mono fun handoffs tally _ => ?_
  unfold Store.partHandoffs
  cases Delivery.stackOf? base hub part.1 with
  | none => exact id
  | some stack => exact id

theorem splitBatch_edits
    (wired : base.HubWired shared hub)
    (edits : base.EditsHub edit hub)
    (named : batch.NamesGroups) :
    Course base (Delivery.splitBatch (Entrances.within (depth + 1)) hub batch)
      fun handoffs tally _ => base.SharesOut edit hub batch.messages handoffs tally := by
  refine bind (forM_flatMap fun part _ => routePart_edits wired edits part) ?_
  rintro _ _ _ ⟨rfl, rfl⟩
  refine (countUnrouted base hub batch).mono ?_
  rintro _ _ _ ⟨rfl, rfl⟩
  rw [List.append_nil, ← Handoffs.editedFor_flatMap]
  exact Store.sharesOut_of_splits wired (Store.splits_parts wired named)
    (base.tally_perm hub named)

/-- Where nothing has a routing header nothing is shared out, whatever is registered. -/
theorem splitBatch_unrouted
    (unrouted : ∀ message ∈ batch.messages, message.routing? = none) :
    Course base (Delivery.splitBatch (Entrances.within (depth + 1)) hub batch)
      fun handoffs tally _ => base.SharesOut edit hub batch.messages handoffs tally := by
  have noParts : batch.parts = [] := by
    unfold Batch.parts
    rw [List.filter_eq_nil_iff.mpr]
    · rfl
    · intro message member
      simp [unrouted message member]
  have allLeft : batch.unrouted = batch.messages := by
    unfold Batch.unrouted
    rw [List.filter_eq_self]
    intro message member
    simp [unrouted message member]
  unfold Delivery.splitBatch
  rw [noParts]
  refine (countUnrouted base hub batch).mono ?_
  rintro _ _ _ ⟨rfl, rfl⟩
  rw [allLeft]
  exact Store.sharesOut_of_unrouted unrouted

end Batch

/-! ### At a demultiplexer -/

theorem ascendStage_demultiplexer
    {inner : Entrances}
    {stage : Ref .stage}
    {passUp : Traffic → Run Outcome}
    {traffic : Traffic}
    {post : Handoffs → Tally → Outcome → Prop}
    (isHub : (base.demultiplexer? stage).isSome)
    (takes : Course base (Delivery.demultiplex inner stage passUp traffic) post) :
    Course base (Delivery.ascendStage inner stage passUp traffic) post := by
  refine look fun store same => ?_
  rw [← Store.isSome_demultiplexer?_of_bare_eq (Store.bare_role_eq same stage)] at isHub
  obtain ⟨state, found⟩ := Option.isSome_iff_exists.mp isHub
  rw [Store.demultiplexer?_eq_some.mp found]
  exact takes

/-- What passes a demultiplexer arrives above it. -/
def Passes (base : Store) (edit : Ref .stage → Message → Message) (pipeline : Ref .pipeline)
    (layers : List (Ref .stage)) (passUp : Traffic → Run Outcome) : Prop :=
  ∀ rest : Traffic, rest.carriesMessage = true →
    (∀ message ∈ rest.messages, message.routing? = none) →
      Course base (passUp rest) fun handoffs tally _ =>
        base.Arrives edit pipeline layers rest.messages handoffs tally

section Route

variable {message : Message} {passUp : Traffic → Run Outcome}

/-- A message without a routing header passes. -/
theorem route_unrouted
    (isHub : (base.demultiplexer? hub).isSome)
    (unrouted : message.routing? = none)
    (edits : base.EditsBy edit layers)
    (passes : Passes base edit pipeline layers passUp) :
    Course base (Delivery.route (Entrances.within (depth + 1)) hub passUp message)
      fun handoffs tally _ =>
        base.Arrives edit pipeline (hub :: layers) [message] handoffs tally := by
  have allUnrouted : ∀ other ∈ [message], other.routing? = none := by
    intro other member
    rw [List.mem_singleton.mp member, unrouted]
  have left : [message].filter (fun other => other.routing?.isNone) = [message] := by
    simp [unrouted]
  have onward : Course base (passUp (.single (.message message))) fun handoffs tally _ =>
      base.Arrives edit pipeline layers [message] handoffs tally :=
    passes _ rfl allUnrouted
  unfold Delivery.route
  rw [unrouted]
  refine count [.passedThrough] ?_ (onward.mono ?_)
  · intro counters mark
    cases mark <;> simp [DemultiplexerCounters.of]
  · intro handoffs tally _ arrives
    rw [← left] at arrives
    exact Store.Arrives.atDemultiplexer isHub edits (Store.sharesOut_of_unrouted allUnrouted)
      arrives

/-- A message that names a group goes up the stack of the group, if there is one, and does
not pass. -/
theorem route_grouped
    {group : String}
    (isHub : (base.demultiplexer? hub).isSome)
    (serves : base.Serves edit hub [message])
    (isGroup : message.group? = some group)
    (edits : base.EditsBy edit layers) :
    Course base (Delivery.route (Entrances.within (depth + 1)) hub passUp message)
      fun handoffs tally _ =>
        base.Arrives edit pipeline (hub :: layers) [message] handoffs tally := by
  have inHeader := isGroup
  unfold Message.group? at inHeader
  obtain ⟨header, routed, inHeader⟩ := Option.bind_eq_some_iff.mp inHeader
  have hasHeader : message.routing?.isSome = true := Option.isSome_iff_exists.mpr ⟨_, routed⟩
  unfold Delivery.route
  rw [routed]
  dsimp only
  rw [inHeader]
  refine get fun store same => ?_
  rw [Store.stackOf?_of_bare_eq (Store.bare_role_eq same hub)]
  cases registered : Delivery.stackOf? base hub group with
  | none =>
      have shares : base.SharesOut edit hub [message] [] [(hub, .missed)] :=
        Store.sharesOut_of_unregistered isGroup registered
      refine count [.missed] ?_ (pure (Store.Arrives.of_sharesOut isHub edits hasHeader shares))
      intro counters mark
      cases mark <;> simp [DemultiplexerCounters.of]
  | some stack =>
      obtain unrouted | ⟨shared, wired, editsHub⟩ := serves
      · rw [unrouted message List.mem_cons_self] at routed
        cases routed
      refine count [.routed] ?_ (enterStack ((travel_stack_edits
        (wired.layout _ stack registered) (editsHub _ stack registered) _).mono ?_))
      · intro counters mark
        cases mark <;> simp [DemultiplexerCounters.of]
      · rintro handoffs _ _ ⟨rfl, rfl⟩
        rw [wired.handedByStack_edits registered editsHub rfl]
        exact Store.Arrives.of_sharesOut isHub edits hasHeader
          (Store.sharesOut_of_stack isGroup registered)

end Route

theorem routeBatch_arrives
    {batch : Batch}
    {passUp : Traffic → Run Outcome}
    (isHub : (base.demultiplexer? hub).isSome)
    (serves : base.Serves edit hub batch.messages)
    (named : batch.NamesGroups)
    (edits : base.EditsBy edit layers)
    (passes : Passes base edit pipeline layers passUp) :
    Course base (Delivery.routeBatch (Entrances.within (depth + 1)) hub passUp batch)
      fun handoffs tally _ =>
        base.Arrives edit pipeline (hub :: layers) batch.messages handoffs tally := by
  have shares : Course base (Delivery.splitBatch (Entrances.within (depth + 1)) hub batch)
      fun handoffs tally _ => base.SharesOut edit hub batch.messages handoffs tally := by
    rcases serves with unrouted | ⟨shared, wired, editsHub⟩
    · exact splitBatch_unrouted unrouted
    · exact splitBatch_edits wired editsHub named
  rw [Delivery.routeBatch_eq named]
  refine bind shares fun handoffs tally _ sharesOut => ?_
  split
  · rename_i empty
    have nobody : base.Arrives edit pipeline layers
        (batch.messages.filter fun message => message.routing?.isNone) [] [] := by
      have nothingLeft := List.isEmpty_iff.mp empty
      unfold Batch.unrouted at nothingLeft
      rw [nothingLeft]
      exact Store.Arrives.nothing
    exact pure (Store.Arrives.atDemultiplexer isHub edits sharesOut nobody)
  · refine (passes (.batch (batch.derive batch.unrouted)) rfl ?_).mono ?_
    · intro message member
      exact Option.isNone_iff_eq_none.mp (List.mem_filter.mp member).2
    · intro _ _ _ arrives
      exact Store.Arrives.atDemultiplexer isHub edits sharesOut arrives

theorem demultiplex_arrives
    {traffic : Traffic}
    {passUp : Traffic → Run Outcome}
    (isHub : (base.demultiplexer? hub).isSome)
    (carries : traffic.carriesMessage = true)
    (serves : base.Serves edit hub traffic.messages)
    (named : ∀ message ∈ traffic.messages, message.routing?.isSome → message.group?.isSome)
    (edits : base.EditsBy edit layers)
    (passes : Passes base edit pipeline layers passUp) :
    Course base (Delivery.demultiplex (Entrances.within (depth + 1)) hub passUp traffic)
      fun handoffs tally _ =>
        base.Arrives edit pipeline (hub :: layers) traffic.messages handoffs tally := by
  cases traffic with
  | batch whole => exact routeBatch_arrives isHub serves named edits passes
  | single event =>
      cases event with
      | message message =>
          cases routed : message.routing? with
          | none => exact route_unrouted isHub routed edits passes
          | some header =>
              obtain ⟨group, isGroup⟩ := Option.isSome_iff_exists.mp
                (named message List.mem_cons_self (Option.isSome_iff_exists.mpr ⟨_, routed⟩))
              exact route_grouped isHub serves isGroup edits
      | viewChange view => cases carries
      | localAddress address => cases carries
      | suspect address => cases carries

/-! ### Up a pipeline -/

theorem leaveTop_arrives
    {traffic : Traffic}
    (carries : traffic.carriesMessage = true) :
    Course base (Delivery.leaveTop (Entrances.within depth) pipeline traffic)
      fun handoffs tally _ => base.Arrives edit pipeline [] traffic.messages handoffs tally := by
  refine look fun store same => ?_
  exact hand (Store.receiverOf?_eq same (.top pipeline)) fun _ => Store.Arrives.atTop carries

/-- Traffic that goes up a pipeline arrives where its messages are to arrive. -/
theorem ascend_arrives
    {traffic : Traffic}
    (known : ∀ stage ∈ layers, base.IsCustom stage ∨ (base.demultiplexer? stage).isSome)
    (edits : base.EditsBy edit layers)
    (carries : traffic.carriesMessage = true)
    (named : ∀ message ∈ traffic.messages, message.routing?.isSome → message.group?.isSome)
    (serves : ∀ hub, layers.find? (fun stage => (base.demultiplexer? stage).isSome) = some hub →
      base.Serves edit hub traffic.messages) :
    Course base (Delivery.ascend (Entrances.within (depth + 1)) pipeline layers traffic)
      fun handoffs tally _ =>
        base.Arrives edit pipeline layers traffic.messages handoffs tally := by
  induction layers generalizing traffic with
  | nil => exact leaveTop_arrives carries
  | cons stage above inductionHypothesis =>
      have knownAbove : ∀ other ∈ above,
          base.IsCustom other ∨ (base.demultiplexer? other).isSome :=
        fun other member => known other (List.mem_cons_of_mem _ member)
      have editsAbove : base.EditsBy edit above :=
        fun other member => edits other (List.mem_cons_of_mem _ member)
      cases isHub : (base.demultiplexer? stage).isSome with
      | true =>
          refine ascendStage_demultiplexer isHub (demultiplex_arrives isHub carries
            (serves stage ?_) named editsAbove fun rest carriesRest unrouted => ?_)
          · exact List.find?_cons_of_pos isHub
          · refine inductionHypothesis knownAbove editsAbove carriesRest ?_ ?_
            · intro message member routed
              rw [unrouted message member] at routed
              cases routed
            · exact fun _ _ => Or.inl unrouted
      | false =>
          have custom := (known stage List.mem_cons_self).resolve_right (by simp [isHub])
          have editsHere : base.EditsBy edit [stage] := by
            intro other member
            rw [List.mem_singleton.mp member]
            exact edits stage List.mem_cons_self
          have kept (message : Message) :
              (base.editAt edit stage message).routing? = message.routing? :=
            Store.routing?_editAt edits List.mem_cons_self message
          refine ascendStage_edits custom editsHere ((inductionHypothesis knownAbove editsAbove
            ((Traffic.carriesMessage_editMessages _ _).trans carries) ?_ ?_).mono ?_)
          · rw [Traffic.messages_editMessages, List.forall_mem_map]
            intro message member
            unfold Message.group?
            rw [kept]
            exact named message member
          · intro hub found
            have servesAll := serves hub
              ((List.find?_cons_of_neg (Bool.not_eq_true _ ▸ isHub)).trans found)
            refine servesAll.imp_left fun unrouted => ?_
            rw [Traffic.messages_editMessages, List.forall_mem_map]
            intro message member
            exact (kept message).trans (unrouted message member)
          · intro handoffs tally _ arrives
            rw [Traffic.messages_editMessages] at arrives
            exact Store.Arrives.throughCustom isHub arrives

end Course

end ChannelMux
