import ChannelMux.Proofs.Batch.SharingOut

/-!
Contract: where messages arrive that come up a pipeline.

Owns, for every consumer and message, what of the message gets to the consumer, and what the
demultiplexers on its way count of it. Owns what it is for messages to have arrived, one after
the other or together, and how that comes about stage by stage.
-/

namespace ChannelMux.Store

variable {store : Store} {edit : Ref .stage → Message → Message} {shared : Ref .pipeline}
  {hub : Ref .stage}

/-- What of a message a consumer gets when it comes up to these stages of a pipeline. -/
def arrival? (store : Store) (edit : Ref .stage → Message → Message)
    (pipeline : Ref .pipeline) (consumer : Consumer) :
    List (Ref .stage) → Message → Option Message
  | [], message => if consumer = .top pipeline then some message else none
  | stage :: above, message =>
      if (store.demultiplexer? stage).isSome && message.routing?.isSome then
        store.taken? edit stage consumer message
      else store.arrival? edit pipeline consumer above (store.editAt edit stage message)

/-- What the demultiplexers among these stages count of a message that comes up to them. -/
def marks (store : Store) (edit : Ref .stage → Message → Message) :
    List (Ref .stage) → Message → Tally
  | [], _ => []
  | stage :: above, message =>
      if (store.demultiplexer? stage).isSome then
        (stage, store.markOf stage message) ::
          if message.routing?.isSome then [] else store.marks edit above message
      else store.marks edit above (store.editAt edit stage message)

/-- Whom what comes up to these stages of a pipeline may get to. -/
def LeadsTo (store : Store) (pipeline : Ref .pipeline) (layers : List (Ref .stage)) :
    Consumer → Prop
  | .top other => other = pipeline
  | .fork fork => ∃ hub ∈ layers, ∃ group member, store.channel? hub group member = some fork

/-- Messages that have come up to these stages of a pipeline have arrived: everybody has been
handed what it gets of them, in order, and they have been counted on their way. -/
structure Arrives (store : Store) (edit : Ref .stage → Message → Message)
    (pipeline : Ref .pipeline) (layers : List (Ref .stage)) (messages : List Message)
    (handoffs : Handoffs) (tally : Tally) : Prop where
  arrived : ∀ consumer, handoffs.messagesTo consumer =
    messages.filterMap (store.arrival? edit pipeline consumer layers)
  counted : tally.Perm (messages.flatMap (store.marks edit layers))
  handed : ∀ entry ∈ handoffs,
    entry.2.carriesMessage = true ∧ store.LeadsTo pipeline layers entry.1

theorem LeadsTo.below
    {pipeline : Ref .pipeline}
    {layers : List (Ref .stage)}
    {consumer : Consumer}
    (leads : store.LeadsTo pipeline layers consumer)
    (stage : Ref .stage) :
    store.LeadsTo pipeline (stage :: layers) consumer := by
  cases consumer with
  | top other => exact leads
  | fork fork =>
      obtain ⟨hub, member, found⟩ := leads
      exact ⟨hub, List.mem_cons_of_mem _ member, found⟩

theorem editAt_of_isHub
    {stage : Ref .stage}
    (isHub : (store.demultiplexer? stage).isSome)
    (message : Message) :
    store.editAt edit stage message = message := by
  apply editAt_of_not_custom
  intro conduct custom
  rw [isSome_demultiplexer?, custom] at isHub
  cases isHub

/-- A message without a routing header gets to no fork. -/
theorem arrival?_fork_of_unrouted
    {pipeline : Ref .pipeline}
    {layers : List (Ref .stage)}
    {fork : Ref .fork}
    {message : Message}
    (edits : store.EditsBy edit layers)
    (unrouted : message.routing? = none) :
    store.arrival? edit pipeline (.fork fork) layers message = none := by
  induction layers generalizing message with
  | nil => rfl
  | cons stage above inductionHypothesis =>
      unfold arrival?
      rw [unrouted, Option.isSome_none, Bool.and_false]
      refine inductionHypothesis (fun other member => edits other ?_) ?_
      · exact List.mem_cons_of_mem _ member
      · rw [routing?_editAt edits List.mem_cons_self, unrouted]

section AtDemultiplexer

variable {pipeline : Ref .pipeline} {stage : Ref .stage} {layers : List (Ref .stage)}

theorem arrival?_of_routed
    {message : Message}
    (isHub : (store.demultiplexer? stage).isSome)
    (routed : message.routing?.isSome = true)
    (consumer : Consumer) :
    store.arrival? edit pipeline consumer (stage :: layers) message =
      store.taken? edit stage consumer message := by
  unfold arrival?
  rw [isHub, routed]
  rfl

theorem arrival?_of_unrouted
    {message : Message}
    (isHub : (store.demultiplexer? stage).isSome)
    (unrouted : message.routing? = none)
    (consumer : Consumer) :
    store.arrival? edit pipeline consumer (stage :: layers) message =
      store.arrival? edit pipeline consumer layers message := by
  conv_lhs => unfold arrival?
  rw [unrouted, editAt_of_isHub isHub]
  simp

theorem marks_of_isHub
    (isHub : (store.demultiplexer? stage).isSome)
    (message : Message) :
    store.marks edit (stage :: layers) message =
      (stage, store.markOf stage message) ::
        if message.routing?.isNone then store.marks edit layers message else [] := by
  conv_lhs => unfold marks
  rw [isHub]
  cases message.routing? <;> rfl

/-- What a consumer is given at a demultiplexer and what it gets of the rest is all that it
gets. A fork gets nothing of what passes, and the top nothing of what is shared out. -/
theorem taken?_append_arrival?
    (isHub : (store.demultiplexer? stage).isSome)
    (edits : store.EditsBy edit layers)
    (messages : List Message)
    (consumer : Consumer) :
    messages.filterMap (store.taken? edit stage consumer) ++
        messages.filterMap (fun message =>
          if message.routing?.isNone then store.arrival? edit pipeline consumer layers message
          else none) =
      messages.filterMap (store.arrival? edit pipeline consumer (stage :: layers)) := by
  cases consumer with
  | top other =>
      have nothing : messages.filterMap (store.taken? edit stage (.top other)) = [] :=
        List.filterMap_eq_nil_iff.mpr fun _ _ => rfl
      rw [nothing, List.nil_append]
      apply List.filterMap_congr
      intro message _
      cases routed : message.routing? with
      | none => simp [arrival?_of_unrouted isHub routed]
      | some header =>
          rw [arrival?_of_routed isHub (Option.isSome_iff_exists.mpr ⟨_, routed⟩)]
          rfl
  | fork fork =>
      have nothing : (messages.filterMap fun message =>
          if message.routing?.isNone then
            store.arrival? edit pipeline (.fork fork) layers message
          else none) = [] := by
        refine List.filterMap_eq_nil_iff.mpr fun message _ => ?_
        split
        · rename_i unrouted
          exact arrival?_fork_of_unrouted edits (Option.isNone_iff_eq_none.mp unrouted)
        · rfl
      rw [nothing, List.append_nil]
      apply List.filterMap_congr
      intro message _
      cases routed : message.routing? with
      | none =>
          rw [arrival?_of_unrouted isHub routed, arrival?_fork_of_unrouted edits routed,
            taken?_of_unrouted routed]
      | some header => rw [arrival?_of_routed isHub (Option.isSome_iff_exists.mpr ⟨_, routed⟩)]

end AtDemultiplexer

namespace Arrives

variable {pipeline : Ref .pipeline} {layers : List (Ref .stage)}

theorem nothing : store.Arrives edit pipeline layers [] [] [] where
  arrived _ := rfl
  counted := List.Perm.refl _
  handed _ member := absurd member List.not_mem_nil

theorem append
    {first second : List Message}
    {firstHandoffs secondHandoffs : Handoffs}
    {firstTally secondTally : Tally}
    (earlier : store.Arrives edit pipeline layers first firstHandoffs firstTally)
    (later : store.Arrives edit pipeline layers second secondHandoffs secondTally) :
    store.Arrives edit pipeline layers (first ++ second) (firstHandoffs ++ secondHandoffs)
      (firstTally ++ secondTally) where
  arrived consumer := by
    rw [Handoffs.messagesTo_append, earlier.arrived, later.arrived, List.filterMap_append]
  counted := by
    rw [List.flatMap_append]
    exact earlier.counted.append later.counted
  handed entry member := by
    rcases List.mem_append.mp member with inFirst | inSecond
    · exact earlier.handed entry inFirst
    · exact later.handed entry inSecond

theorem atTop
    {traffic : Traffic}
    (carries : traffic.carriesMessage = true) :
    store.Arrives edit pipeline [] traffic.messages [(.top pipeline, traffic)] [] where
  arrived consumer := by
    by_cases isTop : consumer = .top pipeline
    · subst isTop
      rw [Handoffs.messagesTo_cons_self]
      simp [arrival?, Handoffs.messagesTo]
    · rw [Handoffs.messagesTo_of_not_mem (by simpa using isTop)]
      simp [arrival?, isTop]
  counted := by simp [marks]
  handed entry member := by
    rw [List.mem_singleton.mp member]
    exact ⟨carries, rfl⟩

theorem throughCustom
    {stage : Ref .stage}
    {messages : List Message}
    {handoffs : Handoffs}
    {tally : Tally}
    (notHub : (store.demultiplexer? stage).isSome = false)
    (arrives : store.Arrives edit pipeline layers (messages.map (store.editAt edit stage))
      handoffs tally) :
    store.Arrives edit pipeline (stage :: layers) messages handoffs tally where
  arrived consumer := by
    rw [arrives.arrived, List.filterMap_map]
    apply List.filterMap_congr
    intro message _
    simp [arrival?, notHub]
  counted := by
    refine arrives.counted.trans (List.Perm.of_eq ?_)
    rw [List.flatMap_map]
    apply List.flatMap_congr
    intro message _
    simp [marks, notHub]
  handed entry member := by
    obtain ⟨carries, leads⟩ := arrives.handed entry member
    exact ⟨carries, leads.below stage⟩

/-- What a demultiplexer shares out of messages, and what becomes of those that pass. -/
theorem atDemultiplexer
    {stage : Ref .stage}
    {messages : List Message}
    {shared passed : Handoffs}
    {counted : Tally}
    {later : Tally}
    (isHub : (store.demultiplexer? stage).isSome)
    (edits : store.EditsBy edit layers)
    (shares : store.SharesOut edit stage messages shared counted)
    (passes : store.Arrives edit pipeline layers
      (messages.filter fun message => message.routing?.isNone) passed later) :
    store.Arrives edit pipeline (stage :: layers) messages (shared ++ passed)
      (counted ++ later) where
  arrived consumer := by
    rw [Handoffs.messagesTo_append, shares.taken, passes.arrived, List.filterMap_filter]
    exact taken?_append_arrival? isHub edits messages consumer
  counted := by
    rw [funext (marks_of_isHub isHub)]
    refine (shares.counted.append passes.counted).trans ?_
    rw [flatMap_filter]
    exact List.map_append_flatMap_perm _ _ _
  handed entry member := by
    rcases List.mem_append.mp member with isShared | hasPassed
    · obtain ⟨carries, group, name, fork, found, isFork⟩ := shares.handed entry isShared
      rw [isFork]
      exact ⟨carries, stage, List.mem_cons_self, group, name, found⟩
    · obtain ⟨carries, leads⟩ := passes.handed entry hasPassed
      exact ⟨carries, leads.below stage⟩

/-- A message with a routing header that has been shared out has arrived. -/
theorem of_sharesOut
    {stage : Ref .stage}
    {message : Message}
    {handoffs : Handoffs}
    {tally : Tally}
    (isHub : (store.demultiplexer? stage).isSome)
    (edits : store.EditsBy edit layers)
    (routed : message.routing?.isSome = true)
    (shares : store.SharesOut edit stage [message] handoffs tally) :
    store.Arrives edit pipeline (stage :: layers) [message] handoffs tally := by
  have nothingLeft : [message].filter (fun other => other.routing?.isNone) = [] := by
    obtain ⟨header, found⟩ := Option.isSome_iff_exists.mp routed
    simp [found]
  have nobody : store.Arrives edit pipeline layers
      ([message].filter fun other => other.routing?.isNone) [] [] := by
    rw [nothingLeft]
    exact nothing
  have arrives := atDemultiplexer isHub edits shares nobody
  rwa [List.append_nil, List.append_nil] at arrives

end Arrives

end ChannelMux.Store
