import Mathlib.Data.List.Count
import ChannelMux.Proofs.Network.Wiring

/-!
Contract: what stages keep books of, and who takes what is handed on.

Owns the consumers of traffic, the marks that demultiplexers count, and what it is that
between two stores nothing has happened but that stages have recorded and counted things.
-/

namespace ChannelMux

variable {α β : Type}

/-- Whoever takes what is for a fork, or what leaves the top of a pipeline. -/
inductive Consumer where
  | fork (fork : Ref .fork)
  | top (pipeline : Ref .pipeline)
deriving DecidableEq

/-- The messages that traffic carries. -/
def Traffic.messages : Traffic → List Message
  | .single (.message message) => [message]
  | .single _ => []
  | .batch whole => whole.messages

/-- What is handed to whom, in turn. -/
abbrev Handoffs := List (Consumer × Traffic)

namespace Handoffs

/-- The messages that one consumer is handed. -/
def messagesTo (handoffs : Handoffs) (consumer : Consumer) : List Message :=
  (handoffs.filter fun entry => entry.1 = consumer).flatMap fun entry => entry.2.messages

theorem messagesTo_append (first second : Handoffs) (consumer : Consumer) :
    messagesTo (first ++ second) consumer =
      first.messagesTo consumer ++ second.messagesTo consumer := by
  unfold messagesTo
  rw [List.filter_append, List.flatMap_append]

theorem messagesTo_cons_self (consumer : Consumer) (traffic : Traffic) (rest : Handoffs) :
    messagesTo ((consumer, traffic) :: rest) consumer =
      traffic.messages ++ rest.messagesTo consumer := by
  unfold messagesTo
  rw [List.filter_cons_of_pos (by simp), List.flatMap_cons]

theorem messagesTo_cons_of_ne
    {consumer : Consumer}
    {entry : Consumer × Traffic}
    (other : entry.1 ≠ consumer)
    (rest : Handoffs) :
    messagesTo (entry :: rest) consumer = rest.messagesTo consumer := by
  unfold messagesTo
  rw [List.filter_cons_of_neg (by simpa using other)]

theorem messagesTo_of_not_mem
    {handoffs : Handoffs}
    {consumer : Consumer}
    (nothing : consumer ∉ handoffs.map Prod.fst) :
    handoffs.messagesTo consumer = [] := by
  induction handoffs with
  | nil => rfl
  | cons entry rest inductionHypothesis =>
      rw [List.map_cons, List.mem_cons, not_or] at nothing
      rw [messagesTo_cons_of_ne (Ne.symm nothing.1), inductionHypothesis nothing.2]

theorem mem_messagesTo
    {handoffs : Handoffs}
    {entry : Consumer × Traffic}
    {message : Message}
    (handed : entry ∈ handoffs)
    (among : message ∈ entry.2.messages) :
    message ∈ handoffs.messagesTo entry.1 :=
  List.mem_flatMap.mpr ⟨entry, List.mem_filter.mpr ⟨handed, by simp⟩, among⟩

/-- Who is handed one thing alone is handed its messages. -/
theorem messagesTo_of_once
    {handoffs : Handoffs}
    {consumer : Consumer}
    {traffic : Traffic}
    (once : (handoffs.map Prod.fst).Nodup)
    (handed : (consumer, traffic) ∈ handoffs) :
    handoffs.messagesTo consumer = traffic.messages := by
  induction handoffs with
  | nil => cases handed
  | cons entry rest inductionHypothesis =>
      rw [List.map_cons, List.nodup_cons] at once
      rcases List.mem_cons.mp handed with same | later
      · subst same
        rw [messagesTo_cons_self, messagesTo_of_not_mem once.1, List.append_nil]
      · have isConsumer : consumer ∈ rest.map Prod.fst := List.mem_map.mpr ⟨_, later, rfl⟩
        rw [messagesTo_cons_of_ne, inductionHypothesis once.2 later]
        intro same
        rw [same] at once
        exact once.1 isConsumer

end Handoffs

/-- What a demultiplexer can count of a message. -/
inductive Mark where
  | routed
  | passedThrough
  | missed
deriving DecidableEq

/-- The marks that demultiplexers count, one for each message. -/
abbrev Tally := List (Ref .stage × Mark)

def DemultiplexerCounters.of (counters : DemultiplexerCounters) : Mark → UInt64
  | .routed => counters.routed
  | .passedThrough => counters.passedThrough
  | .missed => counters.misses

namespace Store

/-- The agent that takes what is for a consumer. -/
def receiverOf? (store : Store) : Consumer → Option (Ref .agent)
  | .fork fork => (store.forks.get fork).receiver?
  | .top pipeline => (store.pipelines.get pipeline).receiver?

/-- What a demultiplexer has counted. -/
def counted (store : Store) (stage : Ref .stage) (mark : Mark) : UInt64 :=
  match store.demultiplexer? stage with
  | some state => state.counters.of mark
  | none => 0

theorem receiverOf?_eq
    {before after : Store}
    (same : after.skeleton = before.skeleton)
    (consumer : Consumer) :
    after.receiverOf? consumer = before.receiverOf? consumer := by
  cases consumer with
  | fork fork =>
      have records := congrArg Fork.receiver? (still_fork_eq same fork)
      exact records
  | top pipeline =>
      unfold receiverOf?
      rw [pipelines_eq same]

end Store

/-! ### Bookkeeping -/

/-- Stages have recorded and counted things, and nothing else has happened. -/
structure Bookkept (tally : Tally) (before after : Store) : Prop where
  shape : after.shape = before.shape
  agents : after.agents = before.agents
  nodes : after.nodes = before.nodes
  counted : ∀ stage mark, (before.demultiplexer? stage).isSome →
    after.counted stage mark =
      before.counted stage mark + UInt64.ofNat (tally.count (stage, mark))

namespace Bookkept

theorem refl (store : Store) : Bookkept [] store store where
  shape := rfl
  agents := rfl
  nodes := rfl
  counted stage mark _ := by simp

theorem skeleton
    {tally : Tally}
    {before after : Store}
    (books : Bookkept tally before after) :
    after.skeleton = before.skeleton := Store.skeleton_eq_of_shape_eq books.shape

theorem isSome_demultiplexer?
    {tally : Tally}
    {before after : Store}
    (books : Bookkept tally before after)
    (stage : Ref .stage) :
    (after.demultiplexer? stage).isSome = (before.demultiplexer? stage).isSome :=
  Store.isSome_demultiplexer?_of_bare_eq (Store.bare_role_eq books.skeleton stage)

theorem trans
    {first second : Tally}
    {before between after : Store}
    (earlier : Bookkept first before between)
    (later : Bookkept second between after) :
    Bookkept (first ++ second) before after where
  shape := later.shape.trans earlier.shape
  agents := later.agents.trans earlier.agents
  nodes := later.nodes.trans earlier.nodes
  counted stage mark isHub := by
    have isHubThen := (earlier.isSome_demultiplexer? stage).trans isHub
    rw [later.counted stage mark isHubThen, earlier.counted stage mark isHub,
      List.count_append, UInt64.ofNat_add, UInt64.add_assoc]

theorem recordStage (store : Store) (stage : Ref .stage) (entry : StageEntry) :
    Bookkept [] store (store.modifyStage stage fun record =>
      { record with entries := entry :: record.entries }) where
  shape := Store.shape_recordStage store stage entry
  agents := rfl
  nodes := rfl
  counted other mark _ := by
    have same : (store.modifyStage stage fun record =>
        { record with entries := entry :: record.entries }).demultiplexer? other =
        store.demultiplexer? other := by
      apply Table.read_modify Stage.demultiplexer?
      intro record
      rfl
    unfold Store.counted
    rw [same]
    simp

theorem count
    {change : DemultiplexerCounters → DemultiplexerCounters}
    {marks : List Mark}
    (counts : ∀ counters mark,
      (change counters).of mark = counters.of mark + UInt64.ofNat (marks.count mark))
    (store : Store)
    (stage : Ref .stage) :
    ∃ after, Run.count stage change store = some ((), after) ∧
      Bookkept (marks.map (stage, ·)) store after := by
  refine ⟨_, rfl, Store.shape_count store stage change, rfl, rfl, ?_⟩
  intro other mark isHub
  unfold Store.counted Store.demultiplexer? Store.modifyStage at *
  by_cases same : other = stage
  · subst same
    have issued := Store.issued_of_isSome_demultiplexer? isHub
    obtain ⟨state, found⟩ := Option.isSome_iff_exists.mp isHub
    have role := Store.demultiplexer?_eq_some.mp found
    have marked : (marks.map fun mark => (other, mark)).count (other, mark) =
        marks.count mark := by
      apply List.count_map_of_injective
      intro left right pairs
      exact congrArg Prod.snd pairs
    rw [Table.get_modify_self issued, marked, found]
    simp only [role, Stage.demultiplexer?]
    exact counts state.counters mark
  · have unmarked : (marks.map fun mark => (stage, mark)).count (other, mark) = 0 := by
      rw [List.count_eq_zero, List.mem_map]
      rintro ⟨_, _, pairs⟩
      exact same (congrArg Prod.fst pairs).symm
    rw [Table.get_modify_of_ne same, unmarked]
    simp

end Bookkept

end ChannelMux
