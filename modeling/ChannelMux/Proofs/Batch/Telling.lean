import ChannelMux.Proofs.Batch.Course
import ChannelMux.Proofs.Delivery.Passage
import ChannelMux.Proofs.Delivery.Skeleton

/-!
Contract: what becomes of a run that takes a course.

Owns that a run which finishes has handed over what it is to hand, in turn, whatever the
agents do meanwhile, and that a run finishes and has told its agents just what it handed if
they give no command.
-/

namespace ChannelMux

variable {α β : Type}

/-! ### Whatever agents do -/

/-- Between two stores these things have been handed to their consumers, in turn, and between
one and the next stages have recorded and counted, and that is all. -/
inductive HandedOver (base : Store) : Store → Handoffs → Store → Prop where
  | nothing {before after : Store} {tally : Tally} (books : Bookkept tally before after) :
      HandedOver base before [] after
  | hand {before between heard after : Store} {tally : Tally} {depth : Nat}
      {consumer : Consumer} {traffic : Traffic} {outcome : Outcome} {handoffs : Handoffs}
      (books : Bookkept tally before between)
      (handed : Delivery.hand (Entrances.within depth) (base.receiverOf? consumer) traffic
        between = some (outcome, heard))
      (later : HandedOver base heard handoffs after) :
      HandedOver base before ((consumer, traffic) :: handoffs) after

/-- A run that finishes has taken its course. -/
theorem Unfolds.handsOver
    {base : Store}
    {run : Run α}
    {before after : Store}
    {value : α}
    {post : Handoffs → Tally → α → Prop}
    (unfolds : Unfolds base run before post)
    (known : before.skeleton = base.skeleton)
    (finished : run before = some (value, after)) :
    ∃ handoffs tally, post handoffs tally value ∧ HandedOver base before handoffs after := by
  induction unfolds with
  | ends finishes books holds =>
      rw [finishes] at finished
      cases finished
      exact ⟨_, _, holds, .nothing books⟩
  | hands goesOn books _ inductionHypothesis =>
      rw [goesOn] at finished
      obtain ⟨outcome, heard, handed, finishedOn⟩ := Rule.bind_eq_some finished
      have kept : heard.skeleton = base.skeleton :=
        (TrafficRule.governs_hand (Skeleton.surrounds_within _)
          (Or.inl trivial) _ _ outcome heard trivial handed).trans (books.skeleton.trans known)
      obtain ⟨handoffs, tally, holds, later⟩ :=
        inductionHypothesis outcome heard kept kept finishedOn
      exact ⟨_, _, holds, .hand books handed later⟩

/-! ### Agents that keep to themselves -/

/-- Agents have been told these things, stages have recorded and counted, and nothing else
has happened. -/
structure Delivered (told : Told) (tally : Tally) (before after : Store) : Prop where
  shape : after.shape = before.shape
  agents : after.agents = hearAll before.agents told
  nodes : after.nodes = before.nodes
  counted : ∀ stage mark, (before.demultiplexer? stage).isSome →
    after.counted stage mark =
      before.counted stage mark + UInt64.ofNat (tally.count (stage, mark))

namespace Delivered

theorem of_bookkept {tally : Tally} {before after : Store}
    (books : Bookkept tally before after) :
    Delivered [] tally before after where
  shape := books.shape
  agents := books.agents
  nodes := books.nodes
  counted := books.counted

theorem trans
    {firstTold secondTold : Told}
    {first second : Tally}
    {before between after : Store}
    (earlier : Delivered firstTold first before between)
    (later : Delivered secondTold second between after) :
    Delivered (firstTold ++ secondTold) (first ++ second) before after where
  shape := later.shape.trans earlier.shape
  agents := by rw [later.agents, earlier.agents, hearAll_append]
  nodes := later.nodes.trans earlier.nodes
  counted stage mark isHub := by
    have skeleton := Store.skeleton_eq_of_shape_eq earlier.shape
    have isHubThen := (Store.isSome_demultiplexer?_of_bare_eq
      (Store.bare_role_eq skeleton stage)).trans isHub
    rw [later.counted stage mark isHubThen, earlier.counted stage mark isHub,
      List.count_append, UInt64.ofNat_add, UInt64.add_assoc]

/-- Traffic is handed to somebody who gives no command, or to nobody. -/
theorem hand
    {store : Store}
    {receiver? : Option (Ref .agent)}
    {traffic : Traffic}
    (settles : ∀ agent, receiver? = some agent →
      ∃ outcome, ((store.agents.get agent).manner (.up traffic)).Settles outcome)
    (inner : Entrances) :
    ∃ outcome after, Delivery.hand inner receiver? traffic store = some (outcome, after) ∧
      Delivered (Yields.handed receiver? traffic) [] store after := by
  cases receiver? with
  | none => exact ⟨_, store, rfl, of_bookkept (Bookkept.refl store)⟩
  | some agent =>
      obtain ⟨outcome, settled⟩ := settles agent rfl
      refine ⟨outcome, _, tell_of_settles settled inner, shape_hear store agent _, rfl, rfl, ?_⟩
      intro stage mark _
      have same : (store.modifyAgent agent (·.hear (.up traffic))).counted stage mark =
          store.counted stage mark := rfl
      rw [same]
      simp

end Delivered

namespace Handoffs

/-- Whom the agents are who are told what is handed. -/
def told (handoffs : Handoffs) (base : Store) : Told :=
  handoffs.flatMap fun entry => Yields.handed (base.receiverOf? entry.1) entry.2

/-- Whoever takes what is handed gives no command then. -/
def Settle (handoffs : Handoffs) (base : Store) : Prop :=
  ∀ entry ∈ handoffs, ∀ agent, base.receiverOf? entry.1 = some agent →
    ∃ outcome, ((base.agents.get agent).manner (.up entry.2)).Settles outcome

end Handoffs

namespace Unfolds

/-- A course can be taken to its end. -/
theorem exists_post
    {base : Store}
    {run : Run α}
    {before : Store}
    {post : Handoffs → Tally → α → Prop}
    (unfolds : Unfolds base run before post) :
    ∃ handoffs tally value, post handoffs tally value := by
  induction unfolds with
  | ends finishes books holds => exact ⟨_, _, _, holds⟩
  | hands goesOn books _ inductionHypothesis =>
      obtain ⟨handoffs, tally, value, holds⟩ := inductionHypothesis (.ok ()) base rfl
      exact ⟨_, _, value, holds⟩

/-- If nobody gives a command who is handed something, then a run finishes, and what it hands
has been told. -/
theorem delivers
    {base : Store}
    {run : Run α}
    {before : Store}
    {post : Handoffs → Tally → α → Prop}
    (unfolds : Unfolds base run before post)
    (known : before.skeleton = base.skeleton)
    (settle : ∀ handoffs tally value, post handoffs tally value → handoffs.Settle base) :
    ∃ value after handoffs tally, run before = some (value, after) ∧
      post handoffs tally value ∧ Delivered (handoffs.told base) tally before after := by
  induction unfolds with
  | ends finishes books holds =>
      exact ⟨_, _, [], _, finishes, holds, Delivered.of_bookkept books⟩
  | @hands run before between tally depth consumer traffic next post goesOn books unfolds
      inductionHypothesis =>
      have kept := books.skeleton.trans known
      -- Whatever the rest of the course is, this is part of what is handed in all.
      obtain ⟨_, _, _, wholly⟩ := (unfolds (.ok ()) base rfl).exists_post
      have settles (agent : Ref .agent) (receives : base.receiverOf? consumer = some agent) :
          ∃ outcome, ((between.agents.get agent).manner (.up traffic)).Settles outcome := by
        rw [Store.manner_eq kept]
        exact settle _ _ _ wholly _ List.mem_cons_self agent receives
      obtain ⟨outcome, heard, handed, delivered⟩ :=
        Delivered.hand settles (Entrances.within depth)
      have keptOn := (Store.skeleton_eq_of_shape_eq delivered.shape).trans kept
      obtain ⟨value, after, handoffs, counted, finishes, holds, deliveredOn⟩ :=
        inductionHypothesis outcome heard keptOn keptOn fun _ _ _ holds entry member =>
          settle _ _ _ holds entry (List.mem_cons_of_mem _ member)
      refine ⟨value, after, (consumer, traffic) :: handoffs, tally ++ counted, ?_, holds, ?_⟩
      · rw [goesOn, Run.bind_apply, handed]
        exact finishes
      · exact (Delivered.of_bookkept books).trans (delivered.trans deliveredOn)

end Unfolds

end ChannelMux
