import ChannelMux.Proofs.Batch.Telling

/-!
Contract: agents that take a batch as the sequence of its messages.

Owns such manners, and that what somebody with one has heard depends on nothing but the
messages, in order, whatever batches they came in. Owns what an agent is told of what is
handed who takes it for one consumer alone.
-/

namespace ChannelMux

/-- Someone with this manner takes a batch as the sequence of its messages. -/
def Manner.Piecemeal (manner : Manner) : Prop :=
  ∀ batch, manner (.up (.batch batch)) =
    .forEach (fun message => manner (.up (.single (.message message)))) batch.messages

/-- Someone with this manner accepts a message and gives no command then. -/
def Manner.Accepts (manner : Manner) (message : Message) : Prop :=
  (manner (.up (.single (.message message)))).Settles (.ok ())

theorem Manner.oneByOne_piecemeal
    (refuses : Event → Option Refusal)
    (reaction? : Option Reaction) :
    (Manner.oneByOne refuses reaction?).Piecemeal := fun _ => rfl

theorem Manner.Piecemeal.settles
    {manner : Manner}
    {traffic : Traffic}
    (piecemeal : manner.Piecemeal)
    (carries : traffic.carriesMessage = true)
    (accepts : ∀ message ∈ traffic.messages, manner.Accepts message) :
    (manner (.up traffic)).Settles (.ok ()) := by
  cases traffic with
  | batch whole =>
      rw [piecemeal whole]
      exact Script.settles_forEach accepts
  | single event =>
      cases event with
      | message message => exact accepts message List.mem_cons_self
      | viewChange view => cases carries
      | localAddress address => cases carries
      | suspect address => cases carries

namespace Agent

theorem hearAll_eq (agent : Agent) (notices : List Notice) :
    agent.hearAll notices = { agent with
      entries := notices.foldl (fun entries notice => (agent.manner notice).remember entries)
        agent.entries } := by
  induction notices generalizing agent with
  | nil => rfl
  | cons notice rest inductionHypothesis => exact inductionHypothesis (agent.hear notice)

/-- An agent that has been told of messages, one by one. -/
def hearMessages (agent : Agent) (messages : List Message) : Agent :=
  agent.hearAll (messages.map fun message => .up (.single (.message message)))

theorem hearMessages_append (agent : Agent) (first second : List Message) :
    agent.hearMessages (first ++ second) = (agent.hearMessages first).hearMessages second := by
  unfold hearMessages
  rw [List.map_append, hearAll_append]

theorem hear_piecemeal
    {agent : Agent}
    {traffic : Traffic}
    (piecemeal : agent.manner.Piecemeal)
    (carries : traffic.carriesMessage = true)
    (accepts : ∀ message ∈ traffic.messages, agent.manner.Accepts message) :
    agent.hear (.up traffic) = agent.hearMessages traffic.messages := by
  cases traffic with
  | batch whole =>
      have settle : ∀ message ∈ whole.messages,
          (agent.manner (.up (.single (.message message)))).Settles (.ok ()) := accepts
      unfold hearMessages hear
      rw [hearAll_eq, piecemeal whole, Script.remember_forEach settle, List.foldl_map]
      rfl
  | single event =>
      cases event with
      | message message => rfl
      | viewChange view => cases carries
      | localAddress address => cases carries
      | suspect address => cases carries

/-- What batches messages come in makes no difference to what is heard of them. -/
theorem hearAll_piecemeal
    {agent : Agent}
    {heard : List Traffic}
    (piecemeal : agent.manner.Piecemeal)
    (carries : ∀ traffic ∈ heard, traffic.carriesMessage = true)
    (accepts : ∀ message ∈ heard.flatMap Traffic.messages, agent.manner.Accepts message) :
    agent.hearAll (heard.map .up) = agent.hearMessages (heard.flatMap Traffic.messages) := by
  induction heard generalizing agent with
  | nil => rfl
  | cons traffic rest inductionHypothesis =>
      rw [List.flatMap_cons] at accepts ⊢
      have first : agent.hear (.up traffic) = agent.hearMessages traffic.messages :=
        hear_piecemeal piecemeal (carries traffic List.mem_cons_self) fun message member =>
          accepts message (List.mem_append_left _ member)
      have onward : (agent.hear (.up traffic)).hearAll (rest.map .up) =
          (agent.hear (.up traffic)).hearMessages (rest.flatMap Traffic.messages) :=
        inductionHypothesis piecemeal
          (fun other member => carries other (List.mem_cons_of_mem _ member))
          (fun message member => accepts message (List.mem_append_right _ member))
      rw [hearMessages_append, ← first]
      exact onward

end Agent

namespace Handoffs

variable {base : Store} {handoffs : Handoffs} {agent : Ref .agent}

theorem told_cons (entry : Consumer × Traffic) (rest : Handoffs) (base : Store) :
    told (entry :: rest) base =
      Yields.handed (base.receiverOf? entry.1) entry.2 ++ rest.told base :=
  List.flatMap_cons

theorem noticesTo_handed (receiver? : Option (Ref .agent)) (traffic : Traffic)
    (agent : Ref .agent) :
    (Yields.handed receiver? traffic).noticesTo agent =
      if receiver? = some agent then [.up traffic] else [] := by
  cases receiver? with
  | none => rfl
  | some other => by_cases same : other = agent <;> simp [Yields.handed, Told.noticesTo, same]

/-- Who takes what is handed to one consumer alone is told that and nothing else. -/
theorem noticesTo_told
    {consumer : Consumer}
    (alone : ∀ entry ∈ handoffs, base.receiverOf? entry.1 = some agent ↔ entry.1 = consumer) :
    (handoffs.told base).noticesTo agent =
      ((handoffs.filter fun entry => entry.1 = consumer).map Prod.snd).map .up := by
  induction handoffs with
  | nil => rfl
  | cons entry rest inductionHypothesis =>
      have restAlone := inductionHypothesis fun other member =>
        alone other (List.mem_cons_of_mem _ member)
      rw [told_cons, Told.noticesTo_append, noticesTo_handed, restAlone]
      by_cases isConsumer : entry.1 = consumer
      · rw [if_pos ((alone entry List.mem_cons_self).mpr isConsumer),
          List.filter_cons_of_pos (by simpa using isConsumer)]
        rfl
      · have takesNot := mt (alone entry List.mem_cons_self).mp isConsumer
        rw [if_neg takesNot, List.filter_cons_of_neg (by simpa using isConsumer)]
        rfl

theorem noticesTo_told_of_not_taking
    (nothing : ∀ entry ∈ handoffs, base.receiverOf? entry.1 ≠ some agent) :
    (handoffs.told base).noticesTo agent = [] := by
  induction handoffs with
  | nil => rfl
  | cons entry rest inductionHypothesis =>
      have restNothing := inductionHypothesis fun other member =>
        nothing other (List.mem_cons_of_mem _ member)
      rw [told_cons, Told.noticesTo_append, noticesTo_handed, restNothing,
        if_neg (nothing entry List.mem_cons_self)]
      rfl

end Handoffs

end ChannelMux
