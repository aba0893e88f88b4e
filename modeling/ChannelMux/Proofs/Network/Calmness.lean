import ChannelMux.Proofs.Delivery.Sending
import ChannelMux.Proofs.Network.Undisturbed

/-!
Contract: networks in which nobody answers back.

Owns the stores that are wired, calm and in agreement: every store that is reached by calm
actions is one. Owns what a single action tells the agents of such a store: a message that
is sent is told to whom its copies are for, and nothing else that is done with the network
tells anybody of a message.
-/

namespace ChannelMux

/-- The messages that somebody is told of. -/
def Notice.messages : Notice → List Message
  | .up (.single (.message message)) => [message]
  | .up (.batch batch) => batch.messages
  | .down (.message message) => [message]
  | _ => []

theorem Notice.messages_of_silent {notice : Notice} (silent : notice.carriesMessage = false) :
    notice.messages = [] := by
  cases notice with
  | up traffic =>
      cases traffic with
      | single event =>
          cases event with
          | message content => cases silent
          | viewChange view => rfl
          | localAddress address => rfl
          | suspect address => rfl
      | batch whole => cases silent
  | down event =>
      cases event with
      | message content => cases silent
      | viewChange view => rfl
      | localAddress address => rfl
      | suspect address => rfl
  | status entered now => rfl

/-- The messages that an agent is told of, in turn. -/
def Told.messagesTo (told : Told) (agent : Ref .agent) : List Message :=
  (told.noticesTo agent).flatMap Notice.messages

theorem Told.messagesTo_of_silent {told : Told} (silent : told.Silent) (agent : Ref .agent) :
    told.messagesTo agent = [] := by
  apply List.flatMap_eq_nil_iff.mpr
  intro notice member
  obtain ⟨entry, kept, same⟩ := List.mem_map.mp member
  rw [← same]
  exact Notice.messages_of_silent (silent entry (List.mem_filter.mp kept).1)

namespace Store

/-- A store is wired, calm and in agreement. -/
structure Orderly (store : Store) : Prop where
  wired : store.Wired
  calm : Calm store
  agreed : store.Agreed

/-- Who is told what when an operation is called that sends something. -/
def sent (store : Store) : Operation → Told
  | .sendFork fork message =>
      store.carried (store.forks.get fork).node ((store.forks.get fork).tag message)
  | .sendNode node message => store.carried node message
  | _ => []

variable {store after : Store}

theorem orderly_of_shape_eq (orderly : store.Orderly) (same : after.shape = store.shape) :
    after.Orderly where
  wired := orderly.wired.of_skeleton_eq (skeleton_eq_of_shape_eq same)
  calm := orderly.calm.of_shape_eq same
  agreed := (Unmoved.of_shape_eq same).agreed orderly.wired orderly.agreed

theorem orderly_of_governs
    {run : Run Outcome}
    {outcome : Outcome}
    (orderly : store.Orderly)
    (governed : (Calm.rule True).Governs run)
    (finished : run store = some (outcome, after)) :
    after.Orderly := by
  obtain ⟨told, effect, _⟩ := governed store outcome after orderly.calm finished
  exact orderly_of_shape_eq orderly effect.shape

/-! ### Sending -/

theorem depthLimit_eq : depthLimit = 999995 + 5 := rfl

/-- Sending from a fork that lasts finishes, and tells whom its copies are for. -/
theorem call_sendFork
    {fork : Ref .fork}
    (orderly : store.Orderly)
    (alive : store.isForkAlive fork = true)
    (message : Message) :
    ∃ reply after, store.call (.sendFork fork message) = some (reply, after) ∧
      Effect (store.sent (.sendFork fork message)) store after ∧
      ((store.copy? (store.forks.get fork).node
        ((store.forks.get fork).tag message)).isSome → reply = .ok ()) := by
  obtain ⟨reply, yields, well⟩ := Yields.sendFork orderly.calm orderly.wired alive
    (orderly.agreed.mirrors fork alive) 999995 message
  obtain ⟨after, finished, effect⟩ := yields store rfl
  refine ⟨reply, after, ?_, effect, well⟩
  unfold Store.call
  rw [depthLimit_eq]
  exact finished

theorem call_sendNode
    {node : Ref .node}
    (orderly : store.Orderly)
    (alive : store.isNodeAlive node = true)
    (message : Message) :
    ∃ reply after, store.call (.sendNode node message) = some (reply, after) ∧
      Effect (store.sent (.sendNode node message)) store after := by
  obtain ⟨reply, yields⟩ := Yields.sendNode orderly.calm orderly.wired alive 999996 message
  obtain ⟨after, finished, effect⟩ := yields store rfl
  refine ⟨reply, after, ?_, effect⟩
  unfold Store.call
  rw [depthLimit_eq]
  exact finished

/-! ### Joining and leaving -/

theorem agreed_called
    {operation : Operation}
    (wired : store.Wired)
    (agreed : store.Agreed)
    (can : store.canCall operation = true) :
    (store.called operation).Agreed := by
  cases operation with
  | sendFork fork message => exact agreed
  | sendNode node message => exact agreed
  | connect node name =>
      exact agreed_connected wired (wired.issued_of_isNodeAlive can) agreed name
  | disconnect node => exact agreed_disconnected wired (wired.issued_of_isNodeAlive can) agreed
  | close node => exact agreed_closed wired (wired.issued_of_isNodeAlive can) agreed

/-- Calling what sends nothing keeps a store orderly and tells nobody of a message. -/
theorem orderly_call_of_silent
    {operation : Operation}
    {reply : Reply}
    (orderly : store.Orderly)
    (can : store.canCall operation = true)
    (sendsNothing : operation.sends = false)
    (finished : store.call operation = some (reply, after)) :
    after.Orderly ∧ ∃ told, told.Silent ∧ after.agents = hearAll store.agents told := by
  have surrounds : Calm.lifecycleRule.Surrounds (Entrances.within 999999) :=
    Calm.surrounds_within False 999999
  obtain ⟨sameShape, told, silent, stages, agents⟩ :=
    LifecycleRule.leaves_call surrounds orderly.calm sendsNothing reply after finished
  refine ⟨⟨orderly.wired.of_skeleton_eq (skeleton_eq_of_call finished),
    orderly.calm.of_told stages agents, ?_⟩, told, silent, agents⟩
  -- What is called is known of the shapes, and agreement is a matter of the shape.
  have wiredShape := orderly.wired.of_skeleton_eq (skeleton_shape store)
  have agreedShape := (Unmoved.of_shape_eq (shape_shape store)).agreed orderly.wired
    orderly.agreed
  have canShape : store.shape.canCall operation = true :=
    (canCall_eq (skeleton_shape store) operation).trans can
  have agreedAfter := agreed_called wiredShape agreedShape canShape
  rw [← sameShape] at agreedAfter
  have wiredAfter := orderly.wired.of_skeleton_eq (skeleton_eq_of_call finished)
  exact (Unmoved.of_shape_eq (shape_shape after).symm).agreed
    (wiredAfter.of_skeleton_eq (skeleton_shape after)) agreedAfter

/-! ### Actions -/

/-- Who is told what by an action, as far as messages are concerned. -/
def tells (store : Store) : Action → Told
  | .call operation => store.sent operation
  | _ => []

theorem orderly_call
    {operation : Operation}
    {reply : Reply}
    (orderly : store.Orderly)
    (can : store.canCall operation = true)
    (finished : store.call operation = some (reply, after)) :
    after.Orderly ∧ ∃ told, after.agents = hearAll store.agents told ∧
      ∀ agent, told.messagesTo agent = (store.sent operation).messagesTo agent := by
  have silently (sendsNothing : operation.sends = false) (nothing : store.sent operation = []) :
      after.Orderly ∧ ∃ told, after.agents = hearAll store.agents told ∧
        ∀ agent, told.messagesTo agent = (store.sent operation).messagesTo agent := by
    obtain ⟨orderlyAfter, told, silent, agents⟩ :=
      orderly_call_of_silent orderly can sendsNothing finished
    refine ⟨orderlyAfter, told, agents, fun agent => ?_⟩
    rw [Told.messagesTo_of_silent silent, nothing]
    rfl
  have effectively (effect : Effect (store.sent operation) store after) :
      after.Orderly ∧ ∃ told, after.agents = hearAll store.agents told ∧
        ∀ agent, told.messagesTo agent = (store.sent operation).messagesTo agent :=
    ⟨orderly_of_shape_eq orderly effect.shape, _, effect.agents, fun _ => rfl⟩
  cases operation with
  | sendFork fork message =>
      obtain ⟨_, _, called, effect, _⟩ := call_sendFork orderly can message
      rw [finished] at called
      cases called
      exact effectively effect
  | sendNode node message =>
      obtain ⟨_, _, called, effect⟩ := call_sendNode orderly can message
      rw [finished] at called
      cases called
      exact effectively effect
  | connect node cluster => exact silently rfl rfl
  | disconnect node => exact silently rfl rfl
  | close node => exact silently rfl rfl

theorem orderly_empty : Orderly {} where
  wired := wired_empty
  calm :=
    { agents := fun _ _ => rfl
      stages := by
        intro stage conduct custom
        cases custom }
  agreed :=
    { listed :=
        { seated := by
            intro network name member isMember
            cases isMember
          once := fun _ _ => List.nodup_nil }
      mirrors := by
        intro fork alive
        cases alive }

/-- Calm actions keep a store orderly. -/
theorem orderly_act
    {action : Action}
    (orderly : store.Orderly)
    (calm : action.IsCalm)
    (acted : store.act? action = some after) :
    after.Orderly := by
  have wired := wired_act orderly.wired acted
  cases runs : action.runs with
  | false =>
      have undisturbed := undisturbed_act orderly.wired calm runs acted
      exact ⟨wired, undisturbed.calm orderly.calm,
        undisturbed.agreed orderly.wired orderly.agreed⟩
  | true =>
      have surrounds (depth : Nat) : (Calm.rule True).Surrounds (Entrances.within depth) :=
        Calm.surrounds_within True depth
      cases step_of_act orderly.wired acted with
      | refused => exact orderly
      | travel finished =>
          exact orderly_of_governs orderly
            ((surrounds depthLimit).leads _ (Or.inl trivial)) finished
      | receive finished =>
          exact orderly_of_governs orderly (TrafficRule.governs_receive
            (surrounds depthLimit) (Or.inl trivial) _) finished
      | call can finished => exact (orderly_call orderly can finished).1
      | _ => cases runs

/-- Every store that is reached by calm actions is orderly. -/
theorem orderly_of_reachable (reachable : Reachable Action.IsCalm store) : store.Orderly := by
  induction reachable with
  | empty => exact orderly_empty
  | step _ permitted acted inductionHypothesis =>
      exact orderly_act inductionHypothesis permitted acted

/-- An action that lets no traffic in from outside tells whom it concerns, and every agent
that there was keeps to itself what it is told. -/
theorem agents_act
    {action : Action}
    (orderly : store.Orderly)
    (calm : action.IsCalm)
    (inside : action.isInside = true)
    (acted : store.act? action = some after) :
    ∃ told : Told,
      (∀ agent, store.agents.Issued agent → after.agents.Issued agent ∧
        after.agents.get agent = (store.agents.get agent).hearAll (told.noticesTo agent)) ∧
      ∀ agent, told.messagesTo agent = (store.tells action).messagesTo agent := by
  cases runs : action.runs with
  | false =>
      have undisturbed := undisturbed_act orderly.wired calm runs acted
      have nothing : store.tells action = [] := by
        cases action <;> first | rfl | cases runs
      refine ⟨[], undisturbed.agents, ?_⟩
      rw [nothing]
      exact fun _ => rfl
  | true =>
      cases step_of_act orderly.wired acted with
      | travel => cases inside
      | receive => cases inside
      | call can finished =>
          obtain ⟨_, told, agents, messages⟩ := orderly_call orderly can finished
          refine ⟨told, fun agent issued => ?_, messages⟩
          rw [agents, get_hearAll]
          exact ⟨issued_hearAll.mpr issued, rfl⟩
      | refused still =>
          rw [still] at runs
          cases runs
      | _ => cases runs

end Store

end ChannelMux
