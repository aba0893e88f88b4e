import ChannelMux.Proofs.Delivery.Notifying
import ChannelMux.Proofs.Network.Calmness
import ChannelMux.Proofs.Network.Makings

/-!
Contract: networks in which nobody gives commands.

Owns the stores that are wired and in agreement and whose agents are passive: whatever the
stages do, and whatever they and the agents refuse, every store that is reached by actions
that make passive agents is one. Owns what a single action comes to in such a store: what
an operation makes of its shape, what of it is heard, and that nothing else that is done
gives a node another view.
-/

namespace ChannelMux

/-- Whoever is made gives no commands; which stages are made does not matter. -/
def Action.MakesPassive : Action → Prop := Action.Makes (fun _ => True) Manner.Passive

namespace Passing

/-- Among passive agents traffic leaves the shape of a store as it is, and so do operations
but for where they move nodes. -/
def lifecycleRule : LifecycleRule where
  holds := Store.Passive
  relates before after := after.shape = before.shape
  refl _ := rfl
  trans first second := second.trans first
  keeps passive same := passive.of_skeleton_eq (Store.skeleton_eq_of_shape_eq same)
  forMessages := True
  conducts _ _ := Or.inl trivial
  bookkeeping _ same _ := same
  shape same := same
  concludes before after :=
    ∀ agent, (after.agents.get agent).manner = (before.agents.get agent).manner
  concludes_of_relates same := Store.manner_eq (Store.skeleton_eq_of_shape_eq same)
  concludes_trans first second agent := (second agent).trans (first agent)
  concludes_of_change _ agents agent := by rw [agents]
  keeps_concludes passive same agent := by
    rw [same agent]
    exact passive agent

theorem surrounds_within (depth : Nat) : lifecycleRule.Surrounds (Entrances.within depth) := by
  have tells (inner : Entrances) (agent : Ref .agent) (notice : Notice) :
      lifecycleRule.Governs (Delivery.tell inner agent notice) := by
    intro before outcome after passive finished
    rw [tell_of_passive (passive agent)] at finished
    cases finished
    exact shape_hear before agent notice
  induction depth with
  | zero => exact ⟨fun agent notice _ => tells _ agent notice, fun _ _ => Rule.none⟩
  | succ depth inductionHypothesis =>
      exact ⟨fun agent notice _ => tells _ agent notice, fun journey admits =>
        TrafficRule.governs_travel inductionHypothesis journey admits⟩

end Passing

namespace Store

variable {store after : Store}

/-! ### What is called and travels -/

theorem Passive.shape_of_call
    {operation : Operation}
    {reply : Reply}
    (passive : store.Passive)
    (finished : store.call operation = some (reply, after)) :
    after.shape = (store.shape.called operation).shape := by
  have sent (sends : operation.sends = true) (still : store.shape.called operation = store.shape) :
      after.shape = (store.shape.called operation).shape := by
    rw [still, shape_shape]
    exact (Passing.governs_call passive sends 999999 store reply after rfl finished).shape
  have moved (sendsNothing : operation.sends = false) :
      after.shape = (store.shape.called operation).shape := by
    obtain ⟨same, _⟩ := LifecycleRule.leaves_call (Passing.surrounds_within 999999) passive
      sendsNothing reply after finished
    rw [← same, shape_shape]
  cases operation with
  | sendFork fork message => exact sent rfl rfl
  | sendNode node message => exact sent rfl rfl
  | connect node name => exact moved rfl
  | disconnect node => exact moved rfl
  | close node => exact moved rfl

theorem Passive.passing_of_travel
    {journey : Journey}
    {outcome : Outcome}
    (passive : store.Passive)
    (finished : store.travel journey = some (outcome, after)) :
    Passing store store after :=
  Passing.governs_within passive depthLimit journey store outcome after rfl finished

theorem Passive.passing_of_receive
    {node : Ref .node}
    {traffic : Traffic}
    {outcome : Outcome}
    (passive : store.Passive)
    (finished : store.receive node traffic = some (outcome, after)) :
    Passing store store after :=
  (Passing.conveys_within passive depthLimit).receive (Or.inl trivial) node store
    outcome after rfl finished

theorem Passive.accounts
    {operation : Operation}
    {reply : Reply}
    (passive : store.Passive)
    (finished : store.call operation = some (reply, after)) :
    Accounts (Entrances.within 999999) store operation after :=
  Accounts.call passive finished

/-! ### Stores that can be reached -/

/-- A store is wired, nobody in it gives commands, and clusters, nodes and forks agree. -/
structure Composed (store : Store) : Prop where
  wired : store.Wired
  passive : store.Passive
  agreed : store.Agreed

/-- What neither carries traffic nor calls an operation moves nobody. -/
theorem unmoved_act
    {action : Action}
    (wired : store.Wired)
    (still : action.runs = false)
    (acted : store.act? action = some after) :
    Unmoved store after := by
  cases action with
  | addAgent manner =>
      cases acted
      exact { Undisturbed.refl store with forks := fun _ alive => Or.inl ⟨alive, rfl, rfl⟩ }
  | addStage name conduct =>
      cases acted
      exact { Undisturbed.refl store with forks := fun _ alive => Or.inl ⟨alive, rfl, rfl⟩ }
  | _ =>
      refine (undisturbed_act wired ?_ still acted).toUnmoved
      exact trivial

theorem agreed_of_shape_eq
    {before : Store}
    (wired : before.Wired)
    (agreed : before.Agreed)
    (same : after.shape = before.shape) :
    after.Agreed :=
  (Unmoved.of_shape_eq same).agreed wired agreed

theorem Composed.called
    {operation : Operation}
    {reply : Reply}
    (composed : store.Composed)
    (can : store.canCall operation = true)
    (finished : store.call operation = some (reply, after)) :
    after.Agreed := by
  -- What is called is known of the shapes, and agreement is a matter of the shape.
  have shape := composed.passive.shape_of_call finished
  have wiredShape := composed.wired.of_skeleton_eq (skeleton_shape store)
  have agreedShape := agreed_of_shape_eq composed.wired composed.agreed (shape_shape store)
  have canShape : store.shape.canCall operation = true :=
    (canCall_eq (skeleton_shape store) operation).trans can
  have agreedCalled := agreed_called wiredShape agreedShape canShape
  have skeletonCalled : (store.shape.called operation).skeleton = store.skeleton := by
    rw [← skeleton_shape (store.shape.called operation), ← shape, skeleton_shape,
      skeleton_eq_of_call finished]
  exact agreed_of_shape_eq (composed.wired.of_skeleton_eq skeletonCalled) agreedCalled shape

theorem agreed_act
    {action : Action}
    (composed : store.Composed)
    (acted : store.act? action = some after) :
    after.Agreed := by
  obtain ⟨wired, passive, agreed⟩ := composed
  cases runs : action.runs with
  | false => exact (unmoved_act wired runs acted).agreed wired agreed
  | true =>
      cases step_of_act wired acted with
      | refused => exact agreed
      | travel finished =>
          exact agreed_of_shape_eq wired agreed (passive.passing_of_travel finished).shape
      | receive finished =>
          exact agreed_of_shape_eq wired agreed (passive.passing_of_receive finished).shape
      | call can finished => exact Composed.called ⟨wired, passive, agreed⟩ can finished
      | _ => cases runs

theorem passive_empty : Store.Passive {} := fun _ _ => trivial

/-- Every store that is reached by actions that make passive agents is composed. -/
theorem composed_of_reachable (reachable : Reachable Action.MakesPassive store) :
    store.Composed := by
  have peopled : Peopled (fun _ => True) Manner.Passive store :=
    peopled_of_reachable reachable (passive_empty ⟨0⟩)
  refine ⟨wired_of_reachable reachable, peopled.agents, ?_⟩
  clear peopled
  induction reachable with
  | empty => exact orderly_empty.agreed
  | step reachable _ acted inductionHypothesis =>
      have passive : Store.Passive _ :=
        (peopled_of_reachable reachable (passive_empty ⟨0⟩)).agents
      exact agreed_act ⟨wired_of_reachable reachable, passive, inductionHypothesis⟩ acted

end Store

end ChannelMux
