import ChannelMux.Delivery.Transport
import ChannelMux.Proofs.Delivery.Passage
import ChannelMux.Proofs.Network.Recipient

/-!
Contract: what becomes of a message that comes up at a node.

Owns the passage of messages through demultiplexers and the ends of stacks, and the fact
that in a calm and wired store a message that arrives at a node is told to whom it is for
there, once, and to nobody else.
-/

namespace ChannelMux.Yields

variable {base : Store} {inner : Entrances} {message : Message}

/-! ### Up the stack of a group -/

theorem handMember (calm : Calm base) (stack : Ref .stack) (message : Message) :
    Yields base (Delivery.handMember inner stack message) (.ok ())
      (handed ((message.member?.bind (base.liveMember? stack)).bind fun fork =>
        (base.forks.get fork).receiver?) (.single (.message message))) := by
  unfold Delivery.handMember
  cases message.member? with
  | none => exact pure _
  | some member =>
      refine get fun store same => ?_
      rw [Store.liveMember?_eq (Store.skeleton_eq_of_shape_eq same), Option.bind_some]
      cases base.liveMember? stack member with
      | none => exact pure _
      | some fork => exact handFork calm inner fork _

theorem ascendStage_groupBottom
    {stage : Ref .stage}
    {group : String}
    {passUp : Traffic → Run Outcome}
    {traffic : Traffic}
    {outcome : Outcome}
    {told : Told}
    (role : (base.stages.get stage).role = .groupBottom group)
    (passes : Yields base (passUp traffic) outcome told) :
    Yields base (Delivery.ascendStage inner stage passUp traffic) outcome told := by
  refine look fun store same => ?_
  rw [(Store.role_groupBottom_iff (Store.skeleton_eq_of_shape_eq same) stage group).mpr role]
  exact passes

theorem ascendStage_groupTop
    {stage : Ref .stage}
    {stack : Ref .stack}
    {passUp : Traffic → Run Outcome}
    {traffic : Traffic}
    {outcome : Outcome}
    {told : Told}
    (role : (base.stages.get stage).role = .groupTop stack)
    (takes : Yields base (Delivery.takeAtGroupTop inner stack traffic) outcome told) :
    Yields base (Delivery.ascendStage inner stage passUp traffic) outcome told := by
  refine look fun store same => ?_
  rw [(Store.role_groupTop_iff (Store.skeleton_eq_of_shape_eq same) stage stack).mpr role]
  exact takes

/-- A message that goes up the stack of a group is told to the fork bound to the member that
it names. -/
theorem travel_stack
    {shared : Ref .pipeline}
    {hub : Ref .stage}
    {group : String}
    {stack : Ref .stack}
    (calm : Calm base)
    (wired : base.StackWired shared hub group stack)
    (message : Message) :
    Yields base
      (Delivery.travel inner
        (.up (base.groups.get stack).pipeline (.single (.message message)))) (.ok ())
      (handed ((message.member?.bind (base.liveMember? stack)).bind fun fork =>
        (base.forks.get fork).receiver?) (.single (.message message))) := by
  obtain ⟨bottom, customs, top, stages, _, bottomRole, allCustom, _, topRole⟩ := wired.layers
  refine look fun store same => ?_
  rw [Store.stagesOf_eq (Store.skeleton_eq_of_shape_eq same), stages]
  refine ascendStage_groupBottom bottomRole (ascend_customs calm allCustom ?_)
  exact ascendStage_groupTop topRole (handMember calm stack message)

/-! ### Up the pipeline of a node -/

theorem ascendStage_demultiplexer
    {stage : Ref .stage}
    {passUp : Traffic → Run Outcome}
    {traffic : Traffic}
    {outcome : Outcome}
    {told : Told}
    (isDemultiplexer : (base.demultiplexer? stage).isSome)
    (takes : Yields base (Delivery.demultiplex inner stage passUp traffic) outcome told) :
    Yields base (Delivery.ascendStage inner stage passUp traffic) outcome told := by
  refine look fun store same => ?_
  have skeleton := Store.skeleton_eq_of_shape_eq same
  rw [← Store.isSome_demultiplexer?_of_bare_eq (Store.bare_role_eq skeleton stage)]
    at isDemultiplexer
  obtain ⟨state, found⟩ := Option.isSome_iff_exists.mp isDemultiplexer
  rw [Store.demultiplexer?_eq_some.mp found]
  exact takes

/-- A message without a routing header passes demultiplexers, too, and leaves at the top. -/
theorem ascend_unrouted
    {pipeline : Ref .pipeline}
    {layers : List (Ref .stage)}
    (calm : Calm base)
    (known : ∀ stage ∈ layers, base.IsCustom stage ∨ (base.demultiplexer? stage).isSome)
    (unrouted : message.routing? = none) :
    Yields base (Delivery.ascend inner pipeline layers (.single (.message message))) (.ok ())
      (handed (base.pipelines.get pipeline).receiver? (.single (.message message))) := by
  induction layers with
  | nil => exact leaveTop calm inner pipeline _
  | cons stage above inductionHypothesis =>
      have onward := inductionHypothesis fun other member =>
        known other (List.mem_cons_of_mem _ member)
      rcases known stage List.mem_cons_self with custom | isDemultiplexer
      · exact ascendStage_custom calm custom onward
      · refine ascendStage_demultiplexer isDemultiplexer ?_
        change Yields base (Delivery.route inner stage _ message) _ _
        unfold Delivery.route
        rw [unrouted]
        exact after (count stage _) onward

/-- A demultiplexer sends a message with a routing header up the stack of its group, and
nowhere if it has none. -/
theorem route_routed
    {node : Ref .node}
    {hub : Ref .stage}
    {header : RoutingHeader}
    {depth : Nat}
    (calm : Calm base)
    (wired : base.Wired)
    (issued : base.nodes.Issued node)
    (found : base.hub? node = some hub)
    (routed : message.routing? = some header)
    (passUp : Traffic → Run Outcome) :
    ∃ outcome, Yields base (Delivery.route (Entrances.within (depth + 1)) hub passUp message)
      outcome (handed (base.recipient? node message) (.single (.message message))) := by
  have namesMember : message.member? = header.member? := by
    unfold Message.member?
    rw [routed, Option.bind_some]
  unfold Delivery.route
  rw [routed]
  dsimp only
  cases names : header.group? with
  | none =>
      rw [Store.recipient?_of_groupless found routed names]
      exact ⟨_, pure _⟩
  | some group =>
      rw [Store.recipient?_of_group found routed names, ← namesMember]
      have registeredAt (store : Store) (same : store.shape = base.shape) :
          Delivery.stackOf? store hub group = Delivery.stackOf? base hub group :=
        Store.stackOf?_of_bare_eq (Store.bare_role_eq (Store.skeleton_eq_of_shape_eq same) hub) _
      refine ⟨.ok (), get fun store same => ?_⟩
      rw [registeredAt store same]
      cases registered : Delivery.stackOf? base hub group with
      | none =>
          have nobody : message.member?.bind (base.boundFork? node group) = none := by
            cases message.member? with
            | none => rfl
            | some member => exact wired.boundFork?_of_unregistered found registered member
          rw [nobody]
          exact after (count hub _) (pure _)
      | some stack =>
          -- What the stack says of its members and what the forks say of themselves agree.
          have sameFork : message.member?.bind (base.boundFork? node group) =
              message.member?.bind (base.liveMember? stack) := by
            congr 1
            funext member
            exact (wired.liveMember?_eq_boundFork? issued found registered).symm
          rw [sameFork]
          refine after (count hub _) (look fun entered sameEntered => ?_)
          rw [Store.groups_eq (Store.skeleton_eq_of_shape_eq sameEntered)]
          exact travel_stack calm
            ((wired.nodes node issued).stackWired hub group stack found registered) message

/-- A message that goes up the pipeline of a node is told to whom it is for there. -/
theorem travel_node
    {node : Ref .node}
    (calm : Calm base)
    (wired : base.Wired)
    (issued : base.nodes.Issued node)
    (depth : Nat)
    (message : Message) :
    ∃ outcome, Yields base
      (Delivery.travel (Entrances.within (depth + 1))
        (.up (base.nodes.get node).pipeline (.single (.message message)))) outcome
      (handed (base.recipient? node message) (.single (.message message))) := by
  have nodeWired := wired.nodes node issued
  have starts (store : Store) (same : store.shape = base.shape) :
      store.stagesOf (base.nodes.get node).pipeline =
        base.stagesOf (base.nodes.get node).pipeline :=
    Store.stagesOf_eq (Store.skeleton_eq_of_shape_eq same) _
  cases routed : message.routing? with
  | none =>
      refine ⟨.ok (), look fun store same => ?_⟩
      rw [starts store same, Store.recipient?_of_unrouted routed]
      exact ascend_unrouted calm nodeWired.layers routed
  | some header =>
      cases found : base.hub? node with
      | none =>
          have allCustom : ∀ stage ∈ base.stagesOf (base.nodes.get node).pipeline,
              base.IsCustom stage := by
            intro stage member
            have notHub := List.find?_eq_none.mp found stage member
            exact (nodeWired.layers stage member).resolve_right notHub
          refine ⟨.ok (), look fun store same => ?_⟩
          rw [starts store same, Store.recipient?_of_no_hub found,
            ← List.append_nil (base.stagesOf _)]
          exact ascend_customs calm allCustom (leaveTop calm _ _ _)
      | some hub =>
          -- Only what is below the demultiplexer is known to be custom: the message is taken
          -- through it, and what is above the demultiplexer is never reached.
          obtain ⟨isHub, below, above, stages, notHub⟩ :=
            List.find?_eq_some_iff_append.mp found
          have belowCustom : ∀ stage ∈ below, base.IsCustom stage := by
            intro stage member
            have layer : stage ∈ base.stagesOf (base.nodes.get node).pipeline := by
              rw [stages]
              exact List.mem_append_left _ member
            have isNot := notHub stage member
            rw [Bool.not_eq_true'] at isNot
            refine (nodeWired.layers stage layer).resolve_right fun isSome => ?_
            exact Bool.false_ne_true (isNot.symm.trans isSome)
          obtain ⟨outcome, routes⟩ := route_routed calm wired issued found routed
            (Delivery.ascend (Entrances.within (depth + 1)) (base.nodes.get node).pipeline above)
          refine ⟨outcome, look fun store same => ?_⟩
          rw [starts store same, stages]
          exact ascend_customs calm belowCustom (ascendStage_demultiplexer isHub routes)

/-- A message that arrives at a node is told to whom it is for there, once, and to nobody
else. -/
theorem receive
    {node : Ref .node}
    (calm : Calm base)
    (wired : base.Wired)
    (issued : base.nodes.Issued node)
    (depth : Nat)
    (message : Message) :
    ∃ outcome, Yields base
      (Delivery.receive (Entrances.within (depth + 2)) node (.single (.message message)))
      outcome (handed (base.recipient? node message) (.single (.message message))) := by
  obtain ⟨outcome, travels⟩ := travel_node calm wired issued depth message
  refine ⟨outcome, after (modifyNode ?_ node) (look fun store same => ?_)⟩
  · intro record
    rfl
  · rw [Store.nodePipeline_eq (Store.skeleton_eq_of_shape_eq same)]
    exact travels

end ChannelMux.Yields
