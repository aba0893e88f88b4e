import ChannelMux.Proofs.Delivery.Skeleton
import ChannelMux.Proofs.Network.Upkeep

/-!
Contract: what can be done with a network, and the stores that can be reached by it.

Owns the actions by which nodes, stages, agents and forks are made, used and let go of, what
each of them does, and the stores that are reached from the empty one by actions of a kind.
Every store that can be reached is wired, and no node in it has two demultiplexers.

A thing is used only as long as it lasts. Nodes and forks are used over references that are
known by name or held by what is; stages given for a pipeline are custom, so that only
ensuring one makes a demultiplexer; and whoever ends a subscription ends one of an agent,
since the tokens of forks are not given out. A node is subscribed to, by agents and by forks
that are built, fewer than 2 to the 64th times, since its tokens come round then.
-/

namespace ChannelMux

/-- Something that is done with a network. -/
inductive Action where
  /-- Makes an agent. -/
  | addAgent (manner : Manner)
  /-- Makes a custom stage. -/
  | addStage (name : String) (conduct : Conduct)
  /-- Makes a node and knows it by a label. -/
  | addNode (label name : String) (address : Address) (network : String)
      (stages : List (Ref .stage))
  /-- Knows a node by another label. -/
  | holdNode (node : Ref .node) (label : String)
  /-- Forgets the label of a node. -/
  | dropNode (label : String)
  /-- Sets who takes what leaves the top of a node's pipeline. -/
  | setReceiver (node : Ref .node) (agent : Ref .agent)
  /-- Inserts a custom stage into a node's pipeline. -/
  | insertStage (node : Ref .node) (stage : Ref .stage) (placement : Placement)
  /-- Finds or makes the demultiplexer of a node. -/
  | ensureDemultiplexer (node : Ref .node) (create : Bool) (placement : Placement)
  /-- Finds or makes the stack of a group at the demultiplexer of a node. -/
  | ensureStack (node : Ref .node) (group : String) (stages : List (Ref .stage))
      (requireFresh : Bool)
  /-- Builds a fork and knows it by a label. -/
  | buildFork (plan : ForkPlan) (label : String)
  /-- Knows a fork by another label. -/
  | holdFork (fork : Ref .fork) (label : String)
  /-- Forgets the label of a fork. -/
  | dropFork (label : String)
  /-- Sets who takes what is for a fork. -/
  | setForkReceiver (fork : Ref .fork) (agent : Ref .agent)
  /-- Subscribes an agent to the status of a node. -/
  | listen (node : Ref .node) (agent : Ref .agent)
  /-- Ends the subscription of an agent. -/
  | unlisten (node : Ref .node) (token : UInt64)
  /-- Makes a journey from outside. -/
  | travel (journey : Journey)
  /-- Lets traffic arrive at a node from outside. -/
  | receive (node : Ref .node) (traffic : Traffic)
  /-- Calls an operation. -/
  | call (operation : Operation)

/-- Whether an action carries traffic or calls an operation. -/
def Action.runs : Action → Bool
  | .travel _ => true
  | .receive _ _ => true
  | .call _ => true
  | _ => false

namespace Store

/-- Whether a stage does as a conduct says. -/
def isCustom (store : Store) (stage : Ref .stage) : Bool :=
  match (store.stages.get stage).role with
  | .custom _ => true
  | _ => false

/-- Whether the node or fork of an operation lasts. -/
def canCall (store : Store) : Operation → Bool
  | .sendFork fork _ => store.isForkAlive fork
  | .sendNode node _ => store.isNodeAlive node
  | .connect node _ => store.isNodeAlive node
  | .disconnect node => store.isNodeAlive node
  | .close node => store.isNodeAlive node

/-- Whether a token is that of no fork. -/
def isSpare (store : Store) (node : Ref .node) (token : UInt64) : Bool :=
  (store.nodes.get node).listeners.all fun entry =>
    match entry.2 with
    | .fork _ => entry.1 != token
    | .agent _ => true

/-- Whether a node can be subscribed to once more and has been fewer than 2 to the 64th times
then. -/
def canSubscribe (store : Store) (node : Ref .node) : Bool :=
  (store.nodes.get node).subscriptions + 1 < UInt64.size

/-- Something if a condition holds. -/
def given (condition : Bool) (after? : Option Store) : Option Store :=
  if condition then after? else none

/-- What making something leaves behind: if it is refused, everything stays as it is. -/
def settle {ε α : Type} (store : Store) (made : Except ε (α × Store)) : Store :=
  match made with
  | .ok (_, after) => after
  | .error _ => store

/-- What an action leaves behind, if it can be done and finishes. -/
def act? (store : Store) : Action → Option Store
  | .addAgent manner => some (store.addAgent { manner := manner }).2
  | .addStage name conduct => some (store.addStage { name := name, role := .custom conduct }).2
  | .addNode label name address network stages =>
      given (stages.all store.isCustom) <|
        let (node, made) := store.addNode name address network stages
        some (made.nameNode node label)
  | .holdNode node label => given (store.isNodeAlive node) (some (store.nameNode node label))
  | .dropNode label => some (store.dropNode label)
  | .setReceiver node agent =>
      given (store.isNodeAlive node) <|
        some (store.setReceiver (store.nodes.get node).pipeline agent)
  | .insertStage node stage placement =>
      given (store.isNodeAlive node && store.isCustom stage) <|
        match store.insertStage (store.nodes.get node).pipeline stage placement with
        | .ok after => some after
        | .error _ => some store
  | .ensureDemultiplexer node create placement =>
      given (store.isNodeAlive node) <|
        some (store.settle
          (store.ensureDemultiplexer (store.nodes.get node).pipeline create placement))
  | .ensureStack node group stages requireFresh =>
      given (store.isNodeAlive node && stages.all store.isCustom) <|
        match store.hub? node with
        | none => some store
        | some hub => some (store.settle
            (store.ensureStack hub (store.nodes.get node).pipeline group stages requireFresh))
  | .buildFork plan label =>
      given (plan.node?.all store.isNodeAlive && plan.node?.all store.canSubscribe &&
          plan.stages.all store.isCustom) <|
        match store.buildFork plan with
        | .ok (fork, built) => some (built.nameFork fork label)
        | .error _ => some store
  | .holdFork fork label => given (store.isForkAlive fork) (some (store.nameFork fork label))
  | .dropFork label => some (store.dropFork label)
  | .setForkReceiver fork agent =>
      given (store.isForkAlive fork) <|
        some (store.modifyFork fork fun record => { record with receiver? := some agent })
  | .listen node agent =>
      given (store.isNodeAlive node && store.canSubscribe node) <|
        some (store.subscribe node (.agent agent)).2
  | .unlisten node token =>
      given (store.isNodeAlive node && store.isSpare node token) <|
        some (store.unsubscribe node token)
  | .travel journey => (store.travel journey).map Prod.snd
  | .receive node traffic => (store.receive node traffic).map Prod.snd
  | .call operation => given (store.canCall operation) ((store.call operation).map Prod.snd)

/-- The stores that are reached by doing things of a kind, beginning with nothing. -/
inductive Reachable (permits : Action → Prop) : Store → Prop where
  | empty : Reachable permits {}
  | step {store after : Store} {action : Action}
      (reachable : Reachable permits store)
      (permitted : permits action)
      (acted : store.act? action = some after) :
      Reachable permits after

theorem canCall_eq
    {before after : Store}
    (same : after.skeleton = before.skeleton)
    (operation : Operation) :
    after.canCall operation = before.canCall operation := by
  cases operation with
  | sendFork fork message => exact isForkAlive_eq same fork
  | sendNode node message => exact isNodeAlive_eq same node
  | connect node name => exact isNodeAlive_eq same node
  | disconnect node => exact isNodeAlive_eq same node
  | close node => exact isNodeAlive_eq same node

/-- What doing several things leaves behind, if all of them can be done. -/
def run? (store : Store) : List Action → Option Store
  | [] => some store
  | action :: rest => (store.act? action).bind fun after => after.run? rest

theorem reachable_of_run?
    {permits : Action → Prop}
    {actions : List Action}
    {store after : Store}
    (reachable : Reachable permits store)
    (permitted : ∀ action ∈ actions, permits action)
    (ran : store.run? actions = some after) :
    Reachable permits after := by
  induction actions generalizing store with
  | nil =>
      cases ran
      exact reachable
  | cons action rest inductionHypothesis =>
      obtain ⟨between, acted, ranOn⟩ := Option.bind_eq_some_iff.mp ran
      refine inductionHypothesis
        (Reachable.step reachable (permitted action List.mem_cons_self) acted) ?_ ranOn
      intro other member
      exact permitted other (List.mem_cons_of_mem _ member)

theorem Reachable.mono
    {permits others : Action → Prop}
    {store : Store}
    (reachable : Reachable permits store)
    (weaker : ∀ action, permits action → others action) :
    Reachable others store := by
  induction reachable with
  | empty => exact Reachable.empty
  | step _ permitted acted inductionHypothesis =>
      exact Reachable.step inductionHypothesis (weaker _ permitted) acted

/-- What actions make of the empty store is reachable; if one of them cannot be done then
nothing is made. -/
theorem reachable_made
    {permits : Action → Prop}
    {actions : List Action}
    (permitted : ∀ action ∈ actions, permits action) :
    Reachable permits ((Store.run? {} actions).getD {}) := by
  cases ran : Store.run? {} actions with
  | none => exact Reachable.empty
  | some after => exact reachable_of_run? Reachable.empty permitted ran

/-! ### Every reachable store is wired -/

theorem given_eq_some {condition : Bool} {after? : Option Store} {after : Store} :
    given condition after? = some after ↔ condition = true ∧ after? = some after := by
  unfold given
  cases condition <;> simp

theorem act?_listen_eq_some
    {store after : Store}
    {node : Ref .node}
    {agent : Ref .agent} :
    store.act? (.listen node agent) = some after ↔
      store.isNodeAlive node = true ∧
        (store.nodes.get node).subscriptions + 1 < UInt64.size ∧
        (store.subscribe node (.agent agent)).2 = after := by
  unfold act? canSubscribe
  rw [given_eq_some, Bool.and_eq_true, decide_eq_true_iff, Option.some.injEq, and_assoc]

/-- What is called leaves the skeleton as it is. -/
theorem skeleton_eq_of_calls
    {operations : List Operation}
    {before after : Store}
    (ran : before.run? (operations.map .call) = some after) :
    after.skeleton = before.skeleton := by
  induction operations generalizing before with
  | nil =>
      cases ran
      rfl
  | cons operation rest inductionHypothesis =>
      obtain ⟨between, acted, onward⟩ := Option.bind_eq_some_iff.mp ran
      obtain ⟨_, called⟩ := given_eq_some.mp acted
      obtain ⟨⟨reply, left⟩, finished, rfl⟩ := Option.map_eq_some_iff.mp called
      exact (inductionHypothesis onward).trans (skeleton_eq_of_call finished)

theorem isCustom_iff {store : Store} {stage : Ref .stage} :
    store.isCustom stage = true ↔ store.IsCustom stage := by
  unfold isCustom IsCustom
  cases (store.stages.get stage).role <;> simp

theorem all_isCustom_iff {store : Store} {stages : List (Ref .stage)} :
    stages.all store.isCustom = true ↔ ∀ stage ∈ stages, store.IsCustom stage := by
  rw [List.all_eq_true]
  constructor
  · intro all stage member
    exact isCustom_iff.mp (all stage member)
  · intro all stage member
    exact isCustom_iff.mpr (all stage member)

theorem wired_empty : Wired {} where
  nodes _ issued := absurd issued (Nat.not_lt_zero _)
  hubs _ _ _ issued := absurd issued (Nat.not_lt_zero _)
  forks _ issued := absurd issued (Nat.not_lt_zero _)
  members _ _ _ issued := absurd issued (Nat.not_lt_zero _)
  tokens _ _ issued := absurd issued (Nat.not_lt_zero _)
  bound _ alive := absurd (Table.issued_of_isNamed alive) (Nat.not_lt_zero _)

/-- Building a fork splices in what is missing and enrolls the fork. -/
theorem buildFork_enrolls
    {store built : Store}
    {plan : ForkPlan}
    {fork : Ref .fork}
    (wired : store.Wired)
    (nodeAlive : plan.node?.all store.isNodeAlive = true)
    (left : plan.node?.all store.canSubscribe = true)
    (customs : ∀ stage ∈ plan.stages, store.IsCustom stage)
    (isBuilt : store.buildFork plan = .ok (fork, built)) :
    ∃ stacked record, Splice store stacked ∧ stacked.Enrollable record ∧
      record.status = (store.nodes.get record.node).status ∧ fork = stacked.forks.next ∧
      built = stacked.enroll record := by
  obtain ⟨node, group, member, hub, spliced, stack, stacked, hasNode, _, _, _, _, ensuredHub,
    ensuredStack, free, isNext, same⟩ := buildFork_cases isBuilt
  rw [hasNode] at nodeAlive left
  have issued := wired.issued_of_isNodeAlive nodeAlive
  obtain ⟨splice, atHub⟩ := splice_ensureDemultiplexer wired issued ensuredHub
  have issuedSpliced : spliced.nodes.Issued node := by
    rw [splice.nodes]
    exact issued
  have samePipeline : (spliced.nodes.get node).pipeline = (store.nodes.get node).pipeline := by
    rw [splice.nodes]
  rw [← samePipeline] at ensuredStack
  obtain ⟨spliceStack, atHubStack, registered⟩ := splice_ensureStack splice.wired issuedSpliced
    atHub (fun stage member => splice.extended.isCustom (customs stage member)) ensuredStack
  refine ⟨stacked, _, splice.trans spliceStack, ?_, ?_, isNext, same⟩
  · refine ⟨?_, ⟨hub, atHubStack, registered⟩, free, rfl, ?_⟩
    · rw [spliceStack.nodes]
      exact issuedSpliced
    · rw [spliceStack.nodes, splice.nodes]
      exact of_decide_eq_true left
  · rfl

/-- What has just been built is wired, and its fork is bound. -/
theorem wired_buildFork
    {store built : Store}
    {plan : ForkPlan}
    {fork : Ref .fork}
    (wired : store.Wired)
    (nodeAlive : plan.node?.all store.isNodeAlive = true)
    (left : plan.node?.all store.canSubscribe = true)
    (customs : ∀ stage ∈ plan.stages, store.IsCustom stage)
    (isBuilt : store.buildFork plan = .ok (fork, built)) :
    built.Wired ∧ built.forks.Issued fork ∧ built.Bound fork := by
  obtain ⟨stacked, record, splice, enrollable, _, isNext, same⟩ :=
    buildFork_enrolls wired nodeAlive left customs isBuilt
  subst isNext
  subst same
  exact ⟨wired_enroll enrollable splice.wired, Table.issued_add_next _ _,
    bound_enroll enrollable splice.wired⟩

/-! ### What actions do -/

/-- What an action does to a store that is wired. -/
inductive Step (store : Store) : Action → Store → Prop where
  /-- It is refused, and everything stays as it is. -/
  | refused {action : Action} (still : action.runs = false) : Step store action store
  | addAgent (manner : Manner) :
      Step store (.addAgent manner) (store.addAgent { manner := manner }).2
  | addStage (name : String) (conduct : Conduct) :
      Step store (.addStage name conduct)
        (store.addStage { name := name, role := .custom conduct }).2
  | addNode {stages : List (Ref .stage)} (customs : ∀ stage ∈ stages, store.IsCustom stage)
      (label name : String) (address : Address) (network : String) :
      Step store (.addNode label name address network stages)
        ((store.addNode name address network stages).2.nameNode
          (store.addNode name address network stages).1 label)
  | holdNode {node : Ref .node} (issued : store.nodes.Issued node) (label : String) :
      Step store (.holdNode node label) (store.nameNode node label)
  | dropNode (label : String) : Step store (.dropNode label) (store.dropNode label)
  | setReceiver {node : Ref .node} (issued : store.nodes.Issued node) (agent : Ref .agent) :
      Step store (.setReceiver node agent)
        (store.setReceiver (store.nodes.get node).pipeline agent)
  | insertStage {node : Ref .node} {stage : Ref .stage} {placement : Placement}
      (issued : store.nodes.Issued node) (custom : store.IsCustom stage) (index : Nat) :
      Step store (.insertStage node stage placement)
        (store.insertAt (store.nodes.get node).pipeline index stage)
  | ensureDemultiplexer {after : Store} {node : Ref .node} {create : Bool}
      {placement : Placement} (splice : Splice store after) :
      Step store (.ensureDemultiplexer node create placement) after
  | ensureStack {after : Store} {node : Ref .node} {group : String}
      {stages : List (Ref .stage)} {requireFresh : Bool} (splice : Splice store after) :
      Step store (.ensureStack node group stages requireFresh) after
  | buildFork {plan : ForkPlan} {fork : Ref .fork} {built : Store}
      (nodeAlive : plan.node?.all store.isNodeAlive = true)
      (left : plan.node?.all store.canSubscribe = true)
      (customs : ∀ stage ∈ plan.stages, store.IsCustom stage)
      (isBuilt : store.buildFork plan = .ok (fork, built)) (label : String) :
      Step store (.buildFork plan label) (built.nameFork fork label)
  | holdFork {fork : Ref .fork} (alive : store.isForkAlive fork = true) (label : String) :
      Step store (.holdFork fork label) (store.nameFork fork label)
  | dropFork (label : String) : Step store (.dropFork label) (store.dropFork label)
  | setForkReceiver {fork : Ref .fork} (alive : store.isForkAlive fork = true)
      (agent : Ref .agent) :
      Step store (.setForkReceiver fork agent)
        (store.modifyFork fork fun record => { record with receiver? := some agent })
  | listen {node : Ref .node} (issued : store.nodes.Issued node)
      (left : (store.nodes.get node).subscriptions + 1 < UInt64.size) (agent : Ref .agent) :
      Step store (.listen node agent) (store.subscribe node (.agent agent)).2
  | unlisten {node : Ref .node} {token : UInt64} (spare : store.isSpare node token = true) :
      Step store (.unlisten node token) (store.unsubscribe node token)
  | travel {journey : Journey} {outcome : Outcome} {after : Store}
      (finished : store.travel journey = some (outcome, after)) :
      Step store (.travel journey) after
  | receive {node : Ref .node} {traffic : Traffic} {outcome : Outcome} {after : Store}
      (finished : store.receive node traffic = some (outcome, after)) :
      Step store (.receive node traffic) after
  | call {operation : Operation} {reply : Reply} {after : Store}
      (can : store.canCall operation = true)
      (finished : store.call operation = some (reply, after)) :
      Step store (.call operation) after

/-- What has been settled comes of what was made, if it was. -/
theorem step_of_settle
    {ε α : Type}
    {store : Store}
    {action : Action}
    (made : Except ε (α × Store))
    (still : action.runs = false)
    (step : ∀ result after, made = .ok (result, after) → Step store action after) :
    Step store action (store.settle made) := by
  cases made with
  | error refusal => exact Step.refused still
  | ok result => exact step result.1 result.2 rfl

theorem step_of_act
    {store after : Store}
    {action : Action}
    (wired : store.Wired)
    (acted : store.act? action = some after) :
    Step store action after := by
  cases action with
  | addAgent manner =>
      cases acted
      exact Step.addAgent manner
  | addStage name conduct =>
      cases acted
      exact Step.addStage name conduct
  | addNode label name address network stages =>
      obtain ⟨customs, acted⟩ := given_eq_some.mp acted
      cases acted
      exact Step.addNode (all_isCustom_iff.mp customs) label name address network
  | holdNode node label =>
      obtain ⟨alive, acted⟩ := given_eq_some.mp acted
      cases acted
      exact Step.holdNode (wired.issued_of_isNodeAlive alive) label
  | dropNode label =>
      cases acted
      exact Step.dropNode label
  | setReceiver node agent =>
      obtain ⟨alive, acted⟩ := given_eq_some.mp acted
      cases acted
      exact Step.setReceiver (wired.issued_of_isNodeAlive alive) agent
  | insertStage node stage placement =>
      obtain ⟨allowed, acted⟩ := given_eq_some.mp acted
      obtain ⟨alive, custom⟩ := Bool.and_eq_true_iff.mp allowed
      unfold insertStage at acted
      cases placed : store.insertionIndex (store.nodes.get node).pipeline placement with
      | error refusal =>
          rw [placed] at acted
          cases acted
          exact Step.refused rfl
      | ok index =>
          rw [placed] at acted
          cases acted
          exact Step.insertStage (wired.issued_of_isNodeAlive alive) (isCustom_iff.mp custom)
            index
  | ensureDemultiplexer node create placement =>
      obtain ⟨alive, acted⟩ := given_eq_some.mp acted
      cases acted
      refine step_of_settle _ rfl ?_
      intro hub after ensured
      exact Step.ensureDemultiplexer
        (splice_ensureDemultiplexer wired (wired.issued_of_isNodeAlive alive) ensured).1
  | ensureStack node group stages requireFresh =>
      obtain ⟨allowed, acted⟩ := given_eq_some.mp acted
      obtain ⟨alive, customs⟩ := Bool.and_eq_true_iff.mp allowed
      cases found : store.hub? node with
      | none =>
          simp only [found] at acted
          cases acted
          exact Step.refused rfl
      | some hub =>
          simp only [found] at acted
          cases acted
          refine step_of_settle _ rfl ?_
          intro stack after ensured
          exact Step.ensureStack (splice_ensureStack wired (wired.issued_of_isNodeAlive alive)
            found (all_isCustom_iff.mp customs) ensured).1
  | buildFork plan label =>
      obtain ⟨allowed, acted⟩ := given_eq_some.mp acted
      obtain ⟨permitted, customs⟩ := Bool.and_eq_true_iff.mp allowed
      obtain ⟨alive, left⟩ := Bool.and_eq_true_iff.mp permitted
      cases isBuilt : store.buildFork plan with
      | error refusal =>
          simp only [isBuilt] at acted
          cases acted
          exact Step.refused rfl
      | ok made =>
          simp only [isBuilt] at acted
          cases acted
          exact Step.buildFork alive left (all_isCustom_iff.mp customs) isBuilt label
  | holdFork fork label =>
      obtain ⟨alive, acted⟩ := given_eq_some.mp acted
      cases acted
      exact Step.holdFork alive label
  | dropFork label =>
      cases acted
      exact Step.dropFork label
  | setForkReceiver fork agent =>
      obtain ⟨alive, acted⟩ := given_eq_some.mp acted
      cases acted
      exact Step.setForkReceiver alive agent
  | listen node agent =>
      obtain ⟨alive, left, rfl⟩ := act?_listen_eq_some.mp acted
      exact Step.listen (wired.issued_of_isNodeAlive alive) left agent
  | unlisten node token =>
      obtain ⟨allowed, acted⟩ := given_eq_some.mp acted
      cases acted
      exact Step.unlisten (Bool.and_eq_true_iff.mp allowed).2
  | travel journey =>
      obtain ⟨⟨outcome, left⟩, finished, same⟩ := Option.map_eq_some_iff.mp acted
      cases same
      exact Step.travel finished
  | receive node traffic =>
      obtain ⟨⟨outcome, left⟩, finished, same⟩ := Option.map_eq_some_iff.mp acted
      cases same
      exact Step.receive finished
  | call operation =>
      obtain ⟨can, acted⟩ := given_eq_some.mp acted
      obtain ⟨⟨reply, left⟩, finished, same⟩ := Option.map_eq_some_iff.mp acted
      cases same
      exact Step.call can finished

theorem growth_unlisten
    {store : Store}
    {node : Ref .node}
    {token : UInt64}
    (wired : store.Wired)
    (spare : store.isSpare node token = true) :
    Growth store (store.unsubscribe node token) := by
  refine growth_unsubscribe fun fork alive onNode hasToken => ?_
  -- A fork that lasts listens under its own token, which is then not spare.
  have listens := (wired.bound fork alive).listens
  rw [onNode, hasToken] at listens
  have different := List.all_eq_true.mp spare _ listens
  simp at different

/-- Every action keeps everything wired. -/
theorem wired_act
    {store after : Store}
    {action : Action}
    (wired : store.Wired)
    (acted : store.act? action = some after) :
    after.Wired := by
  cases step_of_act wired acted with
  | refused => exact wired
  | addAgent manner => exact (growth_addAgent store _).wired wired
  | addStage name conduct => exact (growth_addStage store _).wired wired
  | addNode customs label =>
      exact (growth_nameNode _ _ label).wired (wired_addNode wired customs)
  | holdNode _ label => exact (growth_nameNode store _ label).wired wired
  | dropNode label => exact (growth_dropNode store label).wired wired
  | setReceiver _ agent => exact (growth_setReceiver store _ agent).wired wired
  | insertStage issued custom index =>
      exact wired_insertAt wired issued (insertable_of_isCustom custom _)
  | ensureDemultiplexer splice => exact splice.wired
  | ensureStack splice => exact splice.wired
  | buildFork nodeAlive left customs isBuilt label =>
      obtain ⟨builtWired, issued, bound⟩ := wired_buildFork wired nodeAlive left customs isBuilt
      exact wired_nameFork builtWired issued bound label
  | holdFork alive label =>
      exact wired_nameFork wired (Table.issued_of_isNamed alive) (wired.bound _ alive) label
  | dropFork label => exact wired_dropFork wired label
  | setForkReceiver =>
      refine (growth_modifyFork ?_ store _).wired wired
      intro record
      rfl
  | listen _ left agent => exact (growth_subscribe left agent).wired wired
  | unlisten spare => exact (growth_unlisten wired spare).wired wired
  | travel finished => exact wired.of_skeleton_eq (skeleton_eq_of_travel finished)
  | receive finished => exact wired.of_skeleton_eq (skeleton_eq_of_receive finished)
  | call _ finished => exact wired.of_skeleton_eq (skeleton_eq_of_call finished)

theorem wired_of_reachable
    {permits : Action → Prop}
    {store : Store}
    (reachable : Reachable permits store) :
    store.Wired := by
  induction reachable with
  | empty => exact wired_empty
  | step _ _ acted inductionHypothesis => exact wired_act inductionHypothesis acted

/-! ### No node has two demultiplexers -/

theorem soleHubs_act
    {store after : Store}
    {action : Action}
    (wired : store.Wired)
    (sole : store.SoleHubs)
    (acted : store.act? action = some after) :
    after.SoleHubs := by
  cases step_of_act wired acted with
  | refused => exact sole
  | addAgent manner => exact (growth_addAgent store _).soleHubs wired sole
  | addStage name conduct => exact (growth_addStage store _).soleHubs wired sole
  | addNode customs label =>
      exact (growth_nameNode _ _ label).soleHubs (wired_addNode wired customs)
        (soleHubs_addNode wired sole customs)
  | holdNode _ label => exact (growth_nameNode store _ label).soleHubs wired sole
  | dropNode label => exact (growth_dropNode store label).soleHubs wired sole
  | setReceiver _ agent => exact (growth_setReceiver store _ agent).soleHubs wired sole
  | insertStage issued custom index =>
      exact soleHubs_insertAt wired issued (insertable_of_isCustom custom _) sole
  | ensureDemultiplexer splice => exact splice.soleHubs sole
  | ensureStack splice => exact splice.soleHubs sole
  | buildFork nodeAlive left customs isBuilt label =>
      obtain ⟨builtWired, issued, bound⟩ := wired_buildFork wired nodeAlive left customs isBuilt
      obtain ⟨stacked, record, splice, _, _, _, rfl⟩ :=
        buildFork_enrolls wired nodeAlive left customs isBuilt
      exact kept_nameFork Growth.soleHubs builtWired (soleHubs_enroll (splice.soleHubs sole))
        issued bound label
  | holdFork alive label =>
      exact kept_nameFork Growth.soleHubs wired sole (Table.issued_of_isNamed alive)
        (wired.bound _ alive) label
  | dropFork label => exact kept_dropFork Growth.soleHubs wired sole label
  | setForkReceiver =>
      refine (growth_modifyFork ?_ store _).soleHubs wired sole
      intro record
      rfl
  | listen _ left agent => exact (growth_subscribe left agent).soleHubs wired sole
  | unlisten spare => exact (growth_unlisten wired spare).soleHubs wired sole
  | travel finished => exact sole.of_skeleton_eq wired (skeleton_eq_of_travel finished)
  | receive finished => exact sole.of_skeleton_eq wired (skeleton_eq_of_receive finished)
  | call _ finished => exact sole.of_skeleton_eq wired (skeleton_eq_of_call finished)

theorem soleHubs_of_reachable
    {permits : Action → Prop}
    {store : Store}
    (reachable : Reachable permits store) :
    store.SoleHubs := by
  induction reachable with
  | empty =>
      intro node issued
      exact absurd issued (Nat.not_lt_zero _)
  | step reachable _ acted inductionHypothesis =>
      exact soleHubs_act (wired_of_reachable reachable) inductionHypothesis acted

end Store

end ChannelMux
