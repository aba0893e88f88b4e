import ChannelMux.Proofs.Delivery.Calm

/-!
Contract: who hears what where nobody gives commands.

Owns the parts in which agents hear things: as the receiver of a fork or of a pipeline, at
the outlet of a pipeline, or as a listener. Owns that a passive agent that is told something
records it and does nothing else. Owns what becomes of a store along every journey among
passive agents, whatever stages make of the traffic and whatever is refused: no status, no
view and no cluster is another one afterwards, and all that has been heard has been heard in
passing, which is to say that forks that last were handed messages, batches and views, and
no listener was told anything.
-/

namespace ChannelMux

/-- Somebody hears something: in what part, and what. -/
inductive Hearing where
  /-- A fork is handed what is for it. -/
  | fork (fork : Ref .fork) (traffic : Traffic)
  /-- Something leaves the top of a pipeline. -/
  | top (pipeline : Ref .pipeline) (traffic : Traffic)
  /-- Something leaves the bottom of a pipeline. -/
  | outlet (pipeline : Ref .pipeline) (event : Event)
  /-- A listener is told that a node entered a status. -/
  | listener (agent : Ref .agent) (entered now : Status)

namespace Hearing

def notice : Hearing → Notice
  | .fork _ traffic => .up traffic
  | .top _ traffic => .up traffic
  | .outlet _ event => .down event
  | .listener _ entered now => .status entered now

/-- Who hears it, if there is anybody in that part. -/
def agent? (store : Store) : Hearing → Option (Ref .agent)
  | .fork channel _ => (store.forks.get channel).receiver?
  | .top pipeline _ => (store.pipelines.get pipeline).receiver?
  | .outlet pipeline _ =>
      match (store.pipelines.get pipeline).outlet? with
      | some (.agent agent) => some agent
      | _ => none
  | .listener agent _ _ => some agent

/-- It is heard in the course of a journey. -/
def InPassing (store : Store) : Hearing → Prop
  | .fork channel traffic =>
      store.isForkAlive channel = true ∧ traffic.reachesForks = true
  | .top _ _ => True
  | .outlet _ _ => True
  | .listener _ _ _ => False

/-- The agents that are told what is heard, in turn. -/
def told (store : Store) (hearings : List Hearing) : Told :=
  hearings.filterMap fun hearing => (hearing.agent? store).map (·, hearing.notice)

theorem told_append (store : Store) (first second : List Hearing) :
    told store (first ++ second) = told store first ++ told store second :=
  List.filterMap_append

theorem agent?_eq
    {before after : Store}
    (same : after.skeleton = before.skeleton)
    (hearing : Hearing) :
    hearing.agent? after = hearing.agent? before := by
  cases hearing with
  | fork channel traffic =>
      have fields := congrArg Fork.receiver? (Store.still_fork_eq same channel)
      exact fields
  | top pipeline traffic =>
      unfold agent?
      rw [Store.pipelines_eq same]
  | outlet pipeline event =>
      unfold agent?
      rw [Store.pipelines_eq same]
  | listener agent entered now => rfl

end Hearing

/-! ### Passive agents -/

/-- In a store nobody gives commands. -/
def Store.Passive (store : Store) : Prop :=
  ∀ agent, (store.agents.get agent).manner.Passive

theorem Store.Passive.of_skeleton_eq
    {before after : Store}
    (passive : before.Passive)
    (same : after.skeleton = before.skeleton) :
    after.Passive := by
  intro agent
  rw [Store.manner_eq same]
  exact passive agent

theorem perform_of_asksNothing
    {answer : Command → Run (Option Reply)}
    {agent : Ref .agent}
    {script : Script AgentEntry Command (Option Reply)}
    (asksNothing : script.Asks fun _ => False)
    {store : Store}
    (issued : store.agents.Issued agent) :
    script.perform (Run.recordAgent agent)
        (Run.look fun store => (store.agents.get agent).entries) answer store =
      some (script.verdict (store.agents.get agent).entries,
        store.modifyAgent agent fun record =>
          { record with entries := script.remember record.entries }) := by
  induction script generalizing store with
  | finish reached =>
      have untouched : (store.modifyAgent agent fun record =>
          { record with entries := record.entries }) = store := by
        unfold Store.modifyAgent
        rw [show (fun record : Agent => { record with entries := record.entries }) = id from rfl,
          Table.modify_id]
      exact congrArg (fun left => some (reached, left)) untouched.symm
  | record entry next inductionHypothesis =>
      have stillIssued : (store.modifyAgent agent fun record =>
          { record with entries := entry :: record.entries }).agents.Issued agent :=
        Table.issued_modify.mpr issued
      refine (inductionHypothesis asksNothing stillIssued).trans ?_
      unfold Store.modifyAgent
      simp only [Table.modify_modify, Table.get_modify_self issued]
      rfl
  | review next inductionHypothesis =>
      refine (inductionHypothesis _ (asksNothing _) issued).trans ?_
      have agree : store.agents.modify agent (fun record => { record with
          entries := (next (store.agents.get agent).entries).remember record.entries }) =
          store.agents.modify agent (fun record => { record with
            entries := (Script.review next).remember record.entries }) :=
        Table.modify_congr fun _ => rfl
      unfold Store.modifyAgent
      rw [← agree]
      rfl
  | ask request next => exact asksNothing.1.elim

/-- Whether an agent that has been told something accepts it, if it gives no command. -/
def Agent.verdict (agent : Agent) (notice : Notice) : Outcome :=
  (agent.manner notice).verdict agent.entries

/-- A passive agent that is told something records it and gives its verdict; that is all. -/
theorem tell_of_passive
    {store : Store}
    {agent : Ref .agent}
    (passive : (store.agents.get agent).manner.Passive)
    (inner : Entrances)
    (notice : Notice) :
    Delivery.tell inner agent notice store =
      some ((store.agents.get agent).verdict notice, store.modifyAgent agent (·.hear notice)) := by
  by_cases issued : store.agents.Issued agent
  · refine (perform_of_asksNothing (passive notice) issued).trans ?_
    have agree : store.agents.modify agent (fun record => { record with
        entries := ((store.agents.get agent).manner notice).remember record.entries }) =
        store.agents.modify agent (·.hear notice) :=
      Table.modify_congr fun _ => rfl
    unfold Store.modifyAgent
    rw [agree]
    rfl
  · -- Nobody stands behind the reference, and what is nobody's is accepted.
    have settles : ((store.agents.get agent).manner notice).Settles (.ok ()) := by
      rw [Table.get_of_not_issued issued]
      rfl
    rw [tell_of_settles settles, Table.get_of_not_issued issued]
    rfl

/-! ### Journeys -/

/-- Between two stores that have the skeleton of the first one some things have been heard,
and nobody has recorded anything else. -/
def Heard (base : Store) (hearings : List Hearing) (before after : Store) : Prop :=
  after.agents = hearAll before.agents (Hearing.told base hearings)

theorem Heard.nothing {base before after : Store} (same : after.agents = before.agents) :
    Heard base [] before after := same

theorem Heard.trans
    {base before between after : Store}
    {first second : List Hearing}
    (earlier : Heard base first before between)
    (later : Heard base second between after) :
    Heard base (first ++ second) before after := by
  unfold Heard at *
  rw [later, earlier, Hearing.told_append, hearAll_append]

/-- No node has another view. -/
def SameViews (before after : Store) : Prop :=
  ∀ node, (after.nodes.get node).view? = (before.nodes.get node).view?

/-- What becomes of a store in the course of a journey. -/
structure Passing (base before after : Store) : Prop where
  shape : after.shape = before.shape
  views : SameViews before after
  heard : ∃ hearings, (∀ hearing ∈ hearings, hearing.InPassing base) ∧
    Heard base hearings before after

namespace Passing

variable {base : Store}

/-- What is recorded by stages and counted tells nobody. -/
theorem of_bookkeeping
    {before after : Store}
    (shape : after.shape = before.shape)
    (views : SameViews before after)
    (agents : after.agents = before.agents) :
    Passing base before after where
  shape := shape
  views := views
  heard := ⟨[], by simp, Heard.nothing agents⟩

theorem trans
    {before between after : Store}
    (first : Passing base before between)
    (second : Passing base between after) :
    Passing base before after where
  shape := second.shape.trans first.shape
  views node := (second.views node).trans (first.views node)
  heard := by
    obtain ⟨earlier, earlierPassing, earlierHeard⟩ := first.heard
    obtain ⟨later, laterPassing, laterHeard⟩ := second.heard
    refine ⟨earlier ++ later, fun hearing member => ?_, earlierHeard.trans laterHeard⟩
    rcases List.mem_append.mp member with inEarlier | inLater
    · exact earlierPassing hearing inEarlier
    · exact laterPassing hearing inLater

/-- The rule of journeys through stores with the skeleton of a given one. -/
def rule (base : Store) : Rule where
  holds store := store.skeleton = base.skeleton
  relates := Passing base
  refl _ := of_bookkeeping rfl (fun _ => rfl) rfl
  trans := trans
  keeps same passing := (Store.skeleton_eq_of_shape_eq passing.shape).trans same

theorem governs_bookkeeping
    {change : Store → Store}
    (shape : ∀ store, (change store).shape = store.shape)
    (nodes : ∀ store, (change store).nodes = store.nodes)
    (agents : ∀ store, (change store).agents = store.agents) :
    (rule base).Governs (modify change) :=
  Rule.modify fun store _ => of_bookkeeping (shape store)
    (fun node => by rw [nodes store]) (agents store)

/-- Whoever hears something in passing does nothing but record it. -/
theorem governs_tell
    (hearing : Hearing)
    {agent : Ref .agent}
    (passive : base.Passive)
    (inPassing : hearing.InPassing base)
    (isAgent : hearing.agent? base = some agent)
    (inner : Entrances) :
    (rule base).Governs (Delivery.tell inner agent hearing.notice) := by
  intro before outcome after same finished
  rw [tell_of_passive (passive.of_skeleton_eq same agent)] at finished
  cases finished
  refine ⟨shape_hear before agent _, fun _ => rfl, [hearing], fun other member => ?_, ?_⟩
  · rw [List.mem_singleton.mp member]
    exact inPassing
  · unfold Heard Hearing.told
    rw [List.filterMap_cons, isAgent]
    rfl

theorem governs_handFork
    {fork : Ref .fork}
    {traffic : Traffic}
    (passive : base.Passive)
    (alive : base.isForkAlive fork = true)
    (reaches : traffic.reachesForks = true)
    (inner : Entrances) :
    (rule base).Governs (Delivery.handFork inner fork traffic) := by
  refine Rule.look fun store same => ?_
  change (rule base).Governs (Delivery.hand inner ((Hearing.fork fork traffic).agent? store) _)
  rw [Hearing.agent?_eq same]
  cases isAgent : (Hearing.fork fork traffic).agent? base with
  | none => exact Rule.pure _
  | some agent => exact governs_tell (.fork fork traffic) passive ⟨alive, reaches⟩ isAgent inner

theorem governs_leaveTop
    (passive : base.Passive)
    (inner : Entrances)
    (pipeline : Ref .pipeline)
    (traffic : Traffic) :
    (rule base).Governs (Delivery.leaveTop inner pipeline traffic) := by
  refine Rule.look fun store same => ?_
  change (rule base).Governs (Delivery.hand inner ((Hearing.top pipeline traffic).agent? store) _)
  rw [Hearing.agent?_eq same]
  cases isAgent : (Hearing.top pipeline traffic).agent? base with
  | none => exact Rule.pure _
  | some agent => exact governs_tell (.top pipeline traffic) passive trivial isAgent inner

theorem conveys
    {inner : Entrances}
    (passive : base.Passive)
    (leads : ∀ journey, (rule base).Governs (inner.travel journey)) :
    (rule base).discipline.Conveys inner inner True where
  same agrees := agrees
  conducts _ _ := Or.inl trivial
  records stage entry :=
    governs_bookkeeping (fun store => Store.shape_recordStage store stage entry) (fun _ => rfl)
      fun _ => rfl
  counts stage change :=
    governs_bookkeeping (fun store => Store.shape_count store stage change) (fun _ => rfl)
      fun _ => rfl
  carries node change unseen := by
    refine Rule.modify fun store _ => of_bookkeeping ?_ (fun other => ?_) rfl
    · refine Store.shape_modifyNode (fun record => ?_) store node
      have same := congrArg Node.bare (unseen record)
      exact same
    · refine Table.read_modify Node.view? (fun record => ?_) _ _ _
      have same := congrArg Node.view? (unseen record)
      exact same
  hands := by
    intro store stack fork traffic same alive _ reaches
    obtain ⟨_, isMember⟩ := Store.mem_liveForks_iff.mp alive
    have aliveThere := (Option.filter_eq_some_iff.mp isMember).2
    rw [Store.isForkAlive_eq same] at aliveThere
    exact governs_handFork passive aliveThere reaches inner
  leavesTop pipeline traffic _ := governs_leaveTop passive inner pipeline traffic
  leavesBottom := by
    intro store pipeline agent event same isOutlet _
    refine governs_tell (.outlet pipeline event) passive trivial ?_ inner
    rw [Store.pipelines_eq same] at isOutlet
    simp only [Hearing.agent?, isOutlet]
  leads journey _ := leads journey

/-- Every journey among passive agents is governed, however deep it leads. -/
theorem governs_within (passive : base.Passive) (depth : Nat) (journey : Journey) :
    (rule base).Governs ((Entrances.within depth).travel journey) := by
  induction depth generalizing journey with
  | zero => exact Rule.none
  | succ depth inductionHypothesis =>
      exact (conveys passive inductionHypothesis).travel journey (Or.inl trivial)

theorem conveys_within (passive : base.Passive) (depth : Nat) :
    (rule base).discipline.Conveys (Entrances.within depth) (Entrances.within depth) True :=
  conveys passive (governs_within passive depth)

/-- What is sent makes journeys, and that is all. -/
theorem governs_call
    {operation : Operation}
    (passive : base.Passive)
    (sends : operation.sends = true)
    (depth : Nat) :
    (rule base).Governs (Delivery.call (Entrances.within depth) operation) := by
  cases operation with
  | sendFork fork message =>
      refine Rule.look fun _ _ => ?_
      dsimp only
      split
      · exact Rule.look fun _ _ =>
          Rule.bind (governs_within passive depth _) fun _ => Rule.pure _
      · exact Rule.pure _
  | sendNode node message =>
      exact Rule.look fun _ _ =>
        Rule.bind (governs_within passive depth _) fun _ => Rule.pure _
  | connect node name => cases sends
  | disconnect node => cases sends
  | close node => cases sends

end Passing

end ChannelMux
