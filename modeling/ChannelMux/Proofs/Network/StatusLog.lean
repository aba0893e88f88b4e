import ChannelMux.Proofs.Network.Mirroring
import ChannelMux.Proofs.Network.StatusCourse
import ChannelMux.Proofs.Selection

/-!
Contract: what listeners are told of the statuses of their nodes.

Owns the reports of an action: whenever a node enters a status everyone who listens to it is
told, in the order of subscription, and finds the node in that status. Owns that agents are
told of statuses by reports and in no other way, and that a subscription is reported the
statuses that its node enters while it lasts, each once and in turn, and nothing before or
afterwards.
-/

namespace ChannelMux

/-- A subscription is told of a status that its node has entered. -/
structure Report where
  node : Ref .node
  token : UInt64
  agent : Ref .agent
  entered : Status
deriving DecidableEq, Repr

namespace Report

/-- Who is told what by a report. -/
def telling (report : Report) : Ref .agent × Notice :=
  (report.agent, .status report.entered report.entered)

/-- Whether a report is made to a subscription. -/
def isOf (node : Ref .node) (token : UInt64) (report : Report) : Bool :=
  report.node == node && report.token == token

end Report

/-- Who is told what as a listener, if that is what is heard. -/
def Hearing.telling? : Hearing → Option (Ref .agent × Notice)
  | .listener agent entered now => some (agent, .status entered now)
  | _ => none

def Notice.isStatus : Notice → Bool
  | .status _ _ => true
  | _ => false

/-- Whoever is told something otherwise than as a listener is told of no status. -/
theorem Hearing.isStatus_notice
    {hearing : Hearing}
    (otherwise : hearing.telling? = none) :
    hearing.notice.isStatus = false := by
  cases hearing with
  | listener agent entered now => cases otherwise
  | _ => rfl

/-- What agents are told of statuses they are told as listeners. -/
theorem Hearing.noticesTo_told
    (store : Store)
    (hearings : List Hearing)
    (agent : Ref .agent) :
    ((Hearing.told store hearings).noticesTo agent).filter Notice.isStatus =
      Told.noticesTo (hearings.filterMap Hearing.telling?) agent := by
  induction hearings with
  | nil => rfl
  | cons hearing rest inductionHypothesis =>
      change ((Hearing.told store ([hearing] ++ rest)).noticesTo agent).filter _ =
        Told.noticesTo (([hearing] ++ rest).filterMap _) agent
      rw [Hearing.told_append, Told.noticesTo_append, List.filter_append, inductionHypothesis,
        List.filterMap_append, Told.noticesTo_append]
      congr 1
      cases listens : hearing.telling? with
      | none =>
          have silent := Hearing.isStatus_notice listens
          cases isAgent : hearing.agent? store with
          | none => simp [Hearing.told, Told.noticesTo, isAgent, listens]
          | some told =>
              by_cases same : told = agent <;>
                simp [Hearing.told, Told.noticesTo, isAgent, listens, same, silent]
      | some telling =>
          cases hearing with
          | listener listening entered now =>
              cases listens
              by_cases same : listening = agent <;>
                simp [Hearing.told, Hearing.agent?, Hearing.notice, Hearing.telling?,
                  Told.noticesTo, Notice.isStatus, same]
          | _ => cases listens

namespace Store

variable {store before after : Store} {node : Ref .node} {token : UInt64} {action : Action}

/-- Everyone who listens to a node is told of a status. -/
def summons (store : Store) (node : Ref .node) (entered : Status) : List Report :=
  (store.externals node).map fun entry =>
    { node := node, token := entry.1, agent := entry.2, entered := entered }

/-- The reports that are due if there is one store before an action and another one after it:
whoever listens to a node before is told of each status that it has entered. -/
def reports (before after : Store) : List Report :=
  before.nodes.refs.flatMap fun node =>
    (Status.course (before.nodes.get node).status (after.nodes.get node).status).flatMap
      (before.summons node)

/-- The reports that are due in the course of several actions. -/
def reported (store : Store) : List Action → List Report
  | [] => []
  | action :: rest =>
      match store.act? action with
      | none => []
      | some after => store.reports after ++ after.reported rest

/-- The statuses that a node enters in the course of several actions. -/
def entered (store : Store) (node : Ref .node) : List Action → List Status
  | [] => []
  | action :: rest =>
      match store.act? action with
      | none => []
      | some after =>
          Status.course (store.nodes.get node).status (after.nodes.get node).status ++
            after.entered node rest

/-- Between two stores reports have been made, and nobody has been told of a status
otherwise. -/
def Tells (base : Store) (reports : List Report) (before after : Store) : Prop :=
  ∃ hearings, hearings.filterMap Hearing.telling? = reports.map Report.telling ∧
    Heard base hearings before after

namespace Tells

variable {base : Store}

theorem of_passing
    {hearings : List Hearing}
    (passing : ∀ hearing ∈ hearings, hearing.InPassing base)
    (heard : Heard base hearings before after) :
    Tells base [] before after := by
  refine ⟨hearings, ?_, heard⟩
  rw [List.map_nil, List.filterMap_eq_nil_iff]
  intro hearing member
  have inPassing := passing hearing member
  cases hearing with
  | listener agent entered now => cases inPassing
  | _ => rfl

theorem trans
    {between : Store}
    {first second : List Report}
    (earlier : Tells base first before between)
    (later : Tells base second between after) :
    Tells base (first ++ second) before after := by
  obtain ⟨heardFirst, firstReports, first⟩ := earlier
  obtain ⟨heardSecond, secondReports, second⟩ := later
  refine ⟨heardFirst ++ heardSecond, ?_, first.trans second⟩
  rw [List.filterMap_append, firstReports, secondReports, List.map_append]

end Tells

/-- Telling the listeners of a node of the status that it is in reports to its agents. -/
theorem telling_notified
    (store : Store)
    (node : Ref .node) :
    (store.notified node (store.nodes.get node).status).filterMap Hearing.telling? =
      (store.summons node (store.nodes.get node).status).map Report.telling := by
  unfold notified summons externals
  generalize (store.nodes.get node).listeners = listeners
  induction listeners with
  | nil => rfl
  | cons entry rest inductionHypothesis =>
      rw [List.flatMap_cons, List.filterMap_append, inductionHypothesis, List.filterMap_cons]
      obtain ⟨token, listener⟩ := entry
      cases listener with
      | agent agent => rfl
      | fork fork =>
          have silent : (store.noticed node (store.nodes.get node).status (.fork fork)).filterMap
              Hearing.telling? = [] := by
            unfold noticed
            dsimp only
            split <;> rfl
          rw [silent]
          rfl

/-! ### Operations -/

/-- The reports of an operation. -/
def reportsOf (store : Store) : Operation → List Report
  | .connect node _ =>
      if (store.nodes.get node).status = .opened then store.summons node .connected else []
  | .disconnect node =>
      if (store.nodes.get node).status = .connected then store.summons node .opened else []
  | .close node =>
      (if (store.nodes.get node).status = .connected then store.summons node .opened else []) ++
        if (store.nodes.get node).status = .closed then [] else store.summons node .closed
  | _ => []

theorem summons_eq
    (same : after.skeleton = before.skeleton)
    (node : Ref .node)
    (entered : Status) :
    after.summons node entered = before.summons node entered := by
  unfold summons externals
  rw [listeners_eq same]

namespace Tells

variable {base : Store} {depth : Nat}

/-- Listeners are told of the status that their node is in. -/
theorem of_tellListeners
    {entered : Status}
    (passive : base.Passive)
    (same : before.skeleton = base.skeleton)
    (status : (before.nodes.get node).status = entered)
    (finished : Delivery.tellListeners (Entrances.within depth) node entered before =
      some ((), after)) :
    Tells base (base.summons node entered) before after := by
  have notified := Notified.tellListeners passive same finished
  refine ⟨_, ?_, notified.heard⟩
  subst status
  rw [telling_notified, summons_eq same]

/-- A node is moved, the new view is announced, and the listeners are told. -/
theorem of_course
    {announcement? : Option Announcement}
    {moved given : Store}
    {entered : Status}
    (passive : base.Passive)
    (same : moved.skeleton = base.skeleton)
    (agents : moved.agents = base.agents)
    (status : (moved.nodes.get node).status = entered)
    (announces : Delivery.announce (Entrances.within depth) announcement? moved =
      some ((), given))
    (tells : Delivery.tellListeners (Entrances.within depth) node entered given =
      some ((), after)) :
    Tells base (base.summons node entered) base after := by
  obtain ⟨shape, _, hearings, passing, heard⟩ := Accounts.announce passive same announces
  have sameGiven := (skeleton_eq_of_shape_eq shape).trans same
  have statusGiven : (given.nodes.get node).status = entered := by
    have fields := congrArg Node.status (bare_node_eq shape node)
    exact fields.trans status
  have first : Tells base [] base given := by
    refine of_passing passing ?_
    unfold Heard at heard ⊢
    rw [heard, agents]
  exact first.trans (of_tellListeners passive sameGiven statusGiven tells)

theorem nothing (base : Store) : Tells base [] base base := ⟨[], rfl, Heard.nothing rfl⟩

theorem connect
    {name : String}
    {outcome : Outcome}
    (passive : base.Passive)
    (issued : base.nodes.Issued node)
    (finished : Delivery.connect (Entrances.within depth) node name base =
      some (outcome, after)) :
    Tells base (base.reportsOf (.connect node name)) base after := by
  unfold reportsOf
  dsimp only
  by_cases opened : (base.nodes.get node).status = .opened
  · rw [if_pos opened]
    rw [Delivery.connect_eq opened] at finished
    obtain ⟨_, given, announces, onward⟩ := Rule.bind_eq_some finished
    obtain ⟨_, told, tells, isAfter⟩ := Rule.bind_eq_some onward
    cases isAfter
    refine of_course passive (skeleton_enter base node name) rfl ?_ announces tells
    rw [status_enter issued, if_pos rfl]
  · rw [if_neg opened]
    rw [connect_of_not_opened opened] at finished
    cases finished
    exact nothing _

theorem disconnect
    (passive : base.Passive)
    (issued : base.nodes.Issued node)
    (finished : Delivery.disconnect (Entrances.within depth) node base = some ((), after)) :
    Tells base (base.reportsOf (.disconnect node)) base after := by
  unfold reportsOf
  dsimp only
  by_cases connected : (base.nodes.get node).status = .connected
  · rw [if_pos connected]
    rw [Delivery.disconnect_eq connected] at finished
    obtain ⟨_, given, announces, tells⟩ := Rule.bind_eq_some finished
    refine of_course passive (skeleton_exit base node) (agents_exit base node) ?_ announces tells
    rw [status_exit issued, if_pos rfl]
  · rw [if_neg connected]
    change (if (base.nodes.get node).status = .connected then _ else _ : Run Unit) base = _
      at finished
    rw [if_neg connected] at finished
    cases finished
    exact nothing _

/-- Whoever is closed is disconnected first. -/
theorem close
    (passive : base.Passive)
    (issued : base.nodes.Issued node)
    (finished : Delivery.close (Entrances.within depth) node base = some ((), after)) :
    Tells base (base.reportsOf (.close node)) base after := by
  obtain ⟨_, left, leaves, onward⟩ := Rule.bind_eq_some finished
  have first := disconnect passive issued leaves
  have same : left.skeleton = base.skeleton :=
    (Skeleton.governs_disconnect depth node) _ _ _ trivial leaves
  have status : (left.nodes.get node).status =
      base.statusAfter (.call (.disconnect node)) node := by
    have fields := congrArg Node.status ((Accounts.disconnect passive leaves).stands.2 node)
    exact Eq.trans fields (status_reseated (.disconnect node) issued)
  have parted : (left.nodes.get node).status =
      if (base.nodes.get node).status = .connected then .opened
      else (base.nodes.get node).status := by
    rw [status]
    unfold statusAfter
    dsimp only
    simp only [true_and]
  have closedAlready : (left.nodes.get node).status = .closed ↔
      (base.nodes.get node).status = .closed := by
    rw [parted]
    split
    · rename_i connected
      simp [connected]
    · exact Iff.rfl
  change (if (left.nodes.get node).status ≠ .closed then _ else _ : Run Unit) left = _ at onward
  refine first.trans ?_
  by_cases closed : (left.nodes.get node).status = .closed
  · rw [if_neg (not_not_intro closed)] at onward
    cases onward
    rw [if_pos (closedAlready.mp closed)]
    exact ⟨[], rfl, Heard.nothing rfl⟩
  · rw [if_pos closed] at onward
    rw [if_neg (mt closedAlready.mpr closed)]
    obtain ⟨_, shut, shuts, tells⟩ := Rule.bind_eq_some onward
    cases shuts
    have sameShut : (left.shut node).skeleton = base.skeleton := by
      refine Eq.trans ?_ same
      apply skeleton_modifyNode
      intro record
      rfl
    have issuedLeft := (issued_node_iff same node).mpr issued
    have statusShut : ((left.shut node).nodes.get node).status = .closed := by
      rw [Accounts.node_shut_self issuedLeft]
    obtain ⟨hearings, tellings, heard⟩ := of_tellListeners passive sameShut statusShut tells
    exact ⟨hearings, tellings, heard⟩

/-- What is called makes the reports of the operation. -/
theorem call
    {operation : Operation}
    {reply : Reply}
    (wired : base.Wired)
    (passive : base.Passive)
    (can : base.canCall operation = true)
    (finished : Delivery.call (Entrances.within depth) operation base = some (reply, after)) :
    Tells base (base.reportsOf operation) base after := by
  have ofPassing (sends : operation.sends = true) : Tells base [] base after := by
    obtain ⟨_, _, hearings, passing, heard⟩ :=
      Passing.governs_call passive sends depth base reply after rfl finished
    exact of_passing passing heard
  cases operation with
  | sendFork fork message => exact ofPassing rfl
  | sendNode sender message => exact ofPassing rfl
  | connect moving name =>
      obtain ⟨_, joined, joins, isAfter⟩ := Rule.bind_eq_some finished
      cases isAfter
      exact connect passive (wired.issued_of_isNodeAlive can) joins
  | disconnect moving =>
      obtain ⟨_, left, leaves, isAfter⟩ := Rule.bind_eq_some finished
      cases isAfter
      exact disconnect passive (wired.issued_of_isNodeAlive can) leaves
  | close moving =>
      obtain ⟨_, shut, shuts, isAfter⟩ := Rule.bind_eq_some finished
      cases isAfter
      exact close passive (wired.issued_of_isNodeAlive can) shuts

end Tells

/-! ### Actions -/

/-- Nothing is reported of nodes that stay in their status. -/
theorem reports_of_same
    (same : ∀ node, (after.nodes.get node).status = (store.nodes.get node).status) :
    store.reports after = [] := by
  refine List.flatMap_eq_nil_iff.mpr fun node _ => ?_
  rw [same]
  unfold Status.course
  rw [if_pos rfl]
  rfl

/-- If one node alone enters another status then it alone is reported of. -/
theorem reports_of_moving
    (issued : store.nodes.Issued node)
    (others : ∀ other, other ≠ node →
      (after.nodes.get other).status = (store.nodes.get other).status) :
    store.reports after =
      (Status.course (store.nodes.get node).status (after.nodes.get node).status).flatMap
        (store.summons node) := by
  refine flatMap_eq_of_alone store.nodes.nodup_refs (Table.mem_refs.mpr issued) ?_
  intro other _ apart
  rw [others other apart]
  unfold Status.course
  rw [if_pos rfl]
  rfl

/-- The reports that are due after an operation are those of the operation. -/
theorem reports_call
    {operation : Operation}
    (composed : store.Composed)
    (settled : ∀ node, (store.nodes.get node).status ≠ .connecting)
    (acted : store.act? (.call operation) = some after) :
    store.reports after = store.reportsOf operation := by
  have status (node : Ref .node) := status_act composed acted node
  obtain ⟨can, _⟩ := given_eq_some.mp acted
  have wired := composed.wired
  cases operation with
  | connect moving name =>
      rw [reports_of_moving (wired.issued_of_isNodeAlive can) fun other apart =>
        (status other).trans (if_neg fun both => apart both.1), status]
      simp only [statusAfter, reportsOf, true_and]
      split
      · rename_i opened
        simp [Status.course, opened]
      · simp [Status.course]
  | disconnect moving =>
      rw [reports_of_moving (wired.issued_of_isNodeAlive can) fun other apart =>
        (status other).trans (if_neg fun both => apart both.1), status]
      simp only [statusAfter, reportsOf, true_and]
      split
      · rename_i connected
        simp [Status.course, connected]
      · simp [Status.course]
  | close moving =>
      rw [reports_of_moving (wired.issued_of_isNodeAlive can) fun other apart =>
        (status other).trans (if_neg apart), status]
      simp only [statusAfter, reportsOf, if_true]
      cases found : (store.nodes.get moving).status with
      | connecting => exact absurd found (settled moving)
      | _ => simp [Status.course]
  | sendFork fork message => exact reports_of_same status
  | sendNode sender message => exact reports_of_same status

/-- Every agent that there was has been told of statuses by reports to it, in turn, and in no
other way. -/
def Informed (reports : List Report) (before after : Store) : Prop :=
  ∀ agent, before.agents.Issued agent → after.agents.Issued agent ∧ ∃ notices,
    after.agents.get agent = (before.agents.get agent).hearAll notices ∧
      notices.filter Notice.isStatus =
        (reports.filter fun report => report.agent == agent).map fun report =>
          .status report.entered report.entered

namespace Informed

theorem of_keeps (keeps : Table.Keeps id before.agents after.agents) :
    Informed [] before after :=
  fun agent issued => ⟨(keeps agent issued).1, [], (keeps agent issued).2, rfl⟩

theorem of_tells
    {reports : List Report}
    (tells : Tells before reports before after) :
    Informed reports before after := by
  obtain ⟨hearings, tellings, heard⟩ := tells
  unfold Heard at heard
  intro agent issued
  rw [heard, get_hearAll]
  refine ⟨issued_hearAll.mpr issued, _, rfl, ?_⟩
  rw [Hearing.noticesTo_told, tellings]
  unfold Told.noticesTo
  rw [List.filter_map, List.map_map]
  rfl

theorem trans
    {between : Store}
    {first second : List Report}
    (earlier : Informed first before between)
    (later : Informed second between after) :
    Informed (first ++ second) before after := by
  intro agent issued
  obtain ⟨issuedBetween, notices, told, statuses⟩ := earlier agent issued
  obtain ⟨issuedAfter, others, toldLater, statusesLater⟩ := later agent issuedBetween
  refine ⟨issuedAfter, notices ++ others, ?_, ?_⟩
  · rw [toldLater, told, Agent.hearAll_append]
  · rw [List.filter_append, statuses, statusesLater, List.filter_append, List.map_append]

end Informed

/-- An action informs agents by the reports that are due. -/
theorem informed_act
    (reachable : Reachable Action.MakesPassive store)
    (acted : store.act? action = some after) :
    Informed (store.reports after) store after := by
  have composed := composed_of_reachable reachable
  have settled (node : Ref .node) := ((poised_of_reachable reachable).coherent node).settled
  have status (node : Ref .node) := status_act composed acted node
  have ofPassing (passing : Passing store store after)
      (same : ∀ node, store.statusAfter action node = (store.nodes.get node).status) :
      Informed (store.reports after) store after := by
    obtain ⟨_, _, hearings, inPassing, heard⟩ := passing
    rw [reports_of_same fun node => (status node).trans (same node)]
    exact .of_tells (.of_passing inPassing heard)
  cases runs : action.runs with
  | false =>
      have still : store.reports after = [] := by
        refine reports_of_same fun node => (status node).trans ?_
        cases action <;> first | rfl | cases runs
      rw [still]
      exact .of_keeps (keeps_agents_act composed.wired runs acted)
  | true =>
      cases step_of_act composed.wired acted with
      | refused still =>
          rw [still] at runs
          cases runs
      | travel finished =>
          exact ofPassing (composed.passive.passing_of_travel finished) fun _ => rfl
      | receive finished =>
          exact ofPassing (composed.passive.passing_of_receive finished) fun _ => rfl
      | call can finished =>
          rw [reports_call composed settled acted]
          exact .of_tells (.call composed.wired composed.passive can finished)
      | _ => cases runs

theorem reported_cons
    {rest : List Action}
    (acted : store.act? action = some after) :
    store.reported (action :: rest) = store.reports after ++ after.reported rest := by
  rw [reported, acted]

theorem entered_cons
    {rest : List Action}
    (acted : store.act? action = some after)
    (node : Ref .node) :
    store.entered node (action :: rest) =
      Status.course (store.nodes.get node).status (after.nodes.get node).status ++
        after.entered node rest := by
  rw [entered, acted]

theorem informed_run
    {actions : List Action}
    (reachable : Reachable Action.MakesPassive store)
    (permitted : ∀ action ∈ actions, action.MakesPassive)
    (ran : store.run? actions = some after) :
    Informed (store.reported actions) store after := by
  induction actions generalizing store with
  | nil =>
      cases ran
      exact .of_keeps (Table.Keeps.refl _ _)
  | cons action rest inductionHypothesis =>
      obtain ⟨between, acted, ranOn⟩ := Option.bind_eq_some_iff.mp ran
      rw [reported_cons acted]
      exact (informed_act reachable acted).trans (inductionHypothesis
        (.step reachable (permitted action List.mem_cons_self) acted)
        (fun other member => permitted other (List.mem_cons_of_mem _ member)) ranOn)

/-- The statuses that a node enters lead on from the one that it has, each to the next. -/
theorem entered_isChain
    {actions : List Action}
    (reachable : Reachable Action.MakesPassive store)
    (permitted : ∀ action ∈ actions, action.MakesPassive)
    (ran : store.run? actions = some after)
    (node : Ref .node) :
    ((store.nodes.get node).status :: store.entered node actions).IsChain
      fun earlier later => earlier.leadsTo later = true := by
  induction actions generalizing store with
  | nil => exact List.IsChain.singleton _
  | cons action rest inductionHypothesis =>
      obtain ⟨between, acted, ranOn⟩ := Option.bind_eq_some_iff.mp ran
      have later := inductionHypothesis
        (.step reachable (permitted action List.mem_cons_self) acted)
        (fun other member => permitted other (List.mem_cons_of_mem _ member)) ranOn
      have settled := ((poised_of_reachable reachable).coherent node).settled
      have steps := steps_act (composed_of_reachable reachable) settled acted
      rw [entered_cons acted]
      exact isChain_append (Status.course_isChain steps).1 (Status.course_isChain steps).2 later

/-! ### One subscription -/

theorem nodup_tokens_externals
    (subscribed : store.Subscribed)
    (node : Ref .node) :
    ((store.externals node).map Prod.fst).Nodup := by
  have tokens := subscribed.tokens node
  unfold List.Nodup at tokens ⊢
  rw [List.pairwise_map] at tokens ⊢
  refine tokens.filterMap _ ?_
  rintro ⟨leftToken, left⟩ ⟨rightToken, right⟩ apart leftEntry isLeft rightEntry isRight
  cases left with
  | fork fork => cases isLeft
  | agent leftAgent =>
      cases right with
      | fork fork => cases isRight
      | agent rightAgent =>
          cases isLeft
          cases isRight
          exact apart

theorem filter_externals
    {agent : Ref .agent}
    (subscribed : store.Subscribed)
    (listens : (token, agent) ∈ store.externals node) :
    (store.externals node).filter (fun entry => entry.1 == token) = [(token, agent)] := by
  have tokens := nodup_tokens_externals subscribed node
  refine filter_eq_of_sublist (.of_map _ tokens) (List.singleton_sublist.mpr listens)
    fun entry listed => ?_
  rw [beq_iff_eq, List.mem_singleton]
  constructor
  · intro same
    exact List.inj_on_of_nodup_map tokens listed listens same
  · rintro rfl
    rfl

theorem filter_summons
    (store : Store)
    (node : Ref .node)
    (token : UInt64)
    (entered : Status) :
    (store.summons node entered).filter (Report.isOf node token) =
      ((store.externals node).filter fun entry => entry.1 == token).map fun entry =>
        ⟨node, entry.1, entry.2, entered⟩ := by
  have same : (Report.isOf node token ∘ fun entry : UInt64 × Ref .agent =>
      { node := node, token := entry.1, agent := entry.2, entered := entered : Report }) =
      fun entry => entry.1 == token := by
    funext entry
    simp [Report.isOf]
  unfold summons
  rw [List.filter_map, same]

/-- Of the reports of all nodes, those to a subscription are of its own node. -/
theorem filter_reports
    (store after : Store)
    (token : UInt64)
    (issued : store.nodes.Issued node) :
    (store.reports after).filter (Report.isOf node token) =
      (Status.course (store.nodes.get node).status (after.nodes.get node).status).flatMap
        fun entered => (store.summons node entered).filter (Report.isOf node token) := by
  unfold reports
  rw [List.filter_flatMap, flatMap_eq_of_alone store.nodes.nodup_refs (Table.mem_refs.mpr issued)]
  · rw [List.filter_flatMap]
  · intro other _ apart
    refine List.filter_eq_nil_iff.mpr fun report isReport isOwn => ?_
    obtain ⟨entered, _, summoned⟩ := List.mem_flatMap.mp isReport
    obtain ⟨entry, _, rfl⟩ := List.mem_map.mp summoned
    exact apart (beq_iff_eq.mp (Bool.and_eq_true_iff.mp isOwn).1)

theorem issued_of_externals
    {entry : UInt64 × Ref .agent}
    (listens : entry ∈ store.externals node) :
    store.nodes.Issued node := by
  by_contra notIssued
  unfold externals at listens
  rw [Table.get_of_not_issued notIssued] at listens
  cases listens

/-- A subscription is told of each status that its node enters, once, and of no other. -/
theorem reports_to
    {agent : Ref .agent}
    (subscribed : store.Subscribed)
    (listens : (token, agent) ∈ store.externals node)
    (after : Store) :
    (store.reports after).filter (Report.isOf node token) =
      (Status.course (store.nodes.get node).status (after.nodes.get node).status).map
        fun entered => ⟨node, token, agent, entered⟩ := by
  rw [filter_reports store after token (issued_of_externals listens)]
  simp only [filter_summons, filter_externals subscribed listens]
  exact List.map_eq_flatMap.symm

/-- A token that nobody has is told nothing. -/
theorem reports_to_nobody
    (nobody : ∀ entry ∈ store.externals node, entry.1 ≠ token)
    (after : Store) :
    (store.reports after).filter (Report.isOf node token) = [] := by
  by_cases issued : store.nodes.Issued node
  · rw [filter_reports store after token issued, List.flatMap_eq_nil_iff]
    intro entered _
    rw [filter_summons, List.map_eq_nil_iff, List.filter_eq_nil_iff]
    exact fun entry listed same => nobody entry listed (beq_iff_eq.mp same)
  · refine List.filter_eq_nil_iff.mpr fun report isReport isOwn => issued ?_
    obtain ⟨other, listed, isOther⟩ := List.mem_flatMap.mp isReport
    obtain ⟨entered, _, summoned⟩ := List.mem_flatMap.mp isOther
    obtain ⟨entry, _, rfl⟩ := List.mem_map.mp summoned
    rw [← beq_iff_eq.mp (Bool.and_eq_true_iff.mp isOwn).1]
    exact Table.mem_refs.mp listed

/-- As long as a subscription is not ended it lasts. -/
theorem mem_externals_act
    {entry : UInt64 × Ref .agent}
    (reachable : Reachable Action.MakesPassive store)
    (listens : entry ∈ store.externals node)
    (acted : store.act? action = some after)
    (lasts : action ≠ .unlisten node entry.1) :
    entry ∈ after.externals node := by
  rw [externals_act (subscribed_of_reachable reachable) (wired_of_reachable reachable) acted]
  unfold externalsAfter
  cases action with
  | listen other agent =>
      dsimp only
      split
      · exact List.mem_append_left _ listens
      · exact listens
  | unlisten other token =>
      dsimp only
      split
      · rename_i same
        subst same
        refine List.mem_filter.mpr ⟨listens, bne_iff_ne.mpr ?_⟩
        rintro rfl
        exact lasts rfl
      · exact listens
  | _ => exact listens

/-- As long as a subscription lasts it is told of the statuses that its node enters. -/
theorem reported_during
    {actions : List Action}
    {agent : Ref .agent}
    (reachable : Reachable Action.MakesPassive store)
    (permitted : ∀ action ∈ actions, action.MakesPassive)
    (ran : store.run? actions = some after)
    (listens : (token, agent) ∈ store.externals node)
    (lasts : ∀ action ∈ actions, action ≠ .unlisten node token) :
    (store.reported actions).filter (Report.isOf node token) =
      (store.entered node actions).map fun entered => ⟨node, token, agent, entered⟩ := by
  induction actions generalizing store with
  | nil => rfl
  | cons action rest inductionHypothesis =>
      obtain ⟨between, acted, ranOn⟩ := Option.bind_eq_some_iff.mp ran
      have still := mem_externals_act reachable listens acted (lasts action List.mem_cons_self)
      rw [reported_cons acted, entered_cons acted, List.filter_append, List.map_append,
        reports_to (subscribed_of_reachable reachable) listens]
      rw [inductionHypothesis (.step reachable (permitted action List.mem_cons_self) acted)
        (fun other member => permitted other (List.mem_cons_of_mem _ member)) ranOn still
        fun other member => lasts other (List.mem_cons_of_mem _ member)]

/-! ### Before a subscription and after it -/

theorem fresh_externals
    {entry : UInt64 × Ref .agent}
    (subscribed : store.Subscribed)
    (listens : entry ∈ store.externals node) :
    entry.1.toNat ≤ (store.nodes.get node).subscriptions := by
  obtain ⟨listed, isListed, isEntry⟩ := List.mem_filterMap.mp listens
  obtain ⟨own, listener⟩ := listed
  cases listener with
  | fork fork => cases isEntry
  | agent agent =>
      cases isEntry
      exact subscribed.fresh node _ isListed

/-- A token that nobody has and that has been given out is nobody's from then on. -/
theorem nobody_act
    (reachable : Reachable Action.MakesPassive store)
    (givenOut : token.toNat ≤ (store.nodes.get node).subscriptions)
    (nobody : ∀ entry ∈ store.externals node, entry.1 ≠ token)
    (acted : store.act? action = some after) :
    ∀ entry ∈ after.externals node, entry.1 ≠ token := by
  rw [externals_act (subscribed_of_reachable reachable) (wired_of_reachable reachable) acted]
  unfold externalsAfter
  cases action with
  | listen other agent =>
      dsimp only
      split
      · rename_i same
        subst same
        intro entry listed
        rcases List.mem_append.mp listed with old | isNew
        · exact nobody entry old
        · rw [List.mem_singleton.mp isNew]
          rintro rfl
          obtain ⟨_, left, _⟩ := act?_listen_eq_some.mp acted
          have next := Node.toNat_nextToken left
          exact Nat.not_succ_le_self _ (next.ge.trans givenOut)
      · exact nobody
  | unlisten other token =>
      dsimp only
      split
      · exact fun entry listed => nobody entry (List.mem_filter.mp listed).1
      · exact nobody
  | _ => exact nobody

/-- A token that nobody has and that has been given out is told nothing from then on. -/
theorem reported_to_nobody
    {actions : List Action}
    (reachable : Reachable Action.MakesPassive store)
    (permitted : ∀ action ∈ actions, action.MakesPassive)
    (ran : store.run? actions = some after)
    (givenOut : token.toNat ≤ (store.nodes.get node).subscriptions)
    (nobody : ∀ entry ∈ store.externals node, entry.1 ≠ token) :
    (store.reported actions).filter (Report.isOf node token) = [] := by
  induction actions generalizing store with
  | nil => rfl
  | cons action rest inductionHypothesis =>
      obtain ⟨between, acted, ranOn⟩ := Option.bind_eq_some_iff.mp ran
      have tokens := subscriptions_act_le (wired_of_reachable reachable) acted node
      rw [reported_cons acted, List.filter_append, reports_to_nobody nobody, List.nil_append]
      exact inductionHypothesis (.step reachable (permitted action List.mem_cons_self) acted)
        (fun other member => permitted other (List.mem_cons_of_mem _ member)) ranOn
        (givenOut.trans tokens) (nobody_act reachable givenOut nobody acted)

/-- A token that is not given out by the end of a run is told nothing in its course. -/
theorem reported_to_future
    {actions : List Action}
    (reachable : Reachable Action.MakesPassive store)
    (permitted : ∀ action ∈ actions, action.MakesPassive)
    (ran : store.run? actions = some after)
    (future : (after.nodes.get node).subscriptions < token.toNat) :
    (store.nodes.get node).subscriptions < token.toNat ∧
      (store.reported actions).filter (Report.isOf node token) = [] := by
  induction actions generalizing store with
  | nil =>
      cases ran
      exact ⟨future, rfl⟩
  | cons action rest inductionHypothesis =>
      obtain ⟨between, acted, ranOn⟩ := Option.bind_eq_some_iff.mp ran
      obtain ⟨notYet, silent⟩ :=
        inductionHypothesis (.step reachable (permitted action List.mem_cons_self) acted)
          (fun other member => permitted other (List.mem_cons_of_mem _ member)) ranOn
      have before :=
        (subscriptions_act_le (wired_of_reachable reachable) acted node).trans_lt notYet
      refine ⟨before, ?_⟩
      rw [reported_cons acted, List.filter_append, silent, List.append_nil]
      refine reports_to_nobody (fun entry listens => ?_) between
      rintro rfl
      exact (fresh_externals (subscribed_of_reachable reachable) listens).not_gt before

theorem reported_append
    {earlier later : List Action}
    {between : Store}
    (ran : store.run? earlier = some between) :
    store.reported (earlier ++ later) = store.reported earlier ++ between.reported later := by
  induction earlier generalizing store with
  | nil =>
      cases ran
      rfl
  | cons action rest inductionHypothesis =>
      obtain ⟨next, acted, ranOn⟩ := Option.bind_eq_some_iff.mp ran
      rw [List.cons_append, reported_cons acted, reported_cons acted, inductionHypothesis ranOn,
        List.append_assoc]

theorem run?_append
    (store : Store)
    (earlier later : List Action) :
    store.run? (earlier ++ later) = (store.run? earlier).bind fun between =>
      between.run? later := by
  induction earlier generalizing store with
  | nil => rfl
  | cons action rest inductionHypothesis =>
      rw [List.cons_append, run?, run?, Option.bind_assoc]
      exact congrArg _ (funext inductionHypothesis)

theorem subscriptions_run_le
    {actions : List Action}
    (wired : store.Wired)
    (ran : store.run? actions = some after)
    (node : Ref .node) :
    (store.nodes.get node).subscriptions ≤ (after.nodes.get node).subscriptions := by
  induction actions generalizing store with
  | nil =>
      cases ran
      exact Nat.le_refl _
  | cons action rest inductionHypothesis =>
      obtain ⟨between, acted, ranOn⟩ := Option.bind_eq_some_iff.mp ran
      exact (subscriptions_act_le wired acted node).trans
        (inductionHypothesis (wired_act wired acted) ranOn)

/-- Subscribing alone moves no node. -/
theorem reports_listen
    {agent : Ref .agent}
    (composed : store.Composed)
    (acted : store.act? (.listen node agent) = some after) :
    store.reports after = [] :=
  reports_of_same fun other => status_act composed acted other

/-- Whoever has just subscribed listens under the next token. -/
theorem mem_externals_listen
    {agent : Ref .agent}
    (reachable : Reachable Action.MakesPassive store)
    (acted : store.act? (.listen node agent) = some after) :
    ((store.nodes.get node).nextToken, agent) ∈ after.externals node := by
  rw [externals_act (subscribed_of_reachable reachable) (wired_of_reachable reachable) acted]
  unfold externalsAfter
  dsimp only
  rw [if_pos rfl]
  exact List.mem_append_right _ (List.mem_singleton_self _)

/-- A subscription is told of the statuses that its node enters from then on as long as it
lasts, of each of them once and in turn, and of none before. -/
theorem reported_subscription
    {earlier during : List Action}
    {agent : Ref .agent}
    {listening subscribed parting : Store}
    (reachable : Reachable Action.MakesPassive store)
    (permitted : ∀ action ∈ earlier ++ during, action.MakesPassive)
    (ranEarlier : store.run? earlier = some listening)
    (acted : listening.act? (.listen node agent) = some subscribed)
    (ranDuring : subscribed.run? during = some parting)
    (isToken : token = (listening.nodes.get node).nextToken)
    (lasts : ∀ action ∈ during, action ≠ .unlisten node token) :
    (store.reported (earlier ++ .listen node agent :: during)).filter (Report.isOf node token) =
      (subscribed.entered node during).map fun entered => ⟨node, token, agent, entered⟩ := by
  have early (other : Action) (member : other ∈ earlier) :=
    permitted other (List.mem_append_left _ member)
  have late (other : Action) (member : other ∈ during) :=
    permitted other (List.mem_append_right _ member)
  have reachableListening := reachable_of_run? reachable early ranEarlier
  have passive : (Action.listen node agent).MakesPassive := trivial
  have reachableSubscribed := Reachable.step reachableListening passive acted
  have future : (listening.nodes.get node).subscriptions < token.toNat := by
    obtain ⟨_, left, _⟩ := act?_listen_eq_some.mp acted
    rw [isToken, Node.toNat_nextToken left]
    exact Nat.lt_succ_self _
  have silent := (reported_to_future reachable early ranEarlier future).2
  have listens := mem_externals_listen reachableListening acted
  rw [← isToken] at listens
  rw [reported_append ranEarlier, reported_cons acted,
    reports_listen (composed_of_reachable reachableListening) acted, List.nil_append,
    List.filter_append, silent, List.nil_append]
  exact reported_during reachableSubscribed late ranDuring listens lasts

/-- Once a subscription has ended it is told nothing. -/
theorem reported_unlisten
    {later : List Action}
    (reachable : Reachable Action.MakesPassive store)
    (permitted : ∀ action ∈ later, action.MakesPassive)
    (ran : store.run? (.unlisten node token :: later) = some after)
    (givenOut : token.toNat ≤ (store.nodes.get node).subscriptions) :
    (store.reported (.unlisten node token :: later)).filter (Report.isOf node token) = [] := by
  obtain ⟨ended, acted, ranOn⟩ := Option.bind_eq_some_iff.mp ran
  have wired := wired_of_reachable reachable
  have still : store.reports ended = [] :=
    reports_of_same fun other => status_act (composed_of_reachable reachable) acted other
  have tokens := subscriptions_act_le wired acted node
  have passive : (Action.unlisten node token).MakesPassive := trivial
  rw [reported_cons acted, still, List.nil_append]
  refine reported_to_nobody (.step reachable passive acted) permitted ranOn
    (givenOut.trans tokens) ?_
  rw [externals_act (subscribed_of_reachable reachable) wired acted]
  unfold externalsAfter
  dsimp only
  rw [if_pos rfl]
  exact fun entry listed => bne_iff_ne.mp (List.mem_filter.mp listed).2

/-- Of all that a subscription is ever told, nothing comes after it has ended. -/
theorem reported_ended_subscription
    {earlier during later : List Action}
    {agent : Ref .agent}
    {listening subscribed parting : Store}
    (reachable : Reachable Action.MakesPassive store)
    (permitted : ∀ action ∈ earlier ++ during ++ later, action.MakesPassive)
    (ranEarlier : store.run? earlier = some listening)
    (acted : listening.act? (.listen node agent) = some subscribed)
    (ranDuring : subscribed.run? during = some parting)
    (ranLater : parting.run? (.unlisten node token :: later) = some after)
    (isToken : token = (listening.nodes.get node).nextToken)
    (lasts : ∀ action ∈ during, action ≠ .unlisten node token) :
    (store.reported (earlier ++ .listen node agent :: during ++
        .unlisten node token :: later)).filter (Report.isOf node token) =
      (subscribed.entered node during).map fun entered => ⟨node, token, agent, entered⟩ := by
  have early (other : Action) (member : other ∈ earlier ++ during) :=
    permitted other (List.mem_append_left _ member)
  have late (other : Action) (member : other ∈ later) :=
    permitted other (List.mem_append_right _ member)
  have ranParting : store.run? (earlier ++ .listen node agent :: during) = some parting := by
    rw [run?_append, ranEarlier, Option.bind_some, run?, acted]
    exact ranDuring
  have reachableListening := reachable_of_run? reachable
    (fun other member => early other (List.mem_append_left _ member)) ranEarlier
  have passive : (Action.listen node agent).MakesPassive := trivial
  have reachableSubscribed := Reachable.step reachableListening passive acted
  have reachableParting := reachable_of_run? reachableSubscribed
    (fun other member => early other (List.mem_append_right _ member)) ranDuring
  have givenOut : token.toNat ≤ (parting.nodes.get node).subscriptions := by
    have fresh := fresh_externals (subscribed_of_reachable reachableSubscribed)
      (mem_externals_listen reachableListening acted)
    rw [isToken]
    exact fresh.trans
      (subscriptions_run_le (wired_of_reachable reachableSubscribed) ranDuring node)
  rw [reported_append ranParting, List.filter_append,
    reported_subscription reachable early ranEarlier acted ranDuring isToken lasts,
    reported_unlisten reachableParting late ranLater givenOut, List.append_nil]

end Store

end ChannelMux
