import ChannelMux.CommandLine.Response
import ChannelMux.Proofs.Demo.Document
import ChannelMux.Proofs.Demo.Totals

/-!
Contract: the outcome of a demonstration of every size.

Owns under which settings a demonstration ends well, and everything that is reported of it then:
the groups and counters of every node, and how many messages have reached every queue. What is
printed is read back as a document that shows this.
-/

namespace ChannelMux

/-! ### What queues keep -/

/-- How many of the entries of an agent are messages that it has taken. -/
def Agent.received (agent : Agent) : Nat :=
  agent.entries.countP fun entry => (entry.event?.bind Event.message?).isSome

/-- A queue keeps every message that it is told of. -/
theorem Agent.received_hear
    {agent : Agent}
    (isQueue : agent.manner = .queue)
    (notice : Notice) :
    (agent.hear notice).received = agent.received + notice.messages.length := by
  have keeps (event : Event) : ((.event event :: agent.entries : List AgentEntry).countP
      fun entry => (entry.event?.bind Event.message?).isSome) =
        agent.received + (Notice.messages (.down event)).length := by
    unfold Agent.received
    rw [List.countP_cons]
    cases event <;> rfl
  unfold Agent.hear
  rw [isQueue]
  cases notice with
  | up traffic =>
      cases traffic with
      | single event =>
          refine (keeps event).trans ?_
          cases event <;> rfl
      | batch whole =>
          have settles : ∀ message ∈ whole.messages, (Manner.oneByOne.take (fun _ => none) none
              (.message message)).Settles (.ok ()) := fun _ _ => rfl
          have remembers : (Manner.queue (.up (.batch whole))).remember agent.entries =
              whole.messages.foldl (fun entries message => .event (.message message) :: entries)
                agent.entries :=
            Script.remember_forEach settles agent.entries
          unfold Agent.received
          dsimp only
          rw [remembers]
          change _ = _ + whole.messages.length
          generalize agent.entries = entries
          induction whole.messages generalizing entries with
          | nil => rfl
          | cons message rest inductionHypothesis =>
              rw [List.foldl_cons, inductionHypothesis, List.countP_cons, List.length_cons]
              simp [AgentEntry.event?, Event.message?]
              omega
  | down event => exact keeps event
  | status entered now => rfl

theorem Agent.received_hearAll
    {agent : Agent}
    (isQueue : agent.manner = .queue)
    (notices : List Notice) :
    (agent.hearAll notices).received =
      agent.received + (notices.flatMap Notice.messages).length := by
  induction notices generalizing agent with
  | nil => rfl
  | cons notice rest inductionHypothesis =>
      have still : (agent.hear notice).manner = .queue := isQueue
      change ((agent.hear notice).hearAll rest).received = _
      rw [inductionHypothesis still, Agent.received_hear isQueue, List.flatMap_cons,
        List.length_append, Nat.add_assoc]

namespace Demo

/-! ### What is reported -/

section Course

variable {plan : Plan} {hosts : List Host} {base after : Store} {host : Host}
  (made : Made plan plan.nodes hosts base) (positive : plan.isPositive = true)
  (inRange : plan.InRange)

include made positive inRange in
/-- The course of a demonstration can be gone through. -/
theorem course_ok :
    ∃ after, course plan hosts base = .ok ((), after) ∧
      Underway base hosts hosts plan.cluster after ∧
      Reckoned (bill plan base hosts) (heard plan hosts) base after := by
  obtain ⟨joined, joins, underway, greeted⟩ := made.join_all positive plan.cluster
  obtain ⟨after, speaks, onward, said⟩ := made.speak_all positive underway
    (fun speech isSpeech => made.isBy inRange isSpeech)
  refine ⟨after, ?_, onward, ?_⟩
  · rw [course_eq, Play.bind_of_ok joins]
    exact speaks
  · have whole := greeted.trans said
    simp only [Nat.zero_add] at whole
    exact whole

variable (underway : Underway base hosts hosts plan.cluster after)
  (reckoned : Reckoned (bill plan base hosts) (heard plan hosts) base after)

include made reckoned in
theorem received_eq
    {queue : Ref .agent}
    (isHost : host ∈ hosts)
    (ofHost : queue ∈ host.queues) :
    received after queue = heard plan hosts queue := by
  obtain ⟨notices, same, count⟩ := reckoned.told queue
  have isQueue := ((made.furnishes host isHost).queues queue ofHost).2
  have total := Agent.received_hearAll isQueue notices
  have nothing : (base.agents.get queue).received = 0 := by
    unfold Agent.received
    rw [made.pristine.agents queue]
    rfl
  rw [← same, count, nothing, Nat.zero_add] at total
  exact total

include made positive in
/-- The groups at a node are those of the plan. -/
theorem names_perm
    {state : Demultiplexer}
    (isHost : host ∈ hosts)
    (found : base.demultiplexer? (base.hubOf host.node) = some state) :
    state.groups.names.Perm ((List.range plan.groups).map groupName) := by
  have members := (Plan.isPositive_iff.mp positive).2.2
  have distinct : ((List.range plan.groups).map groupName).Nodup :=
    List.nodup_range.map fun _ _ same => groupName_inj.mp same
  rw [List.perm_ext_iff_of_nodup state.groups.names_nodup distinct]
  intro name
  have registered := (made.furnishes host isHost).registered name
  unfold Store.groupStack? Delivery.stackOf? at registered
  rw [made.hub?_eq positive isHost, Option.bind_some, found, Option.bind_some] at registered
  rw [Registry.mem_names_iff, registered, List.mem_map]
  constructor
  · rintro ⟨channel, isChannel, rfl⟩
    have isSeat := (made.mem_seats_iff isHost).mpr ⟨channel, isChannel, rfl⟩
    exact ⟨channel.group, List.mem_range.mpr (Plan.mem_seats.mp isSeat).1, rfl⟩
  · rintro ⟨group, isGroup, rfl⟩
    have isSeat : (group, 0) ∈ plan.seats :=
      Plan.mem_seats.mpr ⟨List.mem_range.mp isGroup, members⟩
    obtain ⟨channel, isChannel, same⟩ := (made.mem_seats_iff isHost).mp isSeat
    exact ⟨channel, isChannel, congrArg groupName (congrArg Prod.fst same).symm⟩

include made reckoned in
theorem counters_eq (isHost : host ∈ hosts) :
    (reportHost after host).counters = Charge.totalAtNode host.node (bill plan base hosts) := by
  have issued := (made.furnishes host isHost).issued made.wired
  have counted := reckoned.charged.nodes host.node issued
  rw [(made.pristine.nodes host.node).2, Charge.foldl_atNode] at counted
  exact counted

include made in
theorem octets_eq (isHost : host ∈ hosts) :
    host.octets plan.messages = plan.octetsAt host.number := by
  have sent (channel : Channel) :
      (channel.speeches plan.messages host).map (fun speech => speech.payload.length) =
        (List.range plan.messages).map fun number =>
          (forkPayload channel.seat.1 channel.seat.2 number).length := by
    unfold Channel.speeches
    rw [List.map_map]
    rfl
  have ofSeats : plan.seats.flatMap (fun seat =>
      (List.range plan.messages).map fun number => (forkPayload seat.1 seat.2 number).length) =
        (List.range plan.groups).flatMap fun group => (List.range plan.members).flatMap fun member =>
          (List.range plan.messages).map fun number =>
            (forkPayload group member number).length := by
    unfold Plan.seats rows row
    simp only [List.flatMap_assoc, List.flatMap_map]
  unfold Host.octets Host.speeches Plan.octetsAt
  rw [List.map_append, List.sum_append, List.map_flatMap]
  simp only [sent]
  rw [← ofSeats, ← made.seated host isHost, List.flatMap_map]
  rfl

include made positive underway reckoned in
/-- What is reported of a host is what is to be shown of its node. -/
theorem shows_reportHost (isHost : host ∈ hosts) :
    (reportHost after host).Shows plan host.number
      ((hosts.map (reportHost after)).map fun report => report.counters.octetsSent).sum := by
  have sent (other : Host) (isOther : other ∈ hosts) :
      (reportHost after other).counters.octetsSent = .ofNat (other.octets plan.messages) := by
    rw [counters_eq made reckoned isOther, totalAtNode_bill made isOther]
  have octets : ((hosts.map (reportHost after)).map fun report => report.counters.octetsSent) =
      hosts.map fun other => .ofNat (other.octets plan.messages) := by
    rw [List.map_map]
    exact List.map_congr_left sent
  -- The demultiplexer that is reported of is the one there was when the host had been made.
  have counters := counters_eq made reckoned isHost
  rw [totalAtNode_bill made isHost] at counters
  have found := made.hub?_eq positive isHost
  have foundAfter : after.findDemultiplexer? (after.nodes.get host.node).pipeline =
      some (base.hubOf host.node) := by
    have same := hub?_of_skeleton_eq underway.skeleton host.node
    rw [found] at same
    exact same
  obtain ⟨state, isHub⟩ := Option.isSome_iff_exists.mp (Store.mem_of_hub? found).2
  have counted := reckoned.charged.hubs _ state isHub
  have names := names_perm made positive isHost isHub
  have nothing : state.counters = {} :=
    made.pristine.stages _ state (Store.demultiplexer?_eq_some.mp isHub)
  rw [nothing, Charge.foldl_atHub, totalAtHub_bill made positive isHost] at counted
  have reported : (reportHost after host).demultiplexer? =
      after.demultiplexer? (base.hubOf host.node) := by
    unfold reportHost
    dsimp only
    rw [foundAfter, Option.bind_some]
  refine ⟨(underway.furnishes (made.furnishes host isHost)).name,
    ⟨_, reported.trans counted, ?_, ?_, rfl⟩, ?_, ?_, ?_, ?_⟩
  · exact names
  · exact state.groups.names_ordered
  · rw [counters]
  · rw [counters]
  · rw [counters, octets_eq made isHost]
  · rw [counters, octets]

include made positive underway reckoned in
theorem shows_report : (report plan hosts after).Shows plan where
  expected := rfl
  count := by
    unfold report
    rw [List.length_map, made.length_hosts]
  nodes number node found := by
    unfold report at found ⊢
    dsimp only at found ⊢
    rw [List.getElem?_map] at found
    obtain ⟨host, isHost, rfl⟩ := Option.map_eq_some_iff.mp found
    rw [← made.number_eq isHost]
    exact shows_reportHost made positive underway reckoned (List.mem_of_getElem? isHost)
  deliveries := by
    unfold report
    dsimp only
    rw [← made.numbers, List.flatMap_map, List.map_flatMap]
    refine List.flatMap_congr fun host isHost => ?_
    have ofSeats : ((List.range plan.groups).flatMap fun group =>
        (List.range plan.members).map fun member =>
          (channelName host.number group member, plan.nodes * plan.messages)) =
        plan.seats.map fun seat =>
          (channelName host.number seat.1 seat.2, plan.nodes * plan.messages) := by
      unfold Plan.seats rows row
      simp only [List.map_flatMap, List.map_map, Function.comp_def]
    rw [ofSeats, ← made.seated host isHost, List.map_map]
    refine List.map_congr_left fun channel isChannel => ?_
    have ofHost : channel.queue ∈ host.queues :=
      List.mem_cons_of_mem _ (List.mem_map_of_mem isChannel)
    rw [made.labels host isHost channel isChannel, received_eq made reckoned isHost ofHost,
      heard_channel made isHost isChannel]
    rfl
  unforked := by
    unfold report
    dsimp only
    rw [← made.numbers, List.map_map]
    refine List.map_congr_left fun host isHost => ?_
    rw [received_eq made reckoned isHost List.mem_cons_self, heard_queue made isHost]
    rfl

end Course

/-- If everything that a report is to show is shown then nothing is missing. -/
theorem Report.Shows.short_eq_zero
    {report : Report}
    {plan : Plan}
    (isShown : report.Shows plan) :
    report.short = 0 := by
  unfold Report.short
  rw [isShown.deliveries, isShown.expected, List.countP_eq_zero]
  intro delivery member
  obtain ⟨node, _, ofNode⟩ := List.mem_flatMap.mp member
  obtain ⟨group, _, ofGroup⟩ := List.mem_flatMap.mp ofNode
  obtain ⟨number, _, rfl⟩ := List.mem_map.mp ofGroup
  simp [Nat.mul_comm]

/-- A demonstration is held just if every fork can be built, and shows what it is to show. -/
theorem run_cases
    {plan : Plan}
    (positive : plan.isPositive = true)
    (inRange : plan.InRange)
    (settings : ForkSettings) :
    (plan.Feasible (plan.override settings) ∧
        ∃ report, run plan settings = .ok report ∧ report.Shows plan) ∨
      (¬ plan.Feasible (plan.override settings) ∧
        ∃ refusal, run plan settings = .error (.refused refusal)) := by
  by_cases feasible : plan.Feasible (plan.override settings)
  · left
    obtain ⟨hosts, base, gathered, made⟩ := gather_makeHost_ok feasible inRange.forks
    obtain ⟨after, goes, underway, reckoned⟩ := course_ok made positive inRange
    refine ⟨feasible, report plan hosts after, ?_,
      shows_report made positive underway reckoned⟩
    have plays : play plan (plan.override settings) {} = .ok (report plan hosts after, after) := by
      unfold play
      rw [Play.bind_of_ok gathered, Play.bind_of_ok goes]
      rfl
    unfold run StateT.run'
    rw [plays]
    rfl
  · right
    refine ⟨feasible, ?_⟩
    obtain ⟨refusal, refused⟩ := Play.isRefused_bind (gather_makeHost_refused positive feasible)
      fun hosts => do
        course plan hosts
        return report plan hosts (← get)
    refine ⟨refusal, ?_⟩
    have plays : play plan (plan.override settings) {} = .error (.refused refusal) := refused
    unfold run StateT.run'
    rw [plays]
    rfl

end Demo

namespace CommandLine

section Answers

variable {plan : Demo.Plan} {settings : ForkSettings}
  (positive : plan.isPositive = true) (inRange : plan.InRange)

include positive inRange

theorem demonstrate_of_ok
    {report : Demo.Report}
    (ran : Demo.run plan settings = .ok report) :
    demonstrate plan settings = .ofReport report := by
  unfold demonstrate
  rw [positive, inRange.nodes, ran]
  rfl

theorem demonstrate_of_error
    {failure : Demo.Failure}
    (ran : Demo.run plan settings = .error failure) :
    demonstrate plan settings = .ofFailure failure := by
  unfold demonstrate
  rw [positive, inRange.nodes, ran]
  rfl

end Answers

/-- For every number of nodes, groups, members and messages and under all settings a demonstration
ends well just if a demultiplexer may be created, beside a layer that there is or none, and no
group that is there is to be joined though it must be fresh. It then reports for every node the
groups in order and the counters, and for every queue how many messages have reached it. What it
prints is read back as a document under whose keys all of this stands. -/
theorem demonstrate_shows
    {plan : Demo.Plan}
    (positive : plan.isPositive = true)
    (inRange : plan.InRange)
    (settings : ForkSettings) :
    ((demonstrate plan settings).code = 0 ↔
      (plan.override settings).createIfAbsent = true ∧
      (∀ neighbor, (plan.override settings).placement.neighbor? = some neighbor →
        neighbor ∈ Demo.layers) ∧
      ((plan.override settings).requireFreshGroup = false ∨ plan.members = 1)) ∧
    ((demonstrate plan settings).code = 0 →
      ∃ report, Demo.run plan settings = .ok report ∧
        demonstrate plan settings = .say (report.toJson.indented ++ "\n") ∧
        report.Shows plan ∧
        Json.ofString? (demonstrate plan settings).output = some report.toJson ∧
        report.toJson.Shows plan) := by
  have alone : ((plan.override settings).requireFreshGroup = true → plan.members = 1) ↔
      ((plan.override settings).requireFreshGroup = false ∨ plan.members = 1) := by
    cases (plan.override settings).requireFreshGroup <;> simp
  rw [← alone]
  rcases Demo.run_cases positive inRange settings with ⟨feasible, report, ran, shows⟩ |
    ⟨infeasible, refusal, ran⟩
  · have answers : demonstrate plan settings = .say (report.toJson.indented ++ "\n") := by
      rw [demonstrate_of_ok positive inRange ran]
      unfold Response.ofReport
      exact if_pos shows.short_eq_zero
    have ends : (demonstrate plan settings).code = 0 := by
      rw [answers]
      rfl
    have readBack : Json.ofString? (demonstrate plan settings).output = some report.toJson := by
      rw [answers]
      exact report.ofString?_toJson
    exact ⟨iff_of_true ends ⟨feasible.creates, feasible.placed, feasible.alone⟩,
      fun _ => ⟨report, ran, answers, shows, readBack, shows.toJson positive inRange⟩⟩
  · have fails : (demonstrate plan settings).code ≠ 0 := by
      rw [demonstrate_of_error positive inRange ran]
      exact Nat.one_ne_zero
    refine ⟨iff_of_false fails fun conditions => ?_, fun ends => absurd ends fails⟩
    exact infeasible ⟨conditions.1, conditions.2.1, conditions.2.2⟩

/-- Three nodes with a single member in each of two groups. -/
def soloists : Demo.Plan := { nodes := 3, groups := 2, members := 1, messages := 5 }

/-- Where members are alone in their groups no group may have been there; a neighbor has to be. -/
theorem demonstrate_shows_soloists :
    (soloists.isPositive = true ∧ soloists.InRange) ∧
    (∃ report, Demo.run soloists { requireFreshGroup := true, placement := .above "membership" } =
        .ok report ∧
      demonstrate soloists { requireFreshGroup := true, placement := .above "membership" } =
        .say (report.toJson.indented ++ "\n") ∧
      report.Shows soloists ∧
      Json.ofString? (demonstrate soloists
        { requireFreshGroup := true, placement := .above "membership" }).output =
          some report.toJson ∧
      report.toJson.Shows soloists) ∧
    (demonstrate soloists { placement := .below "security" }).code ≠ 0 := by
  have positive : soloists.isPositive = true := by decide
  have inRange : soloists.InRange :=
    ⟨by decide, by decide, by decide, by decide, by decide, by decide⟩
  refine ⟨⟨positive, inRange⟩, ?_, ?_⟩
  · have outcome := demonstrate_shows positive inRange
      { requireFreshGroup := true, placement := .above "membership" }
    refine outcome.2 (outcome.1.mpr ⟨rfl, ?_, Or.inr rfl⟩)
    intro neighbor beside
    cases beside
    decide
  · have outcome := demonstrate_shows positive inRange { placement := .below "security" }
    intro ended
    have isLayer := (outcome.1.mp ended).2.1 "security" rfl
    exact absurd isLayer (by decide)

end CommandLine

end ChannelMux
