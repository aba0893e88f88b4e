import ChannelMux.Proofs.Delivery.KeepingUp
import ChannelMux.Proofs.Network.Mirroring

/-!
Contract: statuses of forks and listeners when operations are called from within others.

Owns the actions that run in time, in which nobody under watch is told of a status that the node
has left by then, whatever agents do while they are told of things. Owns that forks which are
always told in time have the status of their node after every action, and that listeners which
are told in time know it from the last time that they were told.

Being told in time is no matter of course: if a listener that comes first disconnects the node as
soon as it is connected, all who come after it are told that it is open, and then that it is
connected.
-/

namespace ChannelMux

namespace Store

variable {start store after : Store} {watch : Watch} {action : Action}

/-! ### Actions in time -/

/-- Whether an action finishes without that the listener under watch is told too late. -/
def inTime (store : Store) (watch : Watch) : Action → Bool
  | .travel journey => ((Entrances.timely watch depthLimit).travel journey store).isSome
  | .receive node traffic =>
      (Delivery.receive (Entrances.timely watch depthLimit) node traffic store).isSome
  | .call operation => ((Entrances.timely watch depthLimit).call operation store).isSome
  | _ => true

/-- The stores that are reached from a store by actions in time, as long as they have a
property. -/
inductive ReachedInTime (watch : Watch) (throughout : Store → Prop) (start : Store) :
    Store → Prop where
  | start : ReachedInTime watch throughout start start
  | step {store after : Store} {action : Action}
      (reached : ReachedInTime watch throughout start store)
      (inTime : store.inTime watch action = true)
      (acted : store.act? action = some after)
      (holds : throughout after) :
      ReachedInTime watch throughout start after

theorem ReachedInTime.wired
    {throughout : Store → Prop}
    (wired : start.Wired)
    (reached : ReachedInTime watch throughout start store) :
    store.Wired := by
  induction reached with
  | start => exact wired
  | step _ _ acted _ inductionHypothesis => exact wired_act inductionHypothesis acted

/-- What runs in time does not change the skeleton, and the listener keeps up. -/
theorem keepsUp_act_of_runs
    (follows : store.Follows watch)
    (runs : action.runs = true)
    (inTime : store.inTime watch action = true)
    (acted : store.act? action = some after) :
    store.KeepsUp watch after := by
  have covers := KeepingUp.covers_timely watch depthLimit
  cases action with
  | travel journey =>
      obtain ⟨⟨outcome, left⟩, finished⟩ := Option.isSome_iff_exists.mp inTime
      obtain ⟨_, ran, rfl⟩ := Option.map_eq_some_iff.mp acted
      rw [travel_eq_of_timely watch finished] at ran
      cases ran
      exact (covers.travel journey store outcome left follows finished).2
  | receive node traffic =>
      obtain ⟨⟨outcome, left⟩, finished⟩ := Option.isSome_iff_exists.mp inTime
      obtain ⟨_, ran, rfl⟩ := Option.map_eq_some_iff.mp acted
      rw [receive_eq_of_timely watch finished] at ran
      cases ran
      exact ((KeepingUp.conveys covers).receive (Or.inl trivial) node store outcome left follows
        finished).2
  | call operation =>
      obtain ⟨⟨reply, left⟩, finished⟩ := Option.isSome_iff_exists.mp inTime
      obtain ⟨_, called⟩ := given_eq_some.mp acted
      obtain ⟨_, ran, rfl⟩ := Option.map_eq_some_iff.mp called
      rw [call_eq_of_timely watch finished] at ran
      cases ran
      exact (covers.call operation store reply left follows finished).2
  | _ => cases runs

theorem Follows.issued (follows : store.Follows watch) : store.nodes.Issued watch.node := by
  by_contra notIssued
  obtain ⟨token, listed⟩ := follows.listens
  rw [Table.get_of_not_issued notIssued] at listed
  cases listed

/-- What does not run tells nobody of a status. A fork that is built has the status of its node
to begin with. -/
theorem keepsUp_act_of_still
    (wired : store.Wired)
    (follows : store.Follows watch)
    (followsThen : after.Follows watch)
    (still : action.runs = false)
    (acted : store.act? action = some after) :
    store.KeepsUp watch after := by
  have unmoved := unmoved_act wired still acted
  have status := unmoved.status_eq follows.issued
  cases isListener : watch.listener with
  | agent agent =>
      refine Or.inr ⟨?_, status⟩
      have issued := follows.issued_agent isListener
      have same : after.agents.get agent = store.agents.get agent :=
        (keeps_agents_act wired still acted agent issued).2
      rw [isListener]
      unfold lastTold?
      dsimp only
      rw [same]
  | fork fork =>
      unfold KeepsUp UpToDate
      rw [isListener]
      rcases unmoved.forks fork (followsThen.lasts fork isListener) with old | mirrors
      · exact Or.inr ⟨congrArg some old.2.2, status⟩
      · left
        obtain ⟨token, listed⟩ := followsThen.listens
        rw [isListener] at listed
        have wiredThen := wired_act wired acted
        have node := ((wiredThen.nodes _ followsThen.issued).listeners token fork listed).2.1
        rw [node] at mirrors
        exact congrArg some mirrors

theorem keepsUp_act
    (wired : store.Wired)
    (follows : store.Follows watch)
    (followsThen : after.Follows watch)
    (inTime : store.inTime watch action = true)
    (acted : store.act? action = some after) :
    store.KeepsUp watch after := by
  cases runs : action.runs with
  | true => exact keepsUp_act_of_runs follows runs inTime acted
  | false => exact keepsUp_act_of_still wired follows followsThen runs acted

/-! ### Forks -/

/-- A fork that lasts listens to its node and to no other one. -/
theorem follows_fork (wired : store.Wired) {fork : Ref .fork}
    (alive : store.isForkAlive fork = true) :
    store.Follows { node := (store.forks.get fork).node, listener := .fork fork } where
  listens := ⟨_, (wired.bound fork alive).listens⟩
  only node token listed := by
    have issued : store.nodes.Issued node := by
      by_contra notIssued
      rw [Table.get_of_not_issued notIssued] at listed
      cases listed
    exact ((wired.nodes node issued).listeners token fork listed).2.1.symm
  lasts _ isFork := by
    cases isFork
    exact alive
  minutes _ isAgent := by cases isAgent

theorem skeleton_eq_of_runs
    (wired : store.Wired)
    (runs : action.runs = true)
    (acted : store.act? action = some after) :
    after.skeleton = store.skeleton := by
  cases step_of_act wired acted with
  | refused still =>
      rw [still] at runs
  | travel finished => exact skeleton_eq_of_travel finished
  | receive finished => exact skeleton_eq_of_receive finished
  | call _ finished => exact skeleton_eq_of_call finished
  | _ => cases runs

/-- A fork that is always told in time has the status of its node, as long as it lasts. -/
theorem upToDate_of_reachedInTime
    {node : Ref .node}
    {fork : Ref .fork}
    (reached : ReachedInTime { node := node, listener := .fork fork } (fun _ => True) {} store)
    (alive : store.isForkAlive fork = true)
    (isNode : (store.forks.get fork).node = node) :
    store.UpToDate { node := node, listener := .fork fork } := by
  induction reached with
  | start => exact absurd (Table.issued_of_isNamed alive) (Nat.not_lt_zero _)
  | @step store after action reached inTime acted _ inductionHypothesis =>
      have wired := reached.wired wired_empty
      have followsThen := follows_fork (wired_act wired acted) alive
      rw [isNode] at followsThen
      by_cases wasAlive : store.isForkAlive fork = true
      · have kept := (descends_act wired acted).forks fork (Table.issued_of_isNamed wasAlive)
        have wasOver : (store.forks.get fork).node = node := kept.2.symm.trans isNode
        have follows := follows_fork wired wasAlive
        rw [wasOver] at follows
        exact (inductionHypothesis wasAlive wasOver).of_keepsUp
          (keepsUp_act wired follows followsThen inTime acted)
      · cases runs : action.runs with
        | true =>
            rw [isForkAlive_eq (skeleton_eq_of_runs wired runs acted)] at alive
            exact absurd alive wasAlive
        | false =>
            rcases (unmoved_act wired runs acted).forks fork alive with old | mirrors
            · exact absurd old.1 wasAlive
            · rw [isNode] at mirrors
              exact congrArg some mirrors

/-! ### Listeners -/

/-- A listener that is told in time for as long as it listens keeps up with its node. -/
theorem keepsUp_of_reachedInTime
    (wired : start.Wired)
    (follows : start.Follows watch)
    (reached : ReachedInTime watch (fun store => store.Follows watch) start store) :
    store.Follows watch ∧ start.KeepsUp watch store := by
  induction reached with
  | start => exact ⟨follows, .refl start watch⟩
  | step reached inTime acted followsThen inductionHypothesis =>
      have keepsUp := keepsUp_act (reached.wired wired) inductionHypothesis.1 followsThen inTime acted
      exact ⟨followsThen, inductionHypothesis.2.trans keepsUp⟩

/-- Whatever agents do when they are told of things: a fork that lasts and is always told in time
has the status of its node after every action, and a listener that is told in time for as long as
it listens was last told of the status that the node is in, unless it was told of none and the
node is in the status in which it was at first. -/
theorem listeners_keepUp :
    (∀ fork, ReachedInTime { node := (store.forks.get fork).node, listener := .fork fork }
        (fun _ => True) {} store →
      store.isForkAlive fork = true →
        (store.forks.get fork).status = (store.nodeOf fork).status) ∧
    ∀ start watch, Reachable (fun _ => True) start → start.Follows watch →
      ReachedInTime watch (fun store => store.Follows watch) start store →
        start.KeepsUp watch store := by
  refine ⟨fun fork reached alive => ?_, fun start watch reachable follows reached => ?_⟩
  · exact Option.some.inj (upToDate_of_reachedInTime reached alive rfl)
  · exact (keepsUp_of_reachedInTime (wired_of_reachable reachable) follows reached).2

/-- A store that is reached by several actions, if all of them are in time. -/
def runInTime? (store : Store) (watch : Watch) : List Action → Option Store
  | [] => some store
  | action :: rest =>
      if store.inTime watch action then
        (store.act? action).bind fun after => after.runInTime? watch rest
      else none

theorem reachedInTime_of_runInTime?
    {actions : List Action}
    (reached : ReachedInTime watch (fun _ => True) start store)
    (ran : store.runInTime? watch actions = some after) :
    ReachedInTime watch (fun _ => True) start after := by
  induction actions generalizing store with
  | nil =>
      cases ran
      exact reached
  | cons action rest inductionHypothesis =>
      unfold runInTime? at ran
      split at ran
      · rename_i inTime
        obtain ⟨between, acted, onward⟩ := Option.bind_eq_some_iff.mp ran
        exact inductionHypothesis (reached.step inTime acted trivial) onward
      · cases ran

theorem run?_of_runInTime?
    {actions : List Action}
    (ran : store.runInTime? watch actions = some after) :
    store.run? actions = some after := by
  induction actions generalizing store with
  | nil => exact ran
  | cons action rest inductionHypothesis =>
      unfold runInTime? at ran
      split at ran
      · obtain ⟨between, acted, onward⟩ := Option.bind_eq_some_iff.mp ran
        exact Option.bind_eq_some_iff.mpr ⟨between, acted, inductionHypothesis onward⟩
      · cases ran

theorem reachedInTime_made
    {actions : List Action}
    (inTime : (runInTime? {} watch actions).isSome = true) :
    ReachedInTime watch (fun _ => True) {} ((run? {} actions).getD {}) := by
  obtain ⟨made, ran⟩ := Option.isSome_iff_exists.mp inTime
  rw [run?_of_runInTime? ran]
  exact reachedInTime_of_runInTime? .start ran

/-! ### A listener that disconnects its node as soon as it is connected -/

/-- A fork over a node and two listeners of it, one of which disconnects the node when it is
connected: that one comes last or first. -/
def jilting (last : Bool) : List Action :=
  let reaction : Reaction := { trigger := "connected", command := .disconnect "a" }
  let plan : ForkPlan :=
    { node? := some ⟨0⟩, group? := some "g", member? := some "m", receiver? := some ⟨0⟩ }
  let listens : List Action := [.listen ⟨0⟩ ⟨1⟩]
  [.addAgent .queue, .addAgent (.listening (some reaction)), .addAgent (.listening none),
    .addNode "a" "a" (.filled 1) "net" []] ++ (if last then [] else listens) ++
    [.buildFork plan "f", .listen ⟨0⟩ ⟨2⟩] ++ (if last then listens else [])

/-- The store before the node is connected. -/
def jilted (last : Bool) : Store := (run? {} (jilting last)).getD {}

theorem reachable_jilted (last : Bool) : Reachable (fun _ => True) (jilted last) :=
  reachable_made fun _ _ => trivial

theorem reachedInTime_jilted :
    ReachedInTime { node := ⟨0⟩, listener := .fork ⟨0⟩ } (fun _ => True) {} (jilted true) :=
  reachedInTime_made (by decide +kernel)

theorem follows_jilted :
    (jilted true).Follows { node := ⟨0⟩, listener := .agent ⟨2⟩ } where
  listens := ⟨2, by decide +kernel⟩
  only node token listed := by
    have issued : (jilted true).nodes.Issued node := by
      by_contra notIssued
      rw [Table.get_of_not_issued notIssued] at listed
      cases listed
    have size : (jilted true).nodes.slots.size = 1 := by decide +kernel
    unfold Table.Issued at issued
    rw [size] at issued
    exact congrArg Ref.mk (Nat.lt_one_iff.mp issued)
  lasts _ isFork := by cases isFork
  minutes agent isAgent := by
    cases isAgent
    have manner : ((jilted true).agents.get ⟨2⟩).manner = .listening none := by
      with_unfolding_all rfl
    rw [manner]
    exact Manner.oneByOne_keepsMinutes _ none

/-- If the listener comes last then everyone was told that the node is connected, and then that it
is open, which it is. -/
theorem listeners_keepUp_jilted :
    ∃ after, (jilted true).act? (.call (.connect ⟨0⟩ "k")) = some after ∧
      (after.nodes.get ⟨0⟩).status = .opened ∧
      (after.forks.get ⟨0⟩).status = (after.nodeOf ⟨0⟩).status ∧
      (jilted true).KeepsUp { node := ⟨0⟩, listener := .agent ⟨2⟩ } after ∧
      after.lastTold? (.agent ⟨2⟩) = some .opened := by
  obtain ⟨after, acted⟩ := Option.isSome_iff_exists.mp
    (by decide +kernel : ((jilted true).act? (.call (.connect ⟨0⟩ "k"))).isSome = true)
  have isAfter : after = ((jilted true).act? (.call (.connect ⟨0⟩ "k"))).getD {} := by
    rw [acted]
    rfl
  have node : (after.forks.get ⟨0⟩).node = ⟨0⟩ := by
    rw [isAfter]
    decide +kernel
  have alive : after.isForkAlive ⟨0⟩ = true := by
    rw [isAfter]
    decide +kernel
  have reached : ReachedInTime { node := (after.forks.get ⟨0⟩).node, listener := .fork ⟨0⟩ }
      (fun _ => True) {} after := by
    rw [node]
    exact reachedInTime_jilted.step (by decide +kernel) acted trivial
  have wired := wired_of_reachable (reachable_jilted true)
  have followsThen := follows_jilted.of_skeleton_eq (skeleton_eq_of_runs wired rfl acted)
  have keeps := (@listeners_keepUp after).2 _ _ (reachable_jilted true) follows_jilted
    (.step .start (by decide +kernel) acted followsThen)
  refine ⟨after, acted, ?_, (@listeners_keepUp after).1 ⟨0⟩ reached alive, keeps, ?_⟩ <;>
  · rw [isAfter]
    decide +kernel

/-- If it comes first then the fork and the other listener are told last that the node is
connected, and it is not. -/
theorem listeners_fall_behind :
    ∃ after, Reachable (fun _ => True) (jilted false) ∧
      (jilted false).act? (.call (.connect ⟨0⟩ "k")) = some after ∧
      after.isForkAlive ⟨0⟩ = true ∧
      (after.nodeOf ⟨0⟩).status = .opened ∧
      (after.forks.get ⟨0⟩).status = .connected ∧
      after.lastTold? (.agent ⟨2⟩) = some .connected := by
  obtain ⟨after, acted⟩ := Option.isSome_iff_exists.mp
    (by decide +kernel : ((jilted false).act? (.call (.connect ⟨0⟩ "k"))).isSome = true)
  have isAfter : after = ((jilted false).act? (.call (.connect ⟨0⟩ "k"))).getD {} := by
    rw [acted]
    rfl
  refine ⟨after, reachable_jilted false, acted, ?_, ?_, ?_, ?_⟩ <;>
  · rw [isAfter]
    decide +kernel

end Store

end ChannelMux
