import ChannelMux.Proofs.Delivery.Timely

/-!
Contract: listeners that are told in time keep up with their node.

Owns what a listener was told last of the status of its node, and the rule that along a run which
tells it of nothing too late either it is told of the status that the node is in at the end, or
it is told of none and the node stays in its status. Owns that everything that runs keeps this
rule, whatever is called from within.

While a node has entered a status of which its listeners have not been told yet, the rule does
not hold. It holds again after the telling, whatever has happened before.
-/

namespace ChannelMux

namespace AgentEntry

/-- The status that the entry says a node entered. -/
def entered? : AgentEntry → Option Status
  | .status entered _ => some entered
  | _ => none

end AgentEntry

/-- Nothing that a script records is about a status. -/
def Script.SilentOnStatus (script : Script AgentEntry Command (Option Reply)) : Prop :=
  script.Admits (fun entry => entry.entered? = none) Eq fun _ => True

/-- Someone with this manner records every status that it is told as soon as it is told of it,
and nothing else about statuses. It may give any command. -/
structure Manner.KeepsMinutes (manner : Manner) : Prop where
  statuses : ∀ entered now, ∃ next, manner (.status entered now) =
    .record (.status entered now) next ∧ next.SilentOnStatus
  up : ∀ traffic, (manner (.up traffic)).SilentOnStatus
  down : ∀ event, (manner (.down event)).SilentOnStatus

namespace Manner

theorem silentOnStatus_forEach
    {Item : Type}
    {script : Item → Script AgentEntry Command (Option Reply)}
    (silent : ∀ item, (script item).SilentOnStatus)
    (items : List Item) :
    (Script.forEach script items).SilentOnStatus := by
  induction items with
  | nil => trivial
  | cons item rest inductionHypothesis => exact (silent item).andThen inductionHypothesis

theorem silentOnStatus_after (reaction? : Option Reaction) (entry : AgentEntry) :
    (Reaction.after reaction? entry).SilentOnStatus := by
  cases reaction? with
  | none => trivial
  | some reaction =>
      unfold Reaction.after
      dsimp only
      split
      · refine ⟨fun left right same => by rw [same], fun entries => ?_⟩
        dsimp only
        split
        · refine ⟨trivial, fun answer => ?_⟩
          cases answer with
          | none => trivial
          | some reply =>
              dsimp only
              split
              · exact ⟨rfl, trivial⟩
              · trivial
        · trivial
      · trivial

/-- Whatever it refuses and however it reacts. -/
theorem oneByOne_keepsMinutes (refuses : Event → Option Refusal) (reaction? : Option Reaction) :
    (Manner.oneByOne refuses reaction?).KeepsMinutes := by
  have takes (event : Event) : (Manner.oneByOne.take refuses reaction? event).SilentOnStatus := by
    unfold Manner.oneByOne.take
    split
    · trivial
    · exact ⟨rfl, silentOnStatus_after reaction? _⟩
  refine ⟨fun entered now => ⟨_, rfl, silentOnStatus_after reaction? _⟩, fun traffic => ?_, takes⟩
  cases traffic with
  | single event => exact takes event
  | batch whole => exact silentOnStatus_forEach (fun message => takes (.message message)) _

end Manner

namespace Store

/-- The status that a listener was told of last: the status of a fork, or what the record of an
agent says. -/
def lastTold? (store : Store) : Listener → Option Status
  | .fork fork => some (store.forks.get fork).status
  | .agent agent => (store.agents.get agent).entries.findSome? AgentEntry.entered?

/-- The listener under watch was told of the status that the node is in. -/
def UpToDate (store : Store) (watch : Watch) : Prop :=
  store.lastTold? watch.listener = some (store.nodes.get watch.node).status

/-- Of what happens between two stores the listener under watch was told of the status that the
node is in at the end, or it was told of nothing and the node has the status that it had. -/
def KeepsUp (before : Store) (watch : Watch) (after : Store) : Prop :=
  after.UpToDate watch ∨
    (after.lastTold? watch.listener = before.lastTold? watch.listener ∧
      (after.nodes.get watch.node).status = (before.nodes.get watch.node).status)

/-- The listener under watch listens to the node and to no other one; it is a fork that lasts, or
an agent that keeps minutes of what it is told. -/
structure Follows (store : Store) (watch : Watch) : Prop where
  listens : ∃ token, (token, watch.listener) ∈ (store.nodes.get watch.node).listeners
  only : ∀ node token, (token, watch.listener) ∈ (store.nodes.get node).listeners →
    node = watch.node
  lasts : ∀ fork, watch.listener = .fork fork → store.isForkAlive fork = true
  minutes : ∀ agent, watch.listener = .agent agent →
    (store.agents.get agent).manner.KeepsMinutes

section Following

variable {before between after : Store} {watch : Watch}

theorem Follows.of_skeleton_eq (follows : before.Follows watch)
    (same : after.skeleton = before.skeleton) :
    after.Follows watch where
  listens := by
    rw [listeners_eq same]
    exact follows.listens
  only node token listed := by
    rw [listeners_eq same] at listed
    exact follows.only node token listed
  lasts fork isFork := by
    rw [isForkAlive_eq same]
    exact follows.lasts fork isFork
  minutes agent isAgent := by
    rw [manner_eq same]
    exact follows.minutes agent isAgent

/-- Who keeps minutes is somebody. -/
theorem Follows.issued_agent (follows : before.Follows watch) {agent : Ref .agent}
    (isListener : watch.listener = .agent agent) :
    before.agents.Issued agent := by
  obtain ⟨next, starts, _⟩ := (follows.minutes agent isListener).statuses .opened .opened
  by_contra notIssued
  rw [Table.get_of_not_issued notIssued] at starts
  cases starts

theorem UpToDate.of_keepsUp (upToDate : before.UpToDate watch)
    (keepsUp : before.KeepsUp watch after) :
    after.UpToDate watch := by
  rcases keepsUp with fresh | ⟨sameTold, sameStatus⟩
  · exact fresh
  · unfold UpToDate
    rw [sameTold, sameStatus]
    exact upToDate

theorem KeepsUp.refl (store : Store) (watch : Watch) : store.KeepsUp watch store :=
  Or.inr ⟨rfl, rfl⟩

theorem KeepsUp.trans (first : before.KeepsUp watch between)
    (second : between.KeepsUp watch after) :
    before.KeepsUp watch after := by
  rcases first with fresh | ⟨sameTold, sameStatus⟩
  · exact Or.inl (fresh.of_keepsUp second)
  · rcases second with fresh | ⟨sameToldThen, sameStatusThen⟩
    · exact Or.inl fresh
    · exact Or.inr ⟨sameToldThen.trans sameTold, sameStatusThen.trans sameStatus⟩

end Following

end Store

/-- The listener under watch keeps up with the node. -/
def keepingUp (watch : Watch) : Rule where
  holds store := store.Follows watch
  relates before after := after.skeleton = before.skeleton ∧ before.KeepsUp watch after
  refl store := ⟨rfl, .refl store watch⟩
  trans first second := ⟨second.1.trans first.1, first.2.trans second.2⟩
  keeps follows related := follows.of_skeleton_eq related.1

namespace KeepingUp

variable {α β : Type} {watch : Watch} {inner : Entrances}

/-! ### Single changes -/

/-- What leaves the status of the node as it is, and what the listener was told. -/
theorem governs_modify
    {change : Store → Store}
    (skeleton : ∀ store, (change store).skeleton = store.skeleton)
    (told : ∀ store, (change store).lastTold? watch.listener = store.lastTold? watch.listener)
    (status : ∀ store, ((change store).nodes.get watch.node).status =
      (store.nodes.get watch.node).status) :
    (keepingUp watch).Governs (modify change) :=
  Rule.modify fun store _ => ⟨skeleton store, Or.inr ⟨told store, status store⟩⟩

theorem governs_recordStage (stage : Ref .stage) (entry : StageEntry) :
    (keepingUp watch).Governs (Run.recordStage stage entry) :=
  governs_modify
    (fun store => Store.skeleton_eq_of_shape_eq (Store.shape_recordStage store stage entry))
    (fun _ => rfl) fun _ => rfl

theorem governs_count (stage : Ref .stage)
    (change : DemultiplexerCounters → DemultiplexerCounters) :
    (keepingUp watch).Governs (Run.count stage change) :=
  governs_modify
    (fun store => Store.skeleton_eq_of_shape_eq (Store.shape_count store stage change))
    (fun _ => rfl) fun _ => rfl

theorem governs_putCluster (network name : String) (cluster : Cluster) :
    (keepingUp watch).Governs (modify fun store => store.putCluster network name cluster) :=
  governs_modify (fun _ => rfl) (fun _ => rfl) fun _ => rfl

/-- A node has another record, but for its status. -/
theorem governs_modifyNode
    {change : Node → Node}
    (unseen : ∀ record, Node.still (change record) = record.still)
    (sameStatus : ∀ record, (change record).status = record.status)
    (node : Ref .node) :
    (keepingUp watch).Governs (modify fun store => store.modifyNode node change) :=
  governs_modify (fun store => Store.skeleton_modifyNode unseen store node) (fun _ => rfl)
    fun _ => Table.read_modify Node.status sameStatus _ _ _

/-- Another node has another record. -/
theorem governs_modifyNode_of_ne
    {change : Node → Node}
    (unseen : ∀ record, Node.still (change record) = record.still)
    {node : Ref .node}
    (different : node ≠ watch.node) :
    (keepingUp watch).Governs (modify fun store => store.modifyNode node change) := by
  refine governs_modify (fun store => Store.skeleton_modifyNode unseen store node) (fun _ => rfl)
    fun store => ?_
  have same : (store.modifyNode node change).nodes.get watch.node = store.nodes.get watch.node :=
    Table.get_modify_of_ne (fun same => different same.symm) _ _
  rw [same]

theorem governs_modifyFork
    {change : Fork → Fork}
    (unseen : ∀ record, Fork.still (change record) = record.still)
    {fork : Ref .fork}
    (different : Listener.fork fork ≠ watch.listener) :
    (keepingUp watch).Governs (modify fun store => store.modifyFork fork change) := by
  refine governs_modify (fun store => Store.skeleton_modifyFork unseen store fork)
    (fun store => ?_) fun _ => rfl
  cases isListener : watch.listener with
  | agent agent => rfl
  | fork listening =>
      rw [isListener] at different
      have other : listening ≠ fork := fun same => different (congrArg Listener.fork same.symm)
      exact congrArg (fun record : Fork => some record.status)
        (Table.get_modify_of_ne other store.forks change)

/-- Somebody else records something, or the listener something that is not about statuses. -/
theorem governs_recordAgent
    {agent : Ref .agent}
    {entry : AgentEntry}
    (silent : Listener.agent agent ≠ watch.listener ∨ entry.entered? = none) :
    (keepingUp watch).Governs (Run.recordAgent agent entry) := by
  refine governs_modify
    (fun store => Skeleton.governs_recordAgent agent entry store () _ trivial rfl)
    (fun store => ?_) fun _ => rfl
  cases isListener : watch.listener with
  | fork fork => rfl
  | agent listening =>
      change ((store.agents.modify agent _).get listening).entries.findSome? _ = _
      rcases Table.get_modify_cases store.agents agent
        (fun record => { record with entries := entry :: record.entries }) listening
        with same | ⟨isAgent, recorded⟩
      · rw [same]
        rfl
      · rw [isListener, isAgent] at silent
        rw [recorded, List.findSome?_cons]
        rcases silent with other | nothing
        · exact absurd rfl other
        · rw [nothing]
          rfl

/-! ### What agents do -/

section Entered

variable (covers : (keepingUp watch).discipline.Covers inner inner)

include covers

theorem governs_perform
    {agent : Ref .agent}
    {script : Script AgentEntry Command (Option Reply)}
    (silent : Listener.agent agent ≠ watch.listener ∨ script.SilentOnStatus) :
    (keepingUp watch).Governs (script.perform (Run.recordAgent agent)
      (Run.look fun store => (store.agents.get agent).entries) (Delivery.obey inner)) := by
  have admits : script.Admits
      (fun entry => (keepingUp watch).Governs (Run.recordAgent agent entry)) Eq
      fun _ => True := by
    rcases silent with other | quietly
    · exact (Script.asks_of_all (fun _ => trivial) script).admits fun _ =>
        governs_recordAgent (Or.inl other)
    · exact quietly.mono (fun _ nothing => governs_recordAgent (Or.inr nothing))
        (fun _ _ same => same) fun _ allowed => allowed
  have obeys (command : Command) :
      (keepingUp watch).discipline.judges (Delivery.obey inner command)
        (Delivery.obey inner command) :=
    (keepingUp watch).discipline.obey (fun _ agrees => .of_eq agrees)
      (fun _ operation _ _ => covers.call operation) command
  exact (keepingUp watch).discipline.perform admits (fun _ agrees => by cases agrees; rfl)
    fun command _ => obeys command

/-- Somebody else is told something. -/
theorem governs_tell_of_ne
    {agent : Ref .agent}
    (different : Listener.agent agent ≠ watch.listener)
    (notice : Notice) :
    (keepingUp watch).Governs (Delivery.tell inner agent notice) :=
  Rule.look fun _ _ => governs_perform covers (Or.inl different)

/-- Somebody is told something that is not about a status. -/
theorem governs_tell
    {notice : Notice}
    (silent : ∀ manner : Manner, manner.KeepsMinutes → (manner notice).SilentOnStatus)
    (agent : Ref .agent) :
    (keepingUp watch).Governs (Delivery.tell inner agent notice) := by
  refine Rule.look fun store follows => governs_perform covers ?_
  by_cases isListener : watch.listener = .agent agent
  · exact Or.inr (silent _ (follows.minutes agent isListener))
  · exact Or.inl fun same => isListener same.symm

theorem governs_hand (receiver? : Option (Ref .agent)) (traffic : Traffic) :
    (keepingUp watch).Governs (Delivery.hand inner receiver? traffic) := by
  cases receiver? with
  | none => exact Rule.pure _
  | some agent => exact governs_tell covers (fun _ minutes => minutes.up traffic) agent

theorem governs_handFork (fork : Ref .fork) (traffic : Traffic) :
    (keepingUp watch).Governs (Delivery.handFork inner fork traffic) :=
  Rule.look fun _ _ => governs_hand covers _ traffic

theorem conveys : (keepingUp watch).discipline.Conveys inner inner True where
  same agrees := agrees
  conducts _ _ := Or.inl trivial
  records := governs_recordStage
  counts := governs_count
  carries node change unseen :=
    governs_modifyNode
      (fun record => by have same := congrArg Node.still (unseen record); exact same)
      (fun record => by have same := congrArg Node.status (unseen record); exact same) node
  hands _ _ _ _ := governs_handFork covers _ _
  leavesTop _ _ _ := Rule.look fun _ _ => governs_hand covers _ _
  leavesBottom _ _ _ := governs_tell covers (fun _ minutes => minutes.down _) _
  leads journey _ := covers.travel journey

/-! ### What is told of statuses -/

/-- An agent that keeps minutes and is told of the status that the node is in. -/
theorem upToDate_of_tell
    {before after : Store}
    {agent : Ref .agent}
    {entered : Status}
    {outcome : Outcome}
    (follows : before.Follows watch)
    (isListener : watch.listener = .agent agent)
    (current : (before.nodes.get watch.node).status = entered)
    (now : Status)
    (finished : Delivery.tell inner agent (.status entered now) before = some (outcome, after)) :
    after.skeleton = before.skeleton ∧ after.UpToDate watch := by
  obtain ⟨next, starts, quietly⟩ := (follows.minutes agent isListener).statuses entered now
  have issued := follows.issued_agent isListener
  unfold Delivery.tell at finished
  rw [Rule.look_apply, starts] at finished
  obtain ⟨_, recorded, records, onward⟩ := Rule.bind_eq_some finished
  cases records
  have skeleton := Skeleton.governs_recordAgent agent (.status entered now) before () _ trivial rfl
  have told : Store.UpToDate (before.modifyAgent agent fun record =>
      { record with entries := .status entered now :: record.entries }) watch := by
    unfold Store.UpToDate
    rw [isListener]
    change ((before.agents.modify agent _).get agent).entries.findSome? _ = some _
    rw [Table.get_modify_self issued, ← current]
    rfl
  obtain ⟨same, keepsUp⟩ := governs_perform covers (Or.inr quietly) _ outcome after
    (follows.of_skeleton_eq skeleton) onward
  exact ⟨same.trans skeleton, told.of_keepsUp keepsUp⟩

/-- The listener under watch is told of the status that the node is in. -/
theorem upToDate_of_tellListener
    {before after : Store}
    {entered : Status}
    (follows : before.Follows watch)
    (current : (before.nodes.get watch.node).status = entered)
    (finished : Delivery.tellListener inner watch.node entered watch.listener before =
      some ((), after)) :
    after.skeleton = before.skeleton ∧ after.UpToDate watch := by
  cases isListener : watch.listener with
  | agent agent =>
      rw [isListener] at finished
      change (Delivery.tell inner agent _).ignore before = _ at finished
      obtain ⟨outcome, left, told, same⟩ := Rule.bind_eq_some finished
      cases same
      exact upToDate_of_tell covers follows isListener current _ told
  | fork fork =>
      have alive := follows.lasts fork isListener
      rw [isListener] at finished
      change (if before.isForkAlive fork = true then _ else _ : Run Unit) before = _ at finished
      rw [if_pos alive] at finished
      obtain ⟨_, adopted, adopts, onward⟩ := Rule.bind_eq_some finished
      cases adopts
      have skeleton : (before.modifyFork fork fun record =>
          { record with status := entered }).skeleton = before.skeleton := by
        apply Store.skeleton_modifyFork
        intro _
        rfl
      have told : Store.UpToDate
          (before.modifyFork fork fun record => { record with status := entered }) watch := by
        unfold Store.UpToDate
        rw [isListener]
        change some ((before.forks.modify fork _).get fork).status = some _
        rw [Table.get_modify_self (Table.issued_of_isNamed alive), ← current]
        rfl
      have governed : (keepingUp watch).Governs (if entered = .connected then
          (Delivery.handFork inner fork
            (.single (.localAddress (before.nodes.get watch.node).address))).ignore
          else Pure.pure ()) := by
        split
        · exact Rule.ignore (governs_handFork covers fork _)
        · exact Rule.pure ()
      obtain ⟨same, keepsUp⟩ := governed _ () after (follows.of_skeleton_eq skeleton) onward
      exact ⟨same.trans skeleton, told.of_keepsUp keepsUp⟩

/-- Others are told of a status, or of the status of another node. -/
theorem governs_tellListener_of_ne
    {node : Ref .node}
    {listener : Listener}
    (different : listener ≠ watch.listener)
    (entered : Status) :
    (keepingUp watch).Governs (Delivery.tellListener inner node entered listener) := by
  refine Rule.look fun _ _ => ?_
  cases listener with
  | agent agent => exact Rule.ignore (governs_tell_of_ne covers different _)
  | fork fork =>
      refine Rule.get fun _ _ => ?_
      split
      · refine Rule.bind (governs_modifyFork ?_ different) fun _ => ?_
        · exact fun _ => rfl
        split
        · exact Rule.ignore (governs_handFork covers fork _)
        · exact Rule.pure ()
      · exact Rule.pure ()

/-- The run breaks off if the listener under watch would be told too late. -/
theorem upToDate_of_tellListenerInTime
    {before after : Store}
    {entered : Status}
    (follows : before.Follows watch)
    (finished : Delivery.tellListenerInTime inner watch watch.node entered watch.listener before =
      some ((), after)) :
    after.skeleton = before.skeleton ∧ after.UpToDate watch := by
  unfold Delivery.tellListenerInTime at finished
  rw [Rule.look_apply] at finished
  by_cases current : (before.nodes.get watch.node).status = entered
  · rw [if_neg fun late => late.2 current] at finished
    exact upToDate_of_tellListener covers follows current finished
  · rw [if_pos ⟨rfl, current⟩] at finished
    cases finished

theorem governs_tellListenerInTime
    {node : Ref .node}
    {listener : Listener}
    (only : listener = watch.listener → node = watch.node)
    (entered : Status) :
    (keepingUp watch).Governs
      (Delivery.tellListenerInTime inner watch node entered listener) := by
  by_cases isListener : listener = watch.listener
  · obtain rfl := only isListener
    subst isListener
    intro before _ after follows finished
    obtain ⟨skeleton, fresh⟩ := upToDate_of_tellListenerInTime covers follows finished
    exact ⟨skeleton, Or.inl fresh⟩
  · refine Rule.look fun _ _ => ?_
    rw [if_neg]
    · exact governs_tellListener_of_ne covers isListener entered
    · rintro ⟨same, _⟩
      exact isListener (congrArg Watch.listener same).symm

theorem governs_tellListenersInTime (node : Ref .node) (entered : Status) :
    (keepingUp watch).Governs (Delivery.tellListenersInTime inner watch node entered) := by
  refine Rule.look fun store follows => Rule.forM fun entry listed =>
    governs_tellListenerInTime covers (fun same => ?_) entered
  apply follows.only node entry.1
  rw [← same]
  exact listed

/-- If everyone on a list is told then whoever is under watch is, if on the list. Whoever comes
after it on the list keeps it up to date. -/
theorem upToDate_of_tellAll
    {entries : List (UInt64 × Listener)}
    {token : UInt64}
    (listed : (token, watch.listener) ∈ entries)
    {before after : Store}
    {entered : Status}
    (follows : before.Follows watch)
    (finished : (entries.forM fun entry =>
      Delivery.tellListenerInTime inner watch watch.node entered entry.2) before =
        some ((), after)) :
    after.skeleton = before.skeleton ∧ after.UpToDate watch := by
  induction entries generalizing before token with
  | nil => cases listed
  | cons entry rest inductionHypothesis =>
      obtain ⟨_, between, first, onward⟩ := Rule.bind_eq_some finished
      change Delivery.tellListenerInTime inner watch watch.node entered entry.2 before = _ at first
      by_cases isListener : entry.2 = watch.listener
      · rw [isListener] at first
        obtain ⟨skeleton, fresh⟩ := upToDate_of_tellListenerInTime covers follows first
        have governed : (keepingUp watch).Governs (rest.forM fun entry =>
            Delivery.tellListenerInTime inner watch watch.node entered entry.2) :=
          Rule.forM fun _ _ => governs_tellListenerInTime covers (fun _ => rfl) entered
        obtain ⟨skeletonThen, keepsUp⟩ := governed between () after
          (follows.of_skeleton_eq skeleton) onward
        exact ⟨skeletonThen.trans skeleton, fresh.of_keepsUp keepsUp⟩
      · have inRest : (token, watch.listener) ∈ rest := by
          rcases List.mem_cons.mp listed with same | member
          · exact absurd (congrArg Prod.snd same).symm isListener
          · exact member
        obtain ⟨skeleton, _⟩ := governs_tellListenerInTime covers (fun _ => rfl) entered
          before () between follows first
        obtain ⟨skeletonThen, fresh⟩ := inductionHypothesis inRest
          (follows.of_skeleton_eq skeleton) onward
        exact ⟨skeletonThen.trans skeleton, fresh⟩

end Entered

/-! ### Entering another status -/

/-- The run leaves the listener under watch up to date, whatever came before it. -/
def Refreshes (watch : Watch) (run : Run α) : Prop :=
  ∀ before value after, before.Follows watch → run before = some (value, after) →
    after.skeleton = before.skeleton ∧ after.UpToDate watch

theorem Refreshes.governs {run : Run α} (refreshes : Refreshes watch run) :
    (keepingUp watch).Governs run := by
  intro before value after follows finished
  obtain ⟨skeleton, fresh⟩ := refreshes before value after follows finished
  exact ⟨skeleton, Or.inl fresh⟩

/-- What comes before may be anything that leaves the skeleton as it is. -/
theorem Refreshes.after
    {run : Run α}
    {next : α → Run β}
    (still : skeletonRule.Governs run)
    (refreshes : ∀ value, Refreshes watch (next value)) :
    Refreshes watch (run >>= next) := by
  intro before value after follows finished
  obtain ⟨passed, between, first, onward⟩ := Rule.bind_eq_some finished
  have skeleton : between.skeleton = before.skeleton :=
    still before passed between trivial first
  obtain ⟨skeletonThen, fresh⟩ := refreshes passed between value after
    (follows.of_skeleton_eq skeleton) onward
  exact ⟨skeletonThen.trans skeleton, fresh⟩

/-- What comes afterwards has to keep the rule. -/
theorem Refreshes.before
    {run : Run α}
    {next : α → Run β}
    (refreshes : Refreshes watch run)
    (governed : ∀ value, (keepingUp watch).Governs (next value)) :
    Refreshes watch (run >>= next) := by
  intro before value after follows finished
  obtain ⟨passed, between, first, onward⟩ := Rule.bind_eq_some finished
  obtain ⟨skeleton, fresh⟩ := refreshes before passed between follows first
  obtain ⟨skeletonThen, keepsUp⟩ := governed passed between value after
    (follows.of_skeleton_eq skeleton) onward
  exact ⟨skeletonThen.trans skeleton, fresh.of_keepsUp keepsUp⟩

section Entered

variable (covers : (keepingUp watch).discipline.Covers inner inner)
  (skeletal : skeletonRule.discipline.Covers inner inner)

include covers

theorem refreshes_round (entered : Status) :
    Refreshes watch (Delivery.tellListenersInTime inner watch watch.node entered) := by
  intro before _ after follows finished
  obtain ⟨token, listed⟩ := follows.listens
  unfold Delivery.tellListenersInTime at finished
  rw [Rule.look_apply] at finished
  exact upToDate_of_tellAll covers listed follows finished

theorem governs_giveView (view : View) (node : Ref .node) :
    (keepingUp watch).Governs (Delivery.giveView inner view node) := by
  refine Rule.bind (governs_modifyNode ?_ ?_ node) fun _ => Rule.look fun _ _ =>
    Rule.ignore (covers.travel _)
  · exact fun _ => rfl
  · exact fun _ => rfl

theorem governs_installView (network name : String) (cluster : Cluster) :
    (keepingUp watch).Governs (Delivery.installView inner network name cluster) := by
  unfold Delivery.installView
  split
  · exact governs_putCluster network name cluster
  · exact Rule.bind (governs_putCluster network name _) fun _ => Rule.look fun _ _ =>
      Rule.forM fun node _ => governs_giveView covers _ node

theorem governs_join_of_ne {node : Ref .node} (different : node ≠ watch.node) (name : String) :
    (keepingUp watch).Governs (Delivery.join inner node name) := by
  refine Rule.look fun _ _ => Rule.look fun _ _ =>
    Rule.bind (governs_modifyNode_of_ne ?_ different) fun _ => governs_installView covers _ _ _
  exact fun _ => rfl

theorem governs_leave (record : Node) (name : String) :
    (keepingUp watch).Governs (Delivery.leave inner record name) := by
  refine Rule.look fun _ _ => ?_
  split
  · exact Rule.pure _
  · exact governs_installView covers _ _ _

include skeletal

theorem governs_connect (node : Ref .node) (name : String) :
    (keepingUp watch).Governs
      (Delivery.connectBy (Delivery.tellListenersInTime inner watch) inner node name) := by
  have skeletons := Skeleton.allows.moves skeletal
  refine Rule.look fun _ _ => ?_
  split
  · exact Rule.pure _
  · split <;> exact Rule.pure _
  · split <;> exact Rule.pure _
  · by_cases isWatched : node = watch.node
    · subst isWatched
      refine Refreshes.governs (Refreshes.after (skeletons.join _ name) fun _ => ?_)
      exact (refreshes_round covers _).before fun _ => Rule.pure _
    · refine Rule.bind (governs_join_of_ne covers isWatched name) fun _ => ?_
      exact Rule.bind (governs_tellListenersInTime covers node _) fun _ => Rule.pure _

theorem governs_disconnect (node : Ref .node) :
    (keepingUp watch).Governs
      (Delivery.disconnectBy (Delivery.tellListenersInTime inner watch) inner node) := by
  have skeletons := Skeleton.allows.moves skeletal
  refine Rule.look fun _ _ => ?_
  split
  · by_cases isWatched : node = watch.node
    · subst isWatched
      refine Refreshes.governs (Refreshes.after (skeletons.changesNode _ _ fun _ => rfl)
        fun _ => ?_)
      split
      · exact Refreshes.after (skeletons.leave _ _) fun _ => refreshes_round covers _
      · exact refreshes_round covers _
    · refine Rule.bind (governs_modifyNode_of_ne (fun _ => ?_) isWatched) fun _ => ?_
      · rfl
      split
      · exact Rule.bind (governs_leave covers _ _) fun _ =>
          governs_tellListenersInTime covers node _
      · exact governs_tellListenersInTime covers node _
  · exact Rule.pure _

theorem governs_close (node : Ref .node) :
    (keepingUp watch).Governs
      (Delivery.closeBy (Delivery.tellListenersInTime inner watch) inner node) := by
  have skeletons := Skeleton.allows.moves skeletal
  refine Rule.bind (governs_disconnect covers skeletal node) fun _ => Rule.look fun _ _ => ?_
  split
  · by_cases isWatched : node = watch.node
    · subst isWatched
      exact Refreshes.governs (Refreshes.after (skeletons.changesNode _ _ fun _ => rfl)
        fun _ => refreshes_round covers _)
    · refine Rule.bind (governs_modifyNode_of_ne (fun _ => ?_) isWatched) fun _ => ?_
      · rfl
      exact governs_tellListenersInTime covers node _
  · exact Rule.pure _

theorem governs_call (operation : Operation) :
    (keepingUp watch).Governs
      (Delivery.callBy (Delivery.tellListenersInTime inner watch) inner operation) := by
  cases operation with
  | sendFork fork message =>
      refine Rule.look fun _ _ => ?_
      split
      · exact Rule.look fun _ _ => Rule.bind (covers.travel _) fun _ => Rule.pure _
      · exact Rule.pure _
  | sendNode node message =>
      exact Rule.look fun _ _ => Rule.bind (covers.travel _) fun _ => Rule.pure _
  | connect node name =>
      exact Rule.bind (governs_connect covers skeletal node name) fun _ => Rule.pure _
  | disconnect node =>
      exact Rule.bind (governs_disconnect covers skeletal node) fun _ => Rule.pure _
  | close node => exact Rule.bind (governs_close covers skeletal node) fun _ => Rule.pure _

end Entered

/-! ### Everything that runs -/

theorem covers_timely (watch : Watch) (depth : Nat) :
    (keepingUp watch).discipline.Covers (Entrances.timely watch depth)
      (Entrances.timely watch depth) := by
  induction depth with
  | zero => exact ⟨fun _ => Rule.none, fun _ => Rule.none⟩
  | succ depth inductionHypothesis =>
      refine ⟨fun journey => ?_, fun operation => ?_⟩
      · exact (conveys inductionHypothesis).travel journey (Or.inl trivial)
      · exact governs_call inductionHypothesis (Timely.skeletal watch depth) operation

end KeepingUp

end ChannelMux
