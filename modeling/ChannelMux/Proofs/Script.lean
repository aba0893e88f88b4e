import ChannelMux.Agent.Stock
import ChannelMux.Stage.Stock

/-!
Contract: scripts whose course is known.

Owns the scripts that ask nothing and end with a known outcome, those that pass a request
on once and end as it ends, those that pass it on at most once, those that record and ask for
no more than is allowed, and what a script that asks nothing leaves in the record and ends
with. Owns which manners and conducts follow such scripts.

Does not own how a script is carried out.
-/

namespace ChannelMux

namespace Script

variable {Entry Request Answer : Type}

/-- A script asks nothing and ends with this outcome. -/
def Settles (outcome : Outcome) : Script Entry Request Answer → Prop
  | .finish reached => reached = outcome
  | .record _ next => next.Settles outcome
  | .review next => ∀ entries, (next entries).Settles outcome
  | .ask _ _ => False

/-- A script asks for this once, and ends with what comes of it. -/
def Relays (request : Request) : Script Entry Request Outcome → Prop
  | .finish _ => False
  | .record _ next => next.Relays request
  | .review next => ∀ entries, (next entries).Relays request
  | .ask asked next => asked = request ∧ ∀ outcome, (next outcome).Settles outcome

/-- Everything that a script may ask for has a property. -/
def Asks (property : Request → Prop) : Script Entry Request Answer → Prop
  | .finish _ => True
  | .record _ next => next.Asks property
  | .review next => ∀ entries, (next entries).Asks property
  | .ask request next => property request ∧ ∀ answer, (next answer).Asks property

/-- A script asks for this at most once, and for nothing else. -/
def MayRelay (request : Request) : Script Entry Request Outcome → Prop
  | .finish _ => True
  | .record _ next => next.MayRelay request
  | .review next => ∀ entries, (next entries).MayRelay request
  | .ask asked next => asked = request ∧ ∀ outcome, (next outcome).Asks fun _ => False

/-- A script asks for this once and for nothing else, and ends as it will. -/
def Passes (request : Request) : Script Entry Request Outcome → Prop
  | .finish _ => False
  | .record _ next => next.Passes request
  | .review next => ∀ entries, (next entries).Passes request
  | .ask asked next => asked = request ∧ ∀ outcome, (next outcome).Asks fun _ => False

/-- A script records and asks for what is allowed, and goes on alike after looking at records
that are alike. -/
def Admits (records : Entry → Prop) (alike : List Entry → List Entry → Prop)
    (property : Request → Prop) : Script Entry Request Answer → Prop
  | .finish _ => True
  | .record entry next => records entry ∧ next.Admits records alike property
  | .review next => (∀ left right, alike left right → next right = next left) ∧
      ∀ entries, (next entries).Admits records alike property
  | .ask request next =>
      property request ∧ ∀ answer, (next answer).Admits records alike property

/-- The record that a script leaves behind if it asks nothing. -/
def remember : Script Entry Request Answer → List Entry → List Entry
  | .finish _, entries => entries
  | .record entry next, entries => next.remember (entry :: entries)
  | .review next, entries => (next entries).remember entries
  | .ask _ _, entries => entries

/-- What a script ends with if it asks nothing. -/
def verdict : Script Entry Request Answer → List Entry → Outcome
  | .finish outcome, _ => outcome
  | .record entry next, entries => next.verdict (entry :: entries)
  | .review next, entries => (next entries).verdict entries
  | .ask _ _, _ => .ok ()

theorem Settles.asks
    {outcome : Outcome}
    {property : Request → Prop}
    {script : Script Entry Request Answer}
    (settles : script.Settles outcome) :
    script.Asks property := by
  induction script with
  | finish reached => trivial
  | record entry next inductionHypothesis => exact inductionHypothesis settles
  | review next inductionHypothesis =>
      intro entries
      exact inductionHypothesis entries (settles entries)
  | ask request next => exact settles.elim

theorem Relays.asks
    {request : Request}
    {property : Request → Prop}
    {script : Script Entry Request Outcome}
    (relays : script.Relays request)
    (permitted : property request) :
    script.Asks property := by
  induction script with
  | finish reached => exact relays.elim
  | record entry next inductionHypothesis => exact inductionHypothesis relays
  | review next inductionHypothesis =>
      intro entries
      exact inductionHypothesis entries (relays entries)
  | ask asked next =>
      obtain ⟨same, settles⟩ := relays
      subst same
      exact ⟨permitted, fun outcome => (settles outcome).asks⟩

theorem Relays.mayRelay
    {request : Request}
    {script : Script Entry Request Outcome}
    (relays : script.Relays request) :
    script.MayRelay request := by
  induction script with
  | finish reached => exact relays.elim
  | record entry next inductionHypothesis => exact inductionHypothesis relays
  | review next inductionHypothesis =>
      intro entries
      exact inductionHypothesis entries (relays entries)
  | ask asked next => exact ⟨relays.1, fun outcome => (relays.2 outcome).asks⟩

theorem Settles.andThen
    {outcome : Outcome}
    {first second : Script Entry Request Answer}
    (settles : first.Settles (.ok ()))
    (onward : second.Settles outcome) :
    (first.andThen second).Settles outcome := by
  induction first with
  | finish reached =>
      obtain rfl : reached = .ok () := settles
      exact onward
  | record entry next inductionHypothesis => exact inductionHypothesis settles
  | review next inductionHypothesis =>
      intro entries
      exact inductionHypothesis entries (settles entries)
  | ask request next => exact settles.elim

theorem remember_andThen
    {first : Script Entry Request Answer}
    (settles : first.Settles (.ok ()))
    (second : Script Entry Request Answer)
    (entries : List Entry) :
    (first.andThen second).remember entries = second.remember (first.remember entries) := by
  induction first generalizing entries with
  | finish reached =>
      obtain rfl : reached = .ok () := settles
      rfl
  | record entry next inductionHypothesis => exact inductionHypothesis settles _
  | review next inductionHypothesis => exact inductionHypothesis entries (settles entries) _
  | ask request next => exact settles.elim

/-- If everything may be recorded then it matters only what is asked for. -/
theorem Asks.admits
    {records : Entry → Prop}
    {property : Request → Prop}
    {script : Script Entry Request Answer}
    (asks : script.Asks property)
    (recordable : ∀ entry, records entry) :
    script.Admits records Eq property := by
  induction script with
  | finish outcome => trivial
  | record entry next inductionHypothesis =>
      exact ⟨recordable entry, inductionHypothesis asks⟩
  | review next inductionHypothesis =>
      refine ⟨fun left right same => by rw [same], fun entries => ?_⟩
      exact inductionHypothesis entries (asks entries)
  | ask request next inductionHypothesis =>
      exact ⟨asks.1, fun answer => inductionHypothesis answer (asks.2 answer)⟩

theorem Admits.mono
    {records laxer : Entry → Prop}
    {alike stricter : List Entry → List Entry → Prop}
    {property weaker : Request → Prop}
    {script : Script Entry Request Answer}
    (admits : script.Admits records alike property)
    (records_imp : ∀ entry, records entry → laxer entry)
    (alike_imp : ∀ left right, stricter left right → alike left right)
    (property_imp : ∀ request, property request → weaker request) :
    script.Admits laxer stricter weaker := by
  induction script with
  | finish outcome => trivial
  | record entry next inductionHypothesis =>
      exact ⟨records_imp entry admits.1, inductionHypothesis admits.2⟩
  | review next inductionHypothesis =>
      exact ⟨fun left right same => admits.1 left right (alike_imp left right same),
        fun entries => inductionHypothesis entries (admits.2 entries)⟩
  | ask request next inductionHypothesis =>
      exact ⟨property_imp request admits.1,
        fun answer => inductionHypothesis answer (admits.2 answer)⟩

theorem Admits.andThen
    {records : Entry → Prop}
    {alike : List Entry → List Entry → Prop}
    {property : Request → Prop}
    {first second : Script Entry Request Answer}
    (admits : first.Admits records alike property)
    (onward : second.Admits records alike property) :
    (first.andThen second).Admits records alike property := by
  induction first with
  | finish reached =>
      cases reached with
      | ok _ => exact onward
      | error refusal => trivial
  | record entry next inductionHypothesis => exact ⟨admits.1, inductionHypothesis admits.2⟩
  | review next inductionHypothesis =>
      refine ⟨fun left right same => ?_, fun entries => ?_⟩
      · dsimp only
        rw [admits.1 left right same]
      · exact inductionHypothesis entries (admits.2 entries)
  | ask request next inductionHypothesis =>
      exact ⟨admits.1, fun answer => inductionHypothesis answer (admits.2 answer)⟩

section ForEach

variable {Item : Type} {script : Item → Script Entry Request Answer} {items : List Item}

theorem settles_forEach (settle : ∀ item ∈ items, (script item).Settles (.ok ())) :
    (forEach script items).Settles (.ok ()) := by
  induction items with
  | nil => rfl
  | cons item rest inductionHypothesis =>
      have restSettle := inductionHypothesis fun other member =>
        settle other (List.mem_cons_of_mem _ member)
      exact (settle item List.mem_cons_self).andThen restSettle

theorem remember_forEach
    (settle : ∀ item ∈ items, (script item).Settles (.ok ()))
    (entries : List Entry) :
    (forEach script items).remember entries =
      items.foldl (fun remembered item => (script item).remember remembered) entries := by
  induction items generalizing entries with
  | nil => rfl
  | cons item rest inductionHypothesis =>
      have restSettle : ∀ other ∈ rest, (script other).Settles (.ok ()) :=
        fun other member => settle other (List.mem_cons_of_mem _ member)
      exact (remember_andThen (settle item List.mem_cons_self) _ entries).trans
        (inductionHypothesis restSettle _)

theorem forEach_accept (items : List Item) :
    forEach (fun _ => (accept : Script Entry Request Answer)) items = accept := by
  induction items with
  | nil => rfl
  | cons item rest inductionHypothesis => exact inductionHypothesis

end ForEach

theorem asks_of_all
    {property : Request → Prop}
    (all : ∀ request, property request)
    (script : Script Entry Request Answer) :
    script.Asks property := by
  induction script with
  | finish reached => trivial
  | record entry next inductionHypothesis => exact inductionHypothesis
  | review next inductionHypothesis => exact inductionHypothesis
  | ask request next inductionHypothesis => exact ⟨all request, inductionHypothesis⟩

end Script

/-- Someone with this manner accepts everything and gives no command. -/
def Manner.Quiet (manner : Manner) : Prop := ∀ notice, (manner notice).Settles (.ok ())

/-- Someone with this manner accepts or refuses what it is told and gives no command. -/
def Manner.Contained (manner : Manner) : Prop :=
  ∀ notice, ∃ outcome, (manner notice).Settles outcome

/-- Someone with this manner gives no command, whatever it records and however it decides
what to accept. -/
def Manner.Passive (manner : Manner) : Prop :=
  ∀ notice, (manner notice).Asks fun _ => False

theorem Manner.Contained.passive {manner : Manner} (contained : manner.Contained) :
    manner.Passive := by
  intro notice
  obtain ⟨outcome, settles⟩ := contained notice
  exact settles.asks

theorem Manner.Quiet.contained {manner : Manner} (quiet : manner.Quiet) : manner.Contained :=
  fun notice => ⟨.ok (), quiet notice⟩

/-- A stage with this conduct passes everything on as it is, once, and answers with what
comes of it. -/
structure Conduct.Transparent (conduct : Conduct) : Prop where
  up : ∀ traffic, (conduct.up traffic).Relays traffic
  down : ∀ event, (conduct.down event).Relays event

theorem Conduct.transparent_transparent : Conduct.transparent.Transparent where
  up _ := ⟨rfl, fun _ => rfl⟩
  down _ := ⟨rfl, fun _ => rfl⟩

theorem Conduct.recording_transparent : Conduct.recording.Transparent where
  up traffic := by
    cases traffic with
    | single event => exact ⟨rfl, fun _ => rfl⟩
    | batch whole => exact ⟨rfl, fun _ => rfl⟩
  down _ := ⟨rfl, fun _ => rfl⟩

theorem Manner.recording_quiet : Manner.recording.Quiet := by
  intro notice
  cases notice with
  | up traffic =>
      cases traffic with
      | single event => rfl
      | batch whole => rfl
  | down event => rfl
  | status entered now => rfl

theorem Manner.whole_contained (name : String) (limit? : Option Nat) :
    (Manner.whole name limit?).Contained := by
  intro notice
  cases notice with
  | up traffic =>
      cases traffic with
      | single event => exact ⟨.ok (), rfl⟩
      | batch whole =>
          by_cases tooLarge : limit?.any (fun limit => limit < whole.size)
          · have refuses : Manner.whole name limit? (.up (.batch whole)) =
                .refuse (.rejected name "batch too large") := if_pos tooLarge
            rw [refuses]
            exact ⟨_, rfl⟩
          · have takes : Manner.whole name limit? (.up (.batch whole)) =
                Manner.note none (.batch whole) := if_neg tooLarge
            rw [takes]
            exact ⟨.ok (), rfl⟩
  | down event => exact ⟨.ok (), rfl⟩
  | status entered now => exact ⟨.ok (), rfl⟩

theorem Manner.closedQueue_passive : Manner.closedQueue.Passive := by
  intro notice
  cases notice with
  | up traffic =>
      cases traffic with
      | single event => trivial
      | batch whole =>
          obtain ⟨_, _, _, _, messages⟩ := whole
          cases messages with
          | nil => trivial
          | cons message rest => trivial
  | down event => trivial
  | status entered now => trivial

namespace Agent

/-- An agent that has been told something which it keeps to itself. -/
def hear (agent : Agent) (notice : Notice) : Agent :=
  { agent with entries := (agent.manner notice).remember agent.entries }

/-- An agent that has been told several things in turn. -/
def hearAll (agent : Agent) (notices : List Notice) : Agent := notices.foldl hear agent

@[simp] theorem manner_hearAll (agent : Agent) (notices : List Notice) :
    (agent.hearAll notices).manner = agent.manner := by
  induction notices generalizing agent with
  | nil => rfl
  | cons notice rest inductionHypothesis => exact inductionHypothesis (agent.hear notice)

theorem hearAll_append (agent : Agent) (first second : List Notice) :
    agent.hearAll (first ++ second) = (agent.hearAll first).hearAll second :=
  List.foldl_append

end Agent

end ChannelMux
