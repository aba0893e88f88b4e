import ChannelMux.Proofs.Batch.Splitting

/-!
Contract: the ledger of a demultiplexer.

Owns what a demultiplexer does with one piece of traffic, as a relation that says which runs it
leaves to stacks and to the way up, in which stores they begin and end, and what comes of every
group's part of a batch; the relation is proved to be what `Delivery.demultiplex` does. Owns the
ledger, which is the list of all that is done at a demultiplexer between two stores: groups are
registered and traffic comes up to it, again and again and even in the course of what it hands
on, and whoever takes that may do anything else besides.

Does not own the balance of what is counted with the ledger.
-/

namespace ChannelMux

/-! ### What is written down -/

namespace Traffic

/-- Whether a demultiplexer refuses traffic: there is a routing header that names no group. -/
def isMalformed (traffic : Traffic) : Bool :=
  traffic.messages.any fun message => message.routing?.isSome && message.group?.isNone

/-- How many messages a demultiplexer takes that traffic comes up to. -/
def received (traffic : Traffic) : Nat :=
  if traffic.isMalformed then 0 else traffic.messages.length

/-- Whether a view comes up. -/
def isView : Traffic → Bool
  | .single (.viewChange _) => true
  | _ => false

end Traffic

/-- The turn of a group when a batch is split: what came of its part at its stack, if one was
registered for it. -/
structure Turn where
  group : String
  outcome? : Option Outcome

namespace Turn

/-- Whether the part was handed to a stack. -/
def isHanded (turn : Turn) : Bool := turn.outcome?.isSome

/-- Whether the stack that the part was handed to reported an error. -/
def isFailed (turn : Turn) : Bool :=
  match turn.outcome? with
  | some (.error _) => true
  | _ => false

end Turn

/-- Something that is done at a demultiplexer. -/
inductive Deed where
  /-- A group is registered. -/
  | registers (group : String)
  /-- Traffic comes up; if it is a batch that is split then groups have their turns. -/
  | takes (traffic : Traffic) (turns : List Turn)

/-- A run that a demultiplexer leaves to others, from where it begins to where it ends. -/
structure Handing where
  entered : Store
  left : Store

/-! ### What is counted -/

namespace DemultiplexerCounters

def route (messages : Nat) (counters : DemultiplexerCounters) : DemultiplexerCounters :=
  { counters with routed := counters.routed + UInt64.ofNat messages }

def pass (messages : Nat) (counters : DemultiplexerCounters) : DemultiplexerCounters :=
  { counters with passedThrough := counters.passedThrough + UInt64.ofNat messages }

def miss (messages : Nat) (counters : DemultiplexerCounters) : DemultiplexerCounters :=
  { counters with misses := counters.misses + UInt64.ofNat messages }

def tell (counters : DemultiplexerCounters) : DemultiplexerCounters :=
  { counters with broadcasts := counters.broadcasts + 1 }

/-- A part of a batch, with its messages, is handed to a stack. -/
def split (messages : Nat) (counters : DemultiplexerCounters) : DemultiplexerCounters :=
  { counters with
    batchesSplit := counters.batchesSplit + 1
    routed := counters.routed + UInt64.ofNat messages }

def fail (counters : DemultiplexerCounters) : DemultiplexerCounters :=
  { counters with batchFailures := counters.batchFailures + 1 }

end DemultiplexerCounters

namespace Store

/-- The store when a demultiplexer has counted something. -/
def counting (store : Store) (hub : Ref .stage)
    (change : DemultiplexerCounters → DemultiplexerCounters) : Store :=
  store.modifyStage hub (Stage.counted change)

/-- The store when a demultiplexer has counted what came of a part of a batch. -/
def settling (store : Store) (hub : Ref .stage) : Outcome → Store
  | .ok () => store
  | .error _ => store.counting hub .fail

end Store

namespace Delivery

/-! ### What a demultiplexer does with traffic -/

section Taking

variable (inner : Entrances) (hub : Ref .stage)

/-- Stacks are entered one after the other, whatever comes of it. -/
inductive Rounds (traffic : Traffic) : List (Ref .stack) → Store → List Handing → Store → Prop
  | done {store : Store} : Rounds traffic [] store [] store
  | next {stack : Ref .stack} {rest : List (Ref .stack)} {before between after : Store}
      {outcome : Outcome} {handings : List Handing}
      (enters : enterStack inner stack traffic before = some (outcome, between))
      (onward : Rounds traffic rest between handings after) :
      Rounds traffic (stack :: rest) before (⟨before, between⟩ :: handings) after

/-- The groups of a batch have their turns. -/
inductive Turns (batch : Batch) :
    List (String × List Message) → Store → List Turn → List Handing → Store → Prop
  | done {store : Store} : Turns batch [] store [] [] store
  /-- There is no stack for the group. -/
  | missed {part : String × List Message} {rest : List (String × List Message)}
      {before after : Store} {turns : List Turn} {handings : List Handing}
      (unregistered : stackOf? before hub part.1 = none)
      (onward : Turns batch rest (before.counting hub (.miss part.2.length)) turns handings
        after) :
      Turns batch (part :: rest) before (⟨part.1, none⟩ :: turns) handings after
  | handed {part : String × List Message} {rest : List (String × List Message)}
      {stack : Ref .stack} {before left after : Store} {outcome : Outcome} {turns : List Turn}
      {handings : List Handing}
      (registered : stackOf? before hub part.1 = some stack)
      (enters : enterStack inner stack (.batch (batch.derive part.2))
        (before.counting hub (.split part.2.length)) = some (outcome, left))
      (onward : Turns batch rest (left.settling hub outcome) turns handings after) :
      Turns batch (part :: rest) before (⟨part.1, some outcome⟩ :: turns)
        (⟨before.counting hub (.split part.2.length), left⟩ :: handings) after

variable (passUp : Traffic → Run Outcome)

/-- A demultiplexer takes traffic. -/
inductive Takes :
    Traffic → Store → List Turn → List Handing → Outcome → Store → Prop
  /-- A message without a routing header passes. -/
  | passes {message : Message} {before after : Store} {outcome : Outcome}
      (plain : message.routing? = none)
      (passed : passUp (.single (.message message)) (before.counting hub (.pass 1)) =
        some (outcome, after)) :
      Takes (.single (.message message)) before [] [⟨before.counting hub (.pass 1), after⟩]
        outcome after
  | refuses {message : Message} {header : RoutingHeader} {before : Store}
      (routed : message.routing? = some header)
      (nameless : header.group? = none) :
      Takes (.single (.message message)) before [] [] (.error (.groupMissing header)) before
  | routes {message : Message} {header : RoutingHeader} {group : String} {stack : Ref .stack}
      {before after : Store} {outcome : Outcome}
      (routed : message.routing? = some header)
      (named : header.group? = some group)
      (registered : stackOf? before hub group = some stack)
      (enters : enterStack inner stack (.single (.message message))
        (before.counting hub (.route 1)) = some (outcome, after)) :
      Takes (.single (.message message)) before [] [⟨before.counting hub (.route 1), after⟩]
        outcome after
  | misses {message : Message} {header : RoutingHeader} {group : String} {before : Store}
      (routed : message.routing? = some header)
      (named : header.group? = some group)
      (unregistered : stackOf? before hub group = none) :
      Takes (.single (.message message)) before [] [] (.ok ()) (before.counting hub (.miss 1))
  | tells {view : View} {before between after : Store} {outcome : Outcome}
      {handings : List Handing}
      (told : Rounds inner (.single (.viewChange view)) (stacksOf before hub)
        (before.counting hub .tell) handings between)
      (passed : passUp (.single (.viewChange view)) between = some (outcome, after)) :
      Takes (.single (.viewChange view)) before [] (handings ++ [⟨between, after⟩]) outcome
        after
  /-- Any other event passes. -/
  | lets {event : Event} {before after : Store} {outcome : Outcome}
      (noMessage : event.message? = none)
      (noView : event.isBroadcast = false)
      (passed : passUp (.single event) before = some (outcome, after)) :
      Takes (.single event) before [] [⟨before, after⟩] outcome after
  | refusesBatch {batch : Batch} {before : Store}
      (nameless : ¬ batch.NamesGroups) :
      Takes (.batch batch) before [] [] (.error (.groupMissingInBatch batch.sender)) before
  | splits {batch : Batch} {before after : Store} {turns : List Turn} {handings : List Handing}
      (named : batch.NamesGroups)
      (split : Turns inner hub batch batch.parts before turns handings after)
      (nothingLeft : batch.unrouted = []) :
      Takes (.batch batch) before turns handings (.ok ()) after
  /-- What is left of a batch passes. -/
  | splitsAndPasses {batch : Batch} {before between after : Store} {outcome : Outcome}
      {turns : List Turn} {handings : List Handing}
      (named : batch.NamesGroups)
      (split : Turns inner hub batch batch.parts before turns handings between)
      (left : batch.unrouted ≠ [])
      (passed : passUp (.batch (batch.derive batch.unrouted))
        (between.counting hub (.pass batch.unrouted.length)) = some (outcome, after)) :
      Takes (.batch batch) before turns
        (handings ++ [⟨between.counting hub (.pass batch.unrouted.length), after⟩]) outcome after

end Taking

variable {inner : Entrances} {hub : Ref .stage} {passUp : Traffic → Run Outcome}

/-! ### The relation is what the program does -/

theorem forM_cons_apply
    {α : Type}
    (item : α)
    (rest : List α)
    (action : α → Run Unit)
    (before : Store) :
    (item :: rest).forM action before =
      (action item before).bind fun result => rest.forM action result.2 := rfl

theorem rounds_iff
    {traffic : Traffic}
    {listed : List (Ref .stack)}
    {before after : Store} :
    (listed.forM fun stack => (enterStack inner stack traffic).ignore) before = some ((), after) ↔
      ∃ handings, Rounds inner traffic listed before handings after := by
  induction listed generalizing before with
  | nil =>
      constructor
      · intro finished
        cases finished
        exact ⟨[], .done⟩
      · rintro ⟨_, rounds⟩
        cases rounds
        rfl
  | cons stack rest inductionHypothesis =>
      rw [forM_cons_apply]
      constructor
      · intro finished
        obtain ⟨⟨_, between⟩, ignores, onward⟩ := Option.bind_eq_some_iff.mp finished
        obtain ⟨outcome, _, enters, ends⟩ := Rule.bind_eq_some ignores
        cases ends
        obtain ⟨handings, rounds⟩ := inductionHypothesis.mp onward
        exact ⟨_, .next enters rounds⟩
      · rintro ⟨_, rounds⟩
        cases rounds with
        | next enters onward =>
            refine Option.bind_eq_some_iff.mpr ⟨((), _), ?_, inductionHypothesis.mpr ⟨_, onward⟩⟩
            change (enterStack inner stack traffic >>= fun _ => pure ()) before = _
            rw [Run.bind_apply, enters]
            rfl

theorem routePart_of_unregistered
    {batch : Batch}
    {part : String × List Message}
    {before : Store}
    (unregistered : stackOf? before hub part.1 = none) :
    routePart inner hub batch part before =
      some ((), before.counting hub (.miss part.2.length)) := by
  unfold routePart
  rw [Rule.get_apply, unregistered]
  rfl

theorem routePart_of_registered
    {batch : Batch}
    {part : String × List Message}
    {stack : Ref .stack}
    {before : Store}
    (registered : stackOf? before hub part.1 = some stack) :
    routePart inner hub batch part before =
      (enterStack inner stack (.batch (batch.derive part.2))
        (before.counting hub (.split part.2.length))).map fun result =>
          ((), result.2.settling hub result.1) := by
  unfold routePart
  rw [Rule.get_apply, registered]
  dsimp only
  rw [Run.bind_apply]
  change (enterStack inner stack (.batch (batch.derive part.2)) >>= _)
    (before.counting hub (.split part.2.length)) = _
  rw [Run.bind_apply, Option.map_eq_bind]
  congr 1
  funext result
  obtain ⟨outcome, left⟩ := result
  cases outcome <;> rfl

theorem turns_iff
    {batch : Batch}
    {parts : List (String × List Message)}
    {before after : Store} :
    parts.forM (routePart inner hub batch) before = some ((), after) ↔
      ∃ turns handings, Turns inner hub batch parts before turns handings after := by
  induction parts generalizing before with
  | nil =>
      constructor
      · intro finished
        cases finished
        exact ⟨[], [], .done⟩
      · rintro ⟨_, _, turns⟩
        cases turns
        rfl
  | cons part rest inductionHypothesis =>
      rw [forM_cons_apply]
      constructor
      · intro finished
        obtain ⟨⟨_, between⟩, routes, onward⟩ := Option.bind_eq_some_iff.mp finished
        obtain ⟨turns, handings, later⟩ := inductionHypothesis.mp onward
        cases registered : stackOf? before hub part.1 with
        | none =>
            rw [routePart_of_unregistered registered] at routes
            cases routes
            exact ⟨_, _, .missed registered later⟩
        | some stack =>
            rw [routePart_of_registered registered] at routes
            obtain ⟨⟨outcome, left⟩, enters, ends⟩ := Option.map_eq_some_iff.mp routes
            cases ends
            exact ⟨_, _, .handed registered enters later⟩
      · rintro ⟨_, _, turns⟩
        cases turns with
        | missed unregistered onward =>
            rw [routePart_of_unregistered unregistered]
            exact inductionHypothesis.mpr ⟨_, _, onward⟩
        | handed registered enters onward =>
            rw [routePart_of_registered registered, enters]
            exact inductionHypothesis.mpr ⟨_, _, onward⟩

/-- What a batch without routing headers that name no group comes to. -/
theorem routeBatch_iff
    {batch : Batch}
    {before after : Store}
    {outcome : Outcome}
    (named : batch.NamesGroups) :
    routeBatch inner hub passUp batch before = some (outcome, after) ↔
      ∃ turns handings, Takes inner hub passUp (.batch batch) before turns handings outcome
        after := by
  rw [routeBatch_eq named, Run.bind_apply]
  unfold splitBatch countUnrouted
  rw [Run.bind_apply, Option.bind_assoc]
  constructor
  · intro finished
    obtain ⟨⟨_, between⟩, routes, onward⟩ := Option.bind_eq_some_iff.mp finished
    obtain ⟨turns, handings, split⟩ := turns_iff.mp routes
    by_cases nothingLeft : batch.unrouted = []
    · rw [nothingLeft] at onward
      cases onward
      exact ⟨_, _, .splits named split nothingLeft⟩
    · rw [List.isEmpty_eq_false_iff.mpr nothingLeft] at onward
      exact ⟨_, _, .splitsAndPasses named split nothingLeft onward⟩
  · rintro ⟨_, _, takes⟩
    cases takes with
    | refusesBatch nameless => exact absurd named nameless
    | splits _ split nothingLeft =>
        rw [turns_iff.mpr ⟨_, _, split⟩, nothingLeft]
        rfl
    | splitsAndPasses _ split left passed =>
        rw [turns_iff.mpr ⟨_, _, split⟩, List.isEmpty_eq_false_iff.mpr left]
        exact passed

theorem route_iff
    {message : Message}
    {before after : Store}
    {outcome : Outcome} :
    route inner hub passUp message before = some (outcome, after) ↔
      ∃ turns handings, Takes inner hub passUp (.single (.message message)) before turns handings
        outcome after := by
  unfold route
  constructor
  · intro finished
    cases routing : message.routing? with
    | none =>
        rw [routing] at finished
        exact ⟨_, _, .passes routing finished⟩
    | some header =>
        rw [routing] at finished
        cases naming : header.group? with
        | none =>
            simp only [naming] at finished
            cases finished
            exact ⟨_, _, .refuses routing naming⟩
        | some group =>
            simp only [naming] at finished
            rw [Rule.get_apply] at finished
            cases registered : stackOf? before hub group with
            | none =>
                rw [registered] at finished
                cases finished
                exact ⟨_, _, .misses routing naming registered⟩
            | some stack =>
                rw [registered] at finished
                exact ⟨_, _, .routes routing naming registered finished⟩
  · rintro ⟨_, _, takes⟩
    cases takes with
    | passes plain passed =>
        rw [plain]
        exact passed
    | refuses routed nameless =>
        simp only [routed, nameless]
        rfl
    | routes routed named registered enters =>
        simp only [routed, named]
        rw [Rule.get_apply, registered]
        exact enters
    | misses routed named unregistered =>
        simp only [routed, named]
        rw [Rule.get_apply, unregistered]
        rfl
    | lets noMessage => cases noMessage

theorem broadcast_iff
    {view : View}
    {before after : Store}
    {outcome : Outcome} :
    broadcast inner hub passUp (.viewChange view) before = some (outcome, after) ↔
      ∃ turns handings, Takes inner hub passUp (.single (.viewChange view)) before turns handings
        outcome after := by
  have course : broadcast inner hub passUp (.viewChange view) before =
      (((stacksOf before hub).forM fun stack =>
        (enterStack inner stack (.single (.viewChange view))).ignore)
          (before.counting hub .tell)).bind fun result =>
            passUp (.single (.viewChange view)) result.2 := rfl
  rw [course]
  constructor
  · intro finished
    obtain ⟨⟨_, between⟩, tells, passed⟩ := Option.bind_eq_some_iff.mp finished
    obtain ⟨handings, told⟩ := rounds_iff.mp tells
    exact ⟨_, _, .tells told passed⟩
  · rintro ⟨_, _, takes⟩
    cases takes with
    | tells told passed =>
        rw [rounds_iff.mpr ⟨_, told⟩]
        exact passed
    | lets _ noView => cases noView

/-- A batch with a routing header that names no group is refused. -/
theorem routeBatch_of_nameless
    {batch : Batch}
    (nameless : ¬ batch.NamesGroups)
    (before : Store) :
    routeBatch inner hub passUp batch before =
      some (.error (.groupMissingInBatch batch.sender), before) := by
  have refused : (batch.messages.filter fun message => message.routing?.isSome).any
      (fun message => message.group?.isNone) = true := by
    unfold Batch.NamesGroups at nameless
    push Not at nameless
    obtain ⟨message, listed, routed, unnamed⟩ := nameless
    refine List.any_eq_true.mpr ⟨message, List.mem_filter.mpr ⟨listed, routed⟩, ?_⟩
    rwa [Option.isNone_iff_eq_none, ← Option.not_isSome_iff_eq_none]
  unfold routeBatch Batch.extract
  simp only [List.partition_eq_filter_filter, refused, if_true]
  rfl

/-- The relation is what a demultiplexer does. -/
theorem takes_iff
    {traffic : Traffic}
    {before after : Store}
    {outcome : Outcome} :
    demultiplex inner hub passUp traffic before = some (outcome, after) ↔
      ∃ turns handings, Takes inner hub passUp traffic before turns handings outcome after := by
  have passing {event : Event} (noMessage : event.message? = none)
      (noView : event.isBroadcast = false) :
      passUp (.single event) before = some (outcome, after) ↔
        ∃ turns handings, Takes inner hub passUp (.single event) before turns handings outcome
          after := by
    constructor
    · exact fun passed => ⟨_, _, .lets noMessage noView passed⟩
    · rintro ⟨_, _, takes⟩
      cases takes with
      | lets _ _ passed => exact passed
      | tells => cases noView
      | _ => cases noMessage
  cases traffic with
  | single event =>
      cases event with
      | message message => exact route_iff
      | viewChange view => exact broadcast_iff
      | localAddress address => exact passing rfl rfl
      | suspect address => exact passing rfl rfl
  | batch batch =>
      by_cases named : batch.NamesGroups
      · exact routeBatch_iff named
      · rw [show demultiplex inner hub passUp (.batch batch) before =
          routeBatch inner hub passUp batch before from rfl, routeBatch_of_nameless named]
        constructor
        · intro finished
          cases finished
          exact ⟨_, _, .refusesBatch named⟩
        · rintro ⟨_, _, takes⟩
          cases takes with
          | refusesBatch => rfl
          | splits groups => exact absurd groups named
          | splitsAndPasses groups => exact absurd groups named

/-! ### What is handed on -/

/-- Traffic is handed to a stack or up. -/
def IsRun (inner : Entrances) (passUp : Traffic → Run Outcome) (handing : Handing) : Prop :=
  ∃ traffic outcome,
    (∃ stack, enterStack inner stack traffic handing.entered = some (outcome, handing.left)) ∨
      passUp traffic handing.entered = some (outcome, handing.left)

theorem Rounds.isRun
    {traffic : Traffic}
    {listed : List (Ref .stack)}
    {before after : Store}
    {handings : List Handing}
    (rounds : Rounds inner traffic listed before handings after) :
    ∀ handing ∈ handings, IsRun inner passUp handing := by
  induction rounds with
  | done => exact List.forall_mem_nil _
  | next enters _ inductionHypothesis =>
      exact List.forall_mem_cons.mpr ⟨⟨_, _, Or.inl ⟨_, enters⟩⟩, inductionHypothesis⟩

theorem Turns.isRun
    {batch : Batch}
    {parts : List (String × List Message)}
    {before after : Store}
    {turns : List Turn}
    {handings : List Handing}
    (split : Turns inner hub batch parts before turns handings after) :
    ∀ handing ∈ handings, IsRun inner passUp handing := by
  induction split with
  | done => exact List.forall_mem_nil _
  | missed _ _ inductionHypothesis => exact inductionHypothesis
  | handed _ enters _ inductionHypothesis =>
      exact List.forall_mem_cons.mpr ⟨⟨_, _, Or.inl ⟨_, enters⟩⟩, inductionHypothesis⟩

/-- Whatever a demultiplexer leaves to others is traffic handed to a stack or up. -/
theorem Takes.isRun
    {traffic : Traffic}
    {before after : Store}
    {turns : List Turn}
    {handings : List Handing}
    {outcome : Outcome}
    (takes : Takes inner hub passUp traffic before turns handings outcome after) :
    ∀ handing ∈ handings, IsRun inner passUp handing := by
  cases takes with
  | passes _ passed => exact List.forall_mem_singleton.mpr ⟨_, _, Or.inr passed⟩
  | refuses => exact List.forall_mem_nil _
  | routes _ _ _ enters => exact List.forall_mem_singleton.mpr ⟨_, _, Or.inl ⟨_, enters⟩⟩
  | misses => exact List.forall_mem_nil _
  | tells told passed =>
      exact List.forall_mem_append.mpr
        ⟨told.isRun, List.forall_mem_singleton.mpr ⟨_, _, Or.inr passed⟩⟩
  | lets _ _ passed => exact List.forall_mem_singleton.mpr ⟨_, _, Or.inr passed⟩
  | refusesBatch => exact List.forall_mem_nil _
  | splits _ split => exact split.isRun
  | splitsAndPasses _ split _ passed =>
      exact List.forall_mem_append.mpr
        ⟨split.isRun, List.forall_mem_singleton.mpr ⟨_, _, Or.inr passed⟩⟩

end Delivery

/-! ### The ledger -/

/-- The ledger of a demultiplexer between two stores: all that is done at it, each thing before
what is done at it in the course of the thing. -/
inductive Ledger (hub : Ref .stage) : Store → List Deed → Store → Prop
  /-- Whatever is done elsewhere. -/
  | elsewhere {before after : Store}
      (same : after.demultiplexer? hub = before.demultiplexer? hub) :
      Ledger hub before [] after
  | append {before between after : Store} {first second : List Deed}
      (earlier : Ledger hub before first between)
      (later : Ledger hub between second after) :
      Ledger hub before (first ++ second) after
  | registers {before after : Store} {shared : Ref .pipeline} {group : String}
      {stages : List (Ref .stage)} {requireFresh : Bool} {stack : Ref .stack}
      (ensured : before.ensureStack hub shared group stages requireFresh = .ok (stack, after)) :
      Ledger hub before [.registers group] after
  /-- Traffic comes up to the demultiplexer, whatever the stacks and the way up are. -/
  | takes {before after : Store} {inner : Entrances} {passUp : Traffic → Run Outcome}
      {traffic : Traffic} {turns : List Turn} {handings : List Handing} {outcome : Outcome}
      {meanwhile : Handing → List Deed}
      (took : Delivery.Takes inner hub passUp traffic before turns handings outcome after)
      (kept : ∀ handing ∈ handings, Ledger hub handing.entered (meanwhile handing) handing.left) :
      Ledger hub before (.takes traffic turns :: handings.flatMap meanwhile) after

namespace Ledger

variable {hub : Ref .stage}

/-- Whoever comes up to a demultiplexer gets into its ledger if what takes what is handed on
keeps the ledger, too. -/
theorem of_demultiplex
    {inner : Entrances}
    {passUp : Traffic → Run Outcome}
    {traffic : Traffic}
    {before after : Store}
    {outcome : Outcome}
    (keeps : ∀ handing, Delivery.IsRun inner passUp handing →
      ∃ deeds, Ledger hub handing.entered deeds handing.left)
    (finished : Delivery.demultiplex inner hub passUp traffic before = some (outcome, after)) :
    ∃ turns deeds, Ledger hub before (.takes traffic turns :: deeds) after := by
  obtain ⟨turns, handings, took⟩ := Delivery.takes_iff.mp finished
  have kept (handing : Handing) :
      ∃ deeds, handing ∈ handings → Ledger hub handing.entered deeds handing.left := by
    by_cases member : handing ∈ handings
    · obtain ⟨deeds, ledger⟩ := keeps handing (took.isRun handing member)
      exact ⟨deeds, fun _ => ledger⟩
    · exact ⟨[], fun isMember => absurd isMember member⟩
  choose meanwhile ledgers using kept
  exact ⟨turns, _, .takes took ledgers⟩

end Ledger

end ChannelMux
