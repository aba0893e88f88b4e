import Mathlib.Algebra.BigOperators.Group.List.Basic
import Mathlib.Data.Finset.Card
import ChannelMux.Proofs.Batch.Ledger
import ChannelMux.Proofs.Network.Ensuring

/-!
Contract: the counters of a demultiplexer and its ledger.

Owns the account of a deed, which is what the counters and the list of groups owe to it, and the
law that between two stores a demultiplexer has counted just what its ledger comes to, whatever
became of what it handed on.

Counters are numbers of 64 bits: they count on from zero once they are full.
-/

namespace ChannelMux

/-! ### Accounts -/

/-- What a demultiplexer owes to what is done at it. -/
@[ext]
structure Account where
  /-- How many messages it has taken. -/
  received : Nat := 0
  views : Nat := 0
  /-- How many parts of batches it has handed to stacks. -/
  handed : Nat := 0
  /-- How many parts of batches were handed to stacks that reported errors. -/
  failed : Nat := 0
  /-- The groups that were registered. -/
  groups : Finset String := ∅

namespace Account

instance : Zero Account := ⟨{}⟩

instance : Add Account :=
  ⟨fun left right => {
    received := left.received + right.received
    views := left.views + right.views
    handed := left.handed + right.handed
    failed := left.failed + right.failed
    groups := left.groups ∪ right.groups }⟩

@[simp] theorem received_zero : (0 : Account).received = 0 := rfl
@[simp] theorem views_zero : (0 : Account).views = 0 := rfl
@[simp] theorem handed_zero : (0 : Account).handed = 0 := rfl
@[simp] theorem failed_zero : (0 : Account).failed = 0 := rfl
@[simp] theorem groups_zero : (0 : Account).groups = ∅ := rfl

section Add

variable (left right : Account)

@[simp] theorem received_add : (left + right).received = left.received + right.received := rfl
@[simp] theorem views_add : (left + right).views = left.views + right.views := rfl
@[simp] theorem handed_add : (left + right).handed = left.handed + right.handed := rfl
@[simp] theorem failed_add : (left + right).failed = left.failed + right.failed := rfl
@[simp] theorem groups_add : (left + right).groups = left.groups ∪ right.groups := rfl

end Add

instance : AddCommMonoid Account where
  zero_add account := by ext <;> simp
  add_zero account := by ext <;> simp
  add_assoc first second third := by ext <;> simp [Nat.add_assoc]
  add_comm left right := by ext <;> simp [Nat.add_comm, or_comm]
  nsmul := nsmulRec

end Account

/-- What a demultiplexer owes to a deed. -/
def Deed.account : Deed → Account
  | .registers group => { groups := {group} }
  | .takes traffic turns => {
      received := traffic.received
      views := if traffic.isView then 1 else 0
      handed := turns.countP Turn.isHanded
      failed := turns.countP Turn.isFailed }

/-- What a ledger comes to. -/
def due (deeds : List Deed) : Account := (deeds.map Deed.account).sum

theorem due_append (first second : List Deed) : due (first ++ second) = due first + due second := by
  unfold due
  rw [List.map_append, List.sum_append]

/-- Between two states a demultiplexer has counted and registered what an account comes to. -/
structure Settled (account : Account) (before after : Demultiplexer) : Prop where
  messages : after.counters.routed + after.counters.passedThrough + after.counters.misses =
    before.counters.routed + before.counters.passedThrough + before.counters.misses +
      UInt64.ofNat account.received
  views : after.counters.broadcasts = before.counters.broadcasts + UInt64.ofNat account.views
  handed : after.counters.batchesSplit =
    before.counters.batchesSplit + UInt64.ofNat account.handed
  failed : after.counters.batchFailures =
    before.counters.batchFailures + UInt64.ofNat account.failed
  groups : after.groups.names.toFinset = before.groups.names.toFinset ∪ account.groups

namespace Settled

variable {state : Demultiplexer}

theorem refl (state : Demultiplexer) : Settled 0 state state where
  messages := by simp
  views := by simp
  handed := by simp
  failed := by simp
  groups := by simp

theorem trans
    {first second : Account}
    {before between after : Demultiplexer}
    (earlier : Settled first before between)
    (later : Settled second between after) :
    Settled (first + second) before after where
  messages := by
    rw [later.messages, earlier.messages, Account.received_add, UInt64.ofNat_add,
      UInt64.add_assoc]
  views := by
    rw [later.views, earlier.views, Account.views_add, UInt64.ofNat_add, UInt64.add_assoc]
  handed := by
    rw [later.handed, earlier.handed, Account.handed_add, UInt64.ofNat_add, UInt64.add_assoc]
  failed := by
    rw [later.failed, earlier.failed, Account.failed_add, UInt64.ofNat_add, UInt64.add_assoc]
  groups := by
    rw [later.groups, earlier.groups, Account.groups_add, Finset.union_assoc]

section Counting

/-! What a demultiplexer counts is what it owes. -/

variable (state : Demultiplexer) (messages : Nat)

/-- Messages are taken by counting them once, as routed, passed or missed. -/
theorem taking
    {change : DemultiplexerCounters → DemultiplexerCounters}
    (takes : (change state.counters).routed + (change state.counters).passedThrough +
        (change state.counters).misses =
      state.counters.routed + state.counters.passedThrough + state.counters.misses +
        UInt64.ofNat messages)
    (views : (change state.counters).broadcasts = state.counters.broadcasts)
    (handed : (change state.counters).batchesSplit = state.counters.batchesSplit)
    (failed : (change state.counters).batchFailures = state.counters.batchFailures) :
    Settled { received := messages } state
      { state with counters := change state.counters } where
  messages := takes
  views := by simp [views]
  handed := by simp [handed]
  failed := by simp [failed]
  groups := by simp

theorem route :
    Settled { received := messages } state
      { state with counters := state.counters.route messages } := by
  refine taking state messages ?_ rfl rfl rfl
  dsimp only [DemultiplexerCounters.route]
  ac_rfl

theorem pass :
    Settled { received := messages } state
      { state with counters := state.counters.pass messages } := by
  refine taking state messages ?_ rfl rfl rfl
  dsimp only [DemultiplexerCounters.pass]
  ac_rfl

theorem miss :
    Settled { received := messages } state
      { state with counters := state.counters.miss messages } := by
  refine taking state messages ?_ rfl rfl rfl
  dsimp only [DemultiplexerCounters.miss]
  ac_rfl

theorem tell : Settled { views := 1 } state { state with counters := state.counters.tell } where
  messages := by simp [DemultiplexerCounters.tell]
  views := rfl
  handed := by simp [DemultiplexerCounters.tell]
  failed := by simp [DemultiplexerCounters.tell]
  groups := by simp

theorem split :
    Settled { received := messages, handed := 1 } state
      { state with counters := state.counters.split messages } where
  messages := by
    dsimp only [DemultiplexerCounters.split]
    ac_rfl
  views := by simp [DemultiplexerCounters.split]
  handed := rfl
  failed := by simp [DemultiplexerCounters.split]
  groups := by simp

theorem fail : Settled { failed := 1 } state { state with counters := state.counters.fail } where
  messages := by simp [DemultiplexerCounters.fail]
  views := by simp [DemultiplexerCounters.fail]
  handed := by simp [DemultiplexerCounters.fail]
  failed := rfl
  groups := by simp

end Counting

end Settled

/-! ### Accounts of a demultiplexer -/

/-- If a stage is a demultiplexer then it stays one, and an account of it is settled. -/
def Store.Settles (hub : Ref .stage) (account : Account) (before after : Store) : Prop :=
  ∀ state, before.demultiplexer? hub = some state →
    ∃ left, after.demultiplexer? hub = some left ∧ Settled account state left

namespace Store.Settles

variable {hub : Ref .stage} {account : Account} {store before after : Store}

theorem of_same (same : after.demultiplexer? hub = before.demultiplexer? hub) :
    Settles hub 0 before after :=
  fun state found => ⟨state, same.trans found, .refl state⟩

theorem trans
    {between : Store}
    {first second : Account}
    (earlier : Settles hub first before between)
    (later : Settles hub second between after) :
    Settles hub (first + second) before after := by
  intro state found
  obtain ⟨passed, foundBetween, settledFirst⟩ := earlier state found
  obtain ⟨left, foundAfter, settledSecond⟩ := later passed foundBetween
  exact ⟨left, foundAfter, settledFirst.trans settledSecond⟩

theorem counting
    {change : DemultiplexerCounters → DemultiplexerCounters}
    (settles : ∀ state : Demultiplexer,
      Settled account state { state with counters := change state.counters })
    (store : Store) :
    Settles hub account store (store.counting hub change) := by
  intro state found
  have issued := issued_of_isSome_demultiplexer? (Option.isSome_iff_exists.mpr ⟨state, found⟩)
  refine ⟨_, ?_, settles state⟩
  unfold Store.counting modifyStage
  unfold demultiplexer? at found ⊢
  have role := demultiplexer?_eq_some.mp found
  rw [Table.get_modify_self issued]
  unfold Stage.counted Stage.demultiplexer?
  simp only [role]

/-- What came of a part of a batch is settled. -/
theorem settling (store : Store) (group : String) (outcome : Outcome) :
    Settles hub { failed := if Turn.isFailed ⟨group, some outcome⟩ then 1 else 0 } store
      (store.settling hub outcome) := by
  cases outcome with
  | ok done => exact of_same rfl
  | error refusal => exact counting Settled.fail store

end Store.Settles

/-! ### What a demultiplexer does with traffic -/

theorem Message.group?_of_routing
    {message : Message}
    {header : RoutingHeader}
    (routed : message.routing? = some header) :
    message.group? = header.group? := by
  unfold group?
  rw [routed, Option.bind_some]

namespace Traffic

theorem received_message (message : Message) :
    (single (.message message)).received =
      if message.routing?.isSome && message.group?.isNone then 0 else 1 := by
  unfold received isMalformed messages
  rw [List.any_cons, List.any_nil, Bool.or_false, List.length_singleton]

theorem isMalformed_batch_iff {batch : Batch} :
    (Traffic.batch batch).isMalformed = true ↔ ¬ batch.NamesGroups := by
  unfold isMalformed Batch.NamesGroups Traffic.messages
  simp [List.any_eq_true]

/-- What is taken of a batch that is not refused is in the parts for the groups, or is left. -/
theorem received_batch
    {batch : Batch}
    (named : batch.NamesGroups) :
    (Traffic.batch batch).received =
      (batch.parts.flatMap Prod.snd).length + batch.unrouted.length := by
  have fits : (Traffic.batch batch).isMalformed = false := by
    rw [Bool.eq_false_iff]
    exact fun malformed => isMalformed_batch_iff.mp malformed named
  have gathered : (batch.parts.flatMap Prod.snd).length =
      (batch.messages.filter fun message => message.routing?.isSome).length :=
    (Registry.gather_perm (fun message : Message => message.group?.getD "") _).length_eq
  have left : batch.unrouted =
      batch.messages.filter fun message => !message.routing?.isSome := by
    unfold Batch.unrouted
    simp
  unfold received
  rw [fits, gathered, left]
  exact List.length_eq_length_filter_add fun message : Message => message.routing?.isSome

end Traffic

namespace Delivery

variable {inner : Entrances} {hub : Ref .stage} {passUp : Traffic → Run Outcome}
  {before after : Store} {turns : List Turn} {handings : List Handing}
  {meanwhile : Handing → List Deed}

/-- Whatever the stacks are told, nothing is counted for it but what is in the ledgers. -/
theorem Rounds.settles
    {traffic : Traffic}
    {listed : List (Ref .stack)}
    (rounds : Rounds inner traffic listed before handings after)
    (settles : ∀ handing ∈ handings,
      Store.Settles hub (due (meanwhile handing)) handing.entered handing.left) :
    Store.Settles hub (due (handings.flatMap meanwhile)) before after := by
  induction rounds with
  | done => exact .of_same rfl
  | next enters onward inductionHypothesis =>
      obtain ⟨first, others⟩ := List.forall_mem_cons.mp settles
      rw [List.flatMap_cons, due_append]
      exact first.trans (inductionHypothesis others)

/-- What the turns of groups come to. -/
def turnsAccount (parts : List (String × List Message)) (turns : List Turn) : Account where
  received := (parts.flatMap Prod.snd).length
  handed := turns.countP Turn.isHanded
  failed := turns.countP Turn.isFailed

section Turns

variable (part : String × List Message) (rest : List (String × List Message))
  (turns : List Turn)

theorem turnsAccount_missed :
    turnsAccount (part :: rest) (⟨part.1, none⟩ :: turns) =
      { received := part.2.length } + turnsAccount rest turns := by
  ext <;> simp [turnsAccount, Turn.isHanded, Turn.isFailed]

theorem turnsAccount_handed (outcome : Outcome) :
    turnsAccount (part :: rest) (⟨part.1, some outcome⟩ :: turns) =
      { received := part.2.length, handed := 1 } +
        { failed := if Turn.isFailed ⟨part.1, some outcome⟩ then 1 else 0 } +
          turnsAccount rest turns := by
  ext <;> simp [turnsAccount, Turn.isHanded, List.countP_cons, Nat.add_comm]

end Turns

theorem Turns.settles
    {batch : Batch}
    {parts : List (String × List Message)}
    (split : Turns inner hub batch parts before turns handings after)
    (settles : ∀ handing ∈ handings,
      Store.Settles hub (due (meanwhile handing)) handing.entered handing.left) :
    Store.Settles hub (turnsAccount parts turns + due (handings.flatMap meanwhile)) before
      after := by
  induction split with
  | done => exact .of_same rfl
  | @missed part rest before after turns handings unregistered onward inductionHypothesis =>
      have counted : Store.Settles hub { received := part.2.length } before
          (before.counting hub (.miss part.2.length)) :=
        .counting (Settled.miss · part.2.length) before
      rw [turnsAccount_missed, add_assoc]
      exact counted.trans (inductionHypothesis settles)
  | @handed part rest stack before left after outcome turns handings registered enters onward
      inductionHypothesis =>
      obtain ⟨first, others⟩ := List.forall_mem_cons.mp settles
      have counted : Store.Settles hub { received := part.2.length, handed := 1 } before
          (before.counting hub (.split part.2.length)) :=
        .counting (Settled.split · part.2.length) before
      have whole := ((counted.trans first).trans (.settling left part.1 outcome)).trans
        (inductionHypothesis others)
      rw [turnsAccount_handed, List.flatMap_cons, due_append]
      convert whole using 1
      ac_rfl

theorem account_takes_message (message : Message) :
    (Deed.takes (.single (.message message)) []).account =
      { received := if message.routing?.isSome && message.group?.isNone then 0 else 1 } := by
  rw [← Traffic.received_message]
  rfl

/-- A batch that is not refused is owed what its groups have come to and what is left of it. -/
theorem account_takes_batch
    {batch : Batch}
    (named : batch.NamesGroups)
    (turns : List Turn) :
    (Deed.takes (.batch batch) turns).account =
      turnsAccount batch.parts turns + { received := batch.unrouted.length } := by
  ext <;> simp [Deed.account, turnsAccount, Traffic.received_batch named, Traffic.isView]

/-- A demultiplexer counts what it owes to the traffic that it takes, and nothing besides but
what it owes to what is done in the meantime. -/
theorem Takes.settles
    {traffic : Traffic}
    {outcome : Outcome}
    (took : Takes inner hub passUp traffic before turns handings outcome after)
    (settles : ∀ handing ∈ handings,
      Store.Settles hub (due (meanwhile handing)) handing.entered handing.left) :
    Store.Settles hub ((Deed.takes traffic turns).account + due (handings.flatMap meanwhile))
      before after := by
  cases took with
  | @passes message before after outcome plain passed =>
      have counted : Store.Settles hub { received := 1 } before (before.counting hub (.pass 1)) :=
        .counting (Settled.pass · 1) before
      have onward := settles _ (List.mem_singleton_self _)
      rw [account_takes_message, plain, List.flatMap_singleton]
      exact counted.trans onward
  | @refuses message header before routed nameless =>
      have named : message.group? = none := (Message.group?_of_routing routed).trans nameless
      rw [account_takes_message, routed, named]
      exact .of_same rfl
  | @routes message header group stack before after outcome routed named registered enters =>
      have isGroup : message.group? = some group := (Message.group?_of_routing routed).trans named
      have counted : Store.Settles hub { received := 1 } before
          (before.counting hub (.route 1)) :=
        .counting (Settled.route · 1) before
      have onward := settles _ (List.mem_singleton_self _)
      rw [account_takes_message, routed, isGroup, List.flatMap_singleton]
      exact counted.trans onward
  | @misses message header group before routed named unregistered =>
      have isGroup : message.group? = some group := (Message.group?_of_routing routed).trans named
      have counted : Store.Settles hub { received := 1 } before (before.counting hub (.miss 1)) :=
        .counting (Settled.miss · 1) before
      rw [account_takes_message, routed, isGroup]
      exact counted
  | @tells view before between after outcome handings told passed =>
      obtain ⟨within, last⟩ := List.forall_mem_append.mp settles
      have counted : Store.Settles hub { views := 1 } before (before.counting hub .tell) :=
        .counting Settled.tell before
      have onward := last _ (List.mem_singleton_self _)
      have whole := (counted.trans (told.settles within)).trans onward
      rw [List.flatMap_append, List.flatMap_singleton, due_append, ← add_assoc]
      exact whole
  | @lets event before after outcome noMessage noView passed =>
      have onward := settles _ (List.mem_singleton_self _)
      have nothing : (Deed.takes (.single event) []).account = 0 := by
        cases event with
        | message => cases noMessage
        | viewChange => cases noView
        | _ => rfl
      rw [nothing, zero_add, List.flatMap_singleton]
      exact onward
  | @refusesBatch batch before nameless =>
      have refused : (Traffic.batch batch).isMalformed = true :=
        Traffic.isMalformed_batch_iff.mpr nameless
      have nothing : (Deed.takes (.batch batch) []).account = 0 := by
        unfold Deed.account Traffic.received
        dsimp only
        rw [refused]
        rfl
      rw [nothing]
      exact .of_same rfl
  | @splits batch before after turns handings named split nothingLeft =>
      have whole := split.settles settles
      rw [account_takes_batch named, nothingLeft]
      exact whole
  | @splitsAndPasses batch before between after outcome turns handings named split left passed =>
      obtain ⟨within, last⟩ := List.forall_mem_append.mp settles
      have counted : Store.Settles hub { received := batch.unrouted.length } between
          (between.counting hub (.pass batch.unrouted.length)) :=
        .counting (Settled.pass · batch.unrouted.length) between
      have onward := last _ (List.mem_singleton_self _)
      have whole := ((split.settles within).trans counted).trans onward
      rw [account_takes_batch named, List.flatMap_append, List.flatMap_singleton, due_append]
      convert whole using 1
      ac_rfl

end Delivery

/-! ### The whole of a ledger -/

/-- Making a stack leaves the stages that there were as they are. -/
theorem Store.keeps_stages_makeStack
    (store : Store)
    (shared : Ref .pipeline)
    (hub : Ref .stage)
    (group : String)
    (stages : List (Ref .stage)) :
    Table.Keeps id store.stages (store.makeStack shared hub group stages).2.stages :=
  (Table.keeps_add _ _ _).trans (Table.keeps_add _ _ _)

namespace Ledger

variable {hub : Ref .stage} {before after : Store} {deeds : List Deed}

/-- Registering a group lists it, if it is not listed already, and counts nothing. -/
theorem settles_registers
    {shared : Ref .pipeline}
    {group : String}
    {stages : List (Ref .stage)}
    {requireFresh : Bool}
    {stack : Ref .stack}
    (ensured : before.ensureStack hub shared group stages requireFresh = .ok (stack, after)) :
    Store.Settles hub { groups := {group} } before after := by
  intro state found
  have issued := Store.issued_of_isSome_demultiplexer?
    (Option.isSome_iff_exists.mpr ⟨state, found⟩)
  rcases Store.ensureStack_cases ensured with ⟨registered, rfl, _⟩ | ⟨_, rfl, rfl⟩
  · have isName : group ∈ state.groups.names := by
      unfold Delivery.stackOf? at registered
      rw [found] at registered
      rw [Registry.mem_names_iff, Option.isSome_iff_exists]
      exact ⟨_, registered⟩
    refine ⟨state, found, ?_⟩
    exact { Settled.refl state with
      groups := by
        rw [Finset.union_eq_left.mpr]
        exact Finset.singleton_subset_iff.mpr (List.mem_toFinset.mpr isName) }
  · have made : (before.makeStack shared hub group stages).2.demultiplexer? hub = some state := by
      rw [← found]
      have keeps := Store.keeps_stages_makeStack before shared hub group stages
      exact congrArg Stage.demultiplexer? (keeps hub issued).2
    refine ⟨_, Store.demultiplexer?_eq_some.mpr (Store.role_registerStack_self made), ?_⟩
    exact { Settled.refl state with
      groups := by
        ext name
        simp [Registry.mem_names_put_iff, or_comm] }

/-- A demultiplexer counts and lists what its ledger comes to. -/
theorem settles (ledger : Ledger hub before deeds after) :
    Store.Settles hub (due deeds) before after := by
  induction ledger with
  | elsewhere same => exact .of_same same
  | append _ _ early late =>
      rw [due_append]
      exact early.trans late
  | registers ensured =>
      have registered := settles_registers ensured
      unfold due
      rw [List.map_singleton, List.sum_singleton]
      exact registered
  | takes took _ inductionHypothesis =>
      have whole := took.settles inductionHypothesis
      unfold due at whole ⊢
      rw [List.map_cons, List.sum_cons]
      exact whole

end Ledger

/-- No more parts of batches were handed to stacks that reported errors than to stacks. -/
theorem failed_le_handed (deeds : List Deed) : (due deeds).failed ≤ (due deeds).handed := by
  induction deeds with
  | nil => exact Nat.le_refl _
  | cons deed rest inductionHypothesis =>
      have each : deed.account.failed ≤ deed.account.handed := by
        cases deed with
        | registers group => exact Nat.le_refl _
        | takes traffic turns =>
            refine List.countP_mono_left fun turn _ failed => ?_
            obtain ⟨group, outcome?⟩ := turn
            cases outcome? with
            | none => cases failed
            | some outcome => rfl
      unfold due at inductionHypothesis ⊢
      rw [List.map_cons, List.sum_cons]
      exact Nat.add_le_add each inductionHypothesis

theorem Registry.size_eq_card {α : Type} (registry : Registry α) :
    registry.size = registry.names.toFinset.card := by
  rw [List.toFinset_card_of_nodup registry.names_nodup]
  exact (List.length_map _).symm

/-- Groups are registered for good. -/
theorem Settled.size_le
    {account : Account}
    {before after : Demultiplexer}
    (settled : Settled account before after) :
    before.groups.size ≤ after.groups.size := by
  rw [Registry.size_eq_card, Registry.size_eq_card, settled.groups]
  exact Finset.card_le_card Finset.subset_union_left

/-- A demultiplexer that has just been made has counted nothing and lists no groups. -/
theorem Settled.of_made
    {account : Account}
    {left : Demultiplexer}
    (settled : Settled account {} left) :
    left.counters.routed + left.counters.passedThrough + left.counters.misses =
        UInt64.ofNat account.received ∧
      left.counters.broadcasts = UInt64.ofNat account.views ∧
      left.counters.batchesSplit = UInt64.ofNat account.handed ∧
      left.counters.batchFailures = UInt64.ofNat account.failed ∧
      left.groups.size = account.groups.card := by
  refine ⟨settled.messages.trans (UInt64.zero_add _), settled.views.trans (UInt64.zero_add _),
    settled.handed.trans (UInt64.zero_add _), settled.failed.trans (UInt64.zero_add _), ?_⟩
  rw [Registry.size_eq_card, settled.groups]
  exact congrArg Finset.card (Finset.empty_union account.groups)

/-! ### Which groups have turns -/

namespace Delivery

variable {inner : Entrances} {hub : Ref .stage} {passUp : Traffic → Run Outcome}
  {before after : Store} {turns : List Turn} {handings : List Handing} {batch : Batch}
  {meanwhile : Handing → List Deed}

/-- What has been registered at a demultiplexer stays registered. -/
theorem isSome_stackOf?_of_settles
    {account : Account}
    {group : String}
    (settles : Store.Settles hub account before after)
    (registered : (stackOf? before hub group).isSome) :
    (stackOf? after hub group).isSome := by
  obtain ⟨stack, isStack⟩ := Option.isSome_iff_exists.mp registered
  obtain ⟨state, found, held⟩ := Option.bind_eq_some_iff.mp isStack
  obtain ⟨left, foundLater, settled⟩ := settles state found
  have named : group ∈ state.groups.names :=
    Registry.mem_names_iff.mpr (Option.isSome_iff_exists.mpr ⟨stack, held⟩)
  have namedLater : group ∈ left.groups.names := by
    rw [← List.mem_toFinset, settled.groups]
    exact Finset.mem_union_left _ (List.mem_toFinset.mpr named)
  unfold stackOf?
  rw [foundLater]
  exact Registry.mem_names_iff.mp namedLater

theorem Turns.map_group
    {parts : List (String × List Message)}
    (split : Turns inner hub batch parts before turns handings after) :
    turns.map Turn.group = parts.map Prod.fst := by
  induction split with
  | done => rfl
  | missed _ _ inductionHypothesis => rw [List.map_cons, List.map_cons, inductionHypothesis]
  | handed _ _ _ inductionHypothesis => rw [List.map_cons, List.map_cons, inductionHypothesis]

/-- The part for a group is handed to a stack if the group is registered before the batch comes
up, and only if it is afterwards. -/
theorem Turns.isHanded
    {parts : List (String × List Message)}
    (split : Turns inner hub batch parts before turns handings after)
    (settles : ∀ handing ∈ handings,
      Store.Settles hub (due (meanwhile handing)) handing.entered handing.left) :
    ∀ turn ∈ turns, ((stackOf? before hub turn.group).isSome → turn.isHanded = true) ∧
      (turn.isHanded = true → (stackOf? after hub turn.group).isSome) := by
  induction split with
  | done => exact List.forall_mem_nil _
  | @missed part rest before after turns handings unregistered onward inductionHypothesis =>
      have counted : Store.Settles hub { received := part.2.length } before
          (before.counting hub (.miss part.2.length)) :=
        .counting (Settled.miss · part.2.length) before
      refine List.forall_mem_cons.mpr ⟨⟨fun registered => ?_, fun handed => ?_⟩, fun turn member =>
        ⟨fun registered => ?_, (inductionHypothesis settles turn member).2⟩⟩
      · rw [unregistered] at registered
        cases registered
      · cases handed
      · exact (inductionHypothesis settles turn member).1
          (isSome_stackOf?_of_settles counted registered)
  | @handed part rest stack before left after outcome turns handings registered enters onward
      inductionHypothesis =>
      obtain ⟨first, others⟩ := List.forall_mem_cons.mp settles
      have counted : Store.Settles hub { received := part.2.length, handed := 1 } before
          (before.counting hub (.split part.2.length)) :=
        .counting (Settled.split · part.2.length) before
      have toRest := (counted.trans first).trans (.settling left part.1 outcome)
      have toEnd := toRest.trans (onward.settles others)
      refine List.forall_mem_cons.mpr ⟨⟨fun _ => rfl, fun _ => ?_⟩, fun turn member =>
        ⟨fun isRegistered => ?_, (inductionHypothesis others turn member).2⟩⟩
      · exact isSome_stackOf?_of_settles toEnd (Option.isSome_iff_exists.mpr ⟨stack, registered⟩)
      · exact (inductionHypothesis others turn member).1
          (isSome_stackOf?_of_settles toRest isRegistered)

/-- In a batch that is not refused each group that occurs has one turn. -/
theorem Takes.turns_of_named
    {outcome : Outcome}
    (took : Takes inner hub passUp (.batch batch) before turns handings outcome after)
    (named : batch.NamesGroups) :
    (turns.map Turn.group).Nodup ∧ ∀ group, group ∈ turns.map Turn.group ↔
      ∃ message ∈ batch.messages, message.group? = some group := by
  have groups : turns.map Turn.group = batch.parts.map Prod.fst := by
    cases took with
    | refusesBatch nameless => exact absurd named nameless
    | splits _ split => exact split.map_group
    | splitsAndPasses _ split => exact split.map_group
  rw [groups]
  refine ⟨Registry.names_nodup _, fun group => ?_⟩
  have isPart : group ∈ batch.parts.map Prod.fst ↔ batch.groupShare group ≠ [] := by
    rw [List.mem_map]
    constructor
    · rintro ⟨⟨_, part⟩, listed, rfl⟩
      obtain ⟨rfl, notEmpty⟩ := (Batch.mem_parts_iff named).mp listed
      exact notEmpty
    · exact fun notEmpty => ⟨_, (Batch.mem_parts_iff named).mpr ⟨rfl, notEmpty⟩, rfl⟩
  rw [isPart, ← List.length_pos_iff, List.length_pos_iff_exists_mem]
  simp [Batch.groupShare]

/-- So it is with all turns in a batch. -/
theorem Takes.isHanded
    {outcome : Outcome}
    (took : Takes inner hub passUp (.batch batch) before turns handings outcome after)
    (settles : ∀ handing ∈ handings,
      Store.Settles hub (due (meanwhile handing)) handing.entered handing.left) :
    ∀ turn ∈ turns, ((stackOf? before hub turn.group).isSome → turn.isHanded = true) ∧
      (turn.isHanded = true → (stackOf? after hub turn.group).isSome) := by
  cases took with
  | refusesBatch => exact List.forall_mem_nil _
  | splits _ split => exact split.isHanded settles
  | @splitsAndPasses _ _ between _ _ _ _ named split left passed =>
      obtain ⟨within, last⟩ := List.forall_mem_append.mp settles
      have counted : Store.Settles hub { received := batch.unrouted.length } between
          (between.counting hub (.pass batch.unrouted.length)) :=
        .counting (Settled.pass · batch.unrouted.length) between
      have toEnd := counted.trans (last _ (List.mem_singleton_self _))
      intro turn member
      obtain ⟨early, late⟩ := split.isHanded within turn member
      exact ⟨early, fun handed => isSome_stackOf?_of_settles toEnd (late handed)⟩

/-- What is refused is not counted, nothing of it is handed on, and it is reported. -/
theorem Takes.of_isMalformed
    {traffic : Traffic}
    {outcome : Outcome}
    (took : Takes inner hub passUp traffic before turns handings outcome after)
    (malformed : traffic.isMalformed = true) :
    turns = [] ∧ handings = [] ∧ after = before ∧
      ((∃ header, outcome = .error (.groupMissing header)) ∨
        ∃ sender, outcome = .error (.groupMissingInBatch sender)) := by
  cases took with
  | refuses => exact ⟨rfl, rfl, rfl, Or.inl ⟨_, rfl⟩⟩
  | refusesBatch => exact ⟨rfl, rfl, rfl, Or.inr ⟨_, rfl⟩⟩
  | passes plain => simp [Traffic.isMalformed, Traffic.messages, plain] at malformed
  | routes routed named =>
      have isGroup := (Message.group?_of_routing routed).trans named
      simp [Traffic.isMalformed, Traffic.messages, isGroup] at malformed
  | misses routed named =>
      have isGroup := (Message.group?_of_routing routed).trans named
      simp [Traffic.isMalformed, Traffic.messages, isGroup] at malformed
  | tells => cases malformed
  | @lets event _ _ _ noMessage =>
      cases event with
      | message => cases noMessage
      | _ => cases malformed
  | splits named => exact absurd named (Traffic.isMalformed_batch_iff.mp malformed)
  | splitsAndPasses named => exact absurd named (Traffic.isMalformed_batch_iff.mp malformed)

end Delivery

end ChannelMux
