import ChannelMux.Proofs.Batch.SharingOut
import ChannelMux.Proofs.Batch.Ledger
import ChannelMux.Proofs.Delivery.Counting
import ChannelMux.Proofs.Delivery.FanOut

/-!
Contract: what demultiplexers and nodes count, one thing after the other.

Owns the charges, which are the single things that are counted, what they come to in the counters
of each demultiplexer and node, and the runs that are charged for a list of things wherever they
begin. Owns what is charged for a message or view that comes up to a node with a demultiplexer
among passive agents, if the stages on its way are transparent.

Does not own who is told of what comes up.
-/

namespace ChannelMux

variable {α β : Type}

/-- The counters of a demultiplexer with one more mark. -/
def Mark.add (mark : Mark) (counters : DemultiplexerCounters) : DemultiplexerCounters :=
  match mark with
  | .routed => counters.route 1
  | .passedThrough => counters.pass 1
  | .missed => counters.miss 1

/-- A single thing that is counted. -/
inductive Charge where
  /-- A demultiplexer takes a message. -/
  | marked (hub : Ref .stage) (mark : Mark)
  /-- A demultiplexer tells its groups of a view. -/
  | broadcast (hub : Ref .stage)
  /-- A node sends a message with a payload of so many octets. -/
  | sent (node : Ref .node) (octets : Nat)
  /-- A node receives one. -/
  | received (node : Ref .node) (octets : Nat)
deriving DecidableEq

namespace Charge

/-- The counters of a demultiplexer after something has been counted. -/
def atHub (hub : Ref .stage) (counters : DemultiplexerCounters) : Charge → DemultiplexerCounters
  | .marked other mark => if other = hub then mark.add counters else counters
  | .broadcast other => if other = hub then counters.tell else counters
  | .sent _ _ => counters
  | .received _ _ => counters

/-- The counters of a node after something has been counted. -/
def atNode (node : Ref .node) (counters : TrafficCounters) : Charge → TrafficCounters
  | .sent other octets => if other = node then counters.send octets else counters
  | .received other octets => if other = node then counters.receive octets else counters
  | .marked _ _ => counters
  | .broadcast _ => counters

/-- How many octets a node has been charged for as sent, if this is charged to it. -/
def sentBy? (node : Ref .node) : Charge → Option Nat
  | .sent other octets => if other = node then some octets else none
  | _ => none

/-- How many octets a node has been charged for as received, if this is charged to it. -/
def receivedBy? (node : Ref .node) : Charge → Option Nat
  | .received other octets => if other = node then some octets else none
  | _ => none

/-- What charges come to at a demultiplexer. -/
def totalAtHub (hub : Ref .stage) (charges : List Charge) : DemultiplexerCounters where
  routed := .ofNat (charges.count (.marked hub .routed))
  passedThrough := .ofNat (charges.count (.marked hub .passedThrough))
  misses := .ofNat (charges.count (.marked hub .missed))
  broadcasts := .ofNat (charges.count (.broadcast hub))

/-- What charges come to at a node. -/
def totalAtNode (node : Ref .node) (charges : List Charge) : TrafficCounters where
  messagesSent := .ofNat (charges.filterMap (sentBy? node)).length
  messagesReceived := .ofNat (charges.filterMap (receivedBy? node)).length
  octetsSent := .ofNat (charges.filterMap (sentBy? node)).sum
  octetsReceived := .ofNat (charges.filterMap (receivedBy? node)).sum

/-- Where nothing had been counted, it has been counted what the charges come to. -/
theorem foldl_atHub (hub : Ref .stage) (charges : List Charge) :
    charges.foldl (atHub hub) {} = totalAtHub hub charges := by
  induction charges using List.reverseRecOn with
  | nil => rfl
  | append_singleton charges charge inductionHypothesis =>
      rw [List.foldl_concat, inductionHypothesis]
      unfold totalAtHub
      cases charge with
      | marked other mark =>
          by_cases same : other = hub
          · cases mark <;>
              simp [atHub, Mark.add, DemultiplexerCounters.route, DemultiplexerCounters.pass,
                DemultiplexerCounters.miss, same]
          · simp [atHub, same]
      | broadcast other =>
          by_cases same : other = hub
          · simp [atHub, DemultiplexerCounters.tell, same]
          · simp [atHub, same]
      | sent node octets => simp [atHub]
      | received node octets => simp [atHub]

theorem foldl_atNode (node : Ref .node) (charges : List Charge) :
    charges.foldl (atNode node) {} = totalAtNode node charges := by
  induction charges using List.reverseRecOn with
  | nil => rfl
  | append_singleton charges charge inductionHypothesis =>
      rw [List.foldl_concat, inductionHypothesis]
      unfold totalAtNode
      rw [List.filterMap_append, List.filterMap_append]
      cases charge with
      | sent other octets =>
          by_cases same : other = node
          · simp [atNode, List.filterMap_cons, sentBy?, receivedBy?, TrafficCounters.send, same]
          · simp [atNode, List.filterMap_cons, sentBy?, receivedBy?, same]
      | received other octets =>
          by_cases same : other = node
          · simp [atNode, List.filterMap_cons, sentBy?, receivedBy?, TrafficCounters.receive, same]
          · simp [atNode, List.filterMap_cons, sentBy?, receivedBy?, same]
      | marked hub mark => simp [atNode, List.filterMap_cons, sentBy?, receivedBy?]
      | broadcast hub => simp [atNode, List.filterMap_cons, sentBy?, receivedBy?]

end Charge

namespace Store

/-- Between two stores these things have been counted, and the skeleton is still the same. -/
structure Charged (charges : List Charge) (before after : Store) : Prop where
  skeleton : after.skeleton = before.skeleton
  hubs : ∀ hub state, before.demultiplexer? hub = some state → after.demultiplexer? hub =
    some { state with counters := charges.foldl (Charge.atHub hub) state.counters }
  nodes : ∀ node, before.nodes.Issued node → (after.nodes.get node).counters =
    charges.foldl (Charge.atNode node) (before.nodes.get node).counters

namespace Charged

variable {before between after : Store} {first second : List Charge}

theorem trans (earlier : Charged first before between) (later : Charged second between after) :
    Charged (first ++ second) before after where
  skeleton := later.skeleton.trans earlier.skeleton
  hubs hub state found := by
    rw [later.hubs hub _ (earlier.hubs hub state found), List.foldl_append]
  nodes node issued := by
    rw [later.nodes node ((issued_node_iff earlier.skeleton node).mpr issued),
      earlier.nodes node issued, List.foldl_append]

/-- Nothing has been counted. -/
theorem nothing
    (skeleton : after.skeleton = before.skeleton)
    (roles : ∀ stage, (after.stages.get stage).role = (before.stages.get stage).role)
    (nodes : ∀ node, (after.nodes.get node).counters = (before.nodes.get node).counters) :
    Charged [] before after where
  skeleton := skeleton
  hubs hub _ found :=
    demultiplexer?_eq_some.mpr ((roles hub).trans (demultiplexer?_eq_some.mp found))
  nodes node _ := nodes node

theorem refl (store : Store) : Charged [] store store :=
  nothing rfl (fun _ => rfl) fun _ => rfl

theorem of_countsNothing (nothing : CountsNothing before after) : Charged [] before after :=
  Charged.nothing nothing.skeleton nothing.roles fun node => by rw [nothing.nodes]

theorem marked (store : Store) (hub : Ref .stage) (mark : Mark) :
    Charged [.marked hub mark] store (store.counting hub mark.add) where
  skeleton := skeleton_eq_of_shape_eq (shape_count store hub mark.add)
  hubs other state found := by
    have issued := issued_of_isSome_demultiplexer? (Option.isSome_iff_exists.mpr ⟨state, found⟩)
    rw [demultiplexer?_eq_some] at found ⊢
    rw [List.foldl_cons, List.foldl_nil, Charge.atHub]
    unfold counting modifyStage
    by_cases same : hub = other
    · subst same
      rw [if_pos rfl, Table.get_modify_self issued]
      unfold Stage.counted
      rw [found]
    · rw [if_neg same, Table.get_modify_of_ne (Ne.symm same)]
      exact found
  nodes node _ := rfl

theorem broadcast {hub : Ref .stage} (counts : CountsBroadcast hub before after) :
    Charged [.broadcast hub] before after where
  skeleton := counts.skeleton
  hubs other state found := by
    rw [List.foldl_cons, List.foldl_nil, Charge.atHub]
    by_cases same : hub = other
    · subst same
      rw [if_pos rfl]
      exact counts.counted state found
    · rw [if_neg same]
      exact demultiplexer?_eq_some.mpr
        ((counts.others other (Ne.symm same)).trans (demultiplexer?_eq_some.mp found))
  nodes node _ := by
    rw [counts.nodes]
    rfl

/-- Nothing has become of nodes but that one has counted something. -/
theorem of_modifyNode
    {node : Ref .node}
    {change : Node → Node}
    (charge : Charge)
    (still : ∀ record, (change record).still = record.still)
    (counts : ∀ record, (change record).counters = charge.atNode node record.counters)
    (others : ∀ other counters, other ≠ node → charge.atNode other counters = counters)
    (unseen : ∀ hub counters, charge.atHub hub counters = counters)
    (store : Store) :
    Charged [charge] store (store.modifyNode node change) where
  skeleton := skeleton_modifyNode still store node
  hubs hub state found := by
    rw [List.foldl_cons, List.foldl_nil, unseen]
    exact found
  nodes other issued := by
    rw [List.foldl_cons, List.foldl_nil]
    unfold modifyNode
    by_cases same : other = node
    · subst same
      rw [Table.get_modify_self issued, counts]
    · rw [Table.get_modify_of_ne same, others other _ same]

theorem sent (store : Store) (node : Ref .node) (octets : Nat) :
    Charged [.sent node octets] store (store.countSent node octets) := by
  apply of_modifyNode
  · exact fun _ => rfl
  · exact fun _ => (if_pos rfl).symm
  · exact fun _ _ different => if_neg different.symm
  · exact fun _ _ => rfl

theorem received (store : Store) (node : Ref .node) (octets : Nat) :
    Charged [.received node octets] store (store.modifyNode node (Node.receive octets)) := by
  apply of_modifyNode
  · exact fun _ => rfl
  · exact fun _ => (if_pos rfl).symm
  · exact fun _ _ different => if_neg different.symm
  · exact fun _ _ => rfl

end Charged

end Store

/-- The pipeline of a node is made of transparent stages and, once, a demultiplexer. -/
structure Store.ClearWay (store : Store) (node : Ref .node) (hub : Ref .stage) : Prop where
  layers : ∃ below above, store.stagesOf (store.nodes.get node).pipeline =
    below ++ hub :: above ∧ ∀ stage ∈ below ++ above, store.IsTransparent stage
  wired : store.HubWired (store.nodes.get node).pipeline hub

theorem Store.IsTransparent.isCustom
    {store : Store}
    {stage : Ref .stage}
    (transparent : store.IsTransparent stage) :
    store.IsCustom stage := by
  obtain ⟨conduct, role, _⟩ := transparent
  exact ⟨conduct, role⟩

/-! ### Runs that are charged for -/

/-- From every store of this skeleton the run finishes, and these things are counted. -/
def Charges (base : Store) (run : Run α) (charges : List Charge) : Prop :=
  ∀ before, before.skeleton = base.skeleton →
    ∃ value after, run before = some (value, after) ∧ Store.Charged charges before after

namespace Charges

variable {base : Store} {first second charges : List Charge}

theorem pure (value : α) : Charges base (Pure.pure value) [] :=
  fun before _ => ⟨value, before, rfl, Store.Charged.refl before⟩

theorem bind
    {run : Run α}
    {next : α → Run β}
    (earlier : Charges base run first)
    (later : ∀ value, Charges base (next value) second) :
    Charges base (run >>= next) (first ++ second) := by
  intro before known
  obtain ⟨passed, between, ran, charged⟩ := earlier before known
  obtain ⟨value, after, onward, chargedOn⟩ :=
    later passed between (charged.skeleton.trans known)
  refine ⟨value, after, ?_, charged.trans chargedOn⟩
  rw [Run.bind_apply, ran]
  exact onward

theorem get
    {next : Store → Run β}
    (each : ∀ store, store.skeleton = base.skeleton → Charges base (next store) charges) :
    Charges base (MonadState.get >>= next) charges :=
  fun before known => each before known before known

theorem modify
    {change : Store → Store}
    (charged : ∀ store, Store.Charged charges store (change store)) :
    Charges base (MonadState.modifyGet fun store : Store => ((), change store)) charges :=
  fun before _ => ⟨(), change before, rfl, charged before⟩

theorem ignore {run : Run α} (charged : Charges base run charges) :
    Charges base run.ignore charges := by
  rw [← List.append_nil charges]
  exact charged.bind fun _ => pure ()

theorem forM
    {items : List α}
    {action : α → Run Unit}
    {each : α → List Charge}
    (charged : ∀ item ∈ items, Charges base (action item) (each item)) :
    Charges base (items.forM action) (items.flatMap each) := by
  induction items with
  | nil => exact pure ()
  | cons item rest inductionHypothesis =>
      exact (charged item List.mem_cons_self).bind fun _ => inductionHypothesis
        fun other member => charged other (List.mem_cons_of_mem _ member)

/-- A run of which nothing is counted is charged for nothing. -/
theorem of_uncounted {run : Run α} (uncounted : (uncountedRule base).Completes run) :
    Charges base run [] := by
  intro before known
  obtain ⟨value, after, ran, nothing⟩ := uncounted before known
  exact ⟨value, after, ran, .of_countsNothing nothing⟩

/-- Whoever forwards to a run is charged for the same things. -/
theorem of_forwards
    {run onward : Run α}
    (forwards : Forwards base run onward)
    (charged : Charges base onward charges) :
    Charges base run charges := by
  intro before known
  obtain ⟨between, recorded, alike⟩ := forwards before known
  have opened := Store.Charged.of_countsNothing (.of_unrecorded recorded)
  obtain ⟨value, left, ran, chargedOn⟩ := charged between (opened.skeleton.trans known)
  obtain ⟨after, finishes, closed⟩ := alike.finishes ran
  have whole := (opened.trans chargedOn).trans (.of_countsNothing (.of_unrecorded closed))
  rw [List.nil_append, List.append_nil] at whole
  exact ⟨value, after, finishes, whole⟩

/-! ### What comes up to a node -/

variable {shared : Ref .pipeline} {hub : Ref .stage} {depth : Nat}

/-- A message without a routing header is counted and goes on up, and one with a header is
counted and enters the stack of its group, if there is one. -/
theorem route
    {message : Message}
    {passUp : Traffic → Run Outcome}
    (wired : base.HubWired shared hub)
    (passive : base.Passive)
    (named : message.routing?.isSome = true → message.group?.isSome = true)
    (passes : Charges base (passUp (.single (.message message))) []) :
    Charges base (Delivery.route (Entrances.within (depth + 1)) hub passUp message)
      [.marked hub (base.markOf hub message)] := by
  have counts (mark : Mark) : Charges base (Run.count hub mark.add) [.marked hub mark] :=
    modify fun store => Store.Charged.marked store hub mark
  unfold Delivery.route Store.markOf
  cases routed : message.routing? with
  | none => exact (counts .passedThrough).bind fun _ => passes
  | some header =>
      obtain ⟨group, isGroup⟩ := Option.isSome_iff_exists.mp (named (by rw [routed]; rfl))
      have names : header.group? = some group := by
        unfold Message.group? at isGroup
        rwa [routed] at isGroup
      dsimp only
      rw [names, isGroup, Option.bind_some]
      refine get fun store known => ?_
      rw [Store.stackOf?_of_bare_eq (Store.bare_role_eq known hub)]
      cases registered : Delivery.stackOf? base hub group with
      | none => exact (counts .missed).bind fun _ => pure _
      | some stack =>
          have enters := of_uncounted ((uncountedRule_attends base).completes_enterStack passive
            (wired.layout group stack registered) depth (.single (.message message)))
          exact (counts .routed).bind fun _ => enters

section Node

variable {node : Ref .node} (clear : base.ClearWay node hub) (passive : base.Passive)

include clear passive

/-- What comes up to a node comes to its demultiplexer as it is, and is charged for what is
counted there: nothing is counted further up. -/
theorem climb
    {traffic : Traffic}
    (takes : ∀ passUp : Traffic → Run Outcome,
      (∀ passed : Traffic, Charges base (passUp passed) []) →
        Charges base (Delivery.demultiplex (Entrances.within (depth + 1)) hub passUp traffic)
          charges) :
    Charges base (Delivery.travel (Entrances.within (depth + 1))
      (.up (base.nodes.get node).pipeline traffic)) charges := by
  obtain ⟨below, above, layers, transparent⟩ := clear.layers
  have attends := uncountedRule_attends base
  have lifts : (uncountedRule base).completion.Lifts (Entrances.within (depth + 1))
      (Entrances.within (depth + 1)) True (· ∈ above) :=
    Discipline.lifts_of_plain (fun holds => attends.known holds) Eq.symm
      (fun stage member => Or.inl (transparent stage (List.mem_append_right _ member)).isCustom)
      fun stage entry _ => attends.completes_recordStage stage entry
  have rises (passed : Traffic) : Charges base
      (Delivery.ascend (Entrances.within (depth + 1)) (base.nodes.get node).pipeline above passed)
      [] :=
    of_uncounted (lifts.ascend
      (fun handed _ => attends.completes_leaveTop passive _ handed)
      (fun _ member => member) (Or.inl trivial))
  exact of_forwards (Store.forwards_demultiplex clear.wired.isHub layers
    (fun stage member => transparent stage (List.mem_append_left _ member)) _ traffic)
    (takes _ rises)

/-- A message that comes up to a node is counted once. -/
theorem climb_message
    {message : Message}
    (named : message.routing?.isSome = true → message.group?.isSome = true) :
    Charges base (Delivery.travel (Entrances.within (depth + 1))
      (.up (base.nodes.get node).pipeline (.single (.message message))))
      [.marked hub (base.markOf hub message)] :=
  climb clear passive fun _ passes => route clear.wired passive named (passes _)

/-- So is a view. -/
theorem climb_view (view : View) :
    Charges base (Delivery.travel (Entrances.within (depth + 1))
      (.up (base.nodes.get node).pipeline (.single (.viewChange view)))) [.broadcast hub] := by
  refine climb clear passive fun passUp passes => ?_
  change Charges base (Delivery.broadcast _ hub passUp _) _
  rw [Delivery.broadcast_eq, ← List.append_nil [Charge.broadcast hub]]
  refine Charges.bind (fun before known => ?_) fun _ => passes _
  obtain ⟨after, fans, counts⟩ := clear.wired.fanOut_counts passive depth view known
  exact ⟨(), after, fans, .broadcast counts⟩

/-- A message that arrives at a node is counted by the node and by its demultiplexer. -/
theorem receive
    {message : Message}
    (named : message.routing?.isSome = true → message.group?.isSome = true) :
    Charges base
      (Delivery.receive (Entrances.within (depth + 2)) node (.single (.message message)))
      [.received node message.payload.length, .marked hub (base.markOf hub message)] := by
  refine (modify fun store => Store.Charged.received store node message.payload.length).bind
    fun _ => get fun store known => ?_
  dsimp only
  rw [Store.nodePipeline_eq known]
  exact climb_message clear passive named

end Node

end Charges

end ChannelMux
