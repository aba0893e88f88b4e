import ChannelMux.Proofs.Delivery.Conveyance
import ChannelMux.Proofs.Delivery.Moving
import ChannelMux.Proofs.Delivery.Simulation

/-!
Contract: judging everything that runs.

Owns the single changes of which all runs are made: a discipline that allows for each of them
judges whatever travels and is called, to every depth, if stores agree only when they are the
same; it may judge what demultiplexers do as a whole instead of what they count. Owns that what
finishes within some depth comes to the same within every greater one.
-/

namespace ChannelMux

namespace Discipline

/-- Everything that is entered from within can be judged. -/
structure Covers (discipline : Discipline) (inner other : Entrances) : Prop where
  travel : ∀ journey, discipline.judges (inner.travel journey) (other.travel journey)
  call : ∀ operation, discipline.judges (inner.call operation) (other.call operation)

/-- The discipline allows for every single change that is made along a run, but for what
demultiplexers count. -/
structure Tolerates (discipline : Discipline) : Prop where
  same : ∀ {left right}, discipline.agrees left right → left = right
  records : ∀ stage entry,
    discipline.judges (Run.recordStage stage entry) (Run.recordStage stage entry)
  hears : ∀ agent entry,
    discipline.judges (Run.recordAgent agent entry) (Run.recordAgent agent entry)
  changesNode : ∀ node change, (∀ record, Node.still (change record) = record.still) →
    discipline.judges
      (MonadState.modifyGet fun store : Store => ((), store.modifyNode node change))
      (MonadState.modifyGet fun store : Store => ((), store.modifyNode node change))
  changesFork : ∀ fork change, (∀ record, Fork.still (change record) = record.still) →
    discipline.judges
      (MonadState.modifyGet fun store : Store => ((), store.modifyFork fork change))
      (MonadState.modifyGet fun store : Store => ((), store.modifyFork fork change))
  puts : ∀ network name cluster,
    discipline.judges
      (MonadState.modifyGet fun store : Store => ((), store.putCluster network name cluster))
      (MonadState.modifyGet fun store : Store => ((), store.putCluster network name cluster))

/-- The discipline allows for every single change that is made along a run. -/
structure Allows (discipline : Discipline) : Prop extends Tolerates discipline where
  counts : ∀ stage change, discipline.judges (Run.count stage change) (Run.count stage change)

namespace Tolerates

variable {discipline : Discipline} (tolerates : discipline.Tolerates)

include tolerates

section Entered

variable {inner other : Entrances} (covers : discipline.Covers inner other)

include covers

theorem tell (agent : Ref .agent) (notice : Notice) :
    discipline.judges (Delivery.tell inner agent notice) (Delivery.tell other agent notice) :=
  discipline.tell (fun _ agrees => .of_eq (tolerates.same agrees))
    (fun _ operation _ _ => covers.call operation)
    (fun _ agrees => by rw [tolerates.same agrees]) (tolerates.hears agent) notice

theorem hand (receiver? : Option (Ref .agent)) (traffic : Traffic) :
    discipline.judges (Delivery.hand inner receiver? traffic)
      (Delivery.hand other receiver? traffic) := by
  cases receiver? with
  | none => exact discipline.pure _
  | some agent => exact tolerates.tell covers agent (.up traffic)

theorem carries : discipline.Carries inner other True where
  same := tolerates.same
  conducts _ _ := Or.inl trivial
  records := tolerates.records
  carries node change unseen := by
    refine tolerates.changesNode node change fun record => ?_
    have same := congrArg Node.still (unseen record)
    exact same
  hands _ _ _ _ := discipline.look (fun _ agrees => by rw [tolerates.same agrees])
    fun _ => tolerates.hand covers _ _
  leavesTop _ _ _ := discipline.look (fun _ agrees => by rw [tolerates.same agrees])
    fun _ => tolerates.hand covers _ _
  leavesBottom _ _ _ := tolerates.tell covers _ _
  leads journey _ := covers.travel journey

theorem moves : discipline.Moves inner other where
  tables _ agrees := .of_eq (tolerates.same agrees)
  changesNode := tolerates.changesNode
  changesFork := tolerates.changesFork
  puts := tolerates.puts
  tells agent notice := discipline.ignore (tolerates.tell covers agent notice)
  climbs _ _ _ _ _ := discipline.ignore (covers.travel _)

/-- What is called can be judged if the rounds can be by which listeners are told of statuses. -/
theorem callBy
    {round beside : Delivery.Round}
    (rounds : ∀ node entered, discipline.judges (round node entered) (beside node entered))
    (operation : Operation) :
    discipline.judges (Delivery.callBy round inner operation)
      (Delivery.callBy beside other operation) := by
  have moves := tolerates.moves covers
  cases operation with
  | sendFork fork message =>
      refine discipline.look (fun _ agrees => by rw [tolerates.same agrees]) fun _ => ?_
      split
      · exact discipline.look (fun _ agrees => by rw [tolerates.same agrees]) fun _ =>
          discipline.bind (covers.travel _) fun _ => discipline.pure _
      · exact discipline.pure _
  | sendNode node message =>
      exact discipline.look (fun _ agrees => by rw [tolerates.same agrees]) fun _ =>
        discipline.bind (covers.travel _) fun _ => discipline.pure _
  | connect node name =>
      exact discipline.bind (moves.connectBy rounds node name) fun _ => discipline.pure _
  | disconnect node =>
      exact discipline.bind (moves.disconnectBy rounds node) fun _ => discipline.pure _
  | close node =>
      exact discipline.bind (moves.closeBy rounds node) fun _ => discipline.pure _

theorem call (operation : Operation) :
    discipline.judges (Delivery.call inner operation) (Delivery.call other operation) := by
  rw [Delivery.call_eq_callBy inner, Delivery.call_eq_callBy other]
  exact tolerates.callBy covers (tolerates.moves covers).tellListeners operation

end Entered

/-- If runs that go too deep can be judged anyway, and what demultiplexers do can be, then
everything can be at every depth. -/
theorem covers_within
    (halts : ∀ {α : Type} {other : Run α}, discipline.judges (fun _ => none) other)
    (demultiplexes : ∀ {inner other : Entrances}, discipline.Covers inner other →
      ∀ stage {passUp passOther : Traffic → Run Outcome} {traffic : Traffic},
        (∀ traffic : Traffic, traffic.Matters True →
          discipline.judges (passUp traffic) (passOther traffic)) →
        traffic.Matters True →
          discipline.judges (Delivery.demultiplex inner stage passUp traffic)
            (Delivery.demultiplex other stage passOther traffic))
    (slack depth : Nat) :
    discipline.Covers (Entrances.within depth) (Entrances.within (depth + slack)) := by
  induction depth with
  | zero => exact ⟨fun _ => halts, fun _ => halts⟩
  | succ depth inductionHypothesis =>
      rw [Nat.succ_add]
      have carries := tolerates.carries inductionHypothesis
      exact ⟨fun journey =>
          carries.travel (demultiplexes inductionHypothesis) journey (Or.inl trivial),
        tolerates.call inductionHypothesis⟩

end Tolerates

theorem Allows.conveys
    {discipline : Discipline}
    (allows : discipline.Allows)
    {inner other : Entrances}
    (covers : discipline.Covers inner other) :
    discipline.Conveys inner other True where
  toCarries := allows.carries covers
  counts := allows.counts

/-- If runs that go too deep can be judged anyway, everything can be at every depth. -/
theorem Allows.covers_within
    {discipline : Discipline}
    (allows : discipline.Allows)
    (halts : ∀ {α : Type} {other : Run α}, discipline.judges (fun _ => none) other)
    (slack depth : Nat) :
    discipline.Covers (Entrances.within depth) (Entrances.within (depth + slack)) := by
  refine allows.toTolerates.covers_within halts (fun covers stage _ _ _ => ?_) slack depth
  have lifts : discipline.Lifts _ _ True fun _ => True :=
    (allows.carries covers).lifts fun stage change _ => allows.counts stage change
  exact lifts.demultiplex trivial (allows.counts stage)

end Discipline

/-! ### Going deeper -/

/-- Runs are judged by whether the other one comes to the same, if they finish. -/
def deepening : Discipline := simulation (fun _ => True) Eq

theorem deepening_self {α : Type} (run : Run α) : deepening.judges run run := by
  rintro left _ value after _ rfl finished
  exact ⟨trivial, after, finished, rfl⟩

theorem deepening_allows : deepening.Allows where
  same agrees := agrees
  records _ _ := deepening_self _
  counts _ _ := deepening_self _
  hears _ _ := deepening_self _
  changesNode _ _ _ := deepening_self _
  changesFork _ _ _ := deepening_self _
  puts _ _ _ := deepening_self _

/-- What has been called and finishes within some depth comes to the same within a greater
one. -/
theorem Entrances.call_within_mono
    {depth greater : Nat}
    (deeper : depth ≤ greater)
    {operation : Operation}
    {before after : Store}
    {reply : Reply}
    (finished : (within depth).call operation before = some (reply, after)) :
    (within greater).call operation before = some (reply, after) := by
  obtain ⟨slack, rfl⟩ := Nat.exists_eq_add_of_le deeper
  obtain ⟨_, _, ran, rfl⟩ := (deepening_allows.covers_within (Simulates.none _) slack depth).call
    operation before before reply after trivial rfl finished
  exact ran

end ChannelMux
