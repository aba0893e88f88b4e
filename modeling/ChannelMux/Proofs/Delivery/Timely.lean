import ChannelMux.Proofs.Delivery.Skeleton

/-!
Contract: listeners that are told in time.

Owns the runs that break off before a listener under watch is told of a status which its node
has left since it was entered. Owns that such a run, if it finishes, comes to what the same run
comes to without the watch, so that what governs the one governs the other.

A listener that is told of a status may call an operation by which the node enters another one.
Everyone is told of that one first, and those who come after the listener are told of the former
status only then, when it is not that of the node any more.
-/

namespace ChannelMux

/-- What is watched: that a listener is told of the statuses of a node. -/
structure Watch where
  node : Ref .node
  listener : Listener
deriving DecidableEq, Repr

namespace Delivery

/-- Tells a listener that a node entered a status. If the listener is under watch and the node
has left the status since, the run breaks off instead. -/
def tellListenerInTime (inner : Entrances) (watch : Watch) (node : Ref .node) (entered : Status)
    (listener : Listener) : Run Unit := do
  let now ← Run.look fun store => (store.nodes.get node).status
  if watch = { node := node, listener := listener } ∧ now ≠ entered then failure
  else tellListener inner node entered listener

def tellListenersInTime (inner : Entrances) (watch : Watch) : Round := fun node entered => do
  let listeners ← Run.look fun store => (store.nodes.get node).listeners
  listeners.forM fun entry => tellListenerInTime inner watch node entered entry.2

end Delivery

namespace Entrances

/-- The entrances that may be entered within each other up to a depth, for runs that break off
before the listener under watch is told too late. -/
def timely (watch : Watch) : (depth : Nat) → Entrances
  | 0 => { travel := fun _ _ => none, call := fun _ _ => none }
  | depth + 1 =>
      { travel := fun journey => Delivery.travel (timely watch depth) journey
        call := fun operation =>
          Delivery.callBy (Delivery.tellListenersInTime (timely watch depth) watch)
            (timely watch depth) operation }

end Entrances

namespace Timely

variable {α : Type} {inner other : Entrances} (watch : Watch)

/-! ### What finishes in time -/

/-- What governs a run governs every run that comes to the same if it finishes. -/
theorem governs_of_deepening
    {rule : Rule}
    {run anyway : Run α}
    (same : deepening.judges run anyway)
    (governed : rule.Governs anyway) :
    rule.Governs run := by
  intro before value after holds finished
  obtain ⟨_, _, ran, rfl⟩ := same before before value after trivial rfl finished
  exact governed before value after holds ran

theorem judges_tellListeners
    (covers : deepening.Covers inner other)
    (node : Ref .node)
    (entered : Status) :
    deepening.judges (Delivery.tellListenersInTime inner watch node entered)
      (Delivery.tellListeners other node entered) := by
  have moves := deepening_allows.moves covers
  refine deepening.look (fun _ agrees => by rw [agrees]) fun _ => deepening.forM fun entry _ => ?_
  -- The run beside does not look at the status, but it may as well.
  change deepening.judges _
    (Run.look (fun store => (store.nodes.get node).status) >>= fun _ =>
      Delivery.tellListener other node entered entry.2)
  refine deepening.look (fun _ agrees => by rw [agrees]) fun _ => ?_
  split
  · exact Simulates.none _
  · exact moves.tellListener node entered entry.2

theorem covers (depth : Nat) :
    deepening.Covers (Entrances.timely watch depth) (Entrances.within depth) := by
  induction depth with
  | zero => exact ⟨fun _ => Simulates.none _, fun _ => Simulates.none _⟩
  | succ depth inductionHypothesis =>
      refine ⟨fun journey => ?_, fun operation => ?_⟩
      · exact (deepening_allows.conveys inductionHypothesis).travel journey (Or.inl trivial)
      · change deepening.judges _ (Delivery.call _ operation)
        rw [Delivery.call_eq_callBy]
        exact deepening_allows.callBy inductionHypothesis
          (judges_tellListeners watch inductionHypothesis) operation

/-- The skeleton stays the same. -/
theorem skeletal (depth : Nat) :
    skeletonRule.discipline.Covers (Entrances.timely watch depth)
      (Entrances.timely watch depth) where
  travel journey := governs_of_deepening ((covers watch depth).travel journey)
    ((Skeleton.covers_within depth).travel journey)
  call operation := governs_of_deepening ((covers watch depth).call operation)
    ((Skeleton.covers_within depth).call operation)

end Timely

namespace Store

variable {before after : Store} (watch : Watch)

theorem travel_eq_of_timely
    {journey : Journey}
    {outcome : Outcome}
    (finished : (Entrances.timely watch depthLimit).travel journey before =
      some (outcome, after)) :
    before.travel journey = some (outcome, after) := by
  obtain ⟨_, _, ran, rfl⟩ := (Timely.covers watch depthLimit).travel journey before before outcome
    after trivial rfl finished
  exact ran

theorem receive_eq_of_timely
    {node : Ref .node}
    {traffic : Traffic}
    {outcome : Outcome}
    (finished : Delivery.receive (Entrances.timely watch depthLimit) node traffic before =
      some (outcome, after)) :
    before.receive node traffic = some (outcome, after) := by
  obtain ⟨_, _, ran, rfl⟩ := (deepening_allows.carries (Timely.covers watch depthLimit)).receive
    (Or.inl trivial) node before before outcome after trivial rfl finished
  exact ran

theorem call_eq_of_timely
    {operation : Operation}
    {reply : Reply}
    (finished : (Entrances.timely watch depthLimit).call operation before =
      some (reply, after)) :
    before.call operation = some (reply, after) := by
  obtain ⟨_, _, ran, rfl⟩ := (Timely.covers watch depthLimit).call operation before before reply
    after trivial rfl finished
  exact ran

end Store

end ChannelMux
