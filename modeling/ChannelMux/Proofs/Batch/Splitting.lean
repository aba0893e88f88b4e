import ChannelMux.Proofs.Batch.Shares
import ChannelMux.Proofs.Batch.Telling
import ChannelMux.Proofs.Network.Makings

/-!
Contract: the splitting of a batch at a demultiplexer.

Owns the course of a batch at a demultiplexer: it is split among the channels, group by
group, and then the rest passes. Owns that, whatever the stages of some groups keep back and
some forks reject, all the other channels are handed their shares, and what comes of the
batch is what comes of the rest.
-/

namespace ChannelMux

namespace Delivery

/-- Counts what is left of a batch to pass, if there is anything. -/
def countUnrouted (hub : Ref .stage) (batch : Batch) : Run Unit :=
  if batch.unrouted.isEmpty then pure ()
  else
    Run.count hub fun counters =>
      { counters with
        passedThrough := counters.passedThrough + UInt64.ofNat batch.unrouted.length }

/-- What a demultiplexer does with a batch before the rest passes. -/
def splitBatch (inner : Entrances) (hub : Ref .stage) (batch : Batch) : Run Unit := do
  batch.parts.forM (routePart inner hub batch)
  countUnrouted hub batch

/-- If all routing headers name a group, a batch is split, and then the rest passes, if
anything is left. -/
theorem routeBatch_eq
    {batch : Batch}
    (named : batch.NamesGroups)
    (inner : Entrances)
    (hub : Ref .stage)
    (passUp : Traffic → Run Outcome) :
    routeBatch inner hub passUp batch =
      (splitBatch inner hub batch >>= fun _ =>
        if batch.unrouted.isEmpty then pure (.ok ())
        else passUp (.batch (batch.derive batch.unrouted))) := by
  have unnamed : (batch.messages.filter fun message => message.routing?.isSome).any
      (fun message => message.group?.isNone) = false := by
    rw [List.any_eq_false]
    intro message member
    obtain ⟨listed, routed⟩ := List.mem_filter.mp member
    simp [Option.isSome_iff_ne_none.mp (named message listed routed)]
  have left : (batch.messages.filter fun message => !message.routing?.isSome) =
      batch.unrouted := by
    unfold Batch.unrouted
    simp
  unfold routeBatch splitBatch countUnrouted Batch.extract Batch.parts
  simp only [List.partition_eq_filter_filter, Function.comp_def, left, unnamed]
  rw [bind_assoc]
  simp only [Bool.false_eq_true, if_false]
  congr 1
  funext _
  change (if batch.unrouted.isEmpty then _ else _) = _
  cases batch.unrouted.isEmpty <;> rfl

end Delivery

namespace Course

variable {base : Store} {depth : Nat} {shared : Ref .pipeline} {hub : Ref .stage}
  {batch : Batch}

/-- What a batch holds for a group goes up the stack of the group, if there is one, whatever
comes of it. -/
theorem routePart
    {part : String × List Message}
    {handed : Ref .stack → Handoffs → Prop}
    (travels : ∀ stack, Delivery.stackOf? base hub part.1 = some stack → Course base
      (Delivery.travel (Entrances.within depth)
        (.up (base.groups.get stack).pipeline (.batch (batch.derive part.2))))
      fun handoffs tally _ => handed stack handoffs ∧ tally = []) :
    Course base (Delivery.routePart (Entrances.within (depth + 1)) hub batch part)
      fun handoffs tally _ =>
        match Delivery.stackOf? base hub part.1 with
        | none => handoffs = [] ∧ tally = List.replicate part.2.length (hub, .missed)
        | some stack =>
            handed stack handoffs ∧ tally = List.replicate part.2.length (hub, .routed) := by
  refine get fun store same => ?_
  rw [Store.stackOf?_of_bare_eq (Store.bare_role_eq same hub)]
  cases registered : Delivery.stackOf? base hub part.1 with
  | none =>
      rw [← bind_pure (Run.count _ _)]
      refine count (List.replicate part.2.length .missed) ?_ (pure ⟨rfl, ?_⟩)
      · intro counters mark
        cases mark <;> simp [DemultiplexerCounters.of, List.count_replicate]
      · rw [List.map_replicate, List.append_nil]
  | some stack =>
      refine count (List.replicate part.2.length .routed) ?_
        (bind (enterStack (travels stack registered)) ?_)
      · intro counters mark
        cases mark <;> simp [DemultiplexerCounters.of, List.count_replicate]
      · rintro handoffs _ outcome ⟨holds, rfl⟩
        cases outcome with
        | ok done =>
            refine pure ⟨?_, ?_⟩
            · rwa [List.append_nil]
            · rw [List.map_replicate, List.append_nil, List.append_nil]
        | error refusal =>
            dsimp only
            rw [← bind_pure (Run.count _ _)]
            refine count [] ?_ (pure ⟨?_, ?_⟩)
            · intro counters mark
              cases mark <;> simp [DemultiplexerCounters.of]
            · rwa [List.append_nil]
            · rw [List.map_replicate, List.map_nil, List.append_nil, List.append_nil,
                List.append_nil]

/-- What is left to pass is counted. -/
theorem countUnrouted (base : Store) (hub : Ref .stage) (batch : Batch) :
    Course base (Delivery.countUnrouted hub batch) fun handoffs tally _ =>
      handoffs = [] ∧ tally = List.replicate batch.unrouted.length (hub, .passedThrough) := by
  unfold Delivery.countUnrouted
  split
  · rename_i empty
    rw [List.isEmpty_iff.mp empty]
    exact pure ⟨rfl, rfl⟩
  · rw [← bind_pure (Run.count _ _)]
    refine count (List.replicate batch.unrouted.length .passedThrough) ?_ (pure ⟨rfl, ?_⟩)
    · intro counters mark
      cases mark <;> simp [DemultiplexerCounters.of, List.count_replicate]
    · rw [List.map_replicate, List.append_nil]

end Course

namespace Store

variable {store : Store} {shared : Ref .pipeline} {hub : Ref .stage} {batch : Batch}

/-- A node whose demultiplexer has two groups. A stage in the stack of the first one rejects
everything, that of the second one passes everything on, and one of the forks for the second
one rejects batches. -/
def exchange : List Action :=
  let plan (group member : String) (agent : Ref .agent) : ForkPlan :=
    { node? := some ⟨0⟩, group? := some group, member? := some member,
      receiver? := some agent }
  [.addAgent .recording, .addAgent .recording, .addAgent .recording,
    .addAgent (.whole "small" (some 0)), .addStage "gate" .refusingUp,
    .addStage "pane" .transparent, .addNode "a" "a" (.filled 1) "net" [],
    .buildFork { plan "e" "m" ⟨0⟩ with stages := [⟨0⟩] } "first",
    .buildFork { plan "g" "l" ⟨3⟩ with stages := [⟨1⟩] } "second",
    .buildFork (plan "g" "m" ⟨1⟩) "third", .buildFork (plan "g" "n" ⟨2⟩) "fourth"]

/-- The node with its forks. -/
def exchanged : Store := (Store.run? {} exchange).getD {}

/-- Messages for both groups, for a group that there is not, for a member that there is not,
and for nobody in particular. -/
def mixture : Batch where
  sender := .filled 2
  cluster := "k"
  messages :=
    let letter (content : Nat) : Message := { payload := [UInt8.ofNat content] }
    [letter 1, (letter 2).putRouting (.between "g" "n"), (letter 3).putRouting (.between "e" "m"),
      (letter 4).putRouting (.between "g" "l"), (letter 5).putRouting (.between "g" "m"),
      (letter 6).putRouting (.between "x" "m"), (letter 7).putRouting (.forGroup "g"),
      (letter 8).putRouting (.between "g" "n"), letter 9]

theorem mixture_namesGroups : mixture.NamesGroups := by
  have all : mixture.messages.all (fun message =>
      !message.routing?.isSome || message.group?.isSome) = true := by decide +kernel
  intro message member routed
  simpa [routed] using List.all_eq_true.mp all message member

end Store

end ChannelMux
