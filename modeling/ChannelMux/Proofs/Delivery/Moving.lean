import ChannelMux.Proofs.Delivery.Discipline
import ChannelMux.Proofs.Delivery.Rounds
import ChannelMux.Proofs.Store.SameTables
import ChannelMux.Proofs.Store.Shape

/-!
Contract: judging how nodes join and leave clusters.

Owns what a discipline has to judge of the joining and leaving of clusters, which is what becomes
of nodes, forks and clusters, what agents are told, and what becomes of the views that nodes are
given. Nobody is told what comes of these, and so they are judged without their outcomes.
-/

namespace ChannelMux.Discipline

/-- What joining and leaving consists of can be judged. -/
structure Moves (discipline : Discipline) (inner other : Entrances) : Prop where
  tables : ∀ {left right}, discipline.holds left → discipline.agrees left right →
    Store.SameTables left right
  changesNode : ∀ node change, (∀ record, Node.still (change record) = record.still) →
    discipline.judges
      (MonadState.modifyGet fun store : Store => ((), store.modifyNode node change))
      (MonadState.modifyGet fun store : Store => ((), store.modifyNode node change))
  changesFork : ∀ fork change, (∀ record, Fork.still (change record) = record.still) →
    discipline.judges
      (MonadState.modifyGet fun store : Store => ((), store.modifyFork fork change))
      (MonadState.modifyGet fun store : Store => ((), store.modifyFork fork change))
  puts : ∀ network name cluster,
    discipline.judges
      (MonadState.modifyGet fun store : Store => ((), store.putCluster network name cluster))
      (MonadState.modifyGet fun store : Store => ((), store.putCluster network name cluster))
  tells : ∀ agent notice,
    discipline.judges (Delivery.tell inner agent notice).ignore
      (Delivery.tell other agent notice).ignore
  /-- The node lasted when it was looked for, and its pipeline is looked for after that. -/
  climbs : ∀ {start store} node traffic, discipline.holds start →
    start.isNodeAlive node = true → discipline.holds store →
      discipline.judges (inner.travel (.up (store.nodes.get node).pipeline traffic)).ignore
        (other.travel (.up (store.nodes.get node).pipeline traffic)).ignore

namespace Moves

variable {discipline : Discipline} {inner other : Entrances}
  (moves : discipline.Moves inner other)

include moves

/-! ### Views -/

theorem giveView
    {start : Store}
    {node : Ref .node}
    (holds : discipline.holds start)
    (alive : start.isNodeAlive node = true)
    (view : View) :
    discipline.judges (Delivery.giveView inner view node)
      (Delivery.giveView other view node) := by
  refine discipline.bind (moves.changesNode node _ fun _ => rfl) fun _ => ?_
  refine discipline.look (fun holds agrees => by rw [(moves.tables holds agrees).nodes])
    fun holdsThen => ?_
  exact moves.climbs node _ holds alive holdsThen

theorem installView (network name : String) (cluster : Cluster) :
    discipline.judges (Delivery.installView inner network name cluster)
      (Delivery.installView other network name cluster) := by
  unfold Delivery.installView
  split
  · exact moves.puts network name cluster
  · refine discipline.bind (moves.puts network name _) fun _ => ?_
    refine discipline.look
      (fun holds agrees => by rw [(moves.tables holds agrees).liveMembers_eq])
      fun holds => discipline.forM fun node listed => ?_
    exact moves.giveView holds (List.mem_filter.mp listed).2 _

/-! ### Listeners -/

theorem handFork (fork : Ref .fork) (traffic : Traffic) :
    discipline.judges (Delivery.handFork inner fork traffic).ignore
      (Delivery.handFork other fork traffic).ignore := by
  change discipline.judges
    (Run.look _ >>= fun receiver? => (Delivery.hand inner receiver? traffic).ignore)
    (Run.look _ >>= fun receiver? => (Delivery.hand other receiver? traffic).ignore)
  refine discipline.look (fun holds agrees => by rw [(moves.tables holds agrees).forks])
    fun {store} _ => ?_
  cases (store.forks.get fork).receiver? with
  | none => exact discipline.pure ()
  | some agent => exact moves.tells agent _

theorem tellListener (node : Ref .node) (entered : Status) (listener : Listener) :
    discipline.judges (Delivery.tellListener inner node entered listener)
      (Delivery.tellListener other node entered listener) := by
  refine discipline.look (fun holds agrees => by rw [(moves.tables holds agrees).nodes])
    fun _ => ?_
  split
  · exact moves.tells _ _
  · refine discipline.get
      (fun holds agrees => by rw [(moves.tables holds agrees).isForkAlive_eq]) fun _ => ?_
    split
    · refine discipline.bind (moves.changesFork _ _ fun _ => rfl) fun _ => ?_
      split
      · exact moves.handFork _ _
      · exact discipline.pure _
    · exact discipline.pure _

theorem tellListeners (node : Ref .node) (entered : Status) :
    discipline.judges (Delivery.tellListeners inner node entered)
      (Delivery.tellListeners other node entered) :=
  discipline.look (fun holds agrees => by rw [(moves.tables holds agrees).nodes])
    fun _ => discipline.forM fun entry _ => moves.tellListener node entered entry.2

/-! ### Joining and leaving -/

theorem join (node : Ref .node) (name : String) :
    discipline.judges (Delivery.join inner node name) (Delivery.join other node name) := by
  refine discipline.look (fun holds agrees => by rw [(moves.tables holds agrees).nodes])
    fun _ => ?_
  refine discipline.look (fun holds agrees => by rw [(moves.tables holds agrees).cluster_eq])
    fun _ => ?_
  exact discipline.bind (moves.changesNode node _ fun _ => rfl) fun _ =>
    moves.installView _ _ _

theorem leave (record : Node) (name : String) :
    discipline.judges (Delivery.leave inner record name)
      (Delivery.leave other record name) := by
  refine discipline.look (fun holds agrees => by rw [(moves.tables holds agrees).cluster_eq])
    fun _ => ?_
  split
  · exact discipline.pure _
  · exact moves.installView _ _ _

section ByRounds

variable {round beside : Delivery.Round}
  (rounds : ∀ node entered, discipline.judges (round node entered) (beside node entered))

include rounds

theorem connectBy (node : Ref .node) (name : String) :
    discipline.judges (Delivery.connectBy round inner node name)
      (Delivery.connectBy beside other node name) := by
  refine discipline.look (fun holds agrees => by rw [(moves.tables holds agrees).nodes])
    fun _ => ?_
  split
  · exact discipline.pure _
  · split <;> exact discipline.pure _
  · split <;> exact discipline.pure _
  · refine discipline.bind (moves.join node name) fun _ => ?_
    exact discipline.bind (rounds node _) fun _ => discipline.pure _

theorem disconnectBy (node : Ref .node) :
    discipline.judges (Delivery.disconnectBy round inner node)
      (Delivery.disconnectBy beside other node) := by
  refine discipline.look (fun holds agrees => by rw [(moves.tables holds agrees).nodes])
    fun _ => ?_
  split
  · refine discipline.bind (moves.changesNode node _ fun _ => rfl) fun _ => ?_
    split
    · exact discipline.bind (moves.leave _ _) fun _ => rounds node _
    · exact rounds node _
  · exact discipline.pure _

theorem closeBy (node : Ref .node) :
    discipline.judges (Delivery.closeBy round inner node)
      (Delivery.closeBy beside other node) := by
  refine discipline.bind (moves.disconnectBy rounds node) fun _ => ?_
  refine discipline.look (fun holds agrees => by rw [(moves.tables holds agrees).nodes])
    fun _ => ?_
  split
  · exact discipline.bind (moves.changesNode node _ fun _ => rfl) fun _ => rounds node _
  · exact discipline.pure _

end ByRounds

theorem connect (node : Ref .node) (name : String) :
    discipline.judges (Delivery.connect inner node name)
      (Delivery.connect other node name) := by
  rw [Delivery.connect_eq_connectBy inner, Delivery.connect_eq_connectBy other]
  exact moves.connectBy moves.tellListeners node name

theorem disconnect (node : Ref .node) :
    discipline.judges (Delivery.disconnect inner node)
      (Delivery.disconnect other node) := by
  rw [Delivery.disconnect_eq_disconnectBy inner, Delivery.disconnect_eq_disconnectBy other]
  exact moves.disconnectBy moves.tellListeners node

theorem close (node : Ref .node) :
    discipline.judges (Delivery.close inner node) (Delivery.close other node) := by
  rw [Delivery.close_eq_closeBy inner, Delivery.close_eq_closeBy other]
  exact moves.closeBy moves.tellListeners node

end Moves

end ChannelMux.Discipline
