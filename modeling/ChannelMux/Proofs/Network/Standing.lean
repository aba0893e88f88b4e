import ChannelMux.Proofs.Network.Lineage
import ChannelMux.Proofs.Network.Passivity

/-!
Contract: where nodes stand after an action, where nobody gives commands.

Owns that an action puts nodes and clusters where its operation does, if it calls one, and
leaves them where they are otherwise; that nodes are given the views that are announced and
no others; and that a node that has just been made is in no cluster. Owns what follows for
single nodes: none is ever about to be connected, those that are connected are in a cluster,
and the others have no view.
-/

namespace ChannelMux

/-- A node is in no cluster, and has not been in one. -/
structure Node.AtRest (node : Node) : Prop where
  status : node.status = .opened
  cluster : node.cluster? = none
  view : node.view? = none

/-- All of a node but who listens to it. -/
def Node.bearing (node : Node) : Node := { node with listeners := [], nextToken := 0 }

namespace Store

variable {store after : Store}

/-! ### Actions that neither carry traffic nor call an operation -/

/-- Nothing becomes of the nodes that there were but that they are listened to, and those that
are new are at rest. -/
structure Unstirred (before after : Table .node Node) : Prop where
  kept : Table.Keeps Node.bearing before after
  fresh : ∀ node, ¬ before.Issued node → (after.get node).AtRest

namespace Unstirred

variable {before between later : Table .node Node}

theorem atRest_of_not_issued {node : Ref .node} (notIssued : ¬ before.Issued node) :
    (before.get node).AtRest := by
  rw [Table.get_of_not_issued notIssued]
  exact ⟨rfl, rfl, rfl⟩

theorem refl (table : Table .node Node) : Unstirred table table :=
  ⟨Table.Keeps.refl _ _, fun _ => atRest_of_not_issued⟩

theorem trans (first : Unstirred before between) (second : Unstirred between later) :
    Unstirred before later where
  kept := first.kept.trans second.kept
  fresh node notIssued := by
    by_cases issued : between.Issued node
    · obtain ⟨status, cluster, view⟩ := first.fresh node notIssued
      have same := (second.kept node issued).2
      have sameStatus := congrArg Node.status same
      have sameCluster := congrArg Node.cluster? same
      have sameView := congrArg Node.view? same
      exact ⟨sameStatus.trans status, sameCluster.trans cluster, sameView.trans view⟩
    · exact second.fresh node issued

theorem modify
    {change : Node → Node}
    (kept : ∀ record, (change record).bearing = record.bearing)
    (table : Table .node Node)
    (node : Ref .node) :
    Unstirred table (table.modify node change) where
  kept := Table.keeps_modify _ kept _ _
  fresh _ notIssued := atRest_of_not_issued (mt Table.issued_modify.mp notIssued)

theorem name (table : Table .node Node) (node : Ref .node) (label : String) :
    Unstirred table (table.name node label) where
  kept := Table.keeps_name _ _ _ _
  fresh _ notIssued := atRest_of_not_issued (mt Table.issued_name.mp notIssued)

theorem forget (table : Table .node Node) (label : String) :
    Unstirred table (table.forget label) where
  kept := Table.keeps_forget _ _ _
  fresh _ notIssued := atRest_of_not_issued (mt Table.issued_forget.mp notIssued)

theorem add {record : Node} (atRest : record.AtRest) (table : Table .node Node) :
    Unstirred table (table.add record) where
  kept := Table.keeps_add _ _ _
  fresh node notIssued := by
    rcases Table.get_add_cases table record node with old | isNew
    · rw [old]
      exact atRest_of_not_issued notIssued
    · rw [isNew]
      exact atRest

end Unstirred

theorem unstirred_modifyNode
    {change : Node → Node}
    (kept : ∀ record, (change record).bearing = record.bearing)
    (store : Store)
    (node : Ref .node) :
    Unstirred store.nodes (store.modifyNode node change).nodes :=
  Unstirred.modify kept _ _

theorem unstirred_subscribe (store : Store) (node : Ref .node) (listener : Listener) :
    Unstirred store.nodes (store.subscribe node listener).2.nodes := by
  apply unstirred_modifyNode
  intro _
  rfl

theorem unstirred_retireFork (store : Store) (fork : Ref .fork) :
    Unstirred store.nodes (store.retireFork fork).nodes := by
  unfold retireFork
  split
  · exact Unstirred.refl _
  · apply unstirred_modifyNode
    intro _
    rfl

theorem unstirred_nameFork (store : Store) (fork : Ref .fork) (label : String) :
    Unstirred store.nodes (store.nameFork fork label).nodes := by
  unfold nameFork
  dsimp only
  split
  · exact unstirred_retireFork { store with forks := store.forks.name fork label } _
  · exact Unstirred.refl _

theorem unstirred_dropFork (store : Store) (label : String) :
    Unstirred store.nodes (store.dropFork label).nodes := by
  unfold dropFork
  split
  · exact unstirred_retireFork { store with forks := store.forks.forget label } _
  · exact Unstirred.refl _

theorem unstirred_act
    {action : Action}
    (wired : store.Wired)
    (still : action.runs = false)
    (acted : store.act? action = some after) :
    Unstirred store.nodes after.nodes := by
  cases step_of_act wired acted with
  | addNode customs label name address network =>
      exact (Unstirred.add ⟨rfl, rfl, rfl⟩ store.nodes).trans (Unstirred.name _ _ label)
  | holdNode _ label => exact Unstirred.name _ _ label
  | dropNode label => exact Unstirred.forget _ label
  | ensureDemultiplexer splice =>
      rw [splice.nodes]
      exact Unstirred.refl _
  | ensureStack splice =>
      rw [splice.nodes]
      exact Unstirred.refl _
  | buildFork nodeAlive left customs isBuilt label =>
      obtain ⟨stacked, record, splice, _, _, _, same⟩ :=
        buildFork_enrolls wired nodeAlive left customs isBuilt
      subst same
      rw [← splice.nodes]
      refine Unstirred.trans ?_ (unstirred_nameFork _ _ label)
      exact unstirred_subscribe _ record.node _
  | holdFork _ label => exact unstirred_nameFork store _ label
  | dropFork label => exact unstirred_dropFork store label
  | listen _ _ agent => exact unstirred_subscribe store _ _
  | unlisten =>
      apply unstirred_modifyNode
      intro _
      rfl
  | travel => cases still
  | receive => cases still
  | call => cases still
  | _ => exact Unstirred.refl _

/-! ### Actions -/

/-- Where the nodes are after an action: where the operation that is called puts them. -/
def rearranged (store : Store) : Action → Store
  | .call operation => store.reseated operation
  | _ => store

/-- A store with the node of a called operation moved. -/
def movedBy (store : Store) : Action → Store
  | .call operation => store.moved operation
  | _ => store

/-- What an action announces: what the operation does that is called. -/
def announcedBy? (store : Store) : Action → Option Announcement
  | .call operation => store.announcement? operation
  | _ => none

/-- Nodes and clusters are where a store has them. -/
structure Stands (base after : Store) : Prop where
  networks : after.networks = base.networks
  nodes : ∀ node, base.nodes.Issued node →
    (after.nodes.get node).seat = (base.nodes.get node).seat

namespace Stands

variable {base : Store} {node : Ref .node}

theorem cluster (stands : Stands base after) (network name : String) :
    after.cluster network name = base.cluster network name := by
  unfold Store.cluster
  rw [stands.networks]

theorem status (stands : Stands base after) (issued : base.nodes.Issued node) :
    (after.nodes.get node).status = (base.nodes.get node).status := by
  have fields := congrArg Node.status (stands.nodes node issued)
  exact fields

theorem inCluster (stands : Stands base after) (issued : base.nodes.Issued node) :
    (after.nodes.get node).cluster? = (base.nodes.get node).cluster? := by
  have fields := congrArg Node.cluster? (stands.nodes node issued)
  exact fields

theorem of_shape_eq (same : after.shape = base.shape) : Stands base after where
  networks := networks_eq same
  nodes node _ := by
    have seats := congrArg Node.seat (bare_node_eq same node)
    exact seats

end Stands

theorem issued_reseated
    {node : Ref .node}
    (operation : Operation) :
    (store.reseated operation).nodes.Issued node ↔ store.nodes.Issued node := by
  rw [← issued_node_iff (store.skeleton_moved operation) node]
  unfold reseated
  split
  · rw [nodes_shut]
    exact Table.issued_modify
  · exact Iff.rfl

/-- What an action does to nodes and clusters. -/
theorem stands_act
    {action : Action}
    (composed : store.Composed)
    (acted : store.act? action = some after) :
    Stands (store.rearranged action) after := by
  obtain ⟨wired, passive, agreed⟩ := composed
  cases runs : action.runs with
  | false =>
      have unmoved := unmoved_act wired runs acted
      have still : store.rearranged action = store := by
        cases action with
        | call operation => cases runs
        | _ => rfl
      rw [still]
      exact ⟨unmoved.networks, fun node issued => (unmoved.nodes node issued).2⟩
  | true =>
      cases step_of_act wired acted with
      | refused still => exact absurd runs (by rw [still]; exact Bool.false_ne_true)
      | travel finished => exact Stands.of_shape_eq (passive.passing_of_travel finished).shape
      | receive finished => exact Stands.of_shape_eq (passive.passing_of_receive finished).shape
      | call _ finished =>
          obtain ⟨⟨networks, nodes⟩, _⟩ := passive.accounts finished
          refine ⟨networks, fun node _ => ?_⟩
          have seats := congrArg Node.seat (nodes node)
          exact seats
      | _ => cases runs

/-- Which view a node has after an action. -/
theorem views_act
    {action : Action}
    {node : Ref .node}
    (wired : store.Wired)
    (passive : store.Passive)
    (acted : store.act? action = some after)
    (issued : store.nodes.Issued node) :
    (after.nodes.get node).view? = Announcement.given (store.announcedBy? action) node
      ((store.movedBy action).nodes.get node).view? := by
  cases runs : action.runs with
  | false =>
      have views := congrArg Node.view? ((unstirred_act wired runs acted).kept node issued).2
      cases action with
      | call operation => cases runs
      | _ => exact views
  | true =>
      cases step_of_act wired acted with
      | refused still => exact absurd runs (by rw [still]; exact Bool.false_ne_true)
      | travel finished => exact (passive.passing_of_travel finished).views node
      | receive finished => exact (passive.passing_of_receive finished).views node
      | call _ finished => exact (passive.accounts finished).views node issued
      | _ => cases runs

/-- A node that has not been there before is at rest. -/
theorem fresh_act
    {action : Action}
    {node : Ref .node}
    (wired : store.Wired)
    (acted : store.act? action = some after)
    (notIssued : ¬ store.nodes.Issued node) :
    (after.nodes.get node).AtRest := by
  have carried (same : after.skeleton = store.skeleton) : (after.nodes.get node).AtRest :=
    Unstirred.atRest_of_not_issued fun issued => notIssued ((issued_node_iff same node).mp issued)
  cases runs : action.runs with
  | false => exact (unstirred_act wired runs acted).fresh node notIssued
  | true =>
      cases step_of_act wired acted with
      | refused still => exact absurd runs (by rw [still]; exact Bool.false_ne_true)
      | travel finished => exact carried (skeleton_eq_of_travel finished)
      | receive finished => exact carried (skeleton_eq_of_receive finished)
      | call _ finished => exact carried (skeleton_eq_of_call finished)
      | _ => cases runs

end Store

end ChannelMux
