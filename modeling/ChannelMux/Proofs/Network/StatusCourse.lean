import ChannelMux.Proofs.Delivery.Completion
import ChannelMux.Proofs.Network.ViewHistory

/-!
Contract: which statuses a node has in turn.

Owns which status follows which, the statuses that a node enters between two calls, and the
status of every node after an action, which is another one only for the node that is connected,
disconnected or closed. Owns that a closed node stays closed, in no cluster and without a view,
and that connecting a node that is not open changes nothing at all.
-/

namespace ChannelMux

namespace Status

/-- Whether a node that has one status may enter another one next. -/
def leadsTo : (before after : Status) → Bool
  | .opened, .connected => true
  | .connected, .opened => true
  | .opened, .closed => true
  | _, _ => false

/-- The statuses that a node has entered in turn if it had one before a call and has another
one after it: whoever is closed while it is connected is open in between. -/
def course (before after : Status) : List Status :=
  if before = after then []
  else if before = .connected ∧ after = .closed then [.opened, .closed]
  else [after]

/-- A node may have one status before a call and the other one after it. -/
def Steps (before after : Status) : Prop :=
  before = after ∨ before.leadsTo after = true ∨ before = .connected ∧ after = .closed

/-- What is entered in turn leads from the status before to the one after. -/
theorem course_isChain
    {before after : Status}
    (steps : Steps before after) :
    (before :: course before after).IsChain (fun earlier later => earlier.leadsTo later = true) ∧
      (before :: course before after).getLast (List.cons_ne_nil _ _) = after := by
  rcases steps with rfl | leads | ⟨rfl, rfl⟩
  · simp [course]
  · cases before <;> cases after <;> simp_all [course, leadsTo]
  · simp [course, leadsTo]

/-- Nothing follows once a node is closed. -/
theorem eq_of_steps_closed
    {after : Status}
    (steps : Steps .closed after) :
    after = .closed := by
  rcases steps with same | leads | ⟨impossible, _⟩
  · exact same.symm
  · cases leads
  · cases impossible

end Status

namespace Store

variable {store after : Store} {node : Ref .node} {name : String} {action : Action}

/-! ### The status after an action -/

/-- The status of a node after an action. -/
def statusAfter (store : Store) (action : Action) (node : Ref .node) : Status :=
  let status := (store.nodes.get node).status
  match action with
  | .call (.connect moving _) => if node = moving ∧ status = .opened then .connected else status
  | .call (.disconnect moving) => if node = moving ∧ status = .connected then .opened else status
  | .call (.close moving) => if node = moving then .closed else status
  | _ => status

theorem status_enter
    {moving : Ref .node}
    (issued : store.nodes.Issued node)
    (name : String) :
    ((store.enter moving name).nodes.get node).status =
      if node = moving then .connected else (store.nodes.get node).status := by
  rw [nodes_enter]
  by_cases isMoving : node = moving
  · subst isMoving
    rw [Table.get_modify_self issued, if_pos rfl]
  · rw [Table.get_modify_of_ne isMoving, if_neg isMoving]

theorem status_exit
    {moving : Ref .node}
    (issued : store.nodes.Issued node) :
    ((store.exit moving).nodes.get node).status =
      if node = moving then .opened else (store.nodes.get node).status := by
  rw [nodes_exit]
  by_cases isMoving : node = moving
  · subst isMoving
    rw [Table.get_modify_self issued, if_pos rfl]
  · rw [Table.get_modify_of_ne isMoving, if_neg isMoving]

/-- A node that is looked at stays as it is unless it is the one that moves from a status. -/
theorem status_of_moving
    {moved : Store}
    {moving : Ref .node}
    {before entered : Status}
    (changes : (moved.nodes.get node).status =
      if node = moving then entered else (store.nodes.get node).status) :
    ((if (store.nodes.get moving).status = before then moved else store).nodes.get node).status =
      if node = moving ∧ (store.nodes.get node).status = before then entered
      else (store.nodes.get node).status := by
  by_cases isMoving : node = moving
  · subst isMoving
    split <;> simp_all
  · split <;> simp_all

theorem status_reseated
    (operation : Operation)
    (issued : store.nodes.Issued node) :
    ((store.reseated operation).nodes.get node).status =
      store.statusAfter (.call operation) node := by
  cases operation with
  | connect moving name => exact status_of_moving (status_enter issued name)
  | disconnect moving => exact status_of_moving (status_exit issued)
  | close moving =>
      change (((store.moved (.close moving)).shut moving).nodes.get node).status =
        if node = moving then .closed else (store.nodes.get node).status
      by_cases isMoving : node = moving
      · subst isMoving
        have issuedThere :=
          (issued_node_iff (store.skeleton_moved (.close node)) node).mpr issued
        rw [Accounts.node_shut_self issuedThere, if_pos rfl]
      · rw [Accounts.node_shut_of_ne isMoving, if_neg isMoving]
        refine (status_of_moving (status_exit issued)).trans (if_neg fun both => isMoving both.1)
  | sendFork fork message => rfl
  | sendNode sender message => rfl

/-- Nobody can call an operation of a node that there is not. -/
theorem statusAfter_of_not_issued
    (wired : store.Wired)
    (acted : store.act? action = some after)
    (notIssued : ¬ store.nodes.Issued node) :
    store.statusAfter action node = .opened := by
  have atRest : (store.nodes.get node).status = .opened := by
    rw [Table.get_of_not_issued notIssued]
    rfl
  have elsewhere {moving : Ref .node} (alive : store.isNodeAlive moving = true) :
      node ≠ moving := by
    rintro rfl
    exact notIssued (wired.issued_of_isNodeAlive alive)
  unfold statusAfter
  rw [atRest]
  cases action with
  | call operation =>
      obtain ⟨can, _⟩ := given_eq_some.mp acted
      cases operation with
      | connect moving name => exact if_neg fun both => elsewhere can both.1
      | disconnect moving => exact if_neg fun both => elsewhere can both.1
      | close moving => exact if_neg (elsewhere can)
      | sendFork fork message => rfl
      | sendNode sender message => rfl
  | _ => rfl

/-- What an action makes of the status of a node. -/
theorem status_act
    (composed : store.Composed)
    (acted : store.act? action = some after)
    (node : Ref .node) :
    (after.nodes.get node).status = store.statusAfter action node := by
  by_cases issued : store.nodes.Issued node
  · have stands := stands_act composed acted
    cases action with
    | call operation =>
        rw [stands.status ((issued_reseated operation).mpr issued)]
        exact status_reseated operation issued
    | _ => exact stands.status issued
  · rw [(fresh_act composed.wired acted issued).status,
      statusAfter_of_not_issued composed.wired acted issued]

/-- Between two calls a node is connected, disconnected or closed, or nothing becomes of it. -/
theorem steps_act
    (composed : store.Composed)
    (settled : (store.nodes.get node).status ≠ .connecting)
    (acted : store.act? action = some after) :
    Status.Steps (store.nodes.get node).status (after.nodes.get node).status := by
  rw [status_act composed acted]
  have stays : Status.Steps (store.nodes.get node).status (store.nodes.get node).status :=
    Or.inl rfl
  cases action with
  | call operation =>
      unfold statusAfter
      cases operation with
      | connect moving name =>
          dsimp only
          split
          · rename_i both
            rw [both.2]
            exact Or.inr (Or.inl rfl)
          · exact stays
      | disconnect moving =>
          dsimp only
          split
          · rename_i both
            rw [both.2]
            exact Or.inr (Or.inl rfl)
          · exact stays
      | close moving =>
          dsimp only
          split
          · cases status : (store.nodes.get node).status with
            | opened => exact Or.inr (Or.inl rfl)
            | connecting => exact absurd status settled
            | connected => exact Or.inr (Or.inr ⟨rfl, rfl⟩)
            | closed => exact Or.inl rfl
          · exact stays
      | sendFork fork message => exact stays
      | sendNode sender message => exact stays
  | _ => exact stays

/-! ### Connecting -/

/-- What connecting a node comes to that is not open. -/
def standing (store : Store) (node : Ref .node) (name : String) : Outcome :=
  let record := store.nodes.get node
  if record.status = .closed then .error (.transport (.inStatus record.name .closed))
  else if record.cluster? = some name then .ok ()
  else .error (.transport (.otherCluster record.name (record.cluster?.getD "")))

/-- Connecting a node that is not open says how the node stands and does nothing. -/
theorem connect_of_not_opened
    (notOpened : (store.nodes.get node).status ≠ .opened)
    (inner : Entrances)
    (name : String) :
    Delivery.connect inner node name store = some (store.standing node name, store) := by
  unfold Delivery.connect standing
  rw [Rule.look_apply]
  dsimp only
  cases status : (store.nodes.get node).status with
  | opened => exact absurd status notOpened
  | closed => rfl
  | connected =>
      simp only [reduceCtorEq, if_false]
      split <;> rfl
  | connecting =>
      simp only [reduceCtorEq, if_false]
      split <;> rfl

theorem call_connect_of_not_opened
    (notOpened : (store.nodes.get node).status ≠ .opened)
    (name : String) :
    store.call (.connect node name) =
      some (Delivery.reply (store.standing node name), store) := by
  have connects := connect_of_not_opened notOpened (Entrances.within 999999) name
  change (Delivery.connect (Entrances.within 999999) node name >>= fun outcome =>
    pure (Delivery.reply outcome)) store = _
  rw [Run.bind_apply, connects]
  rfl

/-- Connecting a node that is open succeeds. -/
theorem reply_connect_of_opened
    {reply : Reply}
    (opened : (store.nodes.get node).status = .opened)
    (finished : store.call (.connect node name) = some (reply, after)) :
    reply = .ok () := by
  obtain ⟨outcome, joined, connects, isReply⟩ := Rule.bind_eq_some finished
  rw [Delivery.connect_eq opened] at connects
  obtain ⟨_, _, _, onward⟩ := Rule.bind_eq_some connects
  obtain ⟨_, _, _, isOutcome⟩ := Rule.bind_eq_some onward
  cases isOutcome
  cases isReply
  rfl

/-- Connecting changes nothing where it is refused or the node is in the cluster already. -/
theorem eq_of_connect_refused
    {reply : Reply}
    (poised : store.Poised)
    (finished : store.call (.connect node name) = some (reply, after))
    (vain : reply ≠ .ok () ∨ (store.nodes.get node).cluster? = some name) :
    after = store := by
  have notOpened : (store.nodes.get node).status ≠ .opened := by
    intro opened
    rcases vain with refused | already
    · exact refused (reply_connect_of_opened opened finished)
    · have connected := (poised.coherent node).clustered.mpr (by rw [already]; rfl)
      rw [opened] at connected
      cases connected
  rw [call_connect_of_not_opened notOpened] at finished
  cases finished
  rfl

/-- Whatever stages and agents make of it, connecting, disconnecting and closing come to an
end. -/
theorem call_completes
    {operation : Operation}
    (reachable : Reachable Action.MakesPassive store)
    (calls : operation.sends = false) :
    ∃ reply after, store.call operation = some (reply, after) := by
  have composed := composed_of_reachable reachable
  obtain ⟨reply, after, finished, _⟩ :=
    Sturdy.completes_move composed.passive composed.wired (soleHubs_of_reachable reachable) calls
      999997 store rfl
  exact ⟨reply, after, finished⟩

/-! ### The end -/

/-- A node that is closed is closed for good. -/
theorem closed_run
    {actions : List Action}
    (reachable : Reachable Action.MakesPassive store)
    (permitted : ∀ action ∈ actions, action.MakesPassive)
    (ran : store.run? actions = some after)
    (closed : (store.nodes.get node).status = .closed) :
    (after.nodes.get node).status = .closed := by
  induction actions generalizing store with
  | nil =>
      cases ran
      exact closed
  | cons action rest inductionHypothesis =>
      obtain ⟨between, acted, ranOn⟩ := Option.bind_eq_some_iff.mp ran
      have steps := steps_act (composed_of_reachable reachable)
        ((poised_of_reachable reachable).coherent node).settled acted
      rw [closed] at steps
      exact inductionHypothesis (.step reachable (permitted action List.mem_cons_self) acted)
        (fun other member => permitted other (List.mem_cons_of_mem _ member)) ranOn
        (Status.eq_of_steps_closed steps)

/-- A node that has ended its course: it is in no cluster, has no view and cannot be
connected. -/
structure Ended (store : Store) (node : Ref .node) : Prop where
  cluster : (store.nodes.get node).cluster? = none
  view : (store.nodes.get node).view? = none
  nowhere : ∀ network name, ∀ member ∈ (store.cluster network name).members, member.node ≠ node
  refuses : ∀ name, store.call (.connect node name) =
    some (.error (.delivery (.transport (.inStatus (store.nodes.get node).name .closed))), store)

theorem ended_of_closed
    (reachable : Reachable Action.MakesPassive store)
    (closed : (store.nodes.get node).status = .closed) :
    store.Ended node := by
  have poised := poised_of_reachable reachable
  have notConnected : (store.nodes.get node).status ≠ .connected := by
    rw [closed]
    exact fun impossible => nomatch impossible
  have notOpened : (store.nodes.get node).status ≠ .opened := by
    rw [closed]
    exact fun impossible => nomatch impossible
  refine ⟨?_, poised.unseen node notConnected, fun network name member isMember => ?_,
    fun name => ?_⟩
  · have clustered := mt (poised.coherent node).clustered.mpr notConnected
    exact Option.not_isSome_iff_eq_none.mp clustered
  · exact (composed_of_reachable reachable).agreed.listed.ne_of_not_connected notConnected
      isMember
  · rw [call_connect_of_not_opened notOpened]
    unfold standing
    rw [if_pos closed]
    rfl

end Store

end ChannelMux
