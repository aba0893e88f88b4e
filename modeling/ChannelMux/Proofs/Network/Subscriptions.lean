import ChannelMux.Proofs.Network.Makings
import ChannelMux.Proofs.Store.Names

/-!
Contract: who listens to the status of nodes.

Owns that the listeners of a node have different tokens, that every fork among them lasts,
and that forks and nodes that have ended do not come back. Owns what an action does to the
listeners that are not forks: they change by subscribing and unsubscribing alone, whatever
forks are built, named and let go of. Owns that no token is given out twice.
-/

namespace ChannelMux.Store

variable {store before after : Store} {node other : Ref .node} {token : UInt64}

/-! ### The listeners of a node -/

theorem listeners_unsubscribe (store : Store) (node : Ref .node) (token : UInt64)
    (other : Ref .node) :
    ((store.unsubscribe node token).nodes.get other).listeners =
      if other = node then
        (store.nodes.get other).listeners.filter (fun entry => entry.1 != token)
      else (store.nodes.get other).listeners := by
  unfold unsubscribe modifyNode
  by_cases same : other = node
  · subst same
    rw [if_pos rfl]
    by_cases issued : store.nodes.Issued other
    · rw [Table.get_modify_self issued]
    · rw [Table.get_of_not_issued issued, Table.get_of_not_issued (by simpa using issued)]
      rfl
  · rw [Table.get_modify_of_ne same, if_neg same]

theorem subscriptions_unsubscribe (store : Store) (node : Ref .node) (token : UInt64)
    (other : Ref .node) :
    ((store.unsubscribe node token).nodes.get other).subscriptions =
      (store.nodes.get other).subscriptions := by
  apply Table.read_modify Node.subscriptions
  intro record
  rfl

theorem node_subscribe_of_ne
    (different : other ≠ node)
    (store : Store)
    (listener : Listener) :
    (store.subscribe node listener).2.nodes.get other = store.nodes.get other :=
  Table.get_modify_of_ne different _ _

theorem node_subscribe_self
    (issued : store.nodes.Issued node)
    (listener : Listener) :
    (store.subscribe node listener).2.nodes.get node =
      { store.nodes.get node with
        listeners := (store.nodes.get node).listeners ++
          [((store.nodes.get node).nextToken, listener)]
        nextToken := (store.nodes.get node).nextToken + 1 } :=
  Table.get_modify_self issued _

/-! ### Subscriptions -/

/-- Listeners have different tokens that have been given out, and every fork among them
lasts, but for some. -/
structure SubscribedBut (excepted : Ref .fork → Prop) (store : Store) : Prop where
  names : store.forks.Unambiguous
  tokens : ∀ node, ((store.nodes.get node).listeners.map Prod.fst).Nodup
  fresh : ∀ node, ∀ entry ∈ (store.nodes.get node).listeners,
    entry.1.toNat ≤ (store.nodes.get node).subscriptions
  living : ∀ node token fork, (token, Listener.fork fork) ∈ (store.nodes.get node).listeners →
    store.isForkAlive fork = true ∨ excepted fork

/-- Listeners have different tokens that have been given out, and every fork among them
lasts. -/
def Subscribed (store : Store) : Prop := store.SubscribedBut fun _ => False

theorem Subscribed.alive
    {fork : Ref .fork}
    (subscribed : store.Subscribed)
    (listens : (token, .fork fork) ∈ (store.nodes.get node).listeners) :
    store.isForkAlive fork = true :=
  (subscribed.living node token fork listens).resolve_right id

/-- The listeners of nodes and the names of forks are the same. -/
structure SameSubscriptions (before after : Store) : Prop where
  listeners : ∀ node, (after.nodes.get node).listeners = (before.nodes.get node).listeners
  subscriptions : ∀ node,
    (after.nodes.get node).subscriptions = (before.nodes.get node).subscriptions
  names : ∀ fork, after.forks.namesOf fork = before.forks.namesOf fork

namespace SameSubscriptions

theorem refl (store : Store) : SameSubscriptions store store :=
  ⟨fun _ => rfl, fun _ => rfl, fun _ => rfl⟩

theorem isForkAlive (same : SameSubscriptions before after) (fork : Ref .fork) :
    after.isForkAlive fork = before.isForkAlive fork := by
  unfold Store.isForkAlive Table.isNamed
  rw [same.names]

theorem subscribedBut
    {excepted : Ref .fork → Prop}
    (same : SameSubscriptions before after)
    (subscribed : SubscribedBut excepted before) :
    SubscribedBut excepted after where
  names := subscribed.names.of_namesOf_eq same.names
  tokens node := by
    rw [same.listeners]
    exact subscribed.tokens node
  fresh node := by
    rw [same.listeners, same.subscriptions]
    exact subscribed.fresh node
  living node token fork listens := by
    rw [same.listeners] at listens
    rw [same.isForkAlive]
    exact subscribed.living node token fork listens

theorem of_skeleton_eq (same : after.skeleton = before.skeleton) :
    SameSubscriptions before after where
  listeners := listeners_eq same
  subscriptions := subscriptions_eq same
  names fork := by
    have tables : after.forks.map Fork.still = before.forks.map Fork.still :=
      congrArg Store.forks same
    rw [← Table.namesOf_map after.forks Fork.still, tables, Table.namesOf_map]

theorem of_splice (splice : Splice before after) : SameSubscriptions before after := by
  refine ⟨fun node => ?_, fun node => ?_, fun fork => ?_⟩
  · rw [splice.nodes]
  · rw [splice.nodes]
  · rw [splice.forks]

theorem addNode (store : Store) (name : String) (address : Address) (network : String)
    (stages : List (Ref .stage)) :
    SameSubscriptions store (store.addNode name address network stages).2 := by
  -- A node that has just been made is like one that there is not.
  have either (node : Ref .node) :
      (store.addNode name address network stages).2.nodes.get node = store.nodes.get node ∨
        (store.addNode name address network stages).2.nodes.get node =
            { name := name, address := address, network := network
              pipeline := store.pipelines.next } ∧
          store.nodes.get node = default := by
    by_cases issued : store.nodes.Issued node
    · exact Or.inl (node_addNode_of_issued issued)
    · rcases Table.get_add_cases store.nodes
        { name := name, address := address, network := network
          pipeline := store.pipelines.next } node with old | isNew
      · exact Or.inl old
      · exact Or.inr ⟨isNew, Table.get_of_not_issued issued⟩
  refine ⟨fun node => ?_, fun node => ?_, fun _ => rfl⟩
  · rcases either node with old | ⟨isNew, nobody⟩
    · rw [old]
    · rw [isNew, nobody]
      rfl
  · rcases either node with old | ⟨isNew, nobody⟩
    · rw [old]
    · rw [isNew, nobody]
      rfl

theorem nameNode (store : Store) (node : Ref .node) (name : String) :
    SameSubscriptions store (store.nameNode node name) := by
  refine ⟨fun other => ?_, fun other => ?_, fun _ => rfl⟩ <;>
    unfold Store.nameNode <;> rw [Table.get_name]

theorem dropNode (store : Store) (name : String) :
    SameSubscriptions store (store.dropNode name) := by
  refine ⟨fun other => ?_, fun other => ?_, fun _ => rfl⟩ <;>
    unfold Store.dropNode <;> rw [Table.get_forget]

theorem trans
    {between : Store}
    (first : SameSubscriptions before between)
    (second : SameSubscriptions between after) :
    SameSubscriptions before after where
  listeners node := (second.listeners node).trans (first.listeners node)
  subscriptions node := (second.subscriptions node).trans (first.subscriptions node)
  names fork := (second.names fork).trans (first.names fork)

end SameSubscriptions

namespace SubscribedBut

variable {excepted : Ref .fork → Prop}

theorem subscribe
    (subscribed : SubscribedBut excepted store)
    (issued : store.nodes.Issued node)
    (left : (store.nodes.get node).subscriptions + 1 < UInt64.size)
    (listener : Listener)
    (allowed : ∀ fork, listener = .fork fork → excepted fork) :
    SubscribedBut excepted (store.subscribe node listener).2 where
  names := subscribed.names
  tokens other := by
    by_cases same : other = node
    · subst same
      rw [node_subscribe_self issued, List.map_append, List.map_singleton]
      refine List.nodup_append.mpr ⟨subscribed.tokens other, by simp, ?_⟩
      intro given isGiven next isNext sameToken
      obtain ⟨entry, listed, isToken⟩ := List.mem_map.mp isGiven
      have below := subscribed.fresh other entry listed
      rw [isToken, sameToken, List.mem_singleton.mp isNext, Node.toNat_nextToken left] at below
      exact Nat.not_succ_le_self _ below
    · rw [node_subscribe_of_ne same]
      exact subscribed.tokens other
  fresh other entry listed := by
    by_cases same : other = node
    · subst same
      rw [node_subscribe_self issued] at listed ⊢
      rw [Node.subscriptions_succ left rfl]
      rcases List.mem_append.mp listed with old | isNew
      · exact Nat.le_succ_of_le (subscribed.fresh other entry old)
      · rw [List.mem_singleton.mp isNew]
        exact (Node.toNat_nextToken left).le
    · rw [node_subscribe_of_ne same] at listed ⊢
      exact subscribed.fresh other entry listed
  living other token fork listens := by
    rcases mem_listeners_subscribe listens with old | isNew
    · exact subscribed.living other token fork old
    · exact Or.inr (allowed fork isNew.symm)

theorem unsubscribe
    (subscribed : SubscribedBut excepted store)
    (node : Ref .node)
    (token : UInt64) :
    SubscribedBut excepted (store.unsubscribe node token) where
  names := subscribed.names
  tokens other := by
    rw [listeners_unsubscribe]
    split
    · exact (subscribed.tokens other).sublist (List.filter_sublist.map Prod.fst)
    · exact subscribed.tokens other
  fresh other entry listed := by
    rw [subscriptions_unsubscribe]
    exact subscribed.fresh other entry (mem_listeners_unsubscribe.mp listed).1
  living other listed fork listens :=
    subscribed.living other listed fork (mem_listeners_unsubscribe.mp listens).1

/-- A fork that has ended is no listener any more. -/
theorem retireFork
    {ended : Ref .fork}
    (subscribed : SubscribedBut (· = ended) store)
    (wired : store.Wired) :
    (store.retireFork ended).Subscribed := by
  unfold Store.retireFork
  split
  · rename_i alive
    refine ⟨subscribed.names, subscribed.tokens, subscribed.fresh, ?_⟩
    intro node token fork listens
    rcases subscribed.living node token fork listens with living | isEnded
    · exact Or.inl living
    · exact Or.inl (isEnded ▸ alive)
  · obtain ⟨names, tokens, fresh, living⟩ := subscribed.unsubscribe
      (store.forks.get ended).node (store.forks.get ended).token
    refine ⟨names, tokens, fresh, fun node token fork listens => ?_⟩
    refine (living node token fork listens).imp_right fun isEnded => ?_
    obtain ⟨listed, notRetired⟩ := mem_listeners_unsubscribe.mp listens
    have issued : store.nodes.Issued node := by
      by_contra notIssued
      rw [Table.get_of_not_issued notIssued] at listed
      cases listed
    obtain ⟨_, onNode, hasToken⟩ := (wired.nodes node issued).listeners token fork listed
    rw [isEnded] at onNode hasToken
    exact notRetired onNode.symm hasToken.symm

end SubscribedBut

/-! ### Naming forks and letting go of them -/

section Naming

variable {fork : Ref .fork}

/-- Whoever gets a name lasts, and only who had it may end. -/
theorem subscribedBut_nameForks
    (subscribed : SubscribedBut (· = fork) store)
    (issued : store.forks.Issued fork)
    (name : String) :
    SubscribedBut (fun ended => name ∈ store.forks.namesOf ended)
      { store with forks := store.forks.name fork name } where
  names := subscribed.names.name fork name
  tokens := subscribed.tokens
  fresh := subscribed.fresh
  living node token listening listens := by
    by_cases isFork : listening = fork
    · rw [isFork]
      exact Or.inl (Table.isNamed_name_self issued name)
    · by_cases named : name ∈ store.forks.namesOf listening
      · exact Or.inr named
      · left
        have alive := (subscribed.living node token listening listens).resolve_right isFork
        exact (Table.isNamed_name_of_not_mem isFork named).trans alive

theorem subscribed_nameFork
    (subscribed : SubscribedBut (· = fork) store)
    (wired : store.Wired)
    (issued : store.forks.Issued fork)
    (bound : store.Bound fork)
    (name : String) :
    (store.nameFork fork name).Subscribed := by
  have renamed := subscribedBut_nameForks subscribed issued name
  have renamedWired := (growth_nameForks issued bound name).wired wired
  unfold nameFork
  cases held : store.forks.named? name with
  | none =>
      refine ⟨renamed.names, renamed.tokens, renamed.fresh, ?_⟩
      intro node token listening listens
      refine (renamed.living node token listening listens).imp_right ?_
      exact Table.not_mem_namesOf_of_named? held listening
  | some former =>
      refine SubscribedBut.retireFork ?_ renamedWired
      refine ⟨renamed.names, renamed.tokens, renamed.fresh, ?_⟩
      intro node token listening listens
      refine (renamed.living node token listening listens).imp_right fun named => ?_
      exact subscribed.names name listening former named (Table.mem_namesOf_of_named? held)

theorem subscribed_dropFork
    (subscribed : store.Subscribed)
    (wired : store.Wired)
    (name : String) :
    (store.dropFork name).Subscribed := by
  unfold dropFork
  cases held : store.forks.named? name with
  | none => exact subscribed
  | some former =>
      refine SubscribedBut.retireFork ?_ ((growth_forgetForks name).wired wired)
      refine ⟨subscribed.names.forget name, subscribed.tokens, subscribed.fresh, ?_⟩
      intro node token listening listens
      by_cases named : name ∈ store.forks.namesOf listening
      · exact Or.inr
          (subscribed.names name listening former named (Table.mem_namesOf_of_named? held))
      · exact Or.inl ((Table.isNamed_forget named).trans (subscribed.alive listens))

/-- A fork that is enrolled is the only listener that is not known by a name yet. -/
theorem subscribedBut_enroll
    {record : Fork}
    (subscribed : store.Subscribed)
    (issued : store.nodes.Issued record.node)
    (left : (store.nodes.get record.node).subscriptions + 1 < UInt64.size) :
    SubscribedBut (· = store.forks.next) (store.enroll record) := by
  have bound : SubscribedBut (· = store.forks.next)
      (store.modifyStack record.stack fun stack =>
        { stack with members := stack.members.put record.member store.forks.next }) :=
    ⟨subscribed.names, subscribed.tokens, subscribed.fresh,
      fun _ _ _ listens => Or.inl (subscribed.alive listens)⟩
  obtain ⟨names, tokens, fresh, living⟩ :=
    bound.subscribe issued left (.fork store.forks.next) (fun fork isFork => by
      cases isFork
      rfl)
  refine ⟨names.of_namesOf_eq (Table.namesOf_add _ _), tokens, fresh, ?_⟩
  intro node token fork listens
  rw [isForkAlive_enroll]
  exact living node token fork listens

end Naming

/-! ### Actions -/

theorem subscribed_act
    {action : Action}
    (subscribed : store.Subscribed)
    (wired : store.Wired)
    (acted : store.act? action = some after) :
    after.Subscribed := by
  have same (subscriptions : SameSubscriptions store after) : after.Subscribed :=
    subscriptions.subscribedBut subscribed
  cases step_of_act wired acted with
  | refused => exact subscribed
  | addAgent manner => exact same ⟨fun _ => rfl, fun _ => rfl, fun _ => rfl⟩
  | addStage name conduct => exact same ⟨fun _ => rfl, fun _ => rfl, fun _ => rfl⟩
  | addNode customs label name address network =>
      exact same ((SameSubscriptions.addNode store name address network _).trans
        (SameSubscriptions.nameNode _ _ label))
  | holdNode _ label => exact same (SameSubscriptions.nameNode store _ label)
  | dropNode label => exact same (SameSubscriptions.dropNode store label)
  | setReceiver => exact same ⟨fun _ => rfl, fun _ => rfl, fun _ => rfl⟩
  | insertStage => exact same ⟨fun _ => rfl, fun _ => rfl, fun _ => rfl⟩
  | ensureDemultiplexer splice => exact same (SameSubscriptions.of_splice splice)
  | ensureStack splice => exact same (SameSubscriptions.of_splice splice)
  | buildFork nodeAlive left customs isBuilt label =>
      obtain ⟨builtWired, issued, bound⟩ := wired_buildFork wired nodeAlive left customs isBuilt
      obtain ⟨stacked, record, splice, enrollable, _, isNext, isBuiltStore⟩ :=
        buildFork_enrolls wired nodeAlive left customs isBuilt
      have stackedSubscribed := (SameSubscriptions.of_splice splice).subscribedBut subscribed
      subst isNext
      subst isBuiltStore
      exact subscribed_nameFork
        (subscribedBut_enroll stackedSubscribed enrollable.node enrollable.left) builtWired
        issued bound label
  | @holdFork fork alive label =>
      have exceptFork : SubscribedBut (· = fork) store :=
        ⟨subscribed.names, subscribed.tokens, subscribed.fresh,
          fun _ _ _ listens => Or.inl (subscribed.alive listens)⟩
      exact subscribed_nameFork exceptFork wired (Table.issued_of_isNamed alive)
        (wired.bound _ alive) label
  | dropFork label => exact subscribed_dropFork subscribed wired label
  | setForkReceiver =>
      exact same ⟨fun _ => rfl, fun _ => rfl, Table.namesOf_modify _ _ _⟩
  | listen issued left agent =>
      exact SubscribedBut.subscribe subscribed issued left (.agent agent)
        fun fork isFork => nomatch isFork
  | unlisten => exact SubscribedBut.unsubscribe subscribed _ _
  | travel finished =>
      exact same (SameSubscriptions.of_skeleton_eq (skeleton_eq_of_travel finished))
  | receive finished =>
      exact same (SameSubscriptions.of_skeleton_eq (skeleton_eq_of_receive finished))
  | call _ finished =>
      exact same (SameSubscriptions.of_skeleton_eq (skeleton_eq_of_call finished))

theorem subscribed_of_reachable
    {permits : Action → Prop}
    (reachable : Reachable permits store) :
    store.Subscribed := by
  induction reachable with
  | empty =>
      refine ⟨?_, fun _ => List.nodup_nil, ?_, ?_⟩
      · intro name left right member
        cases member
      · intro node entry listed
        cases listed
      · intro node token fork listens
        cases listens
  | step reachable _ acted inductionHypothesis =>
      exact subscribed_act inductionHypothesis (wired_of_reachable reachable) acted

/-! ### Listeners that are not forks -/

/-- The agents that listen to a node, under their tokens. -/
def externals (store : Store) (node : Ref .node) : List (UInt64 × Ref .agent) :=
  (store.nodes.get node).listeners.filterMap fun entry =>
    match entry.2 with
    | .agent agent => some (entry.1, agent)
    | .fork _ => none

/-- The agents that listen to a node after an action. -/
def externalsAfter (store : Store) (action : Action) (node : Ref .node) :
    List (UInt64 × Ref .agent) :=
  match action with
  | .listen other agent =>
      if node = other then store.externals node ++ [((store.nodes.get node).nextToken, agent)]
      else store.externals node
  | .unlisten other token =>
      if node = other then (store.externals node).filter (fun entry => entry.1 != token)
      else store.externals node
  | _ => store.externals node

theorem SameSubscriptions.externals (same : SameSubscriptions before after) (node : Ref .node) :
    after.externals node = before.externals node := by
  unfold Store.externals
  rw [same.listeners]

theorem externals_unsubscribe (store : Store) (node : Ref .node) (token : UInt64)
    (other : Ref .node) :
    (store.unsubscribe node token).externals other =
      if other = node then (store.externals other).filter (fun entry => entry.1 != token)
      else store.externals other := by
  unfold externals
  rw [listeners_unsubscribe]
  split
  · induction (store.nodes.get other).listeners with
    | nil => rfl
    | cons entry rest inductionHypothesis =>
        obtain ⟨own, listener⟩ := entry
        cases listener <;> by_cases isToken : own = token <;>
          simp [isToken, inductionHypothesis]
  · rfl

theorem externals_subscribe_fork
    (issued : store.nodes.Issued node)
    (fork : Ref .fork)
    (other : Ref .node) :
    (store.subscribe node (.fork fork)).2.externals other = store.externals other := by
  unfold externals
  by_cases same : other = node
  · subst same
    rw [node_subscribe_self issued, List.filterMap_append]
    simp
  · rw [node_subscribe_of_ne same]

theorem externals_subscribe_agent
    (issued : store.nodes.Issued node)
    (agent : Ref .agent)
    (other : Ref .node) :
    (store.subscribe node (.agent agent)).2.externals other =
      if other = node then
        store.externals other ++ [((store.nodes.get other).nextToken, agent)]
      else store.externals other := by
  unfold externals
  by_cases same : other = node
  · subst same
    rw [node_subscribe_self issued, List.filterMap_append, if_pos rfl]
    rfl
  · rw [node_subscribe_of_ne same, if_neg same]

/-- The token of a fork that listens is the token of nobody else. -/
theorem SubscribedBut.externals_unsubscribe
    {excepted : Ref .fork → Prop}
    {fork : Ref .fork}
    (subscribed : SubscribedBut excepted store)
    (listens : (token, .fork fork) ∈ (store.nodes.get node).listeners)
    (other : Ref .node) :
    (store.unsubscribe node token).externals other = store.externals other := by
  rw [Store.externals_unsubscribe]
  split
  · rename_i same
    rw [List.filter_eq_self]
    rintro ⟨own, agent⟩ member
    obtain ⟨entry, listed, isAgent⟩ := List.mem_filterMap.mp member
    rw [bne_iff_ne]
    rintro rfl
    -- Two entries under one token are the same entry.
    obtain ⟨entryToken, listener⟩ := entry
    cases listener with
    | fork fork => cases isAgent
    | agent listening =>
        cases isAgent
        rw [← same] at listens
        have both := List.inj_on_of_nodup_map (subscribed.tokens other) listed listens rfl
        cases both
  · rfl

theorem externals_retireFork
    {excepted : Ref .fork → Prop}
    {ended : Ref .fork}
    (subscribed : SubscribedBut excepted store)
    (listens : ((store.forks.get ended).token, .fork ended) ∈
      (store.nodes.get (store.forks.get ended).node).listeners)
    (other : Ref .node) :
    (store.retireFork ended).externals other = store.externals other := by
  unfold retireFork
  split
  · rfl
  · exact subscribed.externals_unsubscribe listens other

theorem externals_nameFork
    {fork : Ref .fork}
    (subscribed : SubscribedBut (· = fork) store)
    (wired : store.Wired)
    (issued : store.forks.Issued fork)
    (name : String)
    (other : Ref .node) :
    (store.nameFork fork name).externals other = store.externals other := by
  have renamed := subscribedBut_nameForks subscribed issued name
  unfold nameFork
  cases held : store.forks.named? name with
  | none => rfl
  | some former =>
      have named := Table.mem_namesOf_of_named? held
      have listens := (wired.bound former (Table.isNamed_iff.mpr ⟨name, named⟩)).listens
      refine externals_retireFork renamed ?_ other
      rw [Table.get_name]
      exact listens

theorem externals_dropFork
    (subscribed : store.Subscribed)
    (wired : store.Wired)
    (name : String)
    (other : Ref .node) :
    (store.dropFork name).externals other = store.externals other := by
  unfold dropFork
  cases held : store.forks.named? name with
  | none => rfl
  | some former =>
      have named := Table.mem_namesOf_of_named? held
      have listens := (wired.bound former (Table.isNamed_iff.mpr ⟨name, named⟩)).listens
      have forgotten : SubscribedBut (fun ended => name ∈ store.forks.namesOf ended)
          { store with forks := store.forks.forget name } := by
        refine ⟨subscribed.names.forget name, subscribed.tokens, subscribed.fresh, ?_⟩
        intro node token listening listed
        by_cases isNamed : name ∈ store.forks.namesOf listening
        · exact Or.inr isNamed
        · exact Or.inl ((Table.isNamed_forget isNamed).trans (subscribed.alive listed))
      refine externals_retireFork forgotten ?_ other
      rw [Table.get_forget]
      exact listens

/-- Whoever subscribes or unsubscribes is not refused. -/
theorem externals_refused
    {action : Action}
    (wired : store.Wired)
    (refused : store.act? action = some store)
    (node : Ref .node) :
    store.externals node = store.externalsAfter action node := by
  cases action with
  | listen other agent =>
      obtain ⟨alive, _, same⟩ := act?_listen_eq_some.mp refused
      have subscribed :=
        externals_subscribe_agent (wired.issued_of_isNodeAlive alive) agent node
      rw [same] at subscribed
      exact subscribed
  | unlisten other token =>
      obtain ⟨_, acted⟩ := given_eq_some.mp refused
      have same := Option.some.inj acted
      have unsubscribed := externals_unsubscribe store other token node
      rw [same] at unsubscribed
      exact unsubscribed
  | _ => rfl

/-- The agents that listen change by subscribing and unsubscribing alone. -/
theorem externals_act
    {action : Action}
    (subscribed : store.Subscribed)
    (wired : store.Wired)
    (acted : store.act? action = some after)
    (node : Ref .node) :
    after.externals node = store.externalsAfter action node := by
  have same (subscriptions : SameSubscriptions store after) :
      after.externals node = store.externals node := subscriptions.externals node
  cases step_of_act wired acted with
  | refused => exact externals_refused wired acted node
  | addAgent manner => rfl
  | addStage name conduct => rfl
  | addNode customs label name address network =>
      exact same ((SameSubscriptions.addNode store name address network _).trans
        (SameSubscriptions.nameNode _ _ label))
  | holdNode _ label => exact same (SameSubscriptions.nameNode store _ label)
  | dropNode label => exact same (SameSubscriptions.dropNode store label)
  | setReceiver => rfl
  | insertStage => rfl
  | ensureDemultiplexer splice => exact same (SameSubscriptions.of_splice splice)
  | ensureStack splice => exact same (SameSubscriptions.of_splice splice)
  | buildFork nodeAlive left customs isBuilt label =>
      obtain ⟨builtWired, issued, bound⟩ := wired_buildFork wired nodeAlive left customs isBuilt
      obtain ⟨stacked, record, splice, enrollable, _, isNext, isBuiltStore⟩ :=
        buildFork_enrolls wired nodeAlive left customs isBuilt
      have stackedSame := SameSubscriptions.of_splice splice
      subst isNext
      subst isBuiltStore
      rw [externals_nameFork (subscribedBut_enroll (stackedSame.subscribedBut subscribed)
        enrollable.node enrollable.left) builtWired issued label]
      exact (externals_subscribe_fork enrollable.node _ node).trans (stackedSame.externals node)
  | @holdFork fork alive label =>
      have exceptFork : SubscribedBut (· = fork) store :=
        ⟨subscribed.names, subscribed.tokens, subscribed.fresh,
          fun _ _ _ listens => Or.inl (subscribed.alive listens)⟩
      exact externals_nameFork exceptFork wired (Table.issued_of_isNamed alive) label node
  | dropFork label => exact externals_dropFork subscribed wired label node
  | setForkReceiver => rfl
  | listen issued _ agent => exact externals_subscribe_agent issued agent node
  | unlisten => exact externals_unsubscribe store _ _ node
  | travel finished =>
      exact same (SameSubscriptions.of_skeleton_eq (skeleton_eq_of_travel finished))
  | receive finished =>
      exact same (SameSubscriptions.of_skeleton_eq (skeleton_eq_of_receive finished))
  | call _ finished =>
      exact same (SameSubscriptions.of_skeleton_eq (skeleton_eq_of_call finished))

/-! ### How often a node has been subscribed to -/

theorem subscriptions_retireFork
    (store : Store)
    (ended : Ref .fork)
    (node : Ref .node) :
    ((store.retireFork ended).nodes.get node).subscriptions =
      (store.nodes.get node).subscriptions := by
  unfold retireFork
  split
  · rfl
  · exact subscriptions_unsubscribe _ _ _ _

theorem subscriptions_nameFork
    (store : Store)
    (fork : Ref .fork)
    (name : String)
    (node : Ref .node) :
    ((store.nameFork fork name).nodes.get node).subscriptions =
      (store.nodes.get node).subscriptions := by
  unfold nameFork
  cases store.forks.named? name with
  | none => rfl
  | some former => exact subscriptions_retireFork _ former node

theorem subscriptions_dropFork
    (store : Store)
    (name : String)
    (node : Ref .node) :
    ((store.dropFork name).nodes.get node).subscriptions =
      (store.nodes.get node).subscriptions := by
  unfold dropFork
  cases store.forks.named? name with
  | none => rfl
  | some former => exact subscriptions_retireFork _ former node

theorem subscriptions_subscribe_le
    (issued : store.nodes.Issued node)
    (left : (store.nodes.get node).subscriptions + 1 < UInt64.size)
    (listener : Listener)
    (other : Ref .node) :
    (store.nodes.get other).subscriptions ≤
      ((store.subscribe node listener).2.nodes.get other).subscriptions := by
  by_cases same : other = node
  · subst same
    rw [node_subscribe_self issued]
    exact Node.subscriptions_le left rfl
  · rw [node_subscribe_of_ne same]

/-- Tokens are given out once: what has been given out is never taken back. -/
theorem subscriptions_act_le
    {action : Action}
    (wired : store.Wired)
    (acted : store.act? action = some after)
    (node : Ref .node) :
    (store.nodes.get node).subscriptions ≤ (after.nodes.get node).subscriptions := by
  have same (subscriptions : SameSubscriptions store after) :
      (store.nodes.get node).subscriptions ≤ (after.nodes.get node).subscriptions :=
    (subscriptions.subscriptions node).ge
  cases step_of_act wired acted with
  | refused => exact Nat.le_refl _
  | addAgent manner => exact Nat.le_refl _
  | addStage name conduct => exact Nat.le_refl _
  | addNode customs label name address network =>
      exact same ((SameSubscriptions.addNode store name address network _).trans
        (SameSubscriptions.nameNode _ _ label))
  | holdNode _ label => exact same (SameSubscriptions.nameNode store _ label)
  | dropNode label => exact same (SameSubscriptions.dropNode store label)
  | setReceiver => exact Nat.le_refl _
  | insertStage => exact Nat.le_refl _
  | ensureDemultiplexer splice => exact same (SameSubscriptions.of_splice splice)
  | ensureStack splice => exact same (SameSubscriptions.of_splice splice)
  | buildFork nodeAlive left customs isBuilt label =>
      obtain ⟨stacked, record, splice, enrollable, _, isNext, isBuiltStore⟩ :=
        buildFork_enrolls wired nodeAlive left customs isBuilt
      subst isNext
      subst isBuiltStore
      have stackedSame := (SameSubscriptions.of_splice splice).subscriptions node
      have enrolled :=
        subscriptions_subscribe_le enrollable.node enrollable.left (.fork stacked.forks.next) node
      rw [subscriptions_nameFork]
      exact stackedSame.ge.trans enrolled
  | holdFork _ label => exact (subscriptions_nameFork store _ label node).ge
  | dropFork label => exact (subscriptions_dropFork store label node).ge
  | setForkReceiver => exact Nat.le_refl _
  | listen issued left agent => exact subscriptions_subscribe_le issued left (.agent agent) node
  | unlisten => exact (subscriptions_unsubscribe store _ _ node).ge
  | travel finished =>
      exact same (SameSubscriptions.of_skeleton_eq (skeleton_eq_of_travel finished))
  | receive finished =>
      exact same (SameSubscriptions.of_skeleton_eq (skeleton_eq_of_receive finished))
  | call _ finished =>
      exact same (SameSubscriptions.of_skeleton_eq (skeleton_eq_of_call finished))

end ChannelMux.Store
