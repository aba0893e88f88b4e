import ChannelMux.Proofs.Delivery.Announcing
import ChannelMux.Proofs.Delivery.Hearing
import ChannelMux.Proofs.Delivery.Skeleton
import ChannelMux.Proofs.Network.Membership

/-!
Contract: what members and listeners hear of operations where nobody gives commands.

Owns which view every node has after an operation, and what has been heard in its course:
what members hear of a new view they hear in passing, and listeners hear of a status in the
order in which they are subscribed. A fork hears of the address of its node when it hears
that the node is connected, and at no other time.
-/

namespace ChannelMux

/-- Which fork is told which address, if that is what is heard. -/
def Hearing.address? : Hearing → Option (Ref .fork × Address)
  | .fork channel (.single (.localAddress address)) => some (channel, address)
  | _ => none

/-- Whatever forks hear, they last. -/
def Hearing.ForLiving (store : Store) : Hearing → Prop
  | .fork channel _ => store.isForkAlive channel = true
  | _ => True

theorem Hearing.InPassing.forLiving
    {store : Store}
    {hearing : Hearing}
    (inPassing : hearing.InPassing store) :
    hearing.ForLiving store := by
  cases hearing with
  | fork channel traffic => exact inPassing.1
  | top pipeline traffic => trivial
  | outlet pipeline event => trivial
  | listener agent entered now => trivial

theorem Hearing.ForLiving.of_skeleton_eq
    {before after : Store}
    {hearing : Hearing}
    (living : hearing.ForLiving after)
    (same : after.skeleton = before.skeleton) :
    hearing.ForLiving before := by
  cases hearing with
  | fork channel traffic => exact (Store.isForkAlive_eq same channel).symm.trans living
  | top pipeline traffic => trivial
  | outlet pipeline event => trivial
  | listener agent entered now => trivial

theorem Hearing.InPassing.address?
    {store : Store}
    {hearing : Hearing}
    (inPassing : hearing.InPassing store) :
    hearing.address? = none := by
  cases hearing with
  | fork channel traffic =>
      obtain ⟨_, reaches⟩ := inPassing
      cases traffic with
      | single event =>
          cases event with
          | localAddress address => cases reaches
          | message content => rfl
          | viewChange view => rfl
          | suspect address => rfl
      | batch whole => rfl
  | top pipeline traffic => rfl
  | outlet pipeline event => rfl
  | listener agent entered now => rfl

/-- In passing no fork hears of an address. -/
theorem Hearing.addresses_of_passing
    {store : Store}
    {hearings : List Hearing}
    (passing : ∀ hearing ∈ hearings, hearing.InPassing store) :
    hearings.filterMap Hearing.address? = [] := by
  rw [List.filterMap_eq_nil_iff]
  intro hearing member
  exact (passing hearing member).address?

/-! ### Giving a view -/

/-- Between two stores some nodes have been given a view. -/
structure Announced (base : Store) (view : View) (recipients : List (Ref .node))
    (before after : Store) : Prop where
  shape : after.shape = before.shape
  views : ∀ node, before.nodes.Issued node → (after.nodes.get node).view? =
    if node ∈ recipients then some view else (before.nodes.get node).view?
  heard : ∃ hearings, (∀ hearing ∈ hearings, hearing.InPassing base) ∧
    Heard base hearings before after

namespace Announced

variable {base before after : Store} {view : View} {depth : Nat}

theorem skeleton
    {recipients : List (Ref .node)}
    (announced : Announced base view recipients before after) :
    after.skeleton = before.skeleton := Store.skeleton_eq_of_shape_eq announced.shape

theorem nobody (base before : Store) (view : View) : Announced base view [] before before where
  shape := rfl
  views _ _ := by simp
  heard := ⟨[], by simp, Heard.nothing rfl⟩

theorem cons
    {between : Store}
    {node : Ref .node}
    {rest : List (Ref .node)}
    (first : Announced base view [node] before between)
    (later : Announced base view rest between after) :
    Announced base view (node :: rest) before after where
  shape := later.shape.trans first.shape
  views other issued := by
    rw [later.views other ((Store.issued_node_iff first.skeleton other).mpr issued),
      first.views other issued]
    by_cases inRest : other ∈ rest <;> simp [inRest]
  heard := by
    obtain ⟨earlier, earlierPassing, earlierHeard⟩ := first.heard
    obtain ⟨others, othersPassing, othersHeard⟩ := later.heard
    refine ⟨earlier ++ others, fun hearing member => ?_, earlierHeard.trans othersHeard⟩
    rcases List.mem_append.mp member with inEarlier | inOthers
    · exact earlierPassing hearing inEarlier
    · exact othersPassing hearing inOthers

theorem giveView
    {node : Ref .node}
    (passive : base.Passive)
    (same : before.skeleton = base.skeleton)
    (finished : Delivery.giveView (Entrances.within depth) view node before =
      some ((), after)) :
    Announced base view [node] before after := by
  obtain ⟨_, viewed, isViewed, travels⟩ := Rule.bind_eq_some finished
  cases isViewed
  have shape : (before.modifyNode node fun record =>
      { record with view? := some view }).shape = before.shape := by
    apply Store.shape_modifyNode
    intro record
    rfl
  have skeleton := (Store.skeleton_eq_of_shape_eq shape).trans same
  have governed : (Passing.rule base).Governs
      (Run.look (fun store : Store => (store.nodes.get node).pipeline) >>= fun pipeline =>
        ((Entrances.within depth).travel (.up pipeline (.single (.viewChange view)))).ignore) :=
    Rule.look fun _ _ => Rule.ignore (Passing.governs_within passive depth _)
  have passing := governed _ _ _ skeleton travels
  refine ⟨passing.shape.trans shape, fun other issued => ?_, passing.heard⟩
  rw [passing.views other]
  by_cases isNode : other = node
  · subst isNode
    unfold Store.modifyNode
    rw [Table.get_modify_self issued, if_pos List.mem_cons_self]
  · unfold Store.modifyNode
    rw [Table.get_modify_of_ne isNode, if_neg (by simp [isNode])]

theorem forM
    {recipients : List (Ref .node)}
    (passive : base.Passive)
    (same : before.skeleton = base.skeleton)
    (finished : recipients.forM (Delivery.giveView (Entrances.within depth) view) before =
      some ((), after)) :
    Announced base view recipients before after := by
  induction recipients generalizing before with
  | nil =>
      cases finished
      exact nobody base _ view
  | cons node rest inductionHypothesis =>
      obtain ⟨_, between, gives, onward⟩ := Rule.bind_eq_some finished
      have first := giveView passive same gives
      exact first.cons (inductionHypothesis (first.skeleton.trans same) onward)

end Announced

/-- The view that a node has after an announcement. -/
def Announcement.given (announcement? : Option Announcement) (node : Ref .node)
    (old? : Option View) : Option View :=
  match announcement? with
  | some announcement =>
      if node ∈ announcement.recipients then some announcement.view else old?
  | none => old?

/-! ### Telling the listeners -/

namespace Store

/-- What a listener of a node hears when it is told of a status. -/
def noticed (store : Store) (node : Ref .node) (entered : Status) : Listener → List Hearing
  | .agent agent => [.listener agent entered (store.nodes.get node).status]
  | .fork fork =>
      if store.isForkAlive fork = true ∧ entered = .connected then
        [.fork fork (.single (.localAddress (store.nodes.get node).address))]
      else []

/-- What the listeners of a node hear when they are told of a status. -/
def notified (store : Store) (node : Ref .node) (entered : Status) : List Hearing :=
  (store.nodes.get node).listeners.flatMap fun entry => store.noticed node entered entry.2

/-- The fork that listens and lasts. -/
def livingFork? (store : Store) : Listener → Option (Ref .fork)
  | .agent _ => none
  | .fork fork => if store.isForkAlive fork then some fork else none

/-- The forks that listen to a node and last, in the order in which they were subscribed. -/
def forksOver (store : Store) (node : Ref .node) : List (Ref .fork) :=
  (store.nodes.get node).listeners.filterMap fun entry => store.livingFork? entry.2

variable {store : Store} {node : Ref .node} {entered : Status}

theorem forLiving_of_notified
    {hearing : Hearing}
    (member : hearing ∈ store.notified node entered) :
    hearing.ForLiving store := by
  obtain ⟨⟨token, listener⟩, _, noticed⟩ := List.mem_flatMap.mp member
  cases listener with
  | agent agent =>
      rw [List.mem_singleton.mp noticed]
      trivial
  | fork fork =>
      by_cases addressed : store.isForkAlive fork = true ∧ entered = .connected
      · have isAddress : hearing =
            .fork fork (.single (.localAddress (store.nodes.get node).address)) := by
          simpa [Store.noticed, addressed] using noticed
        rw [isAddress]
        exact addressed.1
      · simp [Store.noticed, addressed] at noticed

/-- Forks that are told of a status other than being connected hear nothing. -/
theorem addresses_notified_of_ne (different : entered ≠ .connected) :
    (store.notified node entered).filterMap Hearing.address? = [] := by
  rw [List.filterMap_eq_nil_iff]
  intro hearing member
  obtain ⟨⟨token, listener⟩, _, noticed⟩ := List.mem_flatMap.mp member
  cases listener with
  | agent agent =>
      rw [List.mem_singleton.mp noticed]
      rfl
  | fork fork => simp [Store.noticed, different] at noticed

/-- When a node is connected, every fork that listens and lasts hears of its address. -/
theorem addresses_notified :
    (store.notified node .connected).filterMap Hearing.address? =
      (store.forksOver node).map (·, (store.nodes.get node).address) := by
  unfold notified forksOver
  induction (store.nodes.get node).listeners with
  | nil => rfl
  | cons entry rest inductionHypothesis =>
      rw [List.flatMap_cons, List.filterMap_append, inductionHypothesis, List.filterMap_cons]
      obtain ⟨token, listener⟩ := entry
      cases listener with
      | agent agent => rfl
      | fork fork =>
          by_cases alive : store.isForkAlive fork = true
          · simp [noticed, livingFork?, alive, Hearing.address?]
          · simp [noticed, livingFork?, alive]

end Store

/-- Between two stores the listeners of a node have been told of a status. -/
structure Notified (base : Store) (hearings : List Hearing) (before after : Store) : Prop where
  nodes : after.nodes = before.nodes
  networks : after.networks = before.networks
  stages : after.stages = before.stages
  skeleton : after.skeleton = before.skeleton
  heard : Heard base hearings before after

namespace Notified

variable {base before after : Store} {node : Ref .node} {entered : Status} {depth : Nat}

theorem refl (base before : Store) : Notified base [] before before :=
  ⟨rfl, rfl, rfl, rfl, Heard.nothing rfl⟩

theorem trans
    {between : Store}
    {first second : List Hearing}
    (earlier : Notified base first before between)
    (later : Notified base second between after) :
    Notified base (first ++ second) before after where
  nodes := later.nodes.trans earlier.nodes
  networks := later.networks.trans earlier.networks
  stages := later.stages.trans earlier.stages
  skeleton := later.skeleton.trans earlier.skeleton
  heard := earlier.heard.trans later.heard

theorem noticed_eq (notified : before.nodes = after.nodes)
    (same : before.skeleton = after.skeleton) (listener : Listener) :
    before.noticed node entered listener = after.noticed node entered listener := by
  unfold Store.noticed
  rw [notified]
  cases listener with
  | agent agent => rfl
  | fork fork => simp only [Store.isForkAlive_eq same]

/-- Whoever is told does nothing but record it. -/
theorem tell
    (hearing : Hearing)
    {agent : Ref .agent}
    {outcome : Outcome}
    (passive : base.Passive)
    (same : before.skeleton = base.skeleton)
    (isAgent : hearing.agent? base = some agent)
    (finished : Delivery.tell (Entrances.within depth) agent hearing.notice before =
      some (outcome, after)) :
    Notified base [hearing] before after := by
  rw [tell_of_passive (passive.of_skeleton_eq same agent)] at finished
  cases finished
  refine ⟨rfl, rfl, rfl, Store.skeleton_eq_of_shape_eq (shape_hear before agent _), ?_⟩
  unfold Heard Hearing.told
  rw [List.filterMap_cons, isAgent]
  rfl

theorem handFork
    {fork : Ref .fork}
    {traffic : Traffic}
    {outcome : Outcome}
    (passive : base.Passive)
    (same : before.skeleton = base.skeleton)
    (finished : Delivery.handFork (Entrances.within depth) fork traffic before =
      some (outcome, after)) :
    Notified base [.fork fork traffic] before after := by
  change Delivery.hand _ ((Hearing.fork fork traffic).agent? before) traffic before = _ at finished
  rw [Hearing.agent?_eq same] at finished
  cases isAgent : (Hearing.fork fork traffic).agent? base with
  | none =>
      rw [isAgent] at finished
      cases finished
      refine ⟨rfl, rfl, rfl, rfl, ?_⟩
      unfold Heard Hearing.told
      rw [List.filterMap_cons, isAgent]
      rfl
  | some agent =>
      rw [isAgent] at finished
      exact tell (.fork fork traffic) passive same isAgent finished

theorem tellListener
    {listener : Listener}
    (passive : base.Passive)
    (same : before.skeleton = base.skeleton)
    (finished : Delivery.tellListener (Entrances.within depth) node entered listener before =
      some ((), after)) :
    Notified base (before.noticed node entered listener) before after := by
  cases listener with
  | agent agent =>
      have tellsAgent : (Delivery.tell (Entrances.within depth) agent
          (.status entered (before.nodes.get node).status)).ignore before = some ((), after) :=
        finished
      obtain ⟨outcome, told, tells, isAfter⟩ := Rule.bind_eq_some tellsAgent
      cases isAfter
      exact tell (.listener agent entered (before.nodes.get node).status) passive same rfl tells
  | fork fork =>
      change (if before.isForkAlive fork = true then _ else _ : Run Unit) before = _ at finished
      by_cases alive : before.isForkAlive fork = true
      · rw [if_pos alive] at finished
        obtain ⟨_, adopted, adopts, onward⟩ := Rule.bind_eq_some finished
        cases adopts
        have skeleton : (before.modifyFork fork fun record =>
            { record with status := entered }).skeleton = before.skeleton := by
          apply Store.skeleton_modifyFork
          intro record
          rfl
        by_cases connected : entered = .connected
        · rw [if_pos connected] at onward
          obtain ⟨outcome, handed, hands, isAfter⟩ := Rule.bind_eq_some onward
          cases isAfter
          have notified := handFork passive (skeleton.trans same) hands
          have noticed : before.noticed node entered (.fork fork) =
              [.fork fork (.single (.localAddress (before.nodes.get node).address))] :=
            if_pos ⟨alive, connected⟩
          rw [noticed]
          exact ⟨notified.nodes, notified.networks, notified.stages,
            notified.skeleton.trans skeleton, notified.heard⟩
        · rw [if_neg connected] at onward
          cases onward
          have noticed : before.noticed node entered (.fork fork) = [] :=
            if_neg fun both => connected both.2
          rw [noticed]
          exact ⟨rfl, rfl, rfl, skeleton, Heard.nothing rfl⟩
      · rw [if_neg alive] at finished
        cases finished
        have noticed : before.noticed node entered (.fork fork) = [] :=
          if_neg fun both => alive both.1
        rw [noticed]
        exact refl base before

theorem tellAll
    {entries : List (UInt64 × Listener)}
    (passive : base.Passive)
    (same : before.skeleton = base.skeleton)
    (finished : (entries.forM fun entry =>
      Delivery.tellListener (Entrances.within depth) node entered entry.2) before =
        some ((), after)) :
    Notified base (entries.flatMap fun entry => before.noticed node entered entry.2)
      before after := by
  induction entries generalizing before with
  | nil =>
      cases finished
      exact refl base _
  | cons entry rest inductionHypothesis =>
      obtain ⟨_, between, tells, onward⟩ := Rule.bind_eq_some finished
      have first := tellListener passive same tells
      have later := inductionHypothesis (first.skeleton.trans same) onward
      simp only [noticed_eq first.nodes first.skeleton] at later
      rw [List.flatMap_cons]
      exact first.trans later

theorem tellListeners
    (passive : base.Passive)
    (same : before.skeleton = base.skeleton)
    (finished : Delivery.tellListeners (Entrances.within depth) node entered before =
      some ((), after)) :
    Notified base (before.notified node entered) before after :=
  tellAll passive same finished

end Notified

/-! ### Operations -/

/-- The forks that are told an address by an operation, in turn. -/
def Store.addressed (store : Store) : Operation → List (Ref .fork × Address)
  | .connect node _ =>
      if (store.nodes.get node).status = .opened then
        (store.forksOver node).map (·, (store.nodes.get node).address)
      else []
  | _ => []

theorem Store.skeleton_moved (store : Store) (operation : Operation) :
    (store.moved operation).skeleton = store.skeleton := by
  cases store.move_moved operation with
  | stays same => rw [same]
  | enters node name _ _ same =>
      rw [same]
      exact Store.skeleton_enter store node name
  | exits node _ _ same =>
      rw [same]
      exact Store.skeleton_exit store node

/-- What an operation comes to: the node is moved, the new view is given to those it is
announced to, nobody is given another one, and forks are told addresses only as the
operation says. -/
structure Accounts (inner : Entrances) (store : Store) (operation : Operation)
    (after : Store) : Prop where
  stands : after.networks = (store.reseated operation).networks ∧
    ∀ node, (after.nodes.get node).bare = ((store.reseated operation).nodes.get node).bare
  given : ∃ given, Delivery.announce inner (store.announcement? operation)
    (store.moved operation) = some ((), given) ∧ SameViews given after ∧
      (operation.sends = false → after.stages = given.stages)
  views : ∀ node, store.nodes.Issued node → (after.nodes.get node).view? =
    Announcement.given (store.announcement? operation) node
      ((store.moved operation).nodes.get node).view?
  heard : ∃ hearings, (∀ hearing ∈ hearings, hearing.ForLiving store) ∧
    hearings.filterMap Hearing.address? = store.addressed operation ∧
      Heard store hearings store after

namespace Accounts

variable {store after : Store} {depth : Nat}

/-- What is announced is heard in passing. -/
theorem announce
    {announcement? : Option Announcement}
    {before given : Store}
    (passive : store.Passive)
    (same : before.skeleton = store.skeleton)
    (announces : Delivery.announce (Entrances.within depth) announcement? before =
      some ((), given)) :
    given.shape = before.shape ∧
      (∀ node, before.nodes.Issued node → (given.nodes.get node).view? =
        Announcement.given announcement? node (before.nodes.get node).view?) ∧
      ∃ hearings, (∀ hearing ∈ hearings, hearing.InPassing store) ∧
        Heard store hearings before given := by
  cases announcement? with
  | none =>
      cases announces
      exact ⟨rfl, fun _ _ => rfl, [], by simp, Heard.nothing rfl⟩
  | some announcement =>
      have announced := Announced.forM passive same announces
      exact ⟨announced.shape, announced.views, announced.heard⟩

/-- A node is moved, the new view is announced, and the listeners are told. -/
theorem of_course
    {operation : Operation}
    {node : Ref .node}
    {entered : Status}
    {given : Store}
    (passive : store.Passive)
    (lasting : store.reseated operation = store.moved operation)
    (agents : (store.moved operation).agents = store.agents)
    (announces : Delivery.announce (Entrances.within depth) (store.announcement? operation)
      (store.moved operation) = some ((), given))
    (tells : Delivery.tellListeners (Entrances.within depth) node entered given =
      some ((), after))
    (addresses : given.skeleton = store.skeleton →
      (given.notified node entered).filterMap Hearing.address? = store.addressed operation) :
    Accounts (Entrances.within depth) store operation after := by
  obtain ⟨shape, views, passing, inPassing, heardPassing⟩ :=
    announce passive (store.skeleton_moved operation) announces
  have same := (Store.skeleton_eq_of_shape_eq shape).trans (store.skeleton_moved operation)
  have notified := Notified.tellListeners passive same tells
  have sameViews : SameViews given after := fun node => by rw [notified.nodes]
  refine ⟨⟨?_, fun other => ?_⟩, ⟨given, announces, sameViews, fun _ => notified.stages⟩,
    fun other issued => ?_,
    passing ++ given.notified node entered, fun hearing member => ?_, ?_, ?_⟩
  · rw [lasting]
    exact notified.networks.trans (Store.networks_eq shape)
  · rw [lasting, notified.nodes]
    exact Store.bare_node_eq shape other
  · rw [sameViews other]
    exact views other ((Store.issued_node_iff (store.skeleton_moved operation) other).mpr issued)
  · rcases List.mem_append.mp member with inPassed | inNotified
    · exact (inPassing hearing inPassed).forLiving
    · exact (Store.forLiving_of_notified inNotified).of_skeleton_eq same
  · rw [List.filterMap_append, Hearing.addresses_of_passing inPassing, List.nil_append]
    exact addresses same
  · have whole := heardPassing.trans notified.heard
    unfold Heard at *
    rw [whole, agents]

/-- Whatever finds the node elsewhere does nothing. -/
theorem of_nothing
    {operation : Operation}
    (silent : store.announcement? operation = none)
    (lasting : store.reseated operation = store)
    (still : store.moved operation = store)
    (unaddressed : store.addressed operation = []) :
    Accounts (Entrances.within depth) store operation store where
  stands := by
    rw [lasting]
    exact ⟨rfl, fun _ => rfl⟩
  given := ⟨store, by rw [silent, still]; rfl, fun _ => rfl, fun _ => rfl⟩
  views node _ := by rw [silent, still]; rfl
  heard := ⟨[], by simp, unaddressed.symm, Heard.nothing rfl⟩

theorem of_passing
    {operation : Operation}
    (sends : operation.sends = true)
    (passing : Passing store store after) :
    Accounts (Entrances.within depth) store operation after := by
  obtain ⟨shape, views, hearings, inPassing, heard⟩ := passing
  have silent : store.announcement? operation = none := by
    cases operation with
    | sendFork fork message => rfl
    | sendNode node message => rfl
    | _ => cases sends
  have still : store.moved operation = store := by
    cases operation with
    | sendFork fork message => rfl
    | sendNode node message => rfl
    | _ => cases sends
  have unaddressed : store.addressed operation = [] := by
    cases operation with
    | sendFork fork message => rfl
    | sendNode node message => rfl
    | _ => cases sends
  have lasting : store.reseated operation = store := by
    cases operation with
    | sendFork fork message => rfl
    | sendNode node message => rfl
    | _ => cases sends
  refine ⟨⟨?_, fun node => ?_⟩, ⟨store, ?_, fun node => views node,
    fun calls => nomatch sends.symm.trans calls⟩, fun node _ => ?_, hearings,
    ?_, ?_, heard⟩
  · rw [lasting]
    exact Store.networks_eq shape
  · rw [lasting]
    exact Store.bare_node_eq shape node
  · rw [silent, still]
    rfl
  · rw [silent, still]
    exact views node
  · exact fun hearing member => (inPassing hearing member).forLiving
  · rw [unaddressed]
    exact Hearing.addresses_of_passing inPassing

/-! ### Connecting, disconnecting and closing -/

section Nodes

variable {node : Ref .node}

theorem forksOver_eq
    {before after : Store}
    (same : after.skeleton = before.skeleton)
    (node : Ref .node) :
    after.forksOver node = before.forksOver node := by
  have living (listener : Listener) :
      after.livingFork? listener = before.livingFork? listener := by
    cases listener with
    | agent agent => rfl
    | fork fork =>
        unfold Store.livingFork?
        simp only [Store.isForkAlive_eq same]
  unfold Store.forksOver
  simp only [Store.listeners_eq same, living]

theorem connect
    {name : String}
    {outcome : Outcome}
    (passive : store.Passive)
    (finished : Delivery.connect (Entrances.within depth) node name store =
      some (outcome, after)) :
    Accounts (Entrances.within depth) store (.connect node name) after := by
  by_cases opened : (store.nodes.get node).status = .opened
  · have moves : store.moved (.connect node name) = store.enter node name := if_pos opened
    rw [Delivery.connect_eq opened, ← moves] at finished
    obtain ⟨_, given, announces, onward⟩ := Rule.bind_eq_some finished
    obtain ⟨_, told, tells, isAfter⟩ := Rule.bind_eq_some onward
    cases isAfter
    refine of_course passive rfl ?_ announces tells fun same => ?_
    · rw [moves]
      rfl
    · have sameAddress : (given.nodes.get node).address = (store.nodes.get node).address := by
        have fields := congrArg Node.address (Store.still_node_eq same node)
        exact fields
      have addressed : store.addressed (.connect node name) =
          (store.forksOver node).map (·, (store.nodes.get node).address) := if_pos opened
      rw [addressed, Store.addresses_notified, forksOver_eq same, sameAddress]
  · have nothing : after = store := by
      unfold Delivery.connect at finished
      rw [Rule.look_apply] at finished
      cases status : (store.nodes.get node).status with
      | opened => exact absurd status opened
      | closed =>
          rw [status] at finished
          cases finished
          rfl
      | connected =>
          rw [status] at finished
          dsimp only at finished
          split at finished <;> cases finished <;> rfl
      | connecting =>
          rw [status] at finished
          dsimp only at finished
          split at finished <;> cases finished <;> rfl
    subst nothing
    exact of_nothing (if_neg opened) (if_neg opened) (if_neg opened) (if_neg opened)

theorem disconnect
    (passive : store.Passive)
    (finished : Delivery.disconnect (Entrances.within depth) node store = some ((), after)) :
    Accounts (Entrances.within depth) store (.disconnect node) after := by
  by_cases connected : (store.nodes.get node).status = .connected
  · have moves : store.moved (.disconnect node) = store.exit node := if_pos connected
    rw [Delivery.disconnect_eq connected, ← moves] at finished
    obtain ⟨_, given, announces, tells⟩ := Rule.bind_eq_some finished
    refine of_course passive rfl ?_ announces tells fun _ => ?_
    · rw [moves]
      exact Store.agents_exit store node
    · exact Store.addresses_notified_of_ne fun impossible => nomatch impossible
  · have nothing : after = store := by
      change (if (store.nodes.get node).status = .connected then _ else _ : Run Unit) store = _
        at finished
      rw [if_neg connected] at finished
      cases finished
      rfl
    subst nothing
    exact of_nothing (if_neg connected) (if_neg connected) (if_neg connected) rfl

theorem node_shut_self (issued : store.nodes.Issued node) :
    (store.shut node).nodes.get node = { store.nodes.get node with status := .closed } := by
  rw [Store.nodes_shut, Table.get_modify_self issued]

theorem node_shut_of_ne
    {other : Ref .node}
    (different : other ≠ node)
    (store : Store) :
    (store.shut node).nodes.get other = store.nodes.get other := by
  rw [Store.nodes_shut, Table.get_modify_of_ne different]

/-- Closing makes the same of nodes that are the same. -/
theorem bare_shut
    {left right : Store}
    (same : left.skeleton = right.skeleton)
    (nodes : ∀ other, (left.nodes.get other).bare = (right.nodes.get other).bare)
    (other : Ref .node) :
    ((left.shut node).nodes.get other).bare = ((right.shut node).nodes.get other).bare := by
  by_cases isNode : other = node
  · subst isNode
    by_cases issued : right.nodes.Issued other
    · rw [node_shut_self ((Store.issued_node_iff same other).mpr issued), node_shut_self issued]
      exact congrArg (fun record : Node => { record with status := .closed }) (nodes other)
    · have notIssued : ¬ left.nodes.Issued other :=
        fun there => issued ((Store.issued_node_iff same other).mp there)
      rw [Store.nodes_shut, Store.nodes_shut,
        Table.get_of_not_issued (mt Table.issued_modify.mp notIssued),
        Table.get_of_not_issued (mt Table.issued_modify.mp issued)]
  · rw [node_shut_of_ne isNode, node_shut_of_ne isNode]
    exact nodes other

/-- Closing makes nothing of a node that is closed. -/
theorem bare_shut_of_closed
    (closed : (store.nodes.get node).status = .closed)
    (other : Ref .node) :
    ((store.shut node).nodes.get other).bare = (store.nodes.get other).bare := by
  by_cases isNode : other = node
  · subst isNode
    have issued : store.nodes.Issued other := by
      by_contra notIssued
      rw [Table.get_of_not_issued notIssued] at closed
      cases closed
    rw [node_shut_self issued, ← closed]
  · rw [node_shut_of_ne isNode]

/-- Closing announces what disconnecting does, and tells the listeners once more. -/
theorem close
    (passive : store.Passive)
    (finished : Delivery.close (Entrances.within depth) node store = some ((), after)) :
    Accounts (Entrances.within depth) store (.close node) after := by
  obtain ⟨_, left, leaves, onward⟩ := Rule.bind_eq_some finished
  obtain ⟨⟨networks, nodes⟩, given, views, heard⟩ := disconnect passive leaves
  have sameLeft : left.skeleton = store.skeleton :=
    (Skeleton.governs_disconnect depth node) _ _ _ trivial leaves
  have sameMoved : left.skeleton = (store.moved (.disconnect node)).skeleton := by
    rw [sameLeft, Store.skeleton_moved]
  have shutNodes (other : Ref .node) : ((left.shut node).nodes.get other).bare =
      ((store.reseated (.close node)).nodes.get other).bare := bare_shut sameMoved nodes other
  change (if (left.nodes.get node).status ≠ .closed then _ else _ : Run Unit) left = _ at onward
  by_cases closed : (left.nodes.get node).status = .closed
  · rw [if_neg (not_not_intro closed)] at onward
    cases onward
    refine ⟨⟨networks, fun other => ?_⟩, given, views, heard⟩
    rw [← bare_shut_of_closed closed other]
    exact shutNodes other
  · rw [if_pos closed] at onward
    obtain ⟨_, shut, shuts, tells⟩ := Rule.bind_eq_some onward
    cases shuts
    have same : (left.shut node).skeleton = store.skeleton := by
      refine Eq.trans ?_ sameLeft
      apply Store.skeleton_modifyNode
      intro record
      rfl
    have notified : Notified store ((left.shut node).notified node .closed) (left.shut node)
        after := Notified.tellListeners passive same tells
    have sameViews : SameViews left after := by
      intro other
      rw [notified.nodes]
      apply Table.read_modify Node.view?
      intro record
      rfl
    have silent : ((left.shut node).notified node .closed).filterMap Hearing.address? = [] :=
      Store.addresses_notified_of_ne fun impossible => nomatch impossible
    obtain ⟨between, announces, viewsBetween, stages⟩ := given
    obtain ⟨hearings, living, addresses, heardLeft⟩ := heard
    refine ⟨⟨notified.networks.trans networks, fun other => ?_⟩,
      ⟨between, announces, fun other => (sameViews other).trans (viewsBetween other),
        fun calls => notified.stages.trans (stages calls)⟩,
      fun other issued => (sameViews other).trans (views other issued),
      hearings ++ (left.shut node).notified node .closed, fun hearing member => ?_, ?_, ?_⟩
    · rw [notified.nodes]
      exact shutNodes other
    · rcases List.mem_append.mp member with earlier | later
      · exact living hearing earlier
      · exact (Store.forLiving_of_notified later).of_skeleton_eq same
    · rw [List.filterMap_append, addresses, silent, List.append_nil]
      rfl
    · exact heardLeft.trans notified.heard

end Nodes

theorem call
    {operation : Operation}
    {reply : Reply}
    (passive : store.Passive)
    (finished : Delivery.call (Entrances.within depth) operation store = some (reply, after)) :
    Accounts (Entrances.within depth) store operation after := by
  cases operation with
  | sendFork fork message =>
      exact of_passing rfl (Passing.governs_call passive rfl depth store reply after rfl finished)
  | sendNode node message =>
      exact of_passing rfl (Passing.governs_call passive rfl depth store reply after rfl finished)
  | connect node name =>
      obtain ⟨_, joined, joins, isAfter⟩ := Rule.bind_eq_some finished
      cases isAfter
      exact connect passive joins
  | disconnect node =>
      obtain ⟨_, left, leaves, isAfter⟩ := Rule.bind_eq_some finished
      cases isAfter
      exact disconnect passive leaves
  | close node =>
      obtain ⟨_, shut, shuts, isAfter⟩ := Rule.bind_eq_some finished
      cases isAfter
      exact close passive shuts

end Accounts

end ChannelMux
