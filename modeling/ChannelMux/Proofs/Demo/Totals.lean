import Mathlib.Data.UInt
import ChannelMux.Proofs.Demo.Speaking
import ChannelMux.Proofs.Selection

/-!
Contract: what the course of a demonstration comes to.

Owns the totals: how often something is said by a host and for a place, what everything that is
said and everybody who joins is charged for comes to at each demultiplexer and each node, and how
often each queue is told of a message.
-/

namespace ChannelMux.Demo

theorem sum_map_of_same
    {α : Type}
    {items : List α}
    {count : α → Nat}
    {each : Nat}
    (same : ∀ item ∈ items, count item = each) :
    (items.map count).sum = items.length * each := by
  rw [List.map_congr_left same, List.map_const', List.sum_replicate_nat]

theorem sum_map_ite_one
    {α : Type}
    (items : List α)
    (property : α → Bool) :
    (items.map fun item => if property item then 1 else 0).sum = items.countP property := by
  induction items with
  | nil => rfl
  | cons item rest inductionHypothesis =>
      rw [List.map_cons, List.sum_cons, inductionHypothesis, List.countP_cons, Nat.add_comm]

section Charges

variable {plan : Plan} {hosts : List Host} {base : Store} {host : Host}
  (made : Made plan plan.nodes hosts base) (positive : plan.isPositive = true)
  (isHost : host ∈ hosts) (speech : Speech)

include made positive isHost

/-- Every demultiplexer marks what is said once. -/
theorem count_marked_charges (mark : Mark) :
    (speech.charges base hosts).count (.marked (base.hubOf host.node) mark) =
      if speech.mark = mark then 1 else 0 := by
  have alone : (hosts.flatMap fun target => ([.received target.node speech.payload.length,
      .marked (base.hubOf target.node) speech.mark] : List Charge).filter
        (· == .marked (base.hubOf host.node) mark)) =
      ([.received host.node speech.payload.length,
        .marked (base.hubOf host.node) speech.mark] : List Charge).filter
          (· == .marked (base.hubOf host.node) mark) := by
    refine flatMap_eq_of_alone made.nodup_hosts isHost fun target isTarget different => ?_
    have otherHub : base.hubOf target.node ≠ base.hubOf host.node :=
      fun same => different (made.hubOf_inj positive isHost isTarget same)
    simp [otherHub]
  unfold Speech.charges
  rw [List.count_cons_of_ne (by simp), List.count, List.countP_eq_length_filter,
    List.filter_flatMap, alone]
  by_cases same : speech.mark = mark <;> simp [same]

omit positive in
/-- Every node receives what is said once. -/
theorem filterMap_receivedBy?_charges :
    (speech.charges base hosts).filterMap (Charge.receivedBy? host.node) =
      [speech.payload.length] := by
  have alone : (hosts.flatMap fun target => ([.received target.node speech.payload.length,
      .marked (base.hubOf target.node) speech.mark] : List Charge).filterMap
        (Charge.receivedBy? host.node)) =
      ([.received host.node speech.payload.length,
        .marked (base.hubOf host.node) speech.mark] : List Charge).filterMap
          (Charge.receivedBy? host.node) := by
    refine flatMap_eq_of_alone made.nodup_hosts isHost fun target isTarget different => ?_
    have otherNode : target.node ≠ host.node :=
      fun same => different (made.eq_of_node_eq isHost isTarget same)
    simp [List.filterMap_cons, Charge.receivedBy?, otherNode]
  unfold Speech.charges
  rw [List.filterMap_cons, List.filterMap_flatMap, alone]
  simp [List.filterMap_cons, Charge.receivedBy?]

omit made positive isHost in
/-- Nobody sends what is said but who says it. -/
theorem filterMap_sentBy?_charges (node : Ref .node) :
    (speech.charges base hosts).filterMap (Charge.sentBy? node) =
      if speech.host.node = node then [speech.payload.length] else [] := by
  have none : (hosts.flatMap fun target => ([.received target.node speech.payload.length,
      .marked (base.hubOf target.node) speech.mark] : List Charge).filterMap
        (Charge.sentBy? node)) = [] := by
    refine List.flatMap_eq_nil_iff.mpr fun target _ => ?_
    simp [List.filterMap_cons, Charge.sentBy?]
  unfold Speech.charges
  rw [List.filterMap_cons, List.filterMap_flatMap, none]
  by_cases same : speech.host.node = node <;> simp [Charge.sentBy?, same]

omit made positive isHost in
theorem count_broadcast_charges (hub : Ref .stage) :
    (speech.charges base hosts).count (.broadcast hub) = 0 := by
  rw [List.count_eq_zero]
  intro member
  unfold Speech.charges at member
  simp at member

end Charges

/-! ### How often something is said -/

section Speeches

variable {plan : Plan} {hosts : List Host} {base : Store} {host : Host}

theorem length_row (group members : Nat) : (row group members).length = members := by
  unfold row
  rw [List.length_map, List.length_range]

theorem length_seats (plan : Plan) : plan.seats.length = plan.groups * plan.members := by
  unfold Plan.seats rows
  rw [List.length_flatMap, sum_map_of_same fun group _ => length_row group plan.members,
    List.length_range]

theorem Channel.length_speeches (messages : Nat) (host : Host) (channel : Channel) :
    (channel.speeches messages host).length = messages := by
  unfold Channel.speeches
  rw [List.length_map, List.length_range]

section Host

variable (made : Made plan plan.nodes hosts base) (isHost : host ∈ hosts)

include made

include isHost

/-- A host says through its channels what is due for every member of every group. -/
theorem length_speeches_host :
    (host.speeches plan.messages).length = plan.groups * plan.members * plan.messages := by
  have channels : host.channels.length = plan.groups * plan.members := by
    rw [← length_seats, ← made.seated host isHost, List.length_map]
  unfold Host.speeches
  rw [List.length_flatMap, sum_map_of_same fun channel _ => Channel.length_speeches _ host channel,
    channels]

/-- What is said by a host is what it says through its channels and for itself. -/
theorem filter_speeches_by :
    (speeches plan hosts).filter (fun speech => speech.host.node = host.node) =
      host.speeches plan.messages ++ [host.speech] := by
  have ofChannels (target : Host) : ∀ speech ∈ target.speeches plan.messages,
      speech.host = target := by
    intro speech member
    obtain ⟨channel, _, ofChannel⟩ := List.mem_flatMap.mp member
    obtain ⟨number, _, rfl⟩ := List.mem_map.mp ofChannel
    rfl
  have otherNode : ∀ target ∈ hosts, target ≠ host → target.node ≠ host.node :=
    fun target isTarget different same => different (made.eq_of_node_eq isHost isTarget same)
  unfold speeches
  rw [List.filter_append, List.filter_flatMap, List.map_eq_flatMap, List.filter_flatMap,
    flatMap_eq_of_alone made.nodup_hosts isHost, flatMap_eq_of_alone made.nodup_hosts isHost]
  · congr 1
    · rw [List.filter_eq_self]
      intro speech member
      simp [ofChannels host speech member]
    · simp [Host.speech]
  · intro target isTarget different
    simpa [Host.speech] using otherNode target isTarget different
  · intro target isTarget different
    rw [List.filter_eq_nil_iff]
    intro speech member
    simpa [ofChannels target speech member] using otherNode target isTarget different

/-- Through the channels of a host it is said for a place what one channel says. -/
theorem countP_speeches_host
    {seat : Nat × Nat}
    (isSeat : seat ∈ plan.seats) :
    (host.speeches plan.messages).countP (fun speech => speech.seat? = some seat) =
      plan.messages := by
  obtain ⟨channel, isChannel, rfl⟩ := (made.mem_seats_iff isHost).mp isSeat
  have seats := made.nodup_seats isHost
  have ofChannel (other : Channel) : ∀ speech ∈ other.speeches plan.messages host,
      speech.seat? = some other.seat := by
    intro speech member
    obtain ⟨number, _, rfl⟩ := List.mem_map.mp member
    rfl
  unfold Host.speeches
  rw [List.countP_eq_length_filter, List.filter_flatMap,
    flatMap_eq_of_alone (List.Nodup.of_map _ seats) isChannel, List.filter_eq_self.mpr]
  · exact channel.length_speeches _ host
  · intro speech member
    simp [ofChannel channel speech member]
  · intro other isOther different
    have otherSeat : other.seat ≠ channel.seat :=
      fun same => different (List.inj_on_of_nodup_map seats isOther isChannel same)
    rw [List.filter_eq_nil_iff]
    intro speech member
    simpa [ofChannel other speech member] using otherSeat

end Host

variable (made : Made plan plan.nodes hosts base)

include made

theorem length_speeches :
    (speeches plan hosts).length =
      plan.nodes * (plan.groups * plan.members * plan.messages + 1) := by
  unfold speeches
  rw [List.length_append, List.length_flatMap,
    sum_map_of_same fun host isHost => length_speeches_host made isHost, List.length_map,
    made.length_hosts, Nat.mul_succ]

/-- For every place at a host, as much is said as there are messages of every node. -/
theorem countP_speeches_for
    {seat : Nat × Nat}
    (isSeat : seat ∈ plan.seats) :
    (speeches plan hosts).countP (fun speech => speech.seat? = some seat) =
      plan.nodes * plan.messages := by
  have forNone : (hosts.map Host.speech).countP (fun speech => speech.seat? = some seat) = 0 := by
    rw [List.countP_map, List.countP_eq_zero]
    intro host _
    simp [Host.speech, Speech.seat?]
  have each : ∀ host ∈ hosts, (List.countP (fun speech => speech.seat? = some seat) ∘
      Host.speeches plan.messages) host = plan.messages :=
    fun host isHost => countP_speeches_host made isHost isSeat
  unfold speeches
  rw [List.countP_append, forNone, List.countP_flatMap, sum_map_of_same each, made.length_hosts,
    Nat.add_zero]

/-- Every host says one thing for itself, and all else through its channels. -/
theorem countP_speeches_mark :
    (speeches plan hosts).countP (fun speech => speech.mark = .routed) =
        plan.nodes * (plan.groups * plan.members * plan.messages) ∧
      (speeches plan hosts).countP (fun speech => speech.mark = .passedThrough) = plan.nodes ∧
        (speeches plan hosts).countP (fun speech => speech.mark = .missed) = 0 := by
  have through : ∀ speech ∈ hosts.flatMap (Host.speeches plan.messages),
      speech.mark = .routed := by
    intro speech member
    obtain ⟨host, _, ofHost⟩ := List.mem_flatMap.mp member
    obtain ⟨channel, _, ofChannel⟩ := List.mem_flatMap.mp ofHost
    obtain ⟨number, _, rfl⟩ := List.mem_map.mp ofChannel
    rfl
  have plain : ∀ speech ∈ hosts.map Host.speech, speech.mark = .passedThrough := by
    intro speech member
    obtain ⟨host, _, rfl⟩ := List.mem_map.mp member
    rfl
  have none {said : List Speech} {mark other : Mark} (all : ∀ speech ∈ said, speech.mark = other)
      (different : other ≠ mark) :
      said.countP (fun speech => speech.mark = mark) = 0 := by
    rw [List.countP_eq_zero]
    intro speech member
    simp [all speech member, different]
  have every {said : List Speech} {mark : Mark} (all : ∀ speech ∈ said, speech.mark = mark) :
      said.countP (fun speech => speech.mark = mark) = said.length := by
    rw [List.countP_eq_length]
    intro speech member
    simp [all speech member]
  unfold speeches
  simp only [List.countP_append]
  rw [every through, every plain, none through (by simp), none plain (by simp),
    none through (by simp), none plain (by simp), List.length_map, made.length_hosts,
    List.length_flatMap, sum_map_of_same fun host isHost => length_speeches_host made isHost,
    made.length_hosts]
  exact ⟨Nat.add_zero _, Nat.zero_add _, rfl⟩

/-- Every host says one thing for nobody in particular. -/
theorem countP_speeches_none :
    (speeches plan hosts).countP (fun speech => speech.seat? = none) = plan.nodes := by
  rw [← (countP_speeches_mark made).2.1]
  refine List.countP_congr fun speech _ => ?_
  unfold Speech.mark
  cases speech.seat? <;> simp

end Speeches

/-! ### What joining is charged for -/

theorem mem_welcomes
    {base : Store}
    {joined : List Host}
    {charge : Charge}
    (member : charge ∈ welcomes base joined) :
    ∃ hub, charge = .broadcast hub := by
  obtain ⟨count, _, greeted⟩ := List.mem_flatMap.mp member
  obtain ⟨host, _, rfl⟩ := List.mem_map.mp greeted
  exact ⟨_, rfl⟩

section Welcomes

variable {plan : Plan} {hosts : List Host} {base : Store} {host : Host}
  (made : Made plan plan.nodes hosts base) (positive : plan.isPositive = true)
  (isHost : host ∈ hosts)

include made isHost

omit isHost in
/-- Hosts stand in the order of their numbers. -/
theorem Made.number_eq {index : Nat} (found : hosts[index]? = some host) :
    host.number = index := by
  have inside := (List.getElem?_eq_some_iff.mp found).1
  rw [made.length_hosts] at inside
  have numbers := congrArg (fun numbers : List Nat => numbers[index]?) made.numbers
  simp only [List.getElem?_map, found, Option.map_some, List.getElem?_range inside] at numbers
  exact Option.some.inj numbers

/-- A host is among the first ones just if its number is. -/
theorem Made.mem_take_iff (count : Nat) : host ∈ hosts.take count ↔ host.number < count := by
  constructor
  · intro member
    obtain ⟨index, found⟩ := List.mem_iff_getElem?.mp member
    rw [List.getElem?_take] at found
    split at found
    · rw [made.number_eq found]
      assumption
    · cases found
  · intro below
    obtain ⟨index, found⟩ := List.mem_iff_getElem?.mp isHost
    refine List.mem_iff_getElem?.mpr ⟨index, ?_⟩
    rw [List.getElem?_take, if_pos (made.number_eq found ▸ below)]
    exact found

include positive

/-- A host greets everybody who joins after it, and itself. -/
theorem count_greetings (count : Nat) :
    (greetings base (hosts.take count)).count (.broadcast (base.hubOf host.node)) =
      if host.number < count then 1 else 0 := by
  have distinct : (greetings base hosts).Nodup := by
    unfold greetings
    refine List.Nodup.map_on (fun one isOne other isOther same => ?_)
      made.nodup_hosts
    exact made.hubOf_inj positive isOther isOne (Charge.broadcast.inj same)
  have some : (greetings base (hosts.take count)).Sublist (greetings base hosts) :=
    (List.take_sublist count hosts).map _
  have isGreeted : .broadcast (base.hubOf host.node) ∈ greetings base (hosts.take count) ↔
      host.number < count := by
    rw [← made.mem_take_iff isHost]
    unfold greetings
    constructor
    · intro member
      obtain ⟨other, isOther, same⟩ := List.mem_map.mp member
      rw [← made.hubOf_inj positive isHost (List.mem_of_mem_take isOther)
        (Charge.broadcast.inj same)]
      exact isOther
    · exact fun member => List.mem_map_of_mem member
  rw [List.Nodup.count (distinct.sublist some)]
  simp only [isGreeted]

theorem count_welcomes :
    (welcomes base hosts).count (.broadcast (base.hubOf host.node)) =
      plan.nodes - host.number := by
  -- A host greets from its own joining on, which is the one of its number.
  have later (count : Nat) : ((List.range count).map fun number =>
      if host.number < number + 1 then 1 else 0).sum = count - host.number := by
    induction count with
    | zero => simp
    | succ count inductionHypothesis =>
        rw [List.range_succ, List.map_append, List.sum_append, inductionHypothesis,
          List.map_singleton, List.sum_singleton]
        split <;> omega
  unfold welcomes
  rw [List.count_flatMap, ← made.length_hosts, ← later]
  congr 1
  refine List.map_congr_left fun number _ => ?_
  exact count_greetings made positive isHost (number + 1)

end Welcomes

/-! ### What everything comes to -/

/-- What is charged for in the course of a demonstration. -/
def bill (plan : Plan) (base : Store) (hosts : List Host) : List Charge :=
  welcomes base hosts ++ (speeches plan hosts).flatMap fun speech => speech.charges base hosts

/-- How many octets a host says. -/
def Host.octets (messages : Nat) (host : Host) : Nat :=
  ((host.speeches messages ++ [host.speech]).map fun speech => speech.payload.length).sum

theorem filterMap_welcomes
    {base : Store}
    {joined : List Host}
    {part? : Charge → Option Nat}
    (unseen : ∀ hub, part? (.broadcast hub) = none) :
    (welcomes base joined).filterMap part? = [] := by
  refine List.filterMap_eq_nil_iff.mpr fun charge member => ?_
  obtain ⟨hub, rfl⟩ := mem_welcomes member
  exact unseen hub

theorem flatMap_ite_singleton
    {α β : Type}
    (items : List α)
    (property : α → Bool)
    (change : α → β) :
    (items.flatMap fun item => if property item then [change item] else []) =
      (items.filter property).map change := by
  induction items with
  | nil => rfl
  | cons item rest inductionHypothesis =>
      rw [List.flatMap_cons, inductionHypothesis, List.filter_cons]
      split <;> rfl

theorem sum_map_flatMap
    {α β : Type}
    (items : List α)
    (parts : α → List β)
    (count : β → Nat) :
    ((items.flatMap parts).map count).sum =
      (items.map fun item => ((parts item).map count).sum).sum := by
  rw [List.flatMap, List.map_flatten, List.sum_flatten, List.map_map, List.map_map]
  rfl

theorem ofNat_sum_map {α : Type} (items : List α) (count : α → Nat) :
    UInt64.ofNat (items.map count).sum = (items.map fun item => UInt64.ofNat (count item)).sum := by
  induction items with
  | nil => rfl
  | cons item rest inductionHypothesis =>
      rw [List.map_cons, List.sum_cons, UInt64.ofNat_add, inductionHypothesis, List.map_cons,
        List.sum_cons]

section Bill

variable {plan : Plan} {hosts : List Host} {base : Store} {host : Host}
  (made : Made plan plan.nodes hosts base) (positive : plan.isPositive = true)
  (isHost : host ∈ hosts)

include made positive isHost in
theorem totalAtHub_bill :
    Charge.totalAtHub (base.hubOf host.node) (bill plan base hosts) =
      { routed := .ofNat (plan.nodes * (plan.groups * plan.members * plan.messages))
        passedThrough := .ofNat plan.nodes
        broadcasts := .ofNat (plan.nodes - host.number) } := by
  have marks (mark : Mark) :
      (bill plan base hosts).count (.marked (base.hubOf host.node) mark) =
        (speeches plan hosts).countP (fun speech => speech.mark = mark) := by
    have unwelcome : (welcomes base hosts).count (.marked (base.hubOf host.node) mark) = 0 := by
      rw [List.count_eq_zero]
      intro member
      obtain ⟨hub, same⟩ := mem_welcomes member
      cases same
    unfold bill
    rw [List.count_append, unwelcome, Nat.zero_add, List.count_flatMap, ← sum_map_ite_one]
    congr 1
    refine List.map_congr_left fun speech _ => ?_
    rw [Function.comp_apply, count_marked_charges made positive isHost speech mark]
    simp only [decide_eq_true_eq]
  have tells : (bill plan base hosts).count (.broadcast (base.hubOf host.node)) =
      plan.nodes - host.number := by
    have untold : ∀ speech ∈ speeches plan hosts, (List.count (.broadcast (base.hubOf host.node)) ∘
        fun speech : Speech => speech.charges base hosts) speech = 0 :=
      fun speech _ => count_broadcast_charges speech _
    unfold bill
    rw [List.count_append, count_welcomes made positive isHost, List.count_flatMap,
      sum_map_of_same untold, Nat.mul_zero, Nat.add_zero]
  obtain ⟨routed, passed, missed⟩ := countP_speeches_mark made
  unfold Charge.totalAtHub
  rw [marks, marks, marks, tells, routed, passed, missed]
  rfl

include made isHost in
theorem totalAtNode_bill :
    Charge.totalAtNode host.node (bill plan base hosts) =
      { messagesSent := .ofNat (plan.groups * plan.members * plan.messages + 1)
        messagesReceived :=
          .ofNat (plan.nodes * (plan.groups * plan.members * plan.messages + 1))
        octetsSent := .ofNat (host.octets plan.messages)
        octetsReceived := (hosts.map fun other => .ofNat (other.octets plan.messages)).sum } := by
  have sent : (bill plan base hosts).filterMap (Charge.sentBy? host.node) =
      (host.speeches plan.messages ++ [host.speech]).map fun speech => speech.payload.length := by
    unfold bill
    rw [List.filterMap_append, filterMap_welcomes fun _ => rfl, List.nil_append,
      List.filterMap_flatMap, ← filter_speeches_by made isHost, ← flatMap_ite_singleton]
    refine List.flatMap_congr fun speech _ => ?_
    rw [filterMap_sentBy?_charges]
    simp only [decide_eq_true_eq]
  have received : (bill plan base hosts).filterMap (Charge.receivedBy? host.node) =
      (speeches plan hosts).map fun speech => speech.payload.length := by
    unfold bill
    rw [List.filterMap_append, filterMap_welcomes fun _ => rfl, List.nil_append,
      List.filterMap_flatMap, List.map_eq_flatMap]
    exact List.flatMap_congr fun speech _ => filterMap_receivedBy?_charges made isHost speech
  have octets : ((speeches plan hosts).map fun speech => speech.payload.length).sum =
      (hosts.map fun other => other.octets plan.messages).sum := by
    unfold speeches Host.octets
    rw [List.map_append, List.sum_append, sum_map_flatMap, List.map_map, ← List.sum_map_add]
    simp only [List.map_append, List.sum_append, List.map_singleton, List.sum_singleton,
      Function.comp_apply]
  unfold Charge.totalAtNode
  rw [sent, received, List.length_map, List.length_append, length_speeches_host made isHost,
    List.length_map, length_speeches made, octets,
    ofNat_sum_map hosts fun other => other.octets plan.messages]
  rfl

end Bill

/-! ### What queues are told -/

section Queues

variable {plan : Plan} {hosts : List Host} {base : Store} {host : Host}
  (made : Made plan plan.nodes hosts base) (isHost : host ∈ hosts)

/-- How many messages an agent is told of in the course of a demonstration. -/
def heard (plan : Plan) (hosts : List Host) (agent : Ref .agent) : Nat :=
  ((speeches plan hosts).map fun speech =>
    hosts.countP fun target => target.ear? speech.seat? = some agent).sum

include made isHost

/-- Who hears of a place is told of everything that is said for it. -/
theorem heard_eq
    {seat? : Option (Nat × Nat)}
    {queue : Ref .agent}
    (hears : host.ear? seat? = some queue) :
    heard plan hosts queue = (speeches plan hosts).countP (fun speech => speech.seat? = seat?) := by
  unfold heard
  rw [← sum_map_ite_one]
  congr 1
  refine List.map_congr_left fun speech _ => ?_
  rw [made.countP_ear? isHost hears]
  simp only [decide_eq_true_eq]

theorem heard_queue : heard plan hosts host.queue = plan.nodes := by
  have hears : host.ear? none = some host.queue := rfl
  rw [heard_eq made isHost hears, countP_speeches_none made]

theorem heard_channel {channel : Channel} (isChannel : channel ∈ host.channels) :
    heard plan hosts channel.queue = plan.nodes * plan.messages := by
  have isSeat := (made.mem_seats_iff isHost).mpr ⟨channel, isChannel, rfl⟩
  rw [heard_eq made isHost (made.ear?_seat isHost isChannel), countP_speeches_for made isSeat]

end Queues

end ChannelMux.Demo
