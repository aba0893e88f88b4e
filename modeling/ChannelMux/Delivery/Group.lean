import ChannelMux.Delivery.Agent

/-!
Contract: what the two ends of a group's stack do.

Owns the handing of traffic to the members of a group, at the top of its stack, and the
naming of the group on what goes down, at the bottom.

At the top a message reaches the fork bound to the member it names and nobody else; a
batch is split by member; and the members are all told of a view. Only a single message
reports what came of it.
-/

namespace ChannelMux.Delivery

/-- Hands a message to the member that it names. A message without a member, or for one
that no fork is bound to, is dropped. -/
def handMember (inner : Entrances) (stack : Ref .stack) (message : Message) : Run Outcome := do
  match message.member? with
  | none => return .ok ()
  | some member =>
      match (← get).liveMember? stack member with
      | none => return .ok ()
      | some fork => handFork inner fork (.single (.message message))

def handEveryMember (inner : Entrances) (stack : Ref .stack) (event : Event) : Run Unit := do
  (← Run.look fun store => store.liveForks stack).forM fun fork =>
    (handFork inner fork (.single event)).ignore

/-- Messages by the member that they name; those that name none are left out. -/
def byMember (messages : List Message) : List (String × List Message) :=
  (Registry.gather (fun message => message.member?.getD "")
    (messages.filter (fun message => message.member?.isSome))).entries

def handMembers (inner : Entrances) (stack : Ref .stack) (batch : Batch) : Run Unit :=
  (byMember batch.messages).forM fun part => do
    match (← get).liveMember? stack part.1 with
    | none => pure ()
    | some fork => (handFork inner fork (.batch (batch.derive part.2))).ignore

def takeAtGroupTop (inner : Entrances) (stack : Ref .stack) (traffic : Traffic) :
    Run Outcome := do
  match traffic with
  | .single (.message message) => handMember inner stack message
  | .single (.viewChange view) =>
      handEveryMember inner stack (.viewChange view)
      return .ok ()
  | .single _ => return .ok ()
  | .batch batch =>
      handMembers inner stack batch
      return .ok ()

def nameGroup (group : String) : Event → Event
  | .message message =>
      match message.routing? with
      | some header => .message (message.putRouting (header.withGroup group))
      | none => .message (message.putRouting (.forGroup group))
  | event => event

end ChannelMux.Delivery
