import ChannelMux.Delivery.Agent

/-!
Contract: what a demultiplexer does with what comes up to it.

A message without a routing header passes. One with a header goes to the stack of its
group, is dropped if there is no such group, and is refused if its header names none. A
view goes to every stack and then passes. A batch is split: the messages with a header go
to their groups, group by group, and the rest passes, unless nothing is left. A batch with
a header that names no group is refused before anything of it is delivered or counted.

What comes of the stacks' part of a view or batch is not reported.
-/

namespace ChannelMux.Delivery

def stackOf? (store : Store) (stage : Ref .stage) (group : String) : Option (Ref .stack) :=
  (store.demultiplexer? stage).bind fun state => state.groups.get? group

def stacksOf (store : Store) (stage : Ref .stage) : List (Ref .stack) :=
  match store.demultiplexer? stage with
  | some state => state.groups.values
  | none => []

def enterStack (inner : Entrances) (stack : Ref .stack) (traffic : Traffic) : Run Outcome := do
  inner.travel (.up (← Run.look fun store => (store.groups.get stack).pipeline) traffic)

def route (inner : Entrances) (stage : Ref .stage) (passUp : Traffic → Run Outcome)
    (message : Message) : Run Outcome := do
  match message.routing? with
  | none =>
      Run.count stage fun counters =>
        { counters with passedThrough := counters.passedThrough + 1 }
      passUp (.single (.message message))
  | some header =>
      match header.group? with
      | none => return .error (.groupMissing header)
      | some group =>
          match stackOf? (← get) stage group with
          | some stack =>
              Run.count stage fun counters => { counters with routed := counters.routed + 1 }
              enterStack inner stack (.single (.message message))
          | none =>
              Run.count stage fun counters => { counters with misses := counters.misses + 1 }
              return .ok ()

/-- Takes an event that concerns every group. -/
def broadcast (inner : Entrances) (stage : Ref .stage) (passUp : Traffic → Run Outcome)
    (event : Event) : Run Outcome := do
  let groups ← Run.look fun store => stacksOf store stage
  Run.count stage fun counters => { counters with broadcasts := counters.broadcasts + 1 }
  groups.forM fun stack => (enterStack inner stack (.single event)).ignore
  passUp (.single event)

def routePart (inner : Entrances) (stage : Ref .stage) (batch : Batch)
    (part : String × List Message) : Run Unit := do
  let size := UInt64.ofNat part.2.length
  match stackOf? (← get) stage part.1 with
  | none => Run.count stage fun counters => { counters with misses := counters.misses + size }
  | some stack =>
      Run.count stage fun counters =>
        { counters with
          batchesSplit := counters.batchesSplit + 1
          routed := counters.routed + size }
      match ← enterStack inner stack (.batch (batch.derive part.2)) with
      | .ok () => pure ()
      | .error _ =>
          Run.count stage fun counters =>
            { counters with batchFailures := counters.batchFailures + 1 }

def byGroup (messages : List Message) : List (String × List Message) :=
  (Registry.gather (fun message => message.group?.getD "") messages).entries

def routeBatch (inner : Entrances) (stage : Ref .stage) (passUp : Traffic → Run Outcome)
    (batch : Batch) : Run Outcome := do
  let (forked, rest) := batch.extract (fun message => message.routing?.isSome)
  if forked.any (fun message => message.group?.isNone) then
    return .error (.groupMissingInBatch batch.sender)
  else
    (byGroup forked).forM (routePart inner stage batch)
    if rest.messages.isEmpty then return .ok ()
    else
      Run.count stage fun counters =>
        { counters with
          passedThrough := counters.passedThrough + UInt64.ofNat rest.messages.length }
      passUp (.batch rest)

/-- Takes traffic that comes up to a demultiplexer. -/
def demultiplex (inner : Entrances) (stage : Ref .stage) (passUp : Traffic → Run Outcome)
    (traffic : Traffic) : Run Outcome :=
  match traffic with
  | .single (.message message) => route inner stage passUp message
  | .single event =>
      if event.isBroadcast then broadcast inner stage passUp event else passUp (.single event)
  | .batch batch => routeBatch inner stage passUp batch

end ChannelMux.Delivery
