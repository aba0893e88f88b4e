import ChannelMux.Store.Records

/-!
Contract: stages that are ready to use.

Owns conducts that pass everything on, keep a record, refuse, drop, mark, relabel, or
rearrange what they are given. What a conduct does not mention it passes on unchanged.
-/

namespace ChannelMux

namespace Message

def mark (message : Message) (octets : Octets) : Message :=
  { message with payload := message.payload ++ octets }

end Message

namespace Event

def editMessage (edit : Message → Message) : Event → Event
  | .message content => .message (edit content)
  | event => event

end Event

namespace Traffic

def editMessages (edit : Message → Message) : Traffic → Traffic
  | .single event => .single (event.editMessage edit)
  | .batch whole => .batch (whole.derive (whole.messages.map edit))

end Traffic

namespace Conduct

def transparent : Conduct := ⟨.defer, .defer⟩

/-- Passes everything on and records it: events one by one, batches as having been there. -/
def recording : Conduct where
  up traffic :=
    match traffic with
    | .single event => .record (.up event) (.defer traffic)
    | .batch _ => .record .batch (.defer traffic)
  down event := .record (.down event) (.defer event)

/-- Refuses everything that comes up, under the name `failing`. -/
def refusingUp : Conduct where
  up traffic :=
    match traffic with
    | .single _ => .refuse (.rejected "failing" "rejects inbound events")
    | .batch _ => .refuse (.rejected "failing" "rejects inbound batches")
  down := .defer

/-- Refuses everything that comes down, under a name. -/
def refusingDown (name : String) : Conduct where
  up := .defer
  down _ := .refuse (.rejected name "rejects outbound events")

/-- Adds to payloads the name of the stage, behind `^` on the way up and behind `v` on the
way down. -/
def marking (name : String) : Conduct where
  up traffic := .defer (traffic.editMessages (·.mark (Octets.ofString ("^" ++ name))))
  down event := .defer (event.editMessage (·.mark (Octets.ofString ("v" ++ name))))

/-- Drops what goes in the given directions, as if it had been taken. -/
def dropping (upward downward : Bool) : Conduct where
  up traffic := if upward then .accept else .defer traffic
  down event := if downward then .accept else .defer event

/-- Takes the header under the routing number off messages. -/
def unlabeling : Conduct where
  up traffic := .defer (traffic.editMessages (·.erase RoutingHeader.id))
  down event := .defer (event.editMessage (·.erase RoutingHeader.id))

/-- Puts a routing header on messages that come up. -/
def relabeling (header : RoutingHeader) : Conduct where
  up traffic := .defer (traffic.editMessages (·.putRouting header))
  down := .defer

/-- Turns the order of batches round. -/
def reversing : Conduct where
  up traffic :=
    match traffic with
    | .single _ => .defer traffic
    | .batch batch => .defer (.batch (batch.derive batch.messages.reverse))
  down := .defer

/-- Passes the messages of a batch up one by one, until one is refused. -/
def scattering : Conduct where
  up traffic :=
    match traffic with
    | .single _ => .defer traffic
    | .batch batch => .forEach (fun message => .defer (.single (.message message))) batch.messages
  down := .defer

/-- Passes everything down twice, unless the first time it is refused. -/
def doubling : Conduct where
  up := .defer
  down event := .andThen (.defer event) (.defer event)

/-- Makes a batch of one of every single message that comes up. -/
def wrapping (sender : Address) : Conduct where
  up traffic :=
    match traffic with
    | .single (.message message) =>
        .defer (.batch { sender := sender, cluster := "wrapped", messages := [message] })
    | _ => .defer traffic
  down := .defer

end Conduct

/-- The name that demultiplexers bear as stages. -/
def Demultiplexer.stageName : String := "FORK"

/-- A demultiplexer without groups. -/
def Stage.freshDemultiplexer : Stage :=
  { name := Demultiplexer.stageName, role := .demultiplexer {} }

end ChannelMux
