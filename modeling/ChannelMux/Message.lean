import ChannelMux.Address
import ChannelMux.HeaderSet

/-!
Contract: messages.

Owns the message record and the reading and editing of its routing header. Owns the changes
that can be made to the headers of a message, and what one of them, or several in turn, make
of it. A header may be put into the set or given to the message; it may be taken away; and the
identifiers of a routing header may be set where it is kept, without putting it again.

Does not own its octet form.
-/

namespace ChannelMux

/-- A message: whom it is for, everyone if nobody is named, whom it is from, what it
says, and its headers. -/
structure Message where
  destination? : Option Address := none
  source? : Option Address := none
  payload : Octets := []
  headers : HeaderSet := .empty
deriving DecidableEq, Repr, Inhabited

/-- A change of the headers of a message. -/
inductive HeaderChange where
  | put (header : Header)
  | give (header : Header)
  | erase (number : UInt16)
  | putRouting (header : RoutingHeader)
  | setGroup (group : String)
  | setMember (member : String)
deriving DecidableEq, Repr

/-- The number whose header a change is about. -/
def HeaderChange.number : HeaderChange → UInt16
  | put header | give header => header.id
  | erase number => number
  | putRouting _ | setGroup _ | setMember _ => RoutingHeader.id

namespace Message

/-- The routing header, which a foreign header under the routing number hides. -/
def routing? (message : Message) : Option RoutingHeader :=
  match message.headers.get? RoutingHeader.id with
  | some (.routing header) => some header
  | _ => none

def group? (message : Message) : Option String :=
  message.routing?.bind RoutingHeader.group?

def member? (message : Message) : Option String :=
  message.routing?.bind RoutingHeader.member?

def put (message : Message) (header : Header) : Message :=
  { message with headers := message.headers.put header }

def putRouting (message : Message) (header : RoutingHeader) : Message :=
  message.put (.routing header)

/-- The message with its routing header edited, or the message itself if it has none. -/
def editRouting (message : Message) (edit : RoutingHeader → RoutingHeader) : Message :=
  match message.routing? with
  | some header => message.putRouting (edit header)
  | none => message

def erase (message : Message) (number : UInt16) : Message :=
  { message with headers := message.headers.erase number }

def change (message : Message) : HeaderChange → Message
  | .put header => { message with headers := message.headers.put header }
  | .give header => message.put header
  | .erase number => message.erase number
  | .putRouting header => message.putRouting header
  | .setGroup group => message.editRouting (·.withGroup group)
  | .setMember member => message.editRouting (·.withMember member)

/-- The message after changes, made in the order in which they are listed. -/
def changeAll (message : Message) (changes : List HeaderChange) : Message :=
  changes.foldl change message

/-- Whether two messages are the same, part by part. -/
def agrees (left right : Message) : Bool :=
  left.destination? == right.destination? && left.source? == right.source? &&
    left.payload == right.payload && left.headers.descending == right.headers.descending

end Message

end ChannelMux
