import ChannelMux.Message
import ChannelMux.Encoding.Routing

/-!
Contract: the octet form of messages.

Owns the layout: an octet of flags, the addresses that the flags announce, the headers
behind their count, and the payload behind its length; every header is its number, the
length of its body and its body. A body under the routing number is a routing header.

Reading is more liberal than writing: flags beyond the two that are known are ignored,
headers may come in any order, a later one taking the place of an earlier one of the
same number, and octets behind the payload are left over.
-/

namespace ChannelMux.Encoding

def destinationFlag : UInt8 := 1

def sourceFlag : UInt8 := 2

def flagsOf (message : Message) : UInt8 :=
  (if message.destination?.isSome then destinationFlag else 0) |||
    (if message.source?.isSome then sourceFlag else 0)

/-- An optional address: its octets, or nothing. -/
def writeAddress : Option Address → Octets
  | some address => address.octets
  | none => []

/-- A header: number, length of the body, body. -/
def writeHeader (header : Header) : Except Error Octets := do
  let number := Octets.ofNat 2 header.id.toNat
  match header with
  | .routing routing =>
      let length ← writeBodyLength (routingSize routing)
      return number ++ length ++ (← writeRouting routing)
  | .foreign _ data =>
      let length ← writeBodyLength data.length
      return number ++ length ++ data

def writeHeaders (headers : List Header) : Except Error Octets := do
  return (← headers.mapM writeHeader).flatten

/-- The octet form of a message. -/
def writeMessage (message : Message) : Except Error Octets := do
  if message.headers.size ≤ maxHeaderCount then
    let headers ← writeHeaders message.headers.toList
    let length ← writeBodyLength message.payload.length
    return flagsOf message :: (writeAddress message.destination? ++
      (writeAddress message.source? ++ (Octets.ofNat 2 message.headers.size ++
        (headers ++ (length ++ message.payload)))))
  else throw (.tooManyHeaders message.headers.size)

/-- Reads an address if a flag announces one. -/
def readAddress (announced : Bool) : Reader (Option Address) := do
  if announced then
    return Address.ofOctets? (← readOctets .address 16)
  else return none

def readHeader : Reader Header := do
  let fields ← readOctets .headerStart 6
  let number := UInt16.ofNat (Octets.value (fields.take 2))
  let body ← readOctets .headerBody (Octets.value (fields.drop 2))
  if number = RoutingHeader.id then return .routing (← routingOfOctets body)
  else return .foreign number body

/-- Reads `count` headers and puts them, in the order in which they come. -/
def readHeaders : (count : Nat) → HeaderSet → Reader HeaderSet
  | 0, headers => pure headers
  | count + 1, headers => do
      let header ← readHeader
      readHeaders count (headers.put header)

def readMessage : Reader Message := do
  let flags := (← readOctets .flags 1).headD 0
  let destination? ← readAddress (flags &&& destinationFlag != 0)
  let source? ← readAddress (flags &&& sourceFlag != 0)
  let count ← readNat .headerCount 2
  let headers ← readHeaders count .empty
  let length ← readNat .payloadLength 4
  let payload ← readOctets .payload length
  return { destination?, source?, payload, headers }

/-- The message that octets begin with. -/
def messageOfOctets (octets : Octets) : Except Error Message := do
  return (← readMessage.run octets).1

end ChannelMux.Encoding
