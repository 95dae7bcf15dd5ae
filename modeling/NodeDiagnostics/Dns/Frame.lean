import NodeDiagnostics.Dns.Name
import NodeDiagnostics.Dns.Packet

/-!
DNS messages in Ethernet frames: at most one VLAN tag, IPv4 with its options or IPv6 without
extension headers, UDP from or to port 53, and a message with at least one question.
-/
namespace NodeDiagnostics.Dns

def byte? (bytes : List UInt8) (offset : Nat) : Option UInt8 := bytes[offset]?

def word? (bytes : List UInt8) (offset : Nat) : Option UInt16 := do
  let high ← bytes[offset]?
  let low ← bytes[offset + 1]?
  some (high.toUInt16 * 256 + low.toUInt16)

def slice? (bytes : List UInt8) (start count : Nat) : Option (List UInt8) :=
  if start + count ≤ bytes.length then some ((bytes.drop start).take count) else none

/-- The bytes from an offset on; the offset may be the end. -/
def suffix? (bytes : List UInt8) (start : Nat) : Option (List UInt8) :=
  if start ≤ bytes.length then some (bytes.drop start) else none

def dnsPort : UInt16 := 53

def protocolUdp : UInt8 := 17

structure Datagram where
  source : Net.Address
  destination : Net.Address
  bytes : List UInt8
deriving DecidableEq, Repr

def ipv4? (ip : List UInt8) : Option Datagram := do
  let first ← byte? ip 0
  let protocol ← byte? ip 9
  if first >>> 4 ≠ 4 ∨ protocol ≠ protocolUdp then none
  else
    let source ← Net.Address.ofOctets? (← slice? ip 12 4)
    let destination ← Net.Address.ofOctets? (← slice? ip 16 4)
    -- as many words as the header says of itself, options included
    let bytes ← suffix? ip ((first &&& 0xf).toNat * 4)
    some ⟨source, destination, bytes⟩

def ipv6? (ip : List UInt8) : Option Datagram := do
  let first ← byte? ip 0
  let protocol ← byte? ip 6
  if first >>> 4 ≠ 6 ∨ protocol ≠ protocolUdp then none
  else
    let source ← Net.Address.ofOctets? (← slice? ip 8 16)
    let destination ← Net.Address.ofOctets? (← slice? ip 24 16)
    let bytes ← suffix? ip 40
    some ⟨source, destination, bytes⟩

def datagram? (frame : List UInt8) : Option Datagram := do
  let tag ← word? frame 12
  let (type, start) ← if tag = 0x8100 then (word? frame 16).map (·, 18) else some (tag, 14)
  let ip ← suffix? frame start
  if type = 0x0800 then ipv4? ip
  else if type = 0x86dd then ipv6? ip
  else none

def message? (payload : List UInt8) (source destination : Net.Endpoint) : Option Packet := do
  if payload.length < 12 then none
  let id ← word? payload 0
  let flags ← word? payload 2
  let questions ← word? payload 4
  if questions = 0 then none
  let (name, rest) ← readName? (payload.drop 12)
  let queryType ← word? rest 0
  some {
    id, name, queryType, source, destination
    direction := if flags &&& 0x8000 ≠ 0 then .response else .query
    responseCode := (flags &&& 0xf).toUInt8 }

def ofFrame? (frame : List UInt8) : Option Packet := do
  let d ← datagram? frame
  let sourcePort ← word? d.bytes 0
  let destinationPort ← word? d.bytes 2
  if sourcePort ≠ dnsPort ∧ destinationPort ≠ dnsPort then none
  else message? (← suffix? d.bytes 8) ⟨d.source, sourcePort⟩ ⟨d.destination, destinationPort⟩

end NodeDiagnostics.Dns
