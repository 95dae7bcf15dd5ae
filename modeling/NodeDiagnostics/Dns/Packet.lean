import NodeDiagnostics.Event
import NodeDiagnostics.Net.Endpoint

namespace NodeDiagnostics.Dns

def queryTypeName (n : UInt16) : String :=
  match n.toNat with
  | 1 => "A"
  | 2 => "NS"
  | 5 => "CNAME"
  | 6 => "SOA"
  | 12 => "PTR"
  | 15 => "MX"
  | 16 => "TXT"
  | 28 => "AAAA"
  | 33 => "SRV"
  | 65 => "HTTPS"
  | 255 => "ANY"
  | other => "TYPE" ++ toString other

def responseCodeName (n : UInt8) : String :=
  match n.toNat with
  | 0 => "NoError"
  | 1 => "FormErr"
  | 2 => "ServFail"
  | 3 => "NXDomain"
  | 4 => "NotImp"
  | 5 => "Refused"
  | other => "RCode" ++ toString other

structure Packet where
  id : UInt16
  direction : Direction
  name : String
  queryType : UInt16
  responseCode : UInt8
  source : Net.Endpoint
  destination : Net.Endpoint
deriving DecidableEq, Repr

/-- The event for a packet; only a response has a response code to report. -/
def Packet.toEvent (p : Packet) (time : UInt64) : DnsEvent where
  context := .empty
  time := time
  id := p.id
  direction := p.direction
  name := p.name
  queryType := queryTypeName p.queryType
  responseCode := match p.direction with
    | .response => some (responseCodeName p.responseCode)
    | .query => none
  source := p.source.text
  destination := p.destination.text

end NodeDiagnostics.Dns
