import NodeDiagnostics.Container
import NodeDiagnostics.Json.Writer

namespace NodeDiagnostics

structure Context where
  node : String
  namespaceName : String
  pod : String
  container : String
deriving DecidableEq, Repr

namespace Context

def empty : Context := ⟨"", "", "", ""⟩

/-- Note the node and, unless the container shares the node's network, the container. Traffic of
the node's own network cannot be told apart by pod. -/
def enrich (c : Context) (node : String) (owner : Option Container) : Context :=
  match owner with
  | some o =>
    if o.hostNetwork then { c with node } else ⟨node, o.namespaceName, o.pod, o.name⟩
  | none => { c with node }

def members (c : Context) : List (String × Json) :=
  ("node", .text c.node) ::
    [("namespace", c.namespaceName), ("pod", c.pod), ("container", c.container)].filterMap fun m =>
      if m.2 = "" then none else some (m.1, .text m.2)

def textOrEmpty? (j : Json) (name : String) : Option String :=
  match j.member? name with
  | none => some ""
  | some v => v.text?

def ofJson? (j : Json) : Option Context := do
  return ⟨← textOrEmpty? j "node", ← textOrEmpty? j "namespace", ← textOrEmpty? j "pod",
    ← textOrEmpty? j "container"⟩

end Context

def Json.numberBelow? (j : Json) (name : String) (limit : Nat) : Option Nat := do
  let n ← (← j.member? name).integer?
  if 0 ≤ n ∧ n < limit then some n.toNat else none

def Json.optional? {α : Type} (j : Json) (name : String) (read? : Json → Option α) :
    Option (Option α) :=
  match j.member? name with
  | none => some none
  | some .null => some none
  | some v => (read? v).map some

inductive Direction where
  | query
  | response
deriving DecidableEq, Repr

namespace Direction

def text : Direction → String
  | query => "query"
  | response => "response"

def ofText? : String → Option Direction
  | "query" => some query
  | "response" => some response
  | _ => none

end Direction

structure DnsEvent where
  context : Context
  time : UInt64
  id : UInt16
  direction : Direction
  name : String
  queryType : String
  responseCode : Option String
  source : String
  destination : String
deriving DecidableEq, Repr

inductive TcpOperation where
  | connect
  | accept
  | close
deriving DecidableEq, Repr

namespace TcpOperation

def text : TcpOperation → String
  | connect => "connect"
  | accept => "accept"
  | close => "close"

def ofText? : String → Option TcpOperation
  | "connect" => some connect
  | "accept" => some accept
  | "close" => some close
  | _ => none

end TcpOperation

structure TcpEvent where
  context : Context
  time : UInt64
  operation : TcpOperation
  pid : Option Pid
  ipVersion : UInt8
  sourceAddress : String
  destinationAddress : String
  sourcePort : UInt16
  destinationPort : UInt16
deriving DecidableEq, Repr

structure Sighting (ε : Type) where
  owner : Option Container
  event : ε
deriving DecidableEq, Repr

class TraceEvent (ε : Type) where
  context : ε → Context
  withContext : Context → ε → ε
  /-- The process that the event is known to belong to. -/
  pid? : ε → Option Pid
  members : ε → List (String × Json)

namespace TraceEvent

variable {ε : Type} [TraceEvent ε]

def enrich (e : ε) (node : String) (owner : Option Container) : ε :=
  withContext ((context e).enrich node owner) e

def text (e : ε) : String := (Json.object (members e)).compact

end TraceEvent

namespace DnsEvent

def members (e : DnsEvent) : List (String × Json) :=
  e.context.members ++
    [("timestamp_ns", .integer e.time.toNat), ("id", .integer e.id.toNat),
      ("qr", .text e.direction.text), ("name", .text e.name), ("qtype", .text e.queryType)] ++
    (e.responseCode.map fun r => ("rcode", .text r)).toList ++
    [("src", .text e.source), ("dst", .text e.destination)]

instance : TraceEvent DnsEvent where
  context e := e.context
  withContext c e := { e with context := c }
  pid? _ := none
  members := members

def ofJson? (j : Json) : Option DnsEvent := do
  return {
    context := ← Context.ofJson? j
    time := (← j.numberBelow? "timestamp_ns" UInt64.size).toUInt64
    id := (← j.numberBelow? "id" UInt16.size).toUInt16
    direction := ← Direction.ofText? (← (← j.member? "qr").text?)
    name := ← (← j.member? "name").text?
    queryType := ← (← j.member? "qtype").text?
    responseCode := ← j.optional? "rcode" Json.text?
    source := ← (← j.member? "src").text?
    destination := ← (← j.member? "dst").text? }

end DnsEvent

namespace TcpEvent

def members (e : TcpEvent) : List (String × Json) :=
  e.context.members ++
    [("timestamp_ns", .integer e.time.toNat), ("operation", .text e.operation.text)] ++
    (e.pid.map fun p => ("pid", .integer p.toNat)).toList ++
    [("ip_version", .integer e.ipVersion.toNat), ("saddr", .text e.sourceAddress),
      ("daddr", .text e.destinationAddress), ("sport", .integer e.sourcePort.toNat),
      ("dport", .integer e.destinationPort.toNat)]

instance : TraceEvent TcpEvent where
  context e := e.context
  withContext c e := { e with context := c }
  pid? e := e.pid
  members := members

def pidOfJson? (v : Json) : Option Pid := do
  let n ← v.integer?
  if 0 ≤ n ∧ n < UInt32.size then some n.toNat.toUInt32 else none

def ofJson? (j : Json) : Option TcpEvent := do
  return {
    context := ← Context.ofJson? j
    time := (← j.numberBelow? "timestamp_ns" UInt64.size).toUInt64
    operation := ← TcpOperation.ofText? (← (← j.member? "operation").text?)
    pid := ← j.optional? "pid" pidOfJson?
    ipVersion := (← j.numberBelow? "ip_version" UInt8.size).toUInt8
    sourceAddress := ← (← j.member? "saddr").text?
    destinationAddress := ← (← j.member? "daddr").text?
    sourcePort := (← j.numberBelow? "sport" UInt16.size).toUInt16
    destinationPort := (← j.numberBelow? "dport" UInt16.size).toUInt16 }

end TcpEvent
end NodeDiagnostics
