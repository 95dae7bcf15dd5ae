import NodeDiagnostics.Net.ConnectionTable
import NodeDiagnostics.Probe.NamespaceProbe
import NodeDiagnostics.Text.Utf8

/-!
The TCP probe: it reads the socket tables of each namespace again and again and reports
connections that appear or vanish between two scans. Connections that are open at the first scan
are not reported.
-/
namespace NodeDiagnostics.Probe.Connections

def name : String := "proc tcp tracer"

def pollInterval : Nat := 250

structure Tables where
  tcp : Option (List UInt8)
  tcp6 : Option (List UInt8)
deriving DecidableEq, Repr

def noTables : Tables := ⟨none, none⟩

def textOf (bytes : List UInt8) : Except Error String :=
  match Text.ofUtf8? bytes with
  | some text => .ok text
  | none => .error (.io Error.notText)

/-- The sockets of both tables. The second is absent where IPv6 is switched off. -/
def sockets (t : Tables) : Except Error (List Net.Socket) := do
  let first ← match t.tcp with
    | some bytes => textOf bytes
    | none => .error (.io Error.noSuchFile)
  let second ← match t.tcp6 with
    | some bytes => textOf bytes
    | none => .ok ""
  return Net.Socket.ofTable first ++ Net.Socket.ofTable second

def scan (tables : Pid → Tables) (owner : Option Container) : Except Error (List Net.Socket) :=
  match owner with
  | some c => sockets (tables c.pid)
  | none => .error (.resource name "no container")

def baseline (tables : Pid → Tables) (owner : Option Container) :
    Except Error Net.ConnectionTable :=
  -- what is open at first is no news
  (scan tables owner).map fun sockets => (Net.ConnectionTable.empty.update sockets).2

def event (time : UInt64) (owner : Option Container) (c : Net.Change) : TcpEvent where
  context := .empty
  time := time
  operation := c.operation
  pid := owner.map (·.pid)
  ipVersion := c.connection.own.address.version
  sourceAddress := c.connection.own.address.text
  destinationAddress := c.connection.peer.address.text
  sourcePort := c.connection.own.port
  destinationPort := c.connection.peer.port

def poll (tables : Pid → Tables) (time : UInt64) (owner : Option Container)
    (t : Net.ConnectionTable) : Except Error (List (Sighting TcpEvent) × Net.ConnectionTable) :=
  (scan tables owner).map fun sockets =>
    let (changes, t) := t.update sockets
    (changes.map fun c => ⟨owner, event time owner c⟩, t)

abbrev TcpProbe := NamespaceProbe Net.ConnectionTable

def new : TcpProbe := .ofName name "tcp"

def start (root : String) (isDirectory : Bool) (p : TcpProbe) : Except Error Unit × TcpProbe :=
  if isDirectory then (.ok (), p.start)
  else (.error (.resource name (root ++ " is not a directory")), p)

def setup (tables : Pid → Tables) (c : Container) : Setup Net.ConnectionTable :=
  match baseline tables (some c) with
  | .ok t => .ready t
  | .error e => .refused e

end NodeDiagnostics.Probe.Connections
