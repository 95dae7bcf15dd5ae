import NodeDiagnostics.Net.SocketTable
import NodeDiagnostics.Event

/-!
The open connections of a namespace from one scan of its sockets to the next, and what changed in
between. A new connection was accepted if its own port is listened on in the same scan.
-/
namespace NodeDiagnostics.Net

structure Connection where
  own : Endpoint
  peer : Endpoint
deriving DecidableEq, Repr

structure Change where
  operation : TcpOperation
  connection : Connection
deriving DecidableEq, Repr

structure ConnectionTable where
  established : List Connection
deriving DecidableEq, Repr

namespace ConnectionTable

def empty : ConnectionTable := ⟨[]⟩

def size (t : ConnectionTable) : Nat := t.established.length

def openConnections (sockets : List Socket) : List Connection :=
  ((sockets.filter (·.state = Socket.established)).map fun s => ⟨s.own, s.peer⟩).eraseDups

def listeningPorts (sockets : List Socket) : List UInt16 :=
  (sockets.filter (·.state = Socket.listening)).map (·.own.port)

/-- How a connection that is new in a scan came about. -/
def opening (sockets : List Socket) (c : Connection) : TcpOperation :=
  if c.own.port ∈ listeningPorts sockets then .accept else .connect

def update (t : ConnectionTable) (sockets : List Socket) : List Change × ConnectionTable :=
  let current := openConnections sockets
  let opened := current.filter (· ∉ t.established)
  let closed := t.established.filter (· ∉ current)
  (opened.map (fun c => ⟨opening sockets c, c⟩) ++ closed.map (fun c => ⟨.close, c⟩), ⟨current⟩)

end ConnectionTable
end NodeDiagnostics.Net
