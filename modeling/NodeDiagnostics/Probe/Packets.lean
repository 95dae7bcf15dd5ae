import NodeDiagnostics.Dns.Frame
import NodeDiagnostics.Probe.NamespaceProbe

namespace NodeDiagnostics.Probe.Packets

def name : String := "packet dns tracer"

inductive Channel where
  | closed
  | file
  | socket
deriving DecidableEq, Repr

def bufferSize : Nat := 65536

def poll (channel : Channel) (frame : Option (List UInt8)) (time : UInt64)
    (owner : Option Container) : Except Error (List (Sighting DnsEvent)) :=
  match channel with
  | .closed => .error (.resource name "socket closed")
  | .file => .error (.io Error.notSocket)
  | .socket => .ok ((frame.bind fun f => Dns.ofFrame? (f.take bufferSize)).map fun p =>
      ⟨owner, p.toEvent time⟩).toList

abbrev DnsProbe := NamespaceProbe Channel

def new : DnsProbe := .ofName name "dns"

def entryRefused (reason : String) : Error := .resource "network namespace" reason

end NodeDiagnostics.Probe.Packets
