import NodeDiagnostics.Cluster.Status

namespace NodeDiagnostics.Cluster

structure Message where
  channel : UInt8
  content : List UInt8
deriving DecidableEq, Repr

structure Output where
  standard : List UInt8
  diagnostic : List UInt8
deriving DecidableEq, Repr

namespace Output

/-- What the messages bring, up to the one that tells how the command ended; that one has to hold
a status object. Empty messages and those of other channels bring nothing. -/
def ofMessages : List Message → Except Json.Flaw Output
  | [] => .ok ⟨[], []⟩
  | m :: rest =>
    if m.content.isEmpty then ofMessages rest
    else if m.channel = 1 then
      (ofMessages rest).map fun o => { o with standard := m.content ++ o.standard }
    else if m.channel = 2 then
      (ofMessages rest).map fun o => { o with diagnostic := m.content ++ o.diagnostic }
    else if m.channel = 3 then
      match Status.object.flaw? m.content with
      | none => .ok ⟨[], []⟩
      | some flaw => .error flaw
    else ofMessages rest

end Output

def unreadableStatus (flaw : Json.Flaw) : String :=
  "failed to deserialize status object: " ++ flaw.text

end NodeDiagnostics.Cluster
