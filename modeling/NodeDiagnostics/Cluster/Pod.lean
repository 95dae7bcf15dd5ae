import NodeDiagnostics.Host.Processes
import NodeDiagnostics.Json.Basic

/-!
Pods as the cluster's API describes them, and the containers alive in them. A container is alive
if its state is `running` and the runtime has given it an identifier, and it is known to a node
once one of the node's processes is found to carry that identifier.
-/
namespace NodeDiagnostics.Cluster

structure ContainerStatus where
  name : String
  id : Option String
  running : Bool
deriving DecidableEq, Repr

structure Pod where
  uid : Option String
  namespaceName : Option String
  name : Option String
  hostNetwork : Option Bool
  containers : List ContainerStatus
deriving DecidableEq, Repr

/-- The member with the name; a member that is `null` counts as absent. -/
def part? (j : Json) (name : String) : Option Json :=
  (j.member? name).filter fun part => !part.isNull

namespace ContainerStatus

def ofJson (j : Json) : ContainerStatus where
  name := ((part? j "name").bind Json.text?).getD ""
  id := (part? j "containerID").bind Json.text?
  running := ((part? j "state").bind (part? · "running")).isSome

end ContainerStatus

structure LiveContainer where
  namespaceName : String
  pod : String
  name : String
  id : String
  hostNetwork : Bool
deriving DecidableEq, Repr

def LiveContainer.withPid (c : LiveContainer) (pid : Pid) : Container :=
  ⟨c.id, c.namespaceName, c.pod, c.name, pid, c.hostNetwork⟩

namespace Pod

def ofJson (j : Json) : Pod where
  uid := ((part? j "metadata").bind (part? · "uid")).bind Json.text?
  namespaceName := ((part? j "metadata").bind (part? · "namespace")).bind Json.text?
  name := ((part? j "metadata").bind (part? · "name")).bind Json.text?
  hostNetwork := ((part? j "spec").bind (part? · "hostNetwork")).bind Json.bool?
  containers :=
    let statuses := (part? j "status").bind (part? · "containerStatuses")
    ((statuses.bind Json.items?).getD []).map .ofJson

def key? (p : Pod) : Option String := p.uid.filter (· ≠ "")

def live (p : Pod) : List LiveContainer :=
  p.containers.filterMap fun c =>
    if c.running then
      c.id.map fun id =>
        ⟨p.namespaceName.getD "default", p.name.getD "unknown", c.name, Host.cleanId id,
          p.hostNetwork.getD false⟩
    else none

/-- The containers of each pod that can be followed, as far as their processes are found. The
processes are gone through once for all pods. -/
def containersOf (processes : List Host.ProcessEntry) (pods : List Pod) :
    List (String × List Container) :=
  let followed := pods.filterMap fun p => p.key?.map fun key => (key, p.live)
  let pids := Host.resolveAll processes (followed.flatMap fun f => f.2.map (·.id))
  followed.map fun (key, live) => (key, live.filterMap fun c => pids[c.id]?.map c.withPid)

end Pod
end NodeDiagnostics.Cluster
