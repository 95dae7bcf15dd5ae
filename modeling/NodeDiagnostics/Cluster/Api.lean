import NodeDiagnostics.Cluster.Command
import NodeDiagnostics.Cluster.Pod
import NodeDiagnostics.Tracer

namespace NodeDiagnostics.Cluster

inductive Method where
  | get
  | post
  | delete
deriving DecidableEq, Repr

structure ApiRequest where
  method : Method
  target : Net.Target
  body : Option Json

namespace ApiRequest

def build (method : Method) (target : String) (body : Option Json) :
    Except ClusterError ApiRequest :=
  match Net.Target.ofText target with
  | .ok target => .ok ⟨method, target, body⟩
  | .error fault => .error (.unsendable fault)

def read (path : String) : Except ClusterError ApiRequest := build .get path none

def list (path : String) (parameters : List (String × String)) : Except ClusterError ApiRequest :=
  build .get (Net.Target.text path parameters) none

def create (path : String) (object : Json) : Except ClusterError ApiRequest :=
  build .post (Net.Target.text path []) (some object)

def delete (path : String) : Except ClusterError ApiRequest :=
  build .delete (Net.Target.text path []) none

def run (pod : String) (command : List String) : Except ClusterError ApiRequest :=
  list (pod ++ "/exec") ([("stdout", "true"), ("stderr", "true")] ++ command.map ("command", ·))

end ApiRequest

structure Api (σ : Type) where
  ask : ApiRequest → Request σ (Except ClusterError (List Json))
  session : ApiRequest → Request σ (Except ClusterError (List Message))

def deliver {σ α : Type} (send : ApiRequest → Request σ (Except ClusterError α))
    (r : Except ClusterError ApiRequest) : Request σ (Except Error α) := fun s =>
  match r with
  | .ok r =>
    let (answer, s) := send r s
    (answer.mapError .cluster, s)
  | .error e => (.error (.cluster e), s)

def nodeSelector (node : String) : String := "spec.nodeName=" ++ node

namespace Api

variable {σ : Type}

def request (api : Api σ) (r : Except ClusterError ApiRequest) :
    Request σ (Except Error (List Json)) :=
  deliver api.ask r

def podsRequest (inNamespace : Option String) (node : String) : Except ClusterError ApiRequest :=
  let path := match inNamespace with
    | some name => "/api/v1/namespaces/" ++ name ++ "/pods"
    | none => "/api/v1/pods"
  ApiRequest.list path [("fieldSelector", nodeSelector node)]

def containers (api : Api σ) (node : String) (processes : List Host.ProcessEntry) :
    Request σ (Except Error (List Container)) := fun s =>
  let (pods, s) := api.request (podsRequest none node) s
  (pods.map fun pods => (Pod.containersOf processes (pods.map Pod.ofJson)).flatMap (·.2), s)

def metrics (api : Api σ) (plural : String) : Request σ (Except Error (List Json)) :=
  api.request (ApiRequest.list ("/apis/metrics.k8s.io/v1beta1/" ++ plural) [])

/-- Does the cluster know a kind of object? A refusal says that it does not if its reason is that
nothing was found. -/
def hasDefinition (api : Api σ) (name : String) : Request σ (Except Error Bool) := fun s =>
  let path := "/apis/apiextensions.k8s.io/v1/customresourcedefinitions/" ++ name
  let (answer, s) := api.request (ApiRequest.read path) s
  match answer with
  | .ok _ => (.ok true, s)
  | .error (.cluster (.api _ "NotFound" _)) => (.ok false, s)
  | .error e => (.error e, s)

end Api
end NodeDiagnostics.Cluster
