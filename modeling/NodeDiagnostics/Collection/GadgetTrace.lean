import NodeDiagnostics.Collection.Consumption
import NodeDiagnostics.Text.Blank

namespace NodeDiagnostics.Collection

structure GadgetTrace where
  gadget : String
  node : String
deriving DecidableEq, Repr

namespace GadgetTrace

def home : String := "gadget"

def traceDefinition : String := "traces.gadget.kinvolk.io"

def tracesPath : String := "/apis/gadget.kinvolk.io/v1alpha1/namespaces/" ++ home ++ "/traces"

def name (g : GadgetTrace) : String := "gadget-" ++ g.gadget

def traceName (g : GadgetTrace) : String := g.gadget ++ "-" ++ g.node

def traceObject (traceName gadget node : String) : Json :=
  .object [
    ("apiVersion", .text "gadget.kinvolk.io/v1alpha1"),
    ("kind", .text "Trace"),
    ("metadata", .object [
      ("annotations", .object [("gadget.kinvolk.io/operation", .text "start")]),
      ("name", .text traceName),
      ("namespace", .text home)]),
    ("spec", .object [
      ("gadget", .text gadget),
      ("node", .text node),
      ("outputMode", .text "Stream"),
      ("runMode", .text "Manual")])]

def streamCommand (traceName : String) : List String :=
  ["./bin/gadgettracermanager", "-call", "receive-stream", "-tracerid",
    "trace_gadget_" ++ traceName]

variable {σ : Type}

def checkSupported (api : Cluster.Api σ) (settings : Settings) : Request σ (Except Error Unit) :=
  fun s =>
    match (do settings.checkLinux; settings.checkIncluded clusterGroup : Except Error Unit) with
    | .error e => (.error e, s)
    | .ok () => match api.hasDefinition traceDefinition s with
      | (.ok true, s) => (.ok (), s)
      | (.ok false, s) => (.error (.unsupported "does not contain gadget crd"), s)
      | (.error e, s) =>
        (.error (.unsupported ("error listing CRDs in cluster: " ++ e.message)), s)

def podName (api : Cluster.Api σ) (node : String) : Request σ (Except Error String) := fun s =>
  let (pods, s) := api.request (Cluster.Api.podsRequest (some home) node) s
  (do
    match (← pods).findSome? fun p => (Cluster.Pod.ofJson p).name with
    | some name => .ok name
    | none => .error (.configuration ("no gadget pod found on node " ++ Text.quoted node)), s)

def createTrace (api : Cluster.Api σ) (g : GadgetTrace) : Request σ (Except Error Unit) := fun s =>
  let object := traceObject g.traceName g.gadget g.node
  let (answer, s) := api.request (Cluster.ApiRequest.create tracesPath object) s
  (answer.map fun _ => (), s)

def deleteTrace (api : Cluster.Api σ) (g : GadgetTrace) (s : σ) : σ :=
  -- a refusal has no consequence
  (api.request (Cluster.ApiRequest.delete (tracesPath ++ "/" ++ g.traceName)) s).2

def openSession (api : Cluster.Api σ) (pod traceName : String) :
    Request σ (Except Error (List Cluster.Message)) :=
  let path := "/api/v1/namespaces/" ++ home ++ "/pods/" ++ pod
  Cluster.deliver api.session (Cluster.ApiRequest.run path (streamCommand traceName))

def outputText (bytes : List UInt8) : String :=
  String.ofList (Text.trim (Text.ofUtf8Lossy bytes).toList)

def report (o : Cluster.Output) : String :=
  outputText o.standard ++ "\n" ++ outputText o.diagnostic

def sessionReport (pod : String) (messages : Except Error (List Cluster.Message)) :
    Except Error String := do
  match Cluster.Output.ofMessages (← messages) with
  | .ok o => .ok (report o)
  | .error flaw => .error (.collection ("exec in pod " ++ pod) (Cluster.unreadableStatus flaw))

/-- Start the trace, stream its output until `period` has passed, and delete it again. A period of
no length (`none`) has passed before the session is asked for. Once it was started the trace is
deleted on every way out. -/
def collect (api : Cluster.Api σ) (period : Option (Request σ Unit)) (g : GadgetTrace)
    (gathered : Export.Items) : Request σ (Except Error Unit × Export.Items) := fun s =>
  match g.createTrace api s with
  | (.error e, s) => ((.error (.during ("could not create trace " ++ g.traceName) e), gathered), s)
  | (.ok (), s) => match podName api g.node s with
    | (.error e, s) =>
      ((.error (.during "failed to get gadget pod name" e), gathered), g.deleteTrace api s)
    | (.ok pod, s) =>
      let (messages, s) := match period with
        | none => openSession api pod g.traceName (g.deleteTrace api s)
        | some period =>
          let (messages, s) := openSession api pod g.traceName s
          (messages, g.deleteTrace api (period s).2)
      match sessionReport pod messages with
      | .error e => ((.error (.during ("error executing command on " ++ pod) e), gathered), s)
      | .ok text => ((.ok (), gathered.insert g.name text), s)

end GadgetTrace
end NodeDiagnostics.Collection
