import NodeDiagnostics.Cluster.Api
import NodeDiagnostics.Export.Exporter
import NodeDiagnostics.Settings
import NodeDiagnostics.Usage.Metrics

/-!
The collector of what nodes and containers use. What it has gathered stays until it is gathered
anew, so a run that fails half-way leaves the containers of an earlier run in place.
-/
namespace NodeDiagnostics.Collection

/-- The word that leaves out every collector that works through the cluster's API. -/
def clusterGroup : String := "connectedCluster"

namespace Consumption

def name : String := "systemperf"

def checkSupported (settings : Settings) : Except Error Unit :=
  settings.checkIncluded clusterGroup

variable {σ : Type}

def usage (api : Cluster.Api σ) (plural step : String)
    (read : List Json → Except Error (List Usage.ResourceUsage)) :
    Request σ (Except Error String) := fun s =>
  let (objects, s) := api.metrics plural s
  (do
    let objects ← objects.mapError (.during step)
    return Usage.document (← read objects), s)

def collect (api : Cluster.Api σ) (gathered : Export.Items) :
    Request σ (Except Error Unit × Export.Items) := fun s =>
  match usage api "nodes" "node metrics error" Usage.ofNodes s with
  | (.error e, s) => ((.error e, gathered), s)
  | (.ok nodes, s) =>
    let gathered := gathered.insert "nodes" nodes
    match usage api "pods" "pod metrics failure" Usage.ofPods s with
    | (.error e, s) => ((.error e, gathered), s)
    | (.ok pods, s) => ((.ok (), gathered.insert "pods" pods), s)

end Consumption
end NodeDiagnostics.Collection
