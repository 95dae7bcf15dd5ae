import NodeDiagnostics.CommandLine.Help
import NodeDiagnostics.Settings

/-!
The program: it reads its arguments and the variables that the deployment provides. A pass needs
the cluster's API, and this program comes without a transport to one, so it ends once both are
found to be in order.
-/
namespace NodeDiagnostics

def environment : IO (List (String × String)) :=
  Settings.variableNames.filterMapM fun name => return (← IO.getEnv name).map (name, ·)

def complain (what cause : String) : IO Unit :=
  IO.eprintln s!"Error: {what}\n\nCaused by:\n    {cause}"

def start (args : List String) : IO UInt32 := do
  match CommandLine.parse args with
  | .error refusal =>
    if refusal.isRequest then IO.println refusal.report else IO.eprintln refusal.report
    return refusal.exitCode
  | .ok _ =>
    let given ← environment
    match Settings.ofVariables "linux" (List.lookup · given) with
    | .error e => complain "failed to read runtime configuration" e.message
    | .ok _ => complain "failed to create Kubernetes client" "no transport to a cluster"
    return 1

end NodeDiagnostics

def main (args : List String) : IO UInt32 := NodeDiagnostics.start args
