import NodeDiagnostics.Usage.Quantity
import NodeDiagnostics.Json.Writer

namespace NodeDiagnostics.Usage

structure ResourceUsage where
  name : String
  cpu : Int
  memory : Int
deriving DecidableEq, Repr

def ResourceUsage.toJson (u : ResourceUsage) : Json :=
  .object [("name", .text u.name), ("cpuUsage", .integer u.cpu), ("memoryUsage", .integer u.memory)]

def field (j : Json) (name : String) : Json := (j.member? name).getD .null

def amount (name : String) (usage : Json) (key : String) : Except Error Quantity :=
  match (field usage key).text? with
  | some text => Quantity.parse text
  | none => .error (.configuration (name ++ " has no " ++ key ++ " usage"))

/-- Both amounts are read before either is scaled. -/
def usageOf (name : String) (usage : Json) : Except Error ResourceUsage := do
  let cpu ← amount name usage "cpu"
  let memory ← amount name usage "memory"
  return ⟨name, ← cpu.scaledCeil 1000, ← memory.scaledCeil 1⟩

def ofNodes (items : List Json) : Except Error (List ResourceUsage) :=
  items.mapM fun item =>
    usageOf ((field (field item "metadata") "name").text?.getD "") (field item "usage")

def ofPods (items : List Json) : Except Error (List ResourceUsage) :=
  (items.flatMap fun item => (field item "containers").items?.getD []).mapM fun container =>
    usageOf ((field container "name").text?.getD "") (field container "usage")

def document (list : List ResourceUsage) : String :=
  (Json.array (list.map ResourceUsage.toJson)).compact

end NodeDiagnostics.Usage
