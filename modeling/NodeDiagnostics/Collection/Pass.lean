import NodeDiagnostics.Export.Exporter
import NodeDiagnostics.Json.Writer

namespace NodeDiagnostics.Collection

structure Collector (σ : Type) where
  name : String
  checkSupported : Request σ (Except Error Unit)
  collect : Request σ (Except Error Unit)
  data : Request σ (Except Error Export.Items)

structure Failure where
  collector : String
  error : Error
deriving DecidableEq, Repr

def failuresMessage (failures : List Failure) : String :=
  s!"{failures.length} collector(s) failed" ++
    String.join (failures.map fun f => "\n\t" ++ f.collector ++ ": " ++ f.error.message)

structure Skipped where
  name : String
  reason : String
deriving DecidableEq, Repr

structure Failed where
  name : String
  error : String
deriving DecidableEq, Repr

structure Report where
  succeeded : List String
  skipped : List Skipped
  failed : List Failed
deriving DecidableEq, Repr

namespace Report

def empty : Report := ⟨[], [], []⟩

def toJson (r : Report) : Json :=
  .object [
    ("succeeded", .array (r.succeeded.map .text)),
    ("skipped", .array (r.skipped.map fun s =>
      .object [("name", .text s.name), ("reason", .text s.reason)])),
    ("failed", .array (r.failed.map fun f =>
      .object [("name", .text f.name), ("error", .text f.error)]))]

end Report

structure Pass where
  report : Report
  failures : List Failure
deriving DecidableEq, Repr

namespace Pass

open Export (ExportState ObjectStore Destination)

def empty : Pass := ⟨.empty, []⟩

def fail (p : Pass) (name : String) (e : Error) : Pass where
  report := { p.report with failed := p.report.failed ++ [⟨name, e.message⟩] }
  failures := p.failures ++ [⟨name, e⟩]

def skip (p : Pass) (name : String) (e : Error) : Pass :=
  { p with report := { p.report with skipped := p.report.skipped ++ [⟨name, e.message⟩] } }

def succeed (p : Pass) (name : String) : Pass :=
  { p with report := { p.report with succeeded := p.report.succeeded ++ [name] } }

variable {σ : Type}

def check (c : Collector σ) : Request (ExportState σ) (Except Error Unit) :=
  ExportState.ask c.checkSupported

def collect (c : Collector σ) : Request (ExportState σ) (Except Error Unit) :=
  ExportState.ask c.collect

def checkAll : List (Collector σ) → Pass → Request (ExportState σ) (List (Collector σ) × Pass)
  | [], p, s => (([], p), s)
  | c :: rest, p, s =>
    match check c s with
    | (.ok (), s) =>
      let ((supported, p), s) := checkAll rest p s
      ((c :: supported, p), s)
    | (.error e, s) => checkAll rest (p.skip c.name e) s

def settle (store : ObjectStore σ) (d : Destination) (c : Collector σ)
    (collected : Except Error Unit) (p : Pass) : Request (ExportState σ) Pass := fun s =>
  match collected with
  | .error e => (p.fail c.name e, s)
  | .ok () => match ExportState.exportItems store d c.data s with
    | (.error e, s) => (p.fail c.name e, s)
    | (.ok (), s) => (p.succeed c.name, s)

def settleAll (store : ObjectStore σ) (d : Destination) :
    List (Collector σ × Except Error Unit) → Pass → Request (ExportState σ) Pass
  | [], p, s => (p, s)
  | (c, collected) :: rest, p, s =>
    let (p, s) := settle store d c collected p s
    settleAll store d rest p s

/-- The pass over all collectors. All that are supported are collected from before the first is
exported. -/
def run (store : ObjectStore σ) (d : Destination) (collectors : List (Collector σ)) :
    Request (ExportState σ) Pass := fun s =>
  let ((supported, p), s) := checkAll collectors empty s
  let (outcomes, s) := Request.each collect supported s
  settleAll store d (supported.zip outcomes) p s

def message? (p : Pass) : Option String :=
  if p.failures.isEmpty then none else some (failuresMessage p.failures)

def summaryName : String := "run-summary.json"

def uploadSummary (store : ObjectStore σ) (d : Destination) (p : Pass) :
    Request (ExportState σ) (Except Error Unit) :=
  ExportState.exportStream store d summaryName (.always (.ok (Text.utf8 p.report.toJson.pretty)))

end Pass
end NodeDiagnostics.Collection
