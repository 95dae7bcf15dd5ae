import NodeDiagnostics.Container
import NodeDiagnostics.Json.Reader
import NodeDiagnostics.Time.Instant
import Std.Data.ExtTreeMap.Lemmas

/-!
Where traced events are kept: for each trace a bucket of written events, by the container they
belong to and the time they were published. Of two events with one key the later stays.
-/
namespace NodeDiagnostics.Trace

abbrev Bucket := Std.ExtTreeMap String String

structure Journal where
  buckets : Std.ExtTreeMap String Bucket

namespace Journal

def empty : Journal := ⟨∅⟩

def key (owner : Option Container) (time : Time.Instant) : String :=
  match owner with
  | some c => c.path ++ " " ++ time.text
  | none => time.text

def publish (s : Journal) (trace : String) (owner : Option Container) (time : Time.Instant)
    (content : String) : Journal :=
  let bucket := (s.buckets[trace]?).getD ∅
  ⟨s.buckets.insert trace (bucket.insert (key owner time) content)⟩

/-- The events of a trace. A trace that never received one has no bucket. -/
def bucket (s : Journal) (trace : String) : Except Error Bucket :=
  match s.buckets[trace]? with
  | some b => .ok b
  | none => .error (.emptyTrace trace)

def count (s : Journal) (trace : String) : Nat := ((s.buckets[trace]?).map (·.size)).getD 0

/-- An event as a JSON value: its text if that is no JSON. -/
def value (content : String) : Json := (Json.read? content).getD (.text content)

def document (b : Bucket) : String :=
  (Json.object (b.toList.map fun e => (e.1, value e.2))).pretty

def data (s : Journal) (trace : String) : Except Error (Std.ExtTreeMap String String) :=
  (s.bucket trace).map fun b => (∅ : Std.ExtTreeMap String String).insert trace (document b)

end Journal
end NodeDiagnostics.Trace
