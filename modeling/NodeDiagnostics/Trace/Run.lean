import NodeDiagnostics.Event
import NodeDiagnostics.Settings
import NodeDiagnostics.Trace.Connection
import NodeDiagnostics.Trace.Journal

namespace NodeDiagnostics.Trace

inductive Stage where
  | unsupported
  | initializing
  | running
  | draining
  | done
  | failed
deriving DecidableEq, Repr

def dnsName : String := "ig-dnstrace"

def tcpName : String := "ig-tcptrace"

def checkSupported (settings : Settings) (name : String) : Except Error Unit := do
  settings.checkIncluded name
  settings.checkLinux

inductive Happening (ε : Type) where
  | news (e : ContainerEvent)
  | seen (owner : Option Container) (event : ε)
deriving Repr

/-- A window: what the host does when it opens, what happens then, and what the host does when it
closes. -/
structure Window (ε σ : Type) where
  opened : Request σ Unit
  happenings : List (Happening ε)
  closed : Request σ Unit

/-- What outlasts a run: the published events, the clock that dates them, and the host. -/
structure World (σ : Type) where
  journal : Journal
  clock : Time.Clock
  host : σ

variable {ε σ : Type}

def World.ask {α : Type} (w : World σ) (request : Request σ α) : α × World σ :=
  let (a, host) := request w.host
  (a, { w with host })

/-- Publish an event under the container it was seen in, or else under the registry's container
for its process. -/
def publish [TraceEvent ε] (name node : String) (registry : Registry) (owner : Option Container)
    (event : ε) (w : World σ) : World σ :=
  let owner := owner <|> (TraceEvent.pid? event).bind registry.lookup?
  let (time, clock) := w.clock.read
  let text := TraceEvent.text (TraceEvent.enrich event node owner)
  { w with clock, journal := w.journal.publish name owner time text }

structure Run (ε σ : Type) where
  name : String
  node : String
  opening : Registry.Opening
  launch : TracerFactory σ
  window : Window ε σ

structure Outcome where
  result : Except Error Unit
  stages : List Stage

def Outcome.stage (o : Outcome) : Stage := o.stages.getLastD .unsupported

namespace Run

def observe [TraceEvent ε] (run : Run ε σ) (tracer : Tracer σ) :
    List (Happening ε) → Connection × Registry → World σ → (Connection × Registry) × World σ
  | [], state, w => (state, w)
  | .news e :: rest, (connection, registry), w =>
    let (state, w) := w.ask (connection.notify registry tracer e)
    run.observe tracer rest state w
  | .seen owner event :: rest, (connection, registry), w =>
    let w := publish run.name run.node registry owner event w
    run.observe tracer rest (connection, registry) w

def traceWith [TraceEvent ε] (run : Run ε σ) (registry : Registry) (tracer : Tracer σ)
    (w : World σ) : (Outcome × Registry) × World σ :=
  match w.ask (Connection.connect registry tracer .everything) with
  | ((.error e, registry), w) =>
    let (_, w) := w.ask tracer.stop
    ((⟨.error (.during s!"failed to connect {run.name} tracer" e), []⟩, registry), w)
  | ((.ok connection, registry), w) =>
    let (_, w) := w.ask run.window.opened
    let ((connection, registry), w) :=
      run.observe tracer run.window.happenings (connection, registry) w
    let (_, w) := w.ask run.window.closed
    let ((_, registry), w) := w.ask (connection.close registry tracer)
    let (_, w) := w.ask tracer.stop
    ((⟨.ok (), [.running, .draining]⟩, registry), w)

def trace [TraceEvent ε] (run : Run ε σ) (registry : Registry) (w : World σ) :
    (Outcome × Registry) × World σ :=
  match w.ask run.launch with
  | (.error e, w) =>
    ((⟨.error (.during s!"failed to start {run.name} tracer" e), []⟩, registry), w)
  | (.ok tracer, w) => run.traceWith registry tracer w

def execute [TraceEvent ε] (run : Run ε σ) (w : World σ) :
    (Outcome × Option Registry) × World σ :=
  match Registry.setUp run.opening with
  | .error setback =>
    ((⟨.error (.during "failed to initialize container collection" setback.error),
      [.initializing, .failed]⟩, setback.begun), w)
  | .ok registry =>
    let ((outcome, registry), w) := run.trace registry w
    let last : Stage := match outcome.result with
      | .ok () => .done
      | .error _ => .failed
    ((⟨outcome.result, .initializing :: outcome.stages ++ [last]⟩, some registry.close), w)

end Run
end NodeDiagnostics.Trace
