import NodeDiagnostics.Container
import NodeDiagnostics.Request

namespace NodeDiagnostics

structure Tracer (σ : Type) where
  name : String
  start : Request σ (Except Error Unit)
  attach : Container → Request σ (Except Error Unit)
  detach : Container → Request σ (Except Error Unit)
  stop : Request σ Unit

def Tracer.nodeWide {σ : Type} (name : String) (start : Request σ (Except Error Unit))
    (stop : Request σ Unit) : Tracer σ where
  name := name
  start := start
  attach _ s := (.ok (), s)
  detach _ s := (.ok (), s)
  stop := stop

abbrev TracerFactory (σ : Type) := Request σ (Except Error (Tracer σ))

/-- Build a tracer and start it; one that does not start is stopped again. -/
def TracerFactory.launch {σ : Type} (factory : TracerFactory σ) : TracerFactory σ := fun s =>
  match factory s with
  | (.error e, s) => (.error e, s)
  | (.ok tracer, s) => match tracer.start s with
    | (.ok (), s) => (.ok tracer, s)
    | (.error e, s) => (.error e, (tracer.stop s).2)

def TracerFactory.launchEither {σ : Type} (primary : Option (TracerFactory σ))
    (fallback : TracerFactory σ) : TracerFactory σ := fun s =>
  match primary with
  | none => fallback.launch s
  | some primary => match primary.launch s with
    | (.ok tracer, s) => (.ok tracer, s)
    -- why the first failed is not passed on
    | (.error _, s) => fallback.launch s

end NodeDiagnostics
