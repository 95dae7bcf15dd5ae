import NodeDiagnostics.Probe.NamespaceProbe
import NodeDiagnostics.Tracer

namespace NodeDiagnostics.Probe

/-- What a worker does in one poll: from its owner and the state of its body, what it finds and its
next state. -/
abbrev Poll (α β : Type) := Option Container → β → Except Error (List α × β)

structure Surroundings (β τ : Type) where
  admits : τ → Except Error Unit
  namespaceOf : τ → Pid → Option NamespaceId
  setup : τ → Container → Setup β
  next : τ → τ

variable {α β τ : Type}

def NamespaceWorkers.pollEach (w : NamespaceWorkers β) (polls : List (NamespaceId × Poll α β)) :
    NamespaceWorkers β :=
  polls.foldl (fun w (ns, step) => (w.poll ns step).2) w

def Surroundings.passed (host : Surroundings β τ) (polls : τ → List (NamespaceId × Poll α β))
    (p : NamespaceProbe β) (t : τ) : NamespaceProbe β × τ :=
  ({ p with workers := p.workers.pollEach (polls t) }, host.next t)

def NamespaceProbe.tracer (name : String) (host : Surroundings β τ)
    (polls : τ → List (NamespaceId × Poll α β)) : Tracer (NamespaceProbe β × τ) where
  name := name
  start := fun (p, t) => match host.admits t with
    | .ok () => (.ok (), host.passed polls p.start t)
    | .error e => (.error e, host.passed polls p t)
  attach c := fun (p, t) =>
    let (answer, p) := p.attach c (host.namespaceOf t) (host.setup t)
    (answer, host.passed polls p t)
  detach c := fun (p, t) => (.ok (), host.passed polls (p.detach c) t)
  stop := fun (p, t) => ((), host.passed polls p.stop t)

end NodeDiagnostics.Probe
