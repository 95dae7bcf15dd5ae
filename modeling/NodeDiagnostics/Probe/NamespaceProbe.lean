import NodeDiagnostics.Probe.NamespaceWorkers

namespace NodeDiagnostics.Probe

structure NamespaceProbe (β : Type) where
  name : String
  started : Bool
  workers : NamespaceWorkers β

namespace NamespaceProbe

variable {β : Type}

def ofName (name label : String) : NamespaceProbe β := ⟨name, false, .empty label⟩

def start (p : NamespaceProbe β) : NamespaceProbe β := { p with started := true }

def attach (p : NamespaceProbe β) (c : Container) (lookup : Pid → Option NamespaceId)
    (setup : Container → Setup β) : Except Error Unit × NamespaceProbe β :=
  if p.started then
    let (outcome, workers) := p.workers.attach c lookup setup
    (outcome.result, { p with workers })
  else (.error (.resource p.name "attach before start"), p)

theorem attach_of_started {p : NamespaceProbe β} (started : p.started = true) (c : Container)
    (lookup : Pid → Option NamespaceId) (setup : Container → Setup β) :
    p.attach c lookup setup = ((p.workers.attach c lookup setup).1.result,
      { p with workers := (p.workers.attach c lookup setup).2 }) := by
  simp [attach, started]

theorem attach_of_stopped {p : NamespaceProbe β} (stopped : p.started = false) (c : Container)
    (lookup : Pid → Option NamespaceId) (setup : Container → Setup β) :
    p.attach c lookup setup = (.error (.resource p.name "attach before start"), p) := by
  simp [attach, stopped]

def detach (p : NamespaceProbe β) (c : Container) : NamespaceProbe β :=
  { p with workers := p.workers.detach c }

def stop (p : NamespaceProbe β) : NamespaceProbe β :=
  { p with started := false, workers := p.workers.stopAll }

end NamespaceProbe
end NodeDiagnostics.Probe
