import NodeDiagnostics.Container
import Std.Data.ExtTreeMap.Lemmas

/-!
One worker for each network namespace. Containers of a pod share a namespace, so a worker serves
all attached containers that live there and stops when the last of them is detached. What the
worker finds is attributed to its owner, the container that has been attached for the longest
time.
-/
namespace NodeDiagnostics.Probe

abbrev NamespaceId := Nat

/-- How the start of a worker ends: with the state of its body, with a refusal, or without a word.
-/
inductive Setup (β : Type) where
  | ready (body : β)
  | refused (e : Error)
  | vanished
deriving Repr

/-- A worker: the containers it serves, longest attached first, the state of its body, and whether
its thread still runs. -/
structure Worker (β : Type) where
  members : List Container
  body : β
  running : Bool
deriving DecidableEq, Repr

def Worker.owner? {β : Type} (w : Worker β) : Option Container := w.members.head?

structure NamespaceWorkers (β : Type) where
  label : String
  workers : Std.ExtTreeMap NamespaceId (Worker β)
  namespaceOf : Std.ExtTreeMap Pid NamespaceId

inductive Attachment where
  | known
  | noProcess (pid : Pid)
  | joined
  | started
  | failed (e : Error)
deriving DecidableEq, Repr

namespace Attachment

def result : Attachment → Except Error Unit
  | known | joined | started => .ok ()
  | noProcess pid =>
    .error (.resource s!"network namespace of pid {pid.toNat}" Error.noSuchFile)
  | failed e => .error e

def madeWorker : Attachment → Bool
  | started | failed _ => true
  | _ => false

end Attachment

namespace NamespaceWorkers

variable {β : Type}

def empty (label : String) : NamespaceWorkers β := ⟨label, ∅, ∅⟩

def size (w : NamespaceWorkers β) : Nat := w.workers.size

/-- Serve a container: `lookup` finds the namespace of its process, and `setup` starts a worker if
the namespace has none. -/
def attach (w : NamespaceWorkers β) (c : Container) (lookup : Pid → Option NamespaceId)
    (setup : Container → Setup β) : Attachment × NamespaceWorkers β :=
  if w.namespaceOf.contains c.pid then (.known, w)
  else match lookup c.pid with
    | none => (.noProcess c.pid, w)
    | some ns => match w.workers[ns]? with
      | some worker =>
        -- joined as it is: nobody asks whether the worker's thread still runs
        let worker := { worker with members := worker.members ++ [c] }
        (.joined, { w with
          workers := w.workers.insert ns worker
          namespaceOf := w.namespaceOf.insert c.pid ns })
      | none => match setup c with
        | .ready body =>
          (.started, { w with
            workers := w.workers.insert ns ⟨[c], body, true⟩
            namespaceOf := w.namespaceOf.insert c.pid ns })
        | .refused e => (.failed e, w)
        | .vanished =>
          (.failed (.resource w.label "worker exited before reporting readiness"), w)

def detach (w : NamespaceWorkers β) (c : Container) : NamespaceWorkers β :=
  match w.namespaceOf[c.pid]? with
  | none => w
  | some ns =>
    let namespaceOf := w.namespaceOf.erase c.pid
    match w.workers[ns]? with
    | none => { w with namespaceOf }
    | some worker =>
      let members := worker.members.filter (·.pid != c.pid)
      -- the last member takes its worker along
      if members.isEmpty then { w with namespaceOf, workers := w.workers.erase ns }
      else { w with namespaceOf, workers := w.workers.insert ns { worker with members } }

def stopAll (w : NamespaceWorkers β) : NamespaceWorkers β := empty w.label

def running? (w : NamespaceWorkers β) (ns : NamespaceId) : Option (Worker β) :=
  w.workers[ns]?.filter (·.running)

/-- One poll of the worker of a namespace. A poll that fails ends the thread and leaves the rest
as it is, so the namespace keeps its members and is watched no longer. -/
def poll {α : Type} (w : NamespaceWorkers β) (ns : NamespaceId)
    (step : Option Container → β → Except Error (List α × β)) :
    Except Error (List α) × NamespaceWorkers β :=
  match w.running? ns with
  | none => (.ok [], w)
  | some worker => match step worker.owner? worker.body with
    | .ok (found, body) =>
      (.ok found, { w with workers := w.workers.insert ns { worker with body } })
    | .error e =>
      (.error e, { w with workers := w.workers.insert ns { worker with running := false } })

def pollAll {α : Type} (w : NamespaceWorkers β)
    (step : Option Container → β → Except Error (List α × β)) :
    List α × NamespaceWorkers β :=
  w.workers.keys.foldl
    (fun (found, w) ns =>
      let (result, w) := w.poll ns step
      (found ++ result.toOption.getD [], w))
    ([], w)

end NamespaceWorkers
end NodeDiagnostics.Probe
