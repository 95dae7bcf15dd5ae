import NodeDiagnostics.Registry
import NodeDiagnostics.Tracer

namespace NodeDiagnostics.Trace

abbrev Attached := Std.ExtTreeMap Pid Container

variable {σ : Type}

def attachOne (tracer : Tracer σ) (c : Container) (attached : Attached) :
    Request σ (Bool × Attached) := fun s =>
  -- a process that is attached counts, for whichever container it was attached
  if attached.contains c.pid then ((true, attached), s)
  else match tracer.attach c s with
    | (.ok (), s) => ((true, attached.insert c.pid c), s)
    | (.error _, s) => ((false, attached), s)

/-- Detach a tracer from the process of a container, with the record that it was attached with.
The process counts as detached even if the tracer complains. -/
def detachOne (tracer : Tracer σ) (c : Container) (attached : Attached) : Request σ Attached :=
  fun s => match attached[c.pid]? with
    | none => (attached, s)
    | some known => (attached.erase c.pid, (tracer.detach known s).2)

theorem getElem?_detachOne (tracer : Tracer σ) (c : Container) (attached : Attached) (s : σ)
    (pid : Pid) :
    (detachOne tracer c attached s).1[pid]? = if c.pid = pid then none else attached[pid]? := by
  unfold detachOne
  split
  · rename_i h
    by_cases hp : c.pid = pid
    · subst hp; simpa using h
    · simp [hp]
  · simp [Std.ExtTreeMap.getElem?_erase]

structure Connection where
  subscription : SubscriptionId
  selector : Selector
  attached : Attached

namespace Connection

def follow (tracer : Tracer σ) (selector : Selector) (e : ContainerEvent) (attached : Attached) :
    Request σ Attached := fun s =>
  match e with
  | .added c =>
    if selector.selects c then
      let ((_, attached), s) := attachOne tracer c attached s
      (attached, s)
    else (attached, s)
  | .removed c => detachOne tracer c attached s

def attachEach (tracer : Tracer σ) : List Container → Attached → Request σ (Nat × Attached)
  | [], attached, s => ((0, attached), s)
  | c :: rest, attached, s =>
    let ((done, attached), s) := attachOne tracer c attached s
    let ((count, attached), s) := attachEach tracer rest attached s
    (((if done then count + 1 else count), attached), s)

/-- Subscribe to the registry and attach to the selected containers that are in it. It fails, and
the subscription ends, if there are such containers and none of them can be attached. -/
def connect (registry : Registry) (tracer : Tracer σ) (selector : Selector) :
    Request σ (Except Error Connection × Registry) := fun s =>
  -- subscribed before the list is taken, so that nothing is missed in between
  let (subscription, registry) := registry.subscribe
  let selected := registry.snapshot.filter selector.selects
  let ((count, attached), s) := attachEach tracer selected ∅ s
  if !selected.isEmpty && count == 0 then
    let reason := s!"could not attach to any of {selected.length} containers"
    ((.error (.resource tracer.name reason), registry.unsubscribe subscription), s)
  else ((.ok ⟨subscription, selector, attached⟩, registry), s)

def receive (c : Connection) (tracer : Tracer σ) (announcements : List Announcement) :
    Request σ Connection := fun s =>
  (announcements.filter (·.subscription = c.subscription)).foldl
    (fun (c, s) a =>
      let (attached, s) := follow tracer c.selector a.event c.attached s
      ({ c with attached }, s))
    (c, s)

def notify (c : Connection) (registry : Registry) (tracer : Tracer σ) (e : ContainerEvent) :
    Request σ (Connection × Registry) := fun s =>
  let (announcements, registry) := registry.notify e
  let (c, s) := c.receive tracer announcements s
  ((c, registry), s)

def close (c : Connection) (registry : Registry) (tracer : Tracer σ) :
    Request σ (Attached × Registry) := fun s =>
  let (attached, s) := (c.attached.toList.map (·.2)).foldl
    (fun (attached, s) container => detachOne tracer container attached s)
    (c.attached, s)
  ((attached, registry.unsubscribe c.subscription), s)

end Connection
end NodeDiagnostics.Trace
