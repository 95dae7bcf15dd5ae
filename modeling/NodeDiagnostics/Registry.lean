import NodeDiagnostics.Container
import Std.Data.ExtTreeMap.Lemmas

/-!
The registry: which container a process belongs to. It is filled from the runtime's list, kept up
to date by the runtime's news, and tells its subscribers what changed. News that changes nothing
is told to nobody, and a container that takes over a process number first retires the one it
replaces.
-/
namespace NodeDiagnostics

abbrev SubscriptionId := Nat

structure Announcement where
  subscription : SubscriptionId
  event : ContainerEvent
deriving DecidableEq, Repr

def Keyed (containers : Std.ExtTreeMap Pid Container) : Prop :=
  ∀ (pid : Pid) (c : Container), containers[pid]? = some c → c.pid = pid

theorem keyed_empty : Keyed ∅ := by
  simp [Keyed]

structure Registry where
  containers : Std.ExtTreeMap Pid Container
  subscriptions : List SubscriptionId
  next : SubscriptionId
  watching : Bool
  keyed : Keyed containers
  fresh : ∀ id ∈ subscriptions, id < next
  distinct : subscriptions.Nodup

namespace Registry

def empty : Registry where
  containers := ∅
  subscriptions := []
  next := 0
  watching := true
  keyed := keyed_empty
  fresh := by simp
  distinct := by simp

def record (containers : Std.ExtTreeMap Pid Container) :
    ContainerEvent → List ContainerEvent × Std.ExtTreeMap Pid Container
  | .added c =>
    let changes := match containers[c.pid]? with
      | none => [.added c]
      -- the container that held the number is retired first
      | some old => if old = c then [] else [.removed old, .added c]
    (changes, containers.insert c.pid c)
  | .removed c =>
    let changes := match containers[c.pid]? with
      | none => []
      | some old => [.removed old]
    (changes, containers.erase c.pid)

theorem getElem?_record_added (containers : Std.ExtTreeMap Pid Container) (c : Container)
    (pid : Pid) :
    (record containers (.added c)).2[pid]? = if c.pid = pid then some c else containers[pid]? := by
  simp [record, Std.ExtTreeMap.getElem?_insert]

theorem getElem?_record_removed (containers : Std.ExtTreeMap Pid Container) (c : Container)
    (pid : Pid) :
    (record containers (.removed c)).2[pid]? = if c.pid = pid then none else containers[pid]? := by
  simp [record, Std.ExtTreeMap.getElem?_erase]

theorem record_keyed {containers : Std.ExtTreeMap Pid Container} (keyed : Keyed containers)
    (e : ContainerEvent) : Keyed (record containers e).2 := by
  intro pid c found
  cases e with
  | added d =>
    rw [getElem?_record_added] at found
    split at found
    · cases found; assumption
    · exact keyed pid c found
  | removed d =>
    rw [getElem?_record_removed] at found
    split at found
    · contradiction
    · exact keyed pid c found

/-- Tell every subscriber each of the changes, one change after the other. -/
def announcements (subscriptions : List SubscriptionId) (changes : List ContainerEvent) :
    List Announcement :=
  changes.flatMap fun e => subscriptions.map fun id => ⟨id, e⟩

def apply (r : Registry) (e : ContainerEvent) : List Announcement × Registry :=
  (announcements r.subscriptions (record r.containers e).1,
    { r with
      containers := (record r.containers e).2
      keyed := record_keyed r.keyed e })

/-- News from the runtime, which counts as long as the runtime is watched. -/
def notify (r : Registry) (e : ContainerEvent) : List Announcement × Registry :=
  if r.watching then r.apply e else ([], r)

def applyAll (r : Registry) (es : List ContainerEvent) : Registry :=
  es.foldl (fun r e => (r.apply e).2) r

/-- What the runtime does while a registry is set up: the answer to the request to lift the limit
on locked memory, the news before the list is there, the list, and whether the watch goes on. -/
structure Opening where
  memory : Except Error Unit
  news : List ContainerEvent
  listing : Except Error (List Container)
  watching : Bool

def unwatch (r : Registry) : Registry := { r with watching := false }

/-- Why there is no registry, and what was begun of one, if the watch had begun. -/
structure Setback where
  error : Error
  begun : Option Registry

/-- A registry with the listed containers. The watch begins before the list is asked for, so that
no container that appears in between is missed. -/
def setUp (o : Opening) : Except Setback Registry :=
  match o.memory with
  | .error e => .error ⟨e, none⟩
  | .ok () =>
    let early := if o.watching then empty.applyAll o.news else empty.unwatch
    match o.listing with
    | .error e => .error ⟨.resource "container collection" e.message, some early.unwatch⟩
    | .ok listed => .ok (early.applyAll (listed.map .added))

def lookup? (r : Registry) (pid : Pid) : Option Container := r.containers[pid]?

theorem lookup?_apply_added (r : Registry) (c : Container) (pid : Pid) :
    (r.apply (.added c)).2.lookup? pid = if c.pid = pid then some c else r.lookup? pid :=
  getElem?_record_added r.containers c pid

theorem lookup?_apply_removed (r : Registry) (c : Container) (pid : Pid) :
    (r.apply (.removed c)).2.lookup? pid = if c.pid = pid then none else r.lookup? pid :=
  getElem?_record_removed r.containers c pid

def snapshot (r : Registry) : List Container := r.containers.toList.map (·.2)

def size (r : Registry) : Nat := r.containers.size

def subscribe (r : Registry) : SubscriptionId × Registry :=
  (r.next, { r with
    subscriptions := r.subscriptions ++ [r.next]
    next := r.next + 1
    fresh := by
      intro id member
      rcases List.mem_append.mp member with old | new
      · exact Nat.lt_succ_of_lt (r.fresh id old)
      · exact List.mem_singleton.mp new ▸ Nat.lt_succ_self r.next
    distinct := by
      refine List.nodup_append.mpr ⟨r.distinct, by simp, ?_⟩
      intro id old other new
      rw [List.mem_singleton.mp new]
      exact Nat.ne_of_lt (r.fresh id old) })

def unsubscribe (r : Registry) (id : SubscriptionId) : Registry :=
  { r with
    subscriptions := r.subscriptions.filter (· ≠ id)
    fresh := fun other member => r.fresh other ((List.mem_filter.mp member).1)
    distinct := r.distinct.filter _ }

def close (r : Registry) : Registry :=
  { r.unwatch with
    containers := ∅
    subscriptions := []
    keyed := keyed_empty
    fresh := by simp
    distinct := by simp }

end Registry
end NodeDiagnostics
