import NodeDiagnostics.Cluster.Pod

/-!
Following the pods of a node. What is told of a pod is compared with what was last known of it,
and only the difference is announced. A list of all pods may be told anew at any time, and at its
end the pods that it did not name are taken to be gone.
-/
namespace NodeDiagnostics.Cluster

inductive PodEvent where
  | present (p : Pod)
  | gone (p : Pod)
  | listBegins
  | listEnds
deriving DecidableEq, Repr

def PodEvent.completesList : PodEvent → Bool
  | listEnds => true
  | _ => false

structure Roster where
  pods : Std.ExtTreeMap String (List Container)
  /-- The pods named since the list began, if one is under way. -/
  listed : Option (List String)

namespace Roster

def empty : Roster := ⟨∅, none⟩

def containersOf (t : Roster) (key : String) : List Container := t.pods[key]?.getD []

/-- What changes from the old containers of a pod to the new ones: first those that are gone, then
those that are new. -/
def changes (old new : List Container) : List ContainerEvent :=
  (old.filter (· ∉ new)).map .removed ++ (new.filter (· ∉ old)).map .added

def apply (key : String) (containers : List Container) (t : Roster) :
    List ContainerEvent × Roster :=
  (changes (t.containersOf key) containers,
    { pods := if containers.isEmpty then t.pods.erase key else t.pods.insert key containers
      listed := t.listed.map (key :: ·) })

def remove (key : String) (t : Roster) : List ContainerEvent × Roster :=
  ((t.containersOf key).map .removed, { t with pods := t.pods.erase key })

theorem containersOf_apply (t : Roster) (key other : String) (containers : List Container) :
    (t.apply key containers).2.containersOf other =
      if key = other then containers else t.containersOf other := by
  by_cases h : key = other
  · cases containers <;> simp [apply, containersOf, h]
  · cases containers <;>
      simp [apply, containersOf, Std.ExtTreeMap.getElem?_insert, Std.ExtTreeMap.getElem?_erase, h]

theorem containersOf_remove (t : Roster) (key other : String) :
    (t.remove key).2.containersOf other = if key = other then [] else t.containersOf other := by
  by_cases h : key = other <;> simp [remove, containersOf, Std.ExtTreeMap.getElem?_erase, h]

def beginList (t : Roster) : Roster :=
  -- what a list named that is still under way counts no more
  { t with listed := some [] }

def removeAll : List String → Roster → List ContainerEvent × Roster
  | [], t => ([], t)
  | key :: rest, t =>
    let (events, t) := t.remove key
    let (more, t) := removeAll rest t
    (events ++ more, t)

/-- A list ends, and the pods that it did not name are removed. -/
def finishList (t : Roster) : List ContainerEvent × Roster :=
  match t.listed with
  | none => ([], t)
  | some listed => removeAll (t.pods.keys.filter (· ∉ listed)) { t with listed := none }

def applyAll : List (String × List Container) → Roster → List ContainerEvent × Roster
  | [], t => ([], t)
  | (key, containers) :: rest, t =>
    let (events, t) := t.apply key containers
    let (more, t) := applyAll rest t
    (events ++ more, t)

def handle (processes : List Host.ProcessEntry) (e : PodEvent) (t : Roster) :
    List ContainerEvent × Roster :=
  match e with
  | .present p => applyAll (Pod.containersOf processes [p]) t
  | .gone p => match p.key? with
    | some key => t.remove key
    | none => ([], t)
  | .listBegins => ([], t.beginList)
  | .listEnds => t.finishList

end Roster
end NodeDiagnostics.Cluster
