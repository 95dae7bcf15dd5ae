import NodeDiagnostics.Cluster.Roster
import NodeDiagnostics.Error

/-!
Watching the pods of a node. A session begins with a list of all pods and goes on with watches,
one after the other, until one fails. Between two sessions there is a pause, which doubles up to
half a minute and never shrinks again. What is known of the pods outlasts a session.
-/
namespace NodeDiagnostics.Cluster

inductive WatchEvent where
  | changed (p : Pod)
  | deleted (p : Pod)
  | failed
deriving DecidableEq, Repr

/-- What the cluster answers in one session: the list, and the watches as far as they are
answered. -/
structure Session where
  list : Except ClusterError (List Pod)
  watches : List (Except ClusterError (List WatchEvent))

inductive WatchRequest where
  | list
  | watch
deriving DecidableEq, Repr

inductive WatchStep where
  | asked (request : WatchRequest) (seconds : Nat)
  | told (e : ContainerEvent)
deriving DecidableEq, Repr

inductive SessionEnd where
  | waiting
  | failed
deriving DecidableEq, Repr

namespace Roster

def handleAll (processes : List Host.ProcessEntry) :
    List PodEvent → Roster → List ContainerEvent × Roster
  | [], t => ([], t)
  | e :: rest, t =>
    let (events, t) := t.handle processes e
    let (more, t) := handleAll processes rest t
    (events ++ more, t)

end Roster

namespace WatchEvent

def told : List WatchEvent → List PodEvent × Bool
  | [] => ([], false)
  | failed :: _ => ([], true)
  | changed p :: rest => let (events, broken) := told rest; (.present p :: events, broken)
  | deleted p :: rest => let (events, broken) := told rest; (.gone p :: events, broken)

end WatchEvent

def firstPause : Nat := 1

def longestPause : Nat := 30

def nextPause (pause : Nat) : Nat := min (2 * pause) longestPause

namespace Session

def watchesFrom (processes : List Host.ProcessEntry) (now : Nat) :
    List (Except ClusterError (List WatchEvent)) → Roster →
      (List WatchStep × SessionEnd) × Roster
  | [], t => (([.asked .watch now], .waiting), t)
  | .error _ :: _, t => (([.asked .watch now], .failed), t)
  | .ok events :: rest, t =>
    let (told, broken) := WatchEvent.told events
    let (news, t) := t.handleAll processes told
    let steps := .asked .watch now :: news.map .told
    if broken then ((steps, .failed), t)
    else
      let ((more, last), t) := watchesFrom processes now rest t
      ((steps ++ more, last), t)

def run (processes : List Host.ProcessEntry) (now : Nat) (s : Session) (t : Roster) :
    (List WatchStep × SessionEnd) × Roster :=
  let t := t.beginList
  match s.list with
  | .error _ => (([.asked .list now], .failed), t)
  | .ok pods =>
    -- whatever the list leaves out is gone once it is complete
    let (news, t) := t.handleAll processes (pods.map .present ++ [.listEnds])
    let ((steps, last), t) := watchesFrom processes now s.watches t
    ((.asked .list now :: news.map .told ++ steps, last), t)

end Session

/-- Watch from now on. Sessions begin only before the limit; one that the cluster does not answer
waits for ever. -/
def watchFrom (processes : List Host.ProcessEntry) (limit : Nat) :
    List Session → (pause now : Nat) → Roster → List WatchStep
  | [], _, now, _ => if now < limit then [.asked .list now] else []
  | s :: rest, pause, now, t =>
    if now < limit then
      let ((steps, last), t) := s.run processes now t
      match last with
      | .waiting => steps
      | .failed => steps ++ watchFrom processes limit rest (nextPause pause) (now + pause) t
    else []

def watch (processes : List Host.ProcessEntry) (limit : Nat) (sessions : List Session) :
    List WatchStep :=
  watchFrom processes limit sessions firstPause 0 .empty

end NodeDiagnostics.Cluster
