import NodeDiagnostics.Trace.Connection
import NodeDiagnostics.Proofs.Registry.Replay

namespace NodeDiagnostics.Trace
open Registry

inductive Call where
  | attached (c : Container)
  | refused (c : Container)
  | detached (c : Container)
deriving DecidableEq, Repr

def Call.changes (pid : Pid) : Call → Bool
  | attached c => c.pid = pid
  | refused _ => false
  | detached c => c.pid = pid

/-- Attaching and detaching in turn, from what is attached at first to what is attached in the end.
What is detached is what was attached. -/
def Alternates : Option Container → List Call → Option Container → Prop
  | first, [], last => first = last
  | none, .attached c :: rest, last => Alternates (some c) rest last
  | some c, .detached d :: rest, last => c = d ∧ Alternates none rest last
  | _, _ :: _, _ => False

theorem Alternates.append {first middle last : Option Container} {calls more : List Call}
    (before : Alternates first calls middle) (after : Alternates middle more last) :
    Alternates first (calls ++ more) last := by
  induction calls generalizing first with
  | nil => exact (before : first = middle) ▸ after
  | cons call calls ih =>
    cases call with
    | attached c =>
      cases first with
      | none => exact ih before
      | some d => exact absurd before id
    | refused c =>
      cases first with
      | none => exact absurd before id
      | some d => exact absurd before id
    | detached c =>
      cases first with
      | none => exact absurd before id
      | some d => exact ⟨before.1, ih before.2⟩

def lastAttempt? (c : Container) (log : List Call) : Option Call :=
  log.reverse.find? fun call => call = .attached c ∨ call = .refused c

theorem lastAttempt?_append_singleton (c : Container) (log : List Call) (call : Call) :
    lastAttempt? c (log ++ [call]) =
      if call = .attached c ∨ call = .refused c then some call else lastAttempt? c log := by
  by_cases h : call = .attached c ∨ call = .refused c <;> simp [lastAttempt?, h]

variable {σ : Type}

def logged (tracer : Tracer σ) : Tracer (List Call × σ) where
  name := tracer.name
  start := fun (log, s) => ((tracer.start s).1, log, (tracer.start s).2)
  attach c := fun (log, s) => match tracer.attach c s with
    | (.ok (), s) => (.ok (), log ++ [.attached c], s)
    | (.error e, s) => (.error e, log ++ [.refused c], s)
  detach c := fun (log, s) =>
    ((tracer.detach c s).1, log ++ [.detached c], (tracer.detach c s).2)
  stop := fun (log, s) => ((tracer.stop s).1, log, (tracer.stop s).2)

/-- How a tracer stands that has been told of these containers: what it is attached to, and its
log. -/
structure Follows (selector : Selector) (told : Std.ExtTreeMap Pid Container) (attached : Attached)
    (log : List Call) : Prop where
  known : ∀ (pid : Pid) (c : Container), attached[pid]? = some c →
    told[pid]? = some c ∧ selector.selects c = true
  missed : ∀ (pid : Pid) (c : Container), told[pid]? = some c → selector.selects c = true →
    attached[pid]? = none → lastAttempt? c log = some (.refused c)
  calls : ∀ pid : Pid, Alternates none (log.filter (·.changes pid)) attached[pid]?

namespace Follows

variable {selector : Selector} {told : Std.ExtTreeMap Pid Container} {attached : Attached}
  {log : List Call} {c : Container}

theorem free_of_free (h : Follows selector told attached log) {pid : Pid}
    (free : told[pid]? = none) : attached[pid]? = none := by
  cases found : attached[pid]? with
  | none => rfl
  | some d =>
    have held := (h.known pid d found).1
    rw [free] at held
    cases held

theorem attach (h : Follows selector told attached log) (keyed : Keyed told)
    (free : told[c.pid]? = none) (chosen : selector.selects c = true) :
    Follows selector (told.insert c.pid c) (attached.insert c.pid c) (log ++ [.attached c]) := by
  constructor
  · intro pid d found
    rw [Std.ExtTreeMap.getElem?_insert] at found ⊢
    split at found
    · cases found
      simp_all
    · simp_all [h.known pid d found]
  · intro pid d held selected missing
    rw [Std.ExtTreeMap.getElem?_insert] at held missing
    split at missing
    · contradiction
    · rename_i other
      rw [if_neg other] at held
      have differ : d ≠ c := by
        rintro rfl
        exact other (by simpa using keyed pid d held)
      rw [lastAttempt?_append_singleton, if_neg (by simpa using differ.symm)]
      exact h.missed pid d held selected missing
  · intro pid
    rw [List.filter_append, Std.ExtTreeMap.getElem?_insert]
    by_cases same : c.pid = pid
    · subst same
      have before := h.calls c.pid
      rw [h.free_of_free free] at before
      have step : Alternates none [.attached c] (some c) := rfl
      simpa [Call.changes] using before.append step
    · simpa [Call.changes, same] using h.calls pid

theorem pass (h : Follows selector told attached log) (keyed : Keyed told)
    (free : told[c.pid]? = none) {more : List Call}
    (quiet : ∀ pid, more.filter (·.changes pid) = [])
    (mine : selector.selects c = true → lastAttempt? c (log ++ more) = some (.refused c))
    (others : ∀ d, d ≠ c → lastAttempt? d (log ++ more) = lastAttempt? d log) :
    Follows selector (told.insert c.pid c) attached (log ++ more) := by
  constructor
  · intro pid d found
    have old := h.known pid d found
    have other : c.pid ≠ pid := by
      rintro rfl
      rw [free] at old
      cases old.1
    simpa [Std.ExtTreeMap.getElem?_insert, other] using old
  · intro pid d held selected missing
    rw [Std.ExtTreeMap.getElem?_insert] at held
    split at held
    · cases held
      exact mine selected
    · rename_i other
      have differ : d ≠ c := by
        rintro rfl
        exact other (by simpa using keyed pid d held)
      rw [others d differ]
      exact h.missed pid d held selected missing
  · intro pid
    rw [List.filter_append, quiet, List.append_nil]
    exact h.calls pid

theorem refuse (h : Follows selector told attached log) (keyed : Keyed told)
    (free : told[c.pid]? = none) :
    Follows selector (told.insert c.pid c) attached (log ++ [.refused c]) := by
  refine h.pass keyed free (fun pid => by simp [Call.changes]) ?_ ?_
  · intro _
    rw [lastAttempt?_append_singleton, if_pos (.inr rfl)]
  · intro d differ
    rw [lastAttempt?_append_singleton, if_neg (by simpa using differ.symm)]

theorem ignore (h : Follows selector told attached log) (keyed : Keyed told)
    (free : told[c.pid]? = none) (other : selector.selects c = false) :
    Follows selector (told.insert c.pid c) attached log := by
  have step : Follows selector (told.insert c.pid c) attached (log ++ []) :=
    h.pass keyed free (fun _ => rfl) (by simp [other]) (by simp)
  rwa [List.append_nil] at step

theorem detach (h : Follows selector told attached log) (found : attached[c.pid]? = some c) :
    Follows selector (told.erase c.pid) (attached.erase c.pid) (log ++ [.detached c]) := by
  constructor
  · intro pid d stays
    rw [Std.ExtTreeMap.getElem?_erase] at stays ⊢
    split at stays
    · contradiction
    · simp_all [h.known pid d stays]
  · intro pid d stays selected missing
    rw [Std.ExtTreeMap.getElem?_erase] at stays missing
    split at stays
    · contradiction
    · simp_all [lastAttempt?_append_singleton, h.missed pid d stays selected]
  · intro pid
    rw [List.filter_append, Std.ExtTreeMap.getElem?_erase]
    by_cases same : c.pid = pid
    · subst same
      have before := h.calls c.pid
      rw [found] at before
      have step : Alternates (some c) [.detached c] none := ⟨rfl, rfl⟩
      simpa [Call.changes] using before.append step
    · simpa [Call.changes, same] using h.calls pid

theorem leave (h : Follows selector told attached log) {pid : Pid}
    (absent : attached[pid]? = none) : Follows selector (told.erase pid) attached log := by
  constructor
  · intro other d found
    have differ : pid ≠ other := by
      rintro rfl
      rw [absent] at found
      cases found
    simpa [Std.ExtTreeMap.getElem?_erase, differ] using h.known other d found
  · intro other d stays
    rw [Std.ExtTreeMap.getElem?_erase] at stays
    split at stays
    · contradiction
    · exact h.missed other d stays
  · exact h.calls

end Follows

def followAll (tracer : Tracer σ) (selector : Selector) (es : List ContainerEvent)
    (state : Attached × σ) : Attached × σ :=
  es.foldl (fun (attached, s) e => Connection.follow tracer selector e attached s) state

theorem follow_added {selector : Selector} {told : Std.ExtTreeMap Pid Container}
    {attached : Attached} {log : List Call} {c : Container}
    (h : Follows selector told attached log) (keyed : Keyed told) (free : told[c.pid]? = none)
    (tracer : Tracer σ) (s : σ) :
    let after := Connection.follow (logged tracer) selector (.added c) attached (log, s)
    Follows selector (told.insert c.pid c) after.1 after.2.1 := by
  have absent : attached.contains c.pid = false := by
    rw [Std.ExtTreeMap.contains_eq_isSome_getElem?, h.free_of_free free]
    rfl
  simp only [Connection.follow]
  split
  · rename_i chosen
    simp only [attachOne, absent, logged, Bool.false_eq_true, ↓reduceIte]
    rcases tracer.attach c s with ⟨e | ⟨⟩, s'⟩
    · exact h.refuse keyed free
    · exact h.attach keyed free chosen
  · rename_i other
    exact h.ignore keyed free (by simpa using other)

theorem follow_removed {selector : Selector} {told : Std.ExtTreeMap Pid Container}
    {attached : Attached} {log : List Call} {c : Container}
    (h : Follows selector told attached log) (held : told[c.pid]? = some c)
    (tracer : Tracer σ) (s : σ) :
    let after := Connection.follow (logged tracer) selector (.removed c) attached (log, s)
    Follows selector (told.erase c.pid) after.1 after.2.1 := by
  simp only [Connection.follow, detachOne]
  cases found : attached[c.pid]? with
  | none => exact h.leave found
  | some d =>
    have same : some d = some c := (h.known c.pid d found).1.symm.trans held
    cases same
    exact h.detach found

theorem Follows.replay {selector : Selector} {told told' : Std.ExtTreeMap Pid Container}
    {attached : Attached} {log : List Call} {es : List ContainerEvent}
    (h : Follows selector told attached log) (keyed : Keyed told) (path : Replay told es told')
    (tracer : Tracer σ) (s : σ) :
    let after := followAll (logged tracer) selector es (attached, log, s)
    Follows selector told' after.1 after.2.1 := by
  induction path generalizing attached log s with
  | nil => exact h
  | added free _ ih =>
    exact ih (follow_added h keyed free tracer s) (keyed_insert keyed _) _
  | removed held _ ih =>
    exact ih (follow_removed h held tracer s) (keyed_erase keyed _) _

end NodeDiagnostics.Trace
