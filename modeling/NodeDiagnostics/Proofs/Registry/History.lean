import NodeDiagnostics.Registry
import Mathlib.Data.List.Induction

namespace NodeDiagnostics

def ContainerEvent.standing : ContainerEvent → Option Container
  | added c => some c
  | removed _ => none

namespace Registry

def lastAbout (pid : Pid) (es : List ContainerEvent) : Option ContainerEvent :=
  es.reverse.find? (·.container.pid = pid)

theorem lastAbout_append_singleton (pid : Pid) (es : List ContainerEvent) (e : ContainerEvent) :
    lastAbout pid (es ++ [e]) = if e.container.pid = pid then some e else lastAbout pid es := by
  by_cases h : e.container.pid = pid <;> simp [lastAbout, h]

theorem lastAbout_eq_some_iff {pid : Pid} {es : List ContainerEvent} {e : ContainerEvent} :
    lastAbout pid es = some e ↔ e.container.pid = pid ∧
      ∃ before after, es = before ++ e :: after ∧ ∀ f ∈ after, f.container.pid ≠ pid := by
  rw [lastAbout, List.find?_eq_some_iff_append]
  simp only [decide_eq_true_eq, Bool.not_eq_eq_eq_not, Bool.not_true, decide_eq_false_iff_not]
  refine and_congr_right fun _ => ?_
  constructor
  · rintro ⟨after, before, split, quiet⟩
    refine ⟨before.reverse, after.reverse, ?_, by simpa using quiet⟩
    simpa using congrArg List.reverse split
  · rintro ⟨before, after, rfl, quiet⟩
    exact ⟨after.reverse, before.reverse, by simp, by simpa using quiet⟩

theorem lastAbout_eq_none_iff {pid : Pid} {es : List ContainerEvent} :
    lastAbout pid es = none ↔ ∀ e ∈ es, e.container.pid ≠ pid := by
  simp [lastAbout]

theorem lastAbout_append (pid : Pid) (es fs : List ContainerEvent) :
    lastAbout pid (es ++ fs) = (lastAbout pid fs).or (lastAbout pid es) := by
  simp [lastAbout, List.find?_append]

theorem mem_of_lastAbout {pid : Pid} {es : List ContainerEvent} {e : ContainerEvent}
    (last : lastAbout pid es = some e) : e ∈ es :=
  List.mem_reverse.mp (List.mem_of_find?_eq_some last)

theorem lookup?_apply (r : Registry) (e : ContainerEvent) (pid : Pid) :
    (r.apply e).2.lookup? pid = if e.container.pid = pid then e.standing else r.lookup? pid := by
  cases e with
  | added c => exact lookup?_apply_added r c pid
  | removed c => exact lookup?_apply_removed r c pid

theorem lookup?_applyAll (r : Registry) (es : List ContainerEvent) (pid : Pid) :
    (r.applyAll es).lookup? pid =
      ((lastAbout pid es).map ContainerEvent.standing).getD (r.lookup? pid) := by
  induction es using List.reverseRecOn with
  | nil => rfl
  | append_singleton es e ih =>
    have last : r.applyAll (es ++ [e]) = ((r.applyAll es).apply e).2 := by
      simp [applyAll, List.foldl_append]
    rw [last, lookup?_apply, lastAbout_append_singleton, ih]
    split <;> rfl

theorem lookup?_empty (pid : Pid) : empty.lookup? pid = none := by
  simp [lookup?, empty]

/-- A registry that was empty holds a container exactly if it came with the last news about its
process. -/
theorem lookup?_history_eq_some_iff {es : List ContainerEvent} {pid : Pid} {c : Container} :
    (empty.applyAll es).lookup? pid = some c ↔ lastAbout pid es = some (.added c) := by
  rw [lookup?_applyAll, lookup?_empty]
  cases lastAbout pid es with
  | none => simp
  | some e => cases e <;> simp [ContainerEvent.standing]

end Registry
end NodeDiagnostics
