import NodeDiagnostics.Proofs.Lists
import NodeDiagnostics.Proofs.Time.Rendering
import NodeDiagnostics.Trace.Journal

namespace NodeDiagnostics

namespace Container

def place (c : Container) : String × String × String := (c.namespaceName, c.pod, c.name)

/-- The name of the container itself comes last in the path, so it may hold slashes. -/
def SlashFree (c : Container) : Prop := '/' ∉ c.namespaceName.toList ∧ '/' ∉ c.pod.toList
deriving Decidable

theorem toList_path (c : Container) : c.path.toList =
    "/namespaces/".toList ++ (c.namespaceName.toList ++ '/' ::
      ("pods/".toList ++ (c.pod.toList ++ '/' :: ("containers/".toList ++ c.name.toList)))) := by
  have pods : "/pods/".toList = '/' :: "pods/".toList := by decide
  have containers : "/containers/".toList = '/' :: "containers/".toList := by decide
  unfold path
  simp only [String.toList_append, pods, containers, List.append_assoc, List.cons_append]

theorem path_inj {c d : Container} (free : c.SlashFree) (free' : d.SlashFree) :
    c.path = d.path ↔ c.place = d.place := by
  constructor
  · intro same
    have chars := congrArg String.toList same
    simp only [toList_path] at chars
    obtain ⟨namespaces, rest⟩ := cut_first free.1 free'.1 (List.append_cancel_left chars)
    obtain ⟨pods, rest⟩ := cut_first free.2 free'.2 (List.append_cancel_left rest)
    have names := List.append_cancel_left rest
    rw [place, place, String.toList_inj.mp namespaces, String.toList_inj.mp pods,
      String.toList_inj.mp names]
  · intro same
    simp only [place, Prod.mk.injEq] at same
    unfold path
    rw [same.1, same.2.1, same.2.2]

end Container

namespace Trace.Journal

theorem key_some_ne_none (c : Container) (time time' : Time.Instant) :
    key (some c) time ≠ key none time' := by
  intro same
  have slash : '/' ∈ (key (some c) time).toList := by
    rw [key, String.toList_append, String.toList_append, c.toList_path]
    simp
  rw [same] at slash
  exact (Time.Instant.plain_text time' '/' slash).2 rfl

theorem key_some_inj {c d : Container} {time time' : Time.Instant} :
    key (some c) time = key (some d) time' ↔ c.path = d.path ∧ time.text = time'.text := by
  constructor
  · intro same
    have blankless (t : Time.Instant) : ' ' ∉ t.text.toList := fun blank =>
      (t.plain_text ' ' blank).1 rfl
    have chars : c.path.toList ++ ' ' :: time.text.toList =
        d.path.toList ++ ' ' :: time'.text.toList := by
      simpa [key, String.toList_append] using congrArg String.toList same
    obtain ⟨paths, times⟩ := cut_last (blankless time) (blankless time') chars
    exact ⟨String.toList_inj.mp paths, String.toList_inj.mp times⟩
  · rintro ⟨paths, times⟩
    rw [key, key, paths, times]

theorem key_inj {stamps : Set Time.Instant} (distinct : Set.InjOn Time.Instant.text stamps)
    {owner owner' : Option Container} {time time' : Time.Instant}
    (free : ∀ c ∈ owner, c.SlashFree) (free' : ∀ c ∈ owner', c.SlashFree)
    (stamp : time ∈ stamps) (stamp' : time' ∈ stamps) :
    key owner time = key owner' time' ↔
      owner.map Container.place = owner'.map Container.place ∧ time = time' := by
  cases owner <;> cases owner'
  case none.none => simp [key, distinct.eq_iff stamp stamp']
  case none.some d => simp [(key_some_ne_none d time' time).symm]
  case some.none c => simp [key_some_ne_none c time time']
  case some.some c d =>
    rw [key_some_inj, Container.path_inj (free c rfl) (free' d rfl), distinct.eq_iff stamp stamp']
    simp

end Trace.Journal
end NodeDiagnostics
