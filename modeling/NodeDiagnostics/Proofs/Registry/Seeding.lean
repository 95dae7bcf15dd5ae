import NodeDiagnostics.Proofs.Registry.History

/-!
Two writers fill a registry while it is set up: one goes through the runtime's list, the other
passes on the runtime's news, and their turns may come in any order. The list is older than some of
the news, but the registry does not know that. So a container whose end came while the list was
under way is back once its turn in the list comes, and stays until its process is heard of again.
-/
namespace NodeDiagnostics.Registry

inductive Filling where
  | listed (c : Container)
  | told (e : ContainerEvent)
deriving DecidableEq, Repr

namespace Filling

def event : Filling → ContainerEvent
  | listed c => .added c
  | told e => e

def told? : Filling → Option ContainerEvent
  | listed _ => none
  | told e => some e

end Filling

def fill (turns : List Filling) : Registry := empty.applyAll (turns.map Filling.event)

def newsOf (turns : List Filling) : List ContainerEvent := turns.filterMap Filling.told?

/-- The last of several pieces of news that is about just this container. -/
def lastOf (c : Container) (es : List ContainerEvent) : Option ContainerEvent :=
  es.reverse.find? (·.container = c)

def NoneRevived (turns : List Filling) : Prop :=
  ∀ c, lastOf c (newsOf turns) = some (.removed c) → (fill turns).lookup? c.pid ≠ some c

theorem setUp_eq_fill {o : Opening} {listed : List Container} (memory : o.memory = .ok ())
    (watched : o.watching = true) (listing : o.listing = .ok listed) :
    setUp o = .ok (fill (o.news.map .told ++ listed.map .listed)) := by
  have events : (o.news.map Filling.told ++ listed.map Filling.listed).map Filling.event =
      o.news ++ listed.map .added := by
    simp [Function.comp_def, Filling.event]
  rw [fill, events]
  simp [setUp, memory, watched, listing, applyAll, List.foldl_append]

/-- Where a process is not heard of after a turn with news of its container, that news is the last
of the container. -/
theorem lastOf_newsOf_told {c : Container} {e : ContainerEvent} (before : List Filling)
    {after : List Filling} (about : e.container = c)
    (quiet : ∀ turn ∈ after, turn.event.container.pid ≠ c.pid) :
    lastOf c (newsOf (before ++ .told e :: after)) = some e := by
  have none_later : (newsOf after).reverse.find? (·.container = c) = none := by
    rw [List.find?_eq_none]
    intro f member same
    obtain ⟨turn, present, carried⟩ := List.mem_filterMap.mp (List.mem_reverse.mp member)
    cases turn with
    | listed d => cases carried
    | told g =>
      cases carried
      exact quiet _ present (congrArg Container.pid (of_decide_eq_true same))
  have joined : newsOf (before ++ .told e :: after) = newsOf before ++ e :: newsOf after := by
    simp [newsOf, Filling.told?]
  simp [joined, lastOf, List.find?_append, none_later, about]

theorem lookup?_fill_eq_some_iff {turns : List Filling} {c : Container}
    (gone : lastOf c (newsOf turns) = some (.removed c)) :
    (fill turns).lookup? c.pid = some c ↔ ∃ before after, turns = before ++ .listed c :: after ∧
      ∀ turn ∈ after, turn.event.container.pid ≠ c.pid := by
  rw [fill, lookup?_history_eq_some_iff, lastAbout_eq_some_iff]
  constructor
  · rintro ⟨-, earlier, later, split, quiet⟩
    obtain ⟨before, rest, rfl, rfl, turned⟩ := List.map_eq_append_iff.mp split
    obtain ⟨turn, after, rfl, last, rfl⟩ := List.map_eq_cons_iff.mp turned
    have silent : ∀ turn ∈ after, turn.event.container.pid ≠ c.pid := fun turn member =>
      quiet _ (List.mem_map_of_mem member)
    cases turn with
    | listed d =>
      cases last
      exact ⟨before, after, rfl, silent⟩
    | told e =>
      -- had the news brought it, its end would not be the last news of it
      have brought : e = .added c := last
      rw [lastOf_newsOf_told before (by rw [brought]; rfl) silent, brought] at gone
      cases gone
  · rintro ⟨before, after, rfl, quiet⟩
    refine ⟨rfl, before.map Filling.event, after.map Filling.event, by simp [Filling.event], ?_⟩
    intro f member
    obtain ⟨turn, present, rfl⟩ := List.mem_map.mp member
    exact quiet turn present

/-- In whatever order the writers take their turns, nothing is revived exactly if each listed
container whose end was told is followed by a turn that is about its process. -/
theorem none_revived_iff (turns : List Filling) :
    NoneRevived turns ↔ ∀ before c after, turns = before ++ .listed c :: after →
      lastOf c (newsOf turns) = some (.removed c) →
      ∃ turn ∈ after, turn.event.container.pid = c.pid := by
  constructor
  · intro none before c after split gone
    by_contra quiet
    have silent : ∀ turn ∈ after, turn.event.container.pid ≠ c.pid := fun turn member same =>
      quiet ⟨turn, member, same⟩
    exact none c gone ((lookup?_fill_eq_some_iff gone).mpr ⟨before, after, split, silent⟩)
  · intro followed c gone held
    obtain ⟨before, after, split, silent⟩ := (lookup?_fill_eq_some_iff gone).mp held
    obtain ⟨turn, member, same⟩ := followed before c after split gone
    exact silent turn member same

/-- A container that the runtime has told of when it makes its list, and tells the end of before
the list is gone through, is back in the end. -/
theorem listed_revived : ∃ (early : List ContainerEvent) (later : List Filling),
    (∀ c, .listed c ∈ later → lastOf c early = some (.added c)) ∧
      ¬ NoneRevived (early.map .told ++ later) := by
  let c : Container := ⟨"aaaaaaaaaaaa", "shop", "cart", "api", 10, false⟩
  refine ⟨[.added c], [.told (.removed c), .listed c], ?_, ?_⟩
  · intro d member
    have same : d = c := by simpa using member
    subst same
    decide
  · intro none
    exact none c (by decide) (by decide +kernel)

end NodeDiagnostics.Registry
