import NodeDiagnostics.Registry
import Mathlib.Data.List.Induction

/-!
Announcements can be replayed: each one finds the containers as it takes them to be, and together
they lead from the containers before a piece of news to the containers after it. A registry's
snapshot lists its containers, so announcing it builds them up, and retracting it clears them away.
-/
namespace NodeDiagnostics.Registry

/-- What comes into a process that is free, and what goes is what the process holds. -/
inductive Replay : Std.ExtTreeMap Pid Container → List ContainerEvent →
    Std.ExtTreeMap Pid Container → Prop where
  | nil (m : Std.ExtTreeMap Pid Container) : Replay m [] m
  | added {m m' : Std.ExtTreeMap Pid Container} {c : Container} {es : List ContainerEvent}
      (free : m[c.pid]? = none) : Replay (m.insert c.pid c) es m' → Replay m (.added c :: es) m'
  | removed {m m' : Std.ExtTreeMap Pid Container} {c : Container} {es : List ContainerEvent}
      (held : m[c.pid]? = some c) : Replay (m.erase c.pid) es m' → Replay m (.removed c :: es) m'

theorem Replay.append {m m' m'' : Std.ExtTreeMap Pid Container} {es fs : List ContainerEvent}
    (first : Replay m es m') (second : Replay m' fs m'') : Replay m (es ++ fs) m'' := by
  induction first with
  | nil => exact second
  | added free _ ih => exact .added free (ih second)
  | removed held _ ih => exact .removed held (ih second)

theorem keyed_insert {m : Std.ExtTreeMap Pid Container} (keyed : Keyed m) (c : Container) :
    Keyed (m.insert c.pid c) :=
  record_keyed keyed (.added c)

theorem keyed_erase {m : Std.ExtTreeMap Pid Container} (keyed : Keyed m) (pid : Pid) :
    Keyed (m.erase pid) := by
  intro other c found
  rw [Std.ExtTreeMap.getElem?_erase] at found
  split at found
  · contradiction
  · exact keyed other c found

theorem insert_eq_self {m : Std.ExtTreeMap Pid Container} {pid : Pid} {c : Container}
    (found : m[pid]? = some c) : m.insert pid c = m := by
  apply Std.ExtTreeMap.ext_getElem?
  intro other
  by_cases h : pid = other
  · subst h
    simp [found]
  · simp [Std.ExtTreeMap.getElem?_insert, h]

theorem erase_eq_self {m : Std.ExtTreeMap Pid Container} {pid : Pid} (free : m[pid]? = none) :
    m.erase pid = m := by
  apply Std.ExtTreeMap.ext_getElem?
  intro other
  by_cases h : pid = other
  · subst h
    simp [free]
  · simp [Std.ExtTreeMap.getElem?_erase, h]

theorem insert_erase_self (m : Std.ExtTreeMap Pid Container) (pid : Pid) (c : Container) :
    (m.erase pid).insert pid c = m.insert pid c := by
  apply Std.ExtTreeMap.ext_getElem?
  intro other
  by_cases h : pid = other <;>
    simp [Std.ExtTreeMap.getElem?_insert, Std.ExtTreeMap.getElem?_erase, h]

theorem record_replay {m : Std.ExtTreeMap Pid Container} (keyed : Keyed m) (e : ContainerEvent) :
    Replay m (record m e).1 (record m e).2 := by
  cases e with
  | added c =>
    cases found : m[c.pid]? with
    | none =>
      simp only [record, found]
      exact .added found (.nil _)
    | some old =>
      simp only [record, found]
      split
      · rename_i same
        rw [insert_eq_self (same ▸ found)]
        exact .nil m
      · have own : old.pid = c.pid := keyed c.pid old found
        have held : m[old.pid]? = some old := own ▸ found
        have free : (m.erase old.pid)[c.pid]? = none := by simp [own]
        have last : Replay (m.erase old.pid) [.added c] (m.insert c.pid c) := by
          have step := Replay.added free (.nil _)
          rw [own, insert_erase_self] at step
          rwa [own]
        exact .removed held last
  | removed c =>
    cases found : m[c.pid]? with
    | none =>
      simp only [record, found, erase_eq_self found]
      exact .nil m
    | some old =>
      simp only [record, found]
      have own : old.pid = c.pid := keyed c.pid old found
      have step := Replay.removed (own ▸ found : m[old.pid]? = some old) (.nil _)
      rwa [own] at step

structure Lists (l : List Container) (m : Std.ExtTreeMap Pid Container) : Prop where
  keyed : Keyed m
  distinct : l.Pairwise fun c d => c.pid ≠ d.pid
  complete : ∀ c, c ∈ l ↔ m[c.pid]? = some c

theorem lists_values {m : Std.ExtTreeMap Pid Container} (keyed : Keyed m) :
    Lists (m.toList.map (·.2)) m := by
  have own : ∀ p ∈ m.toList, p.2.pid = p.1 := fun p member =>
    keyed p.1 p.2 (Std.ExtTreeMap.mem_toList_iff_getElem?_eq_some.mp member)
  refine ⟨keyed, ?_, ?_⟩
  · rw [List.pairwise_map]
    refine (Std.ExtTreeMap.distinct_keys_toList).imp_of_mem ?_
    intro p q hp hq differ
    rw [own p hp, own q hq]
    simpa using differ
  · intro c
    rw [List.mem_map]
    constructor
    · rintro ⟨p, member, rfl⟩
      rw [own p member]
      exact Std.ExtTreeMap.mem_toList_iff_getElem?_eq_some.mp member
    · intro found
      exact ⟨(c.pid, c), Std.ExtTreeMap.mem_toList_iff_getElem?_eq_some.mpr found, rfl⟩

theorem Lists.eq_empty {m : Std.ExtTreeMap Pid Container} (h : Lists [] m) : m = ∅ := by
  apply Std.ExtTreeMap.ext_getElem?
  intro pid
  cases found : m[pid]? with
  | none => simp
  | some c =>
    have own := h.keyed pid c found
    cases (h.complete c).mpr (own ▸ found)

/-- Without one of its containers the map has the rest of the list, wherever the container stood. -/
theorem Lists.erase {l : List Container} {m : Std.ExtTreeMap Pid Container} {c : Container}
    (h : Lists l m) (rest : List Container) (split : l.Perm (c :: rest)) :
    m[c.pid]? = some c ∧ Lists rest (m.erase c.pid) := by
  have apart := List.pairwise_cons.mp (h.distinct.perm split fun differ => differ.symm)
  have here : c ∈ l := split.mem_iff.mpr List.mem_cons_self
  refine ⟨(h.complete c).mp here, keyed_erase h.keyed c.pid, apart.2, ?_⟩
  intro d
  have member : d ∈ l ↔ d = c ∨ d ∈ rest := split.mem_iff.trans List.mem_cons
  rw [Std.ExtTreeMap.getElem?_erase]
  by_cases same : c.pid = d.pid
  · simp only [same, Std.LawfulEqCmp.compare_eq_iff_eq, ↓reduceIte, reduceCtorEq, iff_false]
    exact fun inside => apart.1 d inside same
  · simp only [Std.LawfulEqCmp.compare_eq_iff_eq, same, ↓reduceIte, ← h.complete d, member]
    constructor
    · exact .inr
    · rintro (rfl | inside)
      · exact absurd rfl same
      · exact inside

theorem Lists.replay_added {l : List Container} {m : Std.ExtTreeMap Pid Container}
    (h : Lists l m) : Replay ∅ (l.map .added) m := by
  induction l using List.reverseRecOn generalizing m with
  | nil => rw [h.eq_empty]; exact .nil ∅
  | append_singleton l c ih =>
    obtain ⟨held, rest⟩ := h.erase l (List.perm_append_singleton c l)
    have free : (m.erase c.pid)[c.pid]? = none := by simp
    have last := Replay.added free (.nil _)
    rw [insert_erase_self, insert_eq_self held] at last
    rw [List.map_append]
    exact (ih rest).append last

theorem Lists.replay_removed {l : List Container} {m : Std.ExtTreeMap Pid Container}
    (h : Lists l m) : Replay m (l.map .removed) ∅ := by
  induction l generalizing m with
  | nil => rw [h.eq_empty]; exact .nil ∅
  | cons c l ih =>
    obtain ⟨held, rest⟩ := h.erase l (.refl _)
    exact .removed held (ih rest)

theorem snapshot_lists (r : Registry) : Lists r.snapshot r.containers := lists_values r.keyed

/-- A subscriber receives every change once, and nobody else receives any. -/
theorem announcements_to {subscriptions : List SubscriptionId} (distinct : subscriptions.Nodup)
    (changes : List ContainerEvent) (id : SubscriptionId) :
    ((announcements subscriptions changes).filter (·.subscription = id)).map (·.event) =
      if id ∈ subscriptions then changes else [] := by
  have one (e : ContainerEvent) :
      ((subscriptions.map fun id => (⟨id, e⟩ : Announcement)).filter (·.subscription = id)).map
        (·.event) = if id ∈ subscriptions then [e] else [] := by
    have only : subscriptions.filter (· = id) = if id ∈ subscriptions then [id] else [] := by
      rw [List.filter_eq, distinct.count]
      split <;> rfl
    simp only [List.filter_map, List.map_map, Function.comp_def, only]
    split <;> rfl
  induction changes with
  | nil => simp [announcements]
  | cons e changes ih =>
    simp only [announcements, List.flatMap_cons, List.filter_append, List.map_append] at ih ⊢
    rw [one, ih]
    split <;> rfl

end NodeDiagnostics.Registry
