import NodeDiagnostics.Proofs.Cluster.Ledger
import Mathlib.Algebra.BigOperators.Group.Finset.Piecewise
import Mathlib.Algebra.Order.Group.Multiset

namespace NodeDiagnostics.Cluster

def PodEvent.NamesDistinct : PodEvent → Prop
  | .present p => (p.containers.map (·.name)).Nodup
  | _ => True

instance : DecidablePred PodEvent.NamesDistinct
  | .present p => inferInstanceAs (Decidable (p.containers.map (·.name)).Nodup)
  | .gone _ => .isTrue trivial
  | .listBegins => .isTrue trivial
  | .listEnds => .isTrue trivial

theorem Pod.found_nodup {p : Pod} (processes : List Host.ProcessEntry)
    (distinct : (p.containers.map (·.name)).Nodup) : (p.found processes).Nodup := by
  have statuses : p.containers.Pairwise fun c d => c.name ≠ d.name := List.pairwise_map.mp distinct
  have live : p.live.Pairwise fun c d => c.name ≠ d.name := by
    refine statuses.filterMap _ ?_
    intro c d differ c' fromC d' fromD
    obtain ⟨-, _, -, rfl⟩ := by simpa using fromC
    obtain ⟨-, _, -, rfl⟩ := by simpa using fromD
    exact differ
  cases named : p.key? with
  | none => simp [Pod.found, Pod.containersOf_unnamed processes named]
  | some key =>
    have apart : (p.found processes).Pairwise fun c d => c.name ≠ d.name := by
      simp only [Pod.found, Pod.containersOf, named, List.filterMap_cons, List.filterMap_nil,
        Option.map_some, List.map_cons, List.map_nil, List.flatMap_cons, List.flatMap_nil,
        List.append_nil]
      refine live.filterMap _ ?_
      intro c d differ c' fromC d' fromD
      obtain ⟨_, -, rfl⟩ := Option.map_eq_some_iff.mp fromC
      obtain ⟨_, -, rfl⟩ := Option.map_eq_some_iff.mp fromD
      exact differ
    exact apart.imp fun differ same => differ (congrArg Container.name same)

namespace Roster

/-- What is outstanding as news comes in, where only what is not outstanding is announced, and only
what is outstanding is given up. -/
inductive Tally : Multiset Container → List ContainerEvent → Multiset Container → Prop where
  | nil (m : Multiset Container) : Tally m [] m
  | added {m m' : Multiset Container} {c : Container} {es : List ContainerEvent}
      (absent : c ∉ m) : Tally (c ::ₘ m) es m' → Tally m (.added c :: es) m'
  | removed {m m' : Multiset Container} {c : Container} {es : List ContainerEvent}
      (present : c ∈ m) : Tally (m.erase c) es m' → Tally m (.removed c :: es) m'

theorem Tally.eq_of_nil {m m' : Multiset Container} (h : Tally m [] m') : m' = m := by
  cases h
  rfl

theorem Tally.append {m m' m'' : Multiset Container} {es fs : List ContainerEvent}
    (first : Tally m es m') (second : Tally m' fs m'') : Tally m (es ++ fs) m'' := by
  induction first with
  | nil => exact second
  | added absent _ ih => exact .added absent (ih second)
  | removed present _ ih => exact .removed present (ih second)

theorem Tally.split {m m'' : Multiset Container} {es fs : List ContainerEvent}
    (h : Tally m (es ++ fs) m'') : ∃ m', Tally m es m' ∧ Tally m' fs m'' := by
  induction es generalizing m with
  | nil => exact ⟨m, .nil m, h⟩
  | cons e es ih =>
    cases h with
    | added absent rest =>
      obtain ⟨m', first, second⟩ := ih rest
      exact ⟨m', .added absent first, second⟩
    | removed present rest =>
      obtain ⟨m', first, second⟩ := ih rest
      exact ⟨m', .removed present first, second⟩

theorem tally_removed (l rest : List Container) :
    Tally ↑(l ++ rest) (l.map .removed) ↑rest := by
  induction l with
  | nil => exact .nil _
  | cons c l ih =>
    refine .removed (by simp) ?_
    rwa [Multiset.coe_erase, List.cons_append, List.erase_cons_head]

theorem tally_added {l rest : List Container} (distinct : (l ++ rest).Nodup) :
    Tally ↑rest (l.map .added) ↑(l ++ rest) := by
  induction l generalizing rest with
  | nil => exact .nil _
  | cons c l ih =>
    have moved : (l ++ c :: rest).Perm (c :: l ++ rest) := List.perm_middle
    have absent : c ∉ rest := fun inside =>
      (List.nodup_cons.mp distinct).1 (List.mem_append_right l inside)
    have tail := ih (moved.nodup_iff.mpr distinct)
    rw [Multiset.coe_eq_coe.mpr moved] at tail
    exact .added absent tail

theorem tally_changes {old now : List Container} (before : old.Nodup) (after : now.Nodup) :
    Tally ↑old (changes old now) ↑now := by
  have split : (old.filter (· ∉ now) ++ old.filter (· ∈ now)).Perm old := by
    have halves := List.filter_append_perm (fun c => decide (c ∉ now)) old
    simpa using halves
  have stay : (now.filter (· ∉ old) ++ old.filter (· ∈ now)).Nodup := by
    refine List.nodup_append.mpr ⟨after.filter _, before.filter _, ?_⟩
    rintro c new d kept rfl
    have unknown : c ∉ old := by simpa using (List.mem_filter.mp new).2
    exact unknown (List.mem_filter.mp kept).1
  have joined : (now.filter (· ∉ old) ++ old.filter (· ∈ now)).Perm now := by
    refine (List.perm_ext_iff_of_nodup stay after).mpr fun c => ?_
    by_cases known : c ∈ old <;> simp [known]
  have gone := tally_removed (old.filter (· ∉ now)) (old.filter (· ∈ now))
  have come := tally_added stay
  rw [Multiset.coe_eq_coe.mpr split] at gone
  rw [Multiset.coe_eq_coe.mpr joined] at come
  exact gone.append come

def settle (m : Multiset Container) : ContainerEvent → Multiset Container
  | .added c => c ::ₘ m
  | .removed c => m.erase c

def outstanding (es : List ContainerEvent) : Multiset Container := es.foldl settle 0

theorem outstanding_append_singleton (es : List ContainerEvent) (e : ContainerEvent) :
    outstanding (es ++ [e]) = settle (outstanding es) e := by
  simp [outstanding, List.foldl_append]

theorem Tally.settle_add {m m' : Multiset Container} {e : ContainerEvent} (h : Tally m [e] m')
    (others : Multiset Container) : settle (m + others) e = m' + others := by
  cases h with
  | added _ done => cases done; exact (Multiset.cons_add _ _ _).symm
  | removed present done => cases done; exact Multiset.erase_add_left_pos _ present

theorem outstanding_eq_sum {log : List Entry} {held : String → Multiset Container}
    (accounts : ∀ key, Tally 0 (newsFor key log) (held key)) {keys : Finset String}
    (covered : ∀ entry ∈ log, entry.key ∈ keys) :
    outstanding (log.map (·.event)) = ∑ key ∈ keys, held key := by
  induction log using List.reverseRecOn generalizing held with
  | nil =>
    exact (Finset.sum_eq_zero fun key _ => (accounts key).eq_of_nil).symm
  | append_singleton log entry ih =>
    obtain ⟨key, e⟩ := entry
    obtain ⟨earlier, inside⟩ := List.forall_mem_append.mp covered
    have member : key ∈ keys := inside ⟨key, e⟩ (List.mem_singleton_self _)
    have own := accounts key
    rw [newsFor_append] at own
    obtain ⟨middle, first, last⟩ := own.split
    -- the induction needs all accounts as they were before the last entry, which changed only one
    have before : ∀ other, Tally 0 (newsFor other log) (Function.update held key middle other) := by
      intro other
      by_cases same : other = key
      · subst same
        rwa [Function.update_self]
      · rw [Function.update_of_ne same]
        have untouched := accounts other
        have differ : ¬ key = other := fun h => same h.symm
        simpa [newsFor_append, newsFor, differ] using untouched
    have one : Tally middle [e] (held key) := by simpa [newsFor] using last
    rw [List.map_append, List.map_singleton, outstanding_append_singleton, ih before earlier,
      Finset.sum_update_of_mem member, one.settle_add, Finset.sdiff_singleton_eq_erase,
      Finset.add_sum_erase keys held member]

def Tidy (t : Roster) : Prop :=
  ∀ (key : String) (containers : List Container), t.pods[key]? = some containers →
    containers ≠ [] ∧ containers.Nodup

theorem Tidy.nodup {t : Roster} (h : Tidy t) (key : String) : (t.containersOf key).Nodup := by
  cases found : t.pods[key]? with
  | none => simp [containersOf, found]
  | some containers => simpa [containersOf, found] using (h key containers found).2

theorem tells_nodup {processes : List Host.ProcessEntry} {e : PodEvent} {key : String}
    {now : List Container} (distinct : e.NamesDistinct) (said : e.tells processes key = some now) :
    now.Nodup := by
  cases e with
  | present p =>
    simp only [PodEvent.tells] at said
    split at said
    · cases said
      exact Pod.found_nodup processes distinct
    · contradiction
  | gone p =>
    simp only [PodEvent.tells] at said
    split at said
    · cases said
      exact List.nodup_nil
    · contradiction
  | listBegins => contradiction
  | listEnds => contradiction

theorem Tidy.enter {t : Roster} (h : Tidy t) {order : List String}
    (left_out : order.Perm t.leftOut) (processes : List Host.ProcessEntry) {e : PodEvent}
    (distinct : e.NamesDistinct) : Tidy (t.enter processes e order).2 := by
  intro key containers found
  rw [getElem?_enter left_out] at found
  split at found
  · rename_i now said
    unfold unlessEmpty at found
    split at found
    · contradiction
    · rename_i some_one
      cases found
      exact ⟨some_one, tells_nodup distinct said⟩
  · split at found
    · contradiction
    · exact h key containers found

section
variable {t₀ t : Roster} {told : List (List Host.ProcessEntry × PodEvent)} {log : List Entry}

theorem Booked.tidy (run : Booked t₀ told log t) (initial : Tidy t₀)
    (distinct : ∀ step ∈ told, step.2.NamesDistinct) : Tidy t := by
  induction run with
  | start => exact initial
  | next processes e _ left_out ih =>
    obtain ⟨earlier, last⟩ := List.forall_mem_append.mp distinct
    exact (ih earlier).enter left_out processes (last (processes, e) (List.mem_singleton_self _))

theorem Booked.tally (run : Booked t₀ told log t) (initial : Tidy t₀)
    (distinct : ∀ step ∈ told, step.2.NamesDistinct) (key : String) :
    Tally ↑(t₀.containersOf key) (newsFor key log) ↑(t.containersOf key) := by
  induction run with
  | start => exact .nil _
  | @next told log t processes e order run left_out ih =>
    obtain ⟨earlier, last⟩ := List.forall_mem_append.mp distinct
    have before := run.tidy initial earlier
    have after := before.enter left_out processes (last (processes, e) (List.mem_singleton_self _))
    rw [newsFor_append, newsFor_enter]
    exact (ih earlier).append (tally_changes (before.nodup key) (after.nodup key))

end

theorem coe_flatMap {α : Type} (l : List α) (f : α → List Container) :
    (↑(l.flatMap f) : Multiset Container) = (l.map fun a => (↑(f a) : Multiset Container)).sum := by
  rw [← Multiset.coe_bind, Multiset.bind, Multiset.join, Multiset.map_coe, Multiset.sum_coe]

theorem tracked_eq_sum (t : Roster) {keys : Finset String}
    (covered : t.pods.keys ⊆ keys.toList) :
    (↑t.tracked : Multiset Container) = ∑ key ∈ keys, ↑(t.containersOf key) := by
  have known : ∀ p ∈ t.pods.toList, t.containersOf p.1 = p.2 := fun p member => by
    have found := Std.ExtTreeMap.mem_toList_iff_getElem?_eq_some.mp member
    simp [containersOf, found]
  have unknown : ∀ key ∉ t.pods.keys, t.containersOf key = [] := fun key absent => by
    have missing : t.pods[key]? = none := by simpa using absent
    simp [containersOf, missing]
  calc (↑t.tracked : Multiset Container)
    _ = (t.pods.toList.map fun p => (↑p.2 : Multiset Container)).sum := coe_flatMap _ _
    _ = (t.pods.toList.map fun p => (↑(t.containersOf p.1) : Multiset Container)).sum := by
      rw [List.map_congr_left fun p member => congrArg _ (known p member)]
    _ = (t.pods.keys.map fun key => (↑(t.containersOf key) : Multiset Container)).sum := by
      rw [← Std.ExtTreeMap.map_fst_toList_eq_keys, List.map_map]
      rfl
    _ = ∑ key ∈ t.pods.keys.toFinset, ↑(t.containersOf key) :=
      (List.sum_toFinset _ Std.ExtTreeMap.nodup_keys).symm
    _ = ∑ key ∈ keys, ↑(t.containersOf key) := by
      refine Finset.sum_subset (fun key member => ?_) fun key _ absent => ?_
      · exact Finset.mem_toList.mp (covered (List.mem_toFinset.mp member))
      · rw [unknown key fun member => absent (List.mem_toFinset.mpr member)]
        rfl

theorem tidy_empty : Tidy empty := by
  intro key containers found
  simp [empty] at found

/-- However long the roster is told of pods that tell their containers apart, through lists begun,
broken off and completed: what it announced and did not give up are the containers that it has, each
as many times as there are pods that have it. It keeps no pod without containers. And the ledger
shows of each pod that a container was announced only while it was not outstanding for that pod,
given up only while it was, and that what is outstanding for the pod are its containers. -/
theorem ledger_balanced {told : List (List Host.ProcessEntry × PodEvent)}
    {es : List ContainerEvent} {t : Roster} (run : Followed told es t)
    (distinct : ∀ step ∈ told, step.2.NamesDistinct) :
    outstanding es = ↑t.tracked ∧
    (∀ (key : String) (containers : List Container),
      t.pods[key]? = some containers → containers ≠ []) ∧
    ∃ log, Booked empty told log t ∧ log.map (·.event) = es ∧
      ∀ key, Tally 0 (newsFor key log) ↑(t.containersOf key) := by
  obtain ⟨log, booked, rfl⟩ := continued_iff_booked.mp (followed_iff_continued.mp run)
  have accounts : ∀ key, Tally 0 (newsFor key log) ↑(t.containersOf key) := fun key => by
    simpa [containersOf, empty] using booked.tally tidy_empty distinct key
  refine ⟨?_, ?_, log, booked, rfl, accounts⟩
  · let keys := (log.map (·.key) ++ t.pods.keys).toFinset
    have entered : ∀ entry ∈ log, entry.key ∈ keys := fun entry member => by
      simpa [keys] using Or.inl ⟨entry, member, rfl⟩
    have kept : t.pods.keys ⊆ keys.toList := fun key member => by
      simpa [keys] using Or.inr member
    rw [outstanding_eq_sum accounts entered, tracked_eq_sum t kept]
  · intro key containers found
    exact (booked.tidy tidy_empty distinct key containers found).1

/-- A list that breaks off after it has named a pod, and one that leaves out the pod known
before. -/
def interrupted : List (List Host.ProcessEntry × PodEvent) :=
  [([tenth "aaaaaaaaaaaa"], .present (podWith "old" "aaaaaaaaaaaa")),
    ([], .listBegins),
    ([tenth "bbbbbbbbbbbb"], .present (podWith "new" "bbbbbbbbbbbb")),
    ([], .listBegins),
    ([tenth "bbbbbbbbbbbb"], .present (podWith "new" "bbbbbbbbbbbb")),
    ([], .listEnds)]

theorem interrupted_balanced :
    Followed interrupted (followAll interrupted).1 (followAll interrupted).2 ∧
      (∀ step ∈ interrupted, step.2.NamesDistinct) ∧
      outstanding (followAll interrupted).1 =
        {⟨"bbbbbbbbbbbb", "shop", "new", "api", 10, false⟩} := by
  have run := followAll_followed interrupted
  have distinct : ∀ step ∈ interrupted, step.2.NamesDistinct := by decide +kernel
  have left : (followAll interrupted).2.tracked =
      [⟨"bbbbbbbbbbbb", "shop", "new", "api", 10, false⟩] := by decide +kernel
  refine ⟨run, distinct, ?_⟩
  rw [(ledger_balanced run distinct).1, left]
  rfl

end Roster
end NodeDiagnostics.Cluster
