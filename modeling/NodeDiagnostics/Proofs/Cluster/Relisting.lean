import NodeDiagnostics.Proofs.Cluster.Ledger
import NodeDiagnostics.Proofs.Lists
import Mathlib.Data.List.Perm.Subperm

/-!
A complete list makes a roster forget what it knew before it. The roster then has the pods that were
named since the last beginning of a list, each with the containers last told of it, and the same
whatever it had before. What it had before and has no longer, it has given up, once at least for each
pod that lost it.
-/
namespace NodeDiagnostics.Cluster.Roster

def Stated (told : List (List Host.ProcessEntry × PodEvent)) (key : String)
    (now : List Container) : Prop :=
  ∃ before processes p after, told = before ++ (processes, .present p) :: after ∧
    p.key? = some key ∧ p.found processes = now ∧
    ∀ step ∈ after, step.2 ≠ .listBegins ∧ step.2.tells step.1 key = none

theorem not_stated_nil (key : String) (now : List Container) : ¬ Stated [] key now := by
  rintro ⟨before, processes, p, after, split, -⟩
  simp at split

theorem stated_append_singleton {told : List (List Host.ProcessEntry × PodEvent)}
    {processes : List Host.ProcessEntry} {e : PodEvent} {key : String} {now : List Container} :
    Stated (told ++ [(processes, e)]) key now ↔
      (∃ p, e = .present p ∧ p.key? = some key ∧ p.found processes = now) ∨
        e ≠ .listBegins ∧ e.tells processes key = none ∧ Stated told key now := by
  constructor
  · rintro ⟨before, earlier, p, after, split, named, found, silent⟩
    rcases concat_eq_append_cons split with ⟨-, last, rfl⟩ | ⟨after, rfl, rfl⟩
    · cases last
      exact .inl ⟨p, rfl, named, found⟩
    · obtain ⟨quiet, this⟩ := List.forall_mem_append.mp silent
      obtain ⟨other, nothing⟩ := this (processes, e) (List.mem_singleton_self _)
      exact .inr ⟨other, nothing, before, earlier, p, after, rfl, named, found, quiet⟩
  · rintro (⟨p, rfl, named, found⟩ | ⟨other, nothing, before, earlier, p, after, rfl, named, found,
      quiet⟩)
    · exact ⟨told, processes, p, [], rfl, named, found, by simp⟩
    · refine ⟨before, earlier, p, after ++ [(processes, e)], by simp, named, found, ?_⟩
      refine List.forall_mem_append.mpr ⟨quiet, fun step member => ?_⟩
      rw [List.mem_singleton.mp member]
      exact ⟨other, nothing⟩

/-- A list is under way, and the pods that it has named are as it told. -/
def Underway (told : List (List Host.ProcessEntry × PodEvent)) (t : Roster) : Prop :=
  ∃ listed, t.listed = some listed ∧ ∀ (key : String) (now : List Container),
    key ∈ listed ∧ t.pods[key]? = some now ↔ now ≠ [] ∧ Stated told key now

theorem unlessEmpty_eq_some_iff {containers now : List Container} :
    unlessEmpty containers = some now ↔ now ≠ [] ∧ containers = now := by
  unfold unlessEmpty
  split
  · rename_i h
    subst h
    simp only [reduceCtorEq, false_iff, not_and]
    exact fun some_one same => some_one same.symm
  · rename_i h
    rw [Option.some.injEq]
    constructor
    · rintro rfl
      exact ⟨h, rfl⟩
    · exact And.right

theorem underway_begin (t : Roster) : Underway [] t.beginList := by
  refine ⟨[], rfl, fun key now => ?_⟩
  simp [not_stated_nil]

theorem Underway.enter {told : List (List Host.ProcessEntry × PodEvent)} {t : Roster}
    (h : Underway told t) (processes : List Host.ProcessEntry) {e : PodEvent}
    (order : List String) (goes_on : e ≠ .listEnds) :
    Underway (told ++ [(processes, e)]) (t.enter processes e order).2 := by
  obtain ⟨listed, under_way, stands⟩ := h
  cases e with
  | present p =>
    cases named : p.key? with
    | none =>
      refine ⟨listed, by simp [Roster.enter, named, under_way], fun key now => ?_⟩
      simp [Roster.enter, named, stands, stated_append_singleton, PodEvent.tells]
    | some other =>
      refine ⟨other :: listed, by simp [Roster.enter, named, apply, under_way], fun key now => ?_⟩
      simp only [Roster.enter, named, getElem?_apply, stated_append_singleton, PodEvent.tells]
      -- what was told of this pod before no longer counts, and of no other pod is anything told
      by_cases same : other = key
      · simp [same, named, unlessEmpty_eq_some_iff]
      · have differ : key ≠ other := fun h => same h.symm
        simp [same, differ, named, stands]
  | gone p =>
    cases named : p.key? with
    | none =>
      refine ⟨listed, by simp [Roster.enter, named, under_way], fun key now => ?_⟩
      simp [Roster.enter, named, stands, stated_append_singleton, PodEvent.tells]
    | some other =>
      refine ⟨listed, by simp [Roster.enter, named, remove, under_way], fun key now => ?_⟩
      simp only [Roster.enter, named, getElem?_remove, stated_append_singleton, PodEvent.tells]
      by_cases same : other = key
      · simp [same]
      · simp [same, stands]
  | listBegins =>
    refine ⟨[], rfl, fun key now => ?_⟩
    simp [stated_append_singleton]
  | listEnds => exact absurd rfl goes_on

theorem Booked.split_last {t₀ u : Roster} {told : List (List Host.ProcessEntry × PodEvent)}
    {processes : List Host.ProcessEntry} {e : PodEvent} {log : List Entry}
    (run : Booked t₀ (told ++ [(processes, e)]) log u) :
    ∃ earlier t order, Booked t₀ told earlier t ∧ order.Perm t.leftOut ∧
      (t.enter processes e order).2 = u := by
  generalize whole : told ++ [(processes, e)] = all at run
  cases run with
  | start => simp at whole
  | next processes' e' before left_out =>
    obtain ⟨rfl, last⟩ := List.append_inj' whole rfl
    cases last
    exact ⟨_, _, _, before, left_out, rfl⟩

theorem Booked.underway {t₀ u : Roster} {told : List (List Host.ProcessEntry × PodEvent)}
    {first : List Host.ProcessEntry} {log : List Entry}
    (run : Booked t₀ ((first, .listBegins) :: told) log u)
    (goes_on : ∀ step ∈ told, step.2 ≠ .listEnds) : Underway told u := by
  induction told using List.reverseRecOn generalizing u log with
  | nil =>
    have beginning : Booked t₀ ([] ++ [(first, .listBegins)]) log u := run
    obtain ⟨earlier, t, order, before, -, rfl⟩ := beginning.split_last
    exact underway_begin t
  | append_singleton told step ih =>
    obtain ⟨quiet, this⟩ := List.forall_mem_append.mp goes_on
    rw [← List.cons_append] at run
    obtain ⟨earlier, t, order, before, -, rfl⟩ := run.split_last
    exact (ih before quiet).enter step.1 order (this step (List.mem_singleton_self _))

theorem Underway.finish {told : List (List Host.ProcessEntry × PodEvent)} {t : Roster}
    (h : Underway told t) {order : List String} (left_out : order.Perm t.leftOut)
    (processes : List Host.ProcessEntry) (key : String) (now : List Container) :
    (t.enter processes .listEnds order).2.pods[key]? = some now ↔
      now ≠ [] ∧ Stated told key now := by
  obtain ⟨listed, under_way, stands⟩ := h
  rw [← stands, getElem?_enter left_out]
  simp only [PodEvent.tells, true_and, leftOut, under_way]
  by_cases named : key ∈ listed
  · simp [named]
  · cases kept : t.pods[key]? <;> simp [named, kept, Std.ExtTreeMap.mem_iff_isSome_getElem?]

theorem Booked.retracted {t₀ t : Roster} {told : List (List Host.ProcessEntry × PodEvent)}
    {log : List Entry} (run : Booked t₀ told log t) {key : String} {c : Container}
    (member : c ∈ t₀.containersOf key) :
    c ∈ t.containersOf key ∨ ⟨key, .removed c⟩ ∈ log := by
  induction run with
  | start => exact .inl member
  | @next told log t processes e order _ _ ih =>
    rcases ih with held | given_up
    · by_cases stays : c ∈ (t.enter processes e order).2.containersOf key
      · exact .inl stays
      · have told_now : .removed c ∈ newsFor key (t.enter processes e order).1 := by
          rw [newsFor_enter]
          exact removed_mem_changes.mpr ⟨held, stays⟩
        exact .inr (List.mem_append_right _ (mem_newsFor.mp told_now))
    · exact .inr (List.mem_append_left _ given_up)

theorem listed_finish (processes : List Host.ProcessEntry) (order : List String) (t : Roster) :
    (t.enter processes .listEnds order).2.listed = none := by
  have kept : ∀ t : Roster, (dropAll order t).2.listed = t.listed := by
    induction order with
    | nil => exact fun t => rfl
    | cons key order ih => exact fun t => ih (t.remove key).2
  exact kept _

/-- The number of pods that had the container in one roster and have it no longer in the other. -/
def timesLost (t u : Roster) (c : Container) : Nat :=
  t.pods.keys.countP fun key => c ∈ t.containersOf key ∧ c ∉ u.containersOf key

theorem Continued.retracted {t u : Roster} {told : List (List Host.ProcessEntry × PodEvent)}
    {es : List ContainerEvent} (run : Continued t told es u) (c : Container) :
    timesLost t u c ≤ es.count (.removed c) := by
  obtain ⟨log, booked, rfl⟩ := continued_iff_booked.mp run
  let lost := t.pods.keys.filter fun key => c ∈ t.containersOf key ∧ c ∉ u.containersOf key
  have apart : (lost.map (Entry.mk · (.removed c))).Nodup :=
    (Std.ExtTreeMap.nodup_keys.filter _).map fun _ _ same => congrArg Entry.key same
  have entered : lost.map (Entry.mk · (.removed c)) ⊆ log.filter (·.event = .removed c) := by
    intro entry member
    obtain ⟨key, gone, rfl⟩ := List.mem_map.mp member
    obtain ⟨had, lacks⟩ := of_decide_eq_true (List.mem_filter.mp gone).2
    exact List.mem_filter.mpr ⟨(booked.retracted had).resolve_left lacks, by simp⟩
  calc timesLost t u c
    _ = (lost.map (Entry.mk · (.removed c))).length := by
      rw [List.length_map, timesLost, List.countP_eq_length_filter]
    _ ≤ (log.filter (·.event = .removed c)).length :=
      (List.subperm_of_subset apart entered).length_le
    _ = (log.map (·.event)).count (.removed c) := by
      rw [List.count_eq_countP, List.countP_map, List.countP_eq_length_filter]
      rfl

/-- Two rosters, whatever they had, are told the same from the beginning of a list to the end of
one: then they are the same, and have just the pods that were told of since a list last began, each
with its last containers unless it has none or was gone later. A container is given up at least as
often as there are pods that had it and have it no longer. -/
theorem list_forgets {told : List (List Host.ProcessEntry × PodEvent)}
    {first last : List Host.ProcessEntry} {t₁ t₂ u₁ u₂ : Roster} {es₁ es₂ : List ContainerEvent}
    (goes_on : ∀ step ∈ told, step.2 ≠ .listEnds)
    (run₁ : Continued t₁ ((first, .listBegins) :: told ++ [(last, .listEnds)]) es₁ u₁)
    (run₂ : Continued t₂ ((first, .listBegins) :: told ++ [(last, .listEnds)]) es₂ u₂) :
    u₁ = u₂ ∧
    (∀ (key : String) (now : List Container),
      u₁.pods[key]? = some now ↔ now ≠ [] ∧ Stated told key now) ∧
    (∀ c, timesLost t₁ u₁ c ≤ es₁.count (.removed c)) ∧
    ∀ c, timesLost t₂ u₂ c ≤ es₂.count (.removed c) := by
  obtain ⟨log₁, booked₁, -⟩ := continued_iff_booked.mp run₁
  obtain ⟨log₂, booked₂, -⟩ := continued_iff_booked.mp run₂
  obtain ⟨_, v₁, order₁, before₁, left_out₁, end₁⟩ := booked₁.split_last
  obtain ⟨_, v₂, order₂, before₂, left_out₂, end₂⟩ := booked₂.split_last
  have stands₁ := (before₁.underway goes_on).finish left_out₁ last
  have stands₂ := (before₂.underway goes_on).finish left_out₂ last
  rw [end₁] at stands₁
  rw [end₂] at stands₂
  have pods : u₁.pods = u₂.pods := by
    refine Std.ExtTreeMap.ext_getElem? fun key => Option.ext fun now => ?_
    rw [stands₁, stands₂]
  have listed : u₁.listed = u₂.listed := by
    rw [← end₁, ← end₂, listed_finish, listed_finish]
  refine ⟨?_, stands₁, run₁.retracted, run₂.retracted⟩
  cases u₁
  cases u₂
  cases pods
  cases listed
  rfl

/-- A list that is begun again after it has named a pod, and then names another. -/
def restarted : List (List Host.ProcessEntry × PodEvent) :=
  [([tenth "aaaaaaaaaaaa"], .present (podWith "old" "aaaaaaaaaaaa")),
    ([], .listBegins),
    ([tenth "bbbbbbbbbbbb"], .present (podWith "new" "bbbbbbbbbbbb"))]

def acquainted : Roster :=
  (followAll [([tenth "cccccccccccc"], .present (podWith "left" "cccccccccccc"))]).2

theorem restarted_forgets :
    let whole := ([], .listBegins) :: restarted ++ [([], .listEnds)]
    let gone : Container := ⟨"cccccccccccc", "shop", "left", "api", 10, false⟩
    (∀ step ∈ restarted, step.2 ≠ .listEnds) ∧
      Continued empty whole (continueAll empty whole).1 (continueAll empty whole).2 ∧
      Continued acquainted whole (continueAll acquainted whole).1
        (continueAll acquainted whole).2 ∧
      (continueAll empty whole).2 = (continueAll acquainted whole).2 ∧
      timesLost acquainted (continueAll acquainted whole).2 gone = 1 ∧
      1 ≤ (continueAll acquainted whole).1.count (.removed gone) := by
  intro whole gone
  have goes_on : ∀ step ∈ restarted, step.2 ≠ .listEnds := by decide +kernel
  have fresh := continueAll_continued empty whole
  have known := continueAll_continued acquainted whole
  have once : timesLost acquainted (continueAll acquainted whole).2 gone = 1 := by decide +kernel
  obtain ⟨same, -, -, given_up⟩ := list_forgets goes_on fresh known
  exact ⟨goes_on, fresh, known, same, once, once ▸ given_up gone⟩

end NodeDiagnostics.Cluster.Roster
