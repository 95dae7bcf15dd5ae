import NodeDiagnostics.Proofs.Cluster.Following

/-!
A ledger of what a roster announces. News names containers and not pods, so the ledger enters each
piece under the pod on whose account it was announced. Whatever the cluster tells, the news of one
pod is how its containers of before differ from those of after. The pods that a list left out may be
dropped in any order.
-/
namespace NodeDiagnostics.Cluster

def Pod.found (processes : List Host.ProcessEntry) (p : Pod) : List Container :=
  (Pod.containersOf processes [p]).flatMap (·.2)

theorem Pod.containersOf_named {p : Pod} {key : String} (processes : List Host.ProcessEntry)
    (named : p.key? = some key) : Pod.containersOf processes [p] = [(key, p.found processes)] := by
  simp [Pod.containersOf, Pod.found, named]

theorem Pod.containersOf_unnamed {p : Pod} (processes : List Host.ProcessEntry)
    (unnamed : p.key? = none) : Pod.containersOf processes [p] = [] := by
  simp [Pod.containersOf, unnamed]

theorem Pod.found_unnamed {p : Pod} (processes : List Host.ProcessEntry)
    (unnamed : p.key? = none) : p.found processes = [] := by
  rw [Pod.found, Pod.containersOf_unnamed processes unnamed, List.flatMap_nil]

def PodEvent.tells (processes : List Host.ProcessEntry) (key : String) :
    PodEvent → Option (List Container)
  | .present p => if p.key? = some key then some (p.found processes) else none
  | .gone p => if p.key? = some key then some [] else none
  | .listBegins => none
  | .listEnds => none

namespace Roster

structure Entry where
  key : String
  event : ContainerEvent
deriving DecidableEq, Repr

def entries (key : String) (news : List ContainerEvent) : List Entry := news.map (⟨key, ·⟩)

def newsFor (key : String) (log : List Entry) : List ContainerEvent :=
  (log.filter (·.key = key)).map (·.event)

theorem events_entries (key : String) (news : List ContainerEvent) :
    (entries key news).map (·.event) = news := by
  simp [entries, Function.comp_def]

theorem newsFor_entries (key other : String) (news : List ContainerEvent) :
    newsFor other (entries key news) = if key = other then news else [] := by
  by_cases same : key = other <;>
    simp [newsFor, entries, List.filter_map, Function.comp_def, same]

theorem newsFor_append (key : String) (first second : List Entry) :
    newsFor key (first ++ second) = newsFor key first ++ newsFor key second := by
  simp [newsFor]

theorem mem_newsFor {key : String} {log : List Entry} {e : ContainerEvent} :
    e ∈ newsFor key log ↔ ⟨key, e⟩ ∈ log := by
  simp only [newsFor, List.mem_map, List.mem_filter, decide_eq_true_eq]
  constructor
  · rintro ⟨⟨_, _⟩, ⟨member, rfl⟩, rfl⟩
    exact member
  · intro member
    exact ⟨⟨key, e⟩, ⟨member, rfl⟩, rfl⟩

def dropAll : List String → Roster → List Entry × Roster
  | [], t => ([], t)
  | key :: rest, t =>
    (entries key (t.remove key).1 ++ (dropAll rest (t.remove key).2).1,
      (dropAll rest (t.remove key).2).2)

def leftOut (t : Roster) : List String :=
  match t.listed with
  | none => []
  | some listed => t.pods.keys.filter (· ∉ listed)

/-- Take in what the cluster tells, and enter the news under the pods that it is about. At the end
of a list the pods go that it left out, in the order given. -/
def enter (processes : List Host.ProcessEntry) (e : PodEvent) (order : List String) (t : Roster) :
    List Entry × Roster :=
  match e with
  | .present p => match p.key? with
    | some key =>
      (entries key (t.apply key (p.found processes)).1, (t.apply key (p.found processes)).2)
    | none => ([], t)
  | .gone p => match p.key? with
    | some key => (entries key (t.remove key).1, (t.remove key).2)
    | none => ([], t)
  | .listBegins => ([], t.beginList)
  | .listEnds => dropAll order { t with listed := none }

theorem dropAll_eq_removeAll (order : List String) (t : Roster) :
    ((dropAll order t).1.map (·.event), (dropAll order t).2) = removeAll order t := by
  induction order generalizing t with
  | nil => rfl
  | cons key order ih =>
    have rest := ih (t.remove key).2
    simp only [dropAll, removeAll, List.map_append, events_entries, ← rest]

theorem finishList_eq_dropAll (t : Roster) :
    t.finishList = ((dropAll t.leftOut { t with listed := none }).1.map (·.event),
      (dropAll t.leftOut { t with listed := none }).2) := by
  rw [dropAll_eq_removeAll]
  cases under_way : t.listed with
  | none =>
    have same : { t with listed := none } = t := by cases t; cases under_way; rfl
    simp only [finishList, leftOut, under_way, removeAll, same]
  | some listed => simp only [finishList, leftOut, under_way]

theorem handle_eq_enter (processes : List Host.ProcessEntry) (e : PodEvent) (t : Roster) :
    t.handle processes e = ((t.enter processes e t.leftOut).1.map (·.event),
      (t.enter processes e t.leftOut).2) := by
  cases e with
  | present p =>
    cases named : p.key? with
    | none => simp [handle, enter, named, Pod.containersOf_unnamed processes named, applyAll]
    | some key =>
      simp [handle, enter, named, Pod.containersOf_named processes named, applyAll, events_entries]
  | gone p => cases named : p.key? <;> simp [handle, enter, named, events_entries]
  | listBegins => rfl
  | listEnds => exact finishList_eq_dropAll t

theorem Handled.entered {processes : List Host.ProcessEntry} {e : PodEvent} {t t' : Roster}
    {news : List ContainerEvent} (step : Handled processes e t news t') :
    ∃ order, order.Perm t.leftOut ∧ (t.enter processes e order).1.map (·.event) = news ∧
      (t.enter processes e order).2 = t' := by
  cases step with
  | told =>
    refine ⟨t.leftOut, .refl _, ?_, ?_⟩
    · rw [handle_eq_enter]
    · rw [handle_eq_enter]
  | dropped under_way left_out =>
    rename_i listed order
    refine ⟨order, by simpa only [leftOut, under_way] using left_out, ?_, ?_⟩
    · exact congrArg Prod.fst (dropAll_eq_removeAll order _)
    · exact congrArg Prod.snd (dropAll_eq_removeAll order _)

theorem enter_handled {processes : List Host.ProcessEntry} {e : PodEvent} {t : Roster}
    {order : List String} (left_out : order.Perm t.leftOut) :
    Handled processes e t ((t.enter processes e order).1.map (·.event))
      (t.enter processes e order).2 := by
  have told : Handled processes e t ((t.enter processes e t.leftOut).1.map (·.event))
      (t.enter processes e t.leftOut).2 := by
    have step : Handled processes e t _ _ := .told e t
    rwa [handle_eq_enter] at step
  cases e with
  | present p => exact told
  | gone p => exact told
  | listBegins => exact told
  | listEnds =>
    cases under_way : t.listed with
    | none =>
      have nothing : t.leftOut = [] := by simp only [leftOut, under_way]
      rw [nothing, List.perm_nil] at left_out
      rw [left_out, ← nothing]
      exact told
    | some listed =>
      simp only [leftOut, under_way] at left_out
      have step : Handled processes .listEnds t _ _ := .dropped under_way left_out
      rwa [← dropAll_eq_removeAll] at step

inductive Booked (t₀ : Roster) :
    List (List Host.ProcessEntry × PodEvent) → List Entry → Roster → Prop where
  | start : Booked t₀ [] [] t₀
  | next {told : List (List Host.ProcessEntry × PodEvent)} {log : List Entry} {t : Roster}
      (processes : List Host.ProcessEntry) (e : PodEvent) {order : List String} :
      Booked t₀ told log t → order.Perm t.leftOut →
        Booked t₀ (told ++ [(processes, e)]) (log ++ (t.enter processes e order).1)
          (t.enter processes e order).2

theorem continued_iff_booked {t₀ t : Roster} {told : List (List Host.ProcessEntry × PodEvent)}
    {es : List ContainerEvent} :
    Continued t₀ told es t ↔ ∃ log, Booked t₀ told log t ∧ log.map (·.event) = es := by
  constructor
  · intro run
    induction run with
    | start => exact ⟨[], .start, rfl⟩
    | @next told processes e t t' es news _ step ih =>
      obtain ⟨log, booked, rfl⟩ := ih
      obtain ⟨order, left_out, rfl, rfl⟩ := step.entered
      exact ⟨_, booked.next processes e left_out, List.map_append⟩
  · rintro ⟨log, booked, rfl⟩
    induction booked with
    | start => exact .start
    | next processes e _ left_out ih =>
      rw [List.map_append]
      exact ih.next (enter_handled left_out)

def unlessEmpty (containers : List Container) : Option (List Container) :=
  if containers = [] then none else some containers

theorem getElem?_apply (t : Roster) (key other : String) (now : List Container) :
    (t.apply key now).2.pods[other]? =
      if key = other then unlessEmpty now else t.pods[other]? := by
  by_cases same : key = other
  · cases now <;> simp [apply, unlessEmpty, same]
  · cases now <;>
      simp [apply, Std.ExtTreeMap.getElem?_insert, Std.ExtTreeMap.getElem?_erase, same]

theorem getElem?_remove (t : Roster) (key other : String) :
    (t.remove key).2.pods[other]? = if key = other then none else t.pods[other]? := by
  simp [remove, Std.ExtTreeMap.getElem?_erase]

theorem getElem?_dropAll (order : List String) (t : Roster) (key : String) :
    (dropAll order t).2.pods[key]? = if key ∈ order then none else t.pods[key]? := by
  induction order generalizing t with
  | nil => rfl
  | cons first order ih =>
    simp only [dropAll, ih, getElem?_remove, List.mem_cons]
    by_cases same : key = first
    · subst same
      simp
    · have differ : first ≠ key := fun h => same h.symm
      simp [same, differ]

theorem newsFor_dropAll (order : List String) (t : Roster) (key : String) :
    newsFor key (dropAll order t).1 =
      if key ∈ order then (t.containersOf key).map .removed else [] := by
  induction order generalizing t with
  | nil => rfl
  | cons first order ih =>
    simp only [dropAll, newsFor_append, newsFor_entries, ih, containersOf_remove, List.mem_cons]
    by_cases same : key = first
    · subst same
      simp [remove]
    · have differ : first ≠ key := fun h => same h.symm
      simp [same, differ]

/-- Every pod has what the cluster says of it, and is kept as it was if nothing is said, unless a
list ends that left it out. -/
theorem getElem?_enter {t : Roster} {order : List String} (left_out : order.Perm t.leftOut)
    (processes : List Host.ProcessEntry) (e : PodEvent) (key : String) :
    (t.enter processes e order).2.pods[key]? = match e.tells processes key with
      | some now => unlessEmpty now
      | none => if e = .listEnds ∧ key ∈ t.leftOut then none else t.pods[key]? := by
  cases e with
  | present p =>
    cases named : p.key? with
    | none => simp [enter, PodEvent.tells, named]
    | some other =>
      simp only [enter, PodEvent.tells, named, getElem?_apply, Option.some.injEq]
      by_cases same : other = key <;> simp [same]
  | gone p =>
    cases named : p.key? with
    | none => simp [enter, PodEvent.tells, named]
    | some other =>
      simp only [enter, PodEvent.tells, named, getElem?_remove, Option.some.injEq]
      by_cases same : other = key <;> simp [same, unlessEmpty]
  | listBegins => simp [enter, PodEvent.tells, beginList]
  | listEnds => simp [enter, PodEvent.tells, getElem?_dropAll, left_out.mem_iff]

theorem changes_self (containers : List Container) : changes containers containers = [] := by
  simp [changes]

/-- The news of a pod is how its containers of before differ from those of after. -/
theorem newsFor_enter (processes : List Host.ProcessEntry) (e : PodEvent) (order : List String)
    (t : Roster) (key : String) :
    newsFor key (t.enter processes e order).1 =
      changes (t.containersOf key) ((t.enter processes e order).2.containersOf key) := by
  cases e with
  | present p =>
    cases named : p.key? with
    | none => simp [enter, named, newsFor, changes_self]
    | some other =>
      simp only [enter, named, newsFor_entries, containersOf_apply]
      by_cases same : other = key
      · simp only [same, ↓reduceIte, apply]
      · simp only [same, ↓reduceIte, changes_self]
  | gone p =>
    cases named : p.key? with
    | none => simp [enter, named, newsFor, changes_self]
    | some other =>
      simp only [enter, named, newsFor_entries, containersOf_remove]
      by_cases same : other = key
      · simp only [same, ↓reduceIte, remove, changes_nil]
      · simp only [same, ↓reduceIte, changes_self]
  | listBegins => exact (changes_self _).symm
  | listEnds =>
    simp only [enter, newsFor_dropAll, containersOf, getElem?_dropAll]
    by_cases dropped : key ∈ order
    · simp only [dropped, ↓reduceIte, Option.getD_none, changes_nil]
    · simp only [dropped, ↓reduceIte, changes_self]

end Roster
end NodeDiagnostics.Cluster
