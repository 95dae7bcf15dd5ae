import NodeDiagnostics.Cluster.Roster
import Mathlib.Data.List.Induction

/-!
Runs of a roster. Whatever the cluster tells, a roster only ever replaces the containers of one pod
after the other, and announces each time how the old ones differ from the new. What holds of such
revisions holds of every run, and in whatever order the pods are dropped that a list left out.
-/
namespace NodeDiagnostics.Cluster.Roster

/-- Revisions of one pod after the other, and what they announce. -/
inductive Revised : Roster → List ContainerEvent → Roster → Prop where
  | same {t t' : Roster} (kept : ∀ key, t'.containersOf key = t.containersOf key) :
      Revised t [] t'
  | pod {t t' : Roster} (key : String) (now : List Container)
      (replaced : ∀ other,
        t'.containersOf other = if key = other then now else t.containersOf other) :
      Revised t (changes (t.containersOf key) now) t'
  | trans {t t' t'' : Roster} {es fs : List ContainerEvent} :
      Revised t es t' → Revised t' fs t'' → Revised t (es ++ fs) t''

theorem apply_revised (key : String) (now : List Container) (t : Roster) :
    Revised t (t.apply key now).1 (t.apply key now).2 :=
  .pod key now fun other => containersOf_apply t key other now

theorem changes_nil (old : List Container) : changes old [] = old.map .removed := by
  have all : old.filter (· ∉ ([] : List Container)) = old := List.filter_eq_self.mpr (by simp)
  simp only [changes, all, List.filter_nil, List.map_nil, List.append_nil]

theorem added_mem_changes {old now : List Container} {c : Container} :
    ContainerEvent.added c ∈ changes old now ↔ c ∈ now ∧ c ∉ old := by
  simp [changes]

theorem removed_mem_changes {old now : List Container} {c : Container} :
    ContainerEvent.removed c ∈ changes old now ↔ c ∈ old ∧ c ∉ now := by
  simp [changes]

theorem remove_revised (key : String) (t : Roster) :
    Revised t (t.remove key).1 (t.remove key).2 := by
  have announced : (t.remove key).1 = changes (t.containersOf key) [] :=
    (changes_nil (t.containersOf key)).symm
  rw [announced]
  exact .pod key [] fun other => containersOf_remove t key other

theorem applyAll_revised (pods : List (String × List Container)) (t : Roster) :
    Revised t (applyAll pods t).1 (applyAll pods t).2 := by
  induction pods generalizing t with
  | nil => exact .same fun _ => rfl
  | cons p pods ih => exact .trans (apply_revised p.1 p.2 t) (ih _)

theorem removeAll_revised (keys : List String) (t : Roster) :
    Revised t (removeAll keys t).1 (removeAll keys t).2 := by
  induction keys generalizing t with
  | nil => exact .same fun _ => rfl
  | cons key keys ih => exact .trans (remove_revised key t) (ih _)

/-- Revisions look at the containers alone, so they may begin where a list is under way or not. -/
theorem Revised.forget_list {t u : Roster} {es : List ContainerEvent}
    {listed : Option (List String)} (h : Revised { t with listed := listed } es u) :
    Revised t es u := by
  have kept : Revised t [] { t with listed := listed } := .same fun _ => rfl
  exact kept.trans h

/-- One step of a run. At the end of a list the pods that it left out are dropped in any order. -/
inductive Handled (processes : List Host.ProcessEntry) :
    PodEvent → Roster → List ContainerEvent → Roster → Prop where
  | told (e : PodEvent) (t : Roster) :
      Handled processes e t (t.handle processes e).1 (t.handle processes e).2
  | dropped {t : Roster} {listed order : List String} (under_way : t.listed = some listed)
      (left_out : order.Perm (t.pods.keys.filter (· ∉ listed))) :
      Handled processes .listEnds t (removeAll order { t with listed := none }).1
        (removeAll order { t with listed := none }).2

theorem handle_revised (processes : List Host.ProcessEntry) (e : PodEvent) (t : Roster) :
    Revised t (t.handle processes e).1 (t.handle processes e).2 := by
  cases e with
  | present p => exact applyAll_revised _ t
  | gone p =>
    simp only [handle]
    split
    · exact remove_revised _ t
    · exact .same fun _ => rfl
  | listBegins => exact .same fun _ => rfl
  | listEnds =>
    simp only [handle, finishList]
    split
    · exact .same fun _ => rfl
    · exact (removeAll_revised _ _).forget_list

theorem Handled.revised {processes : List Host.ProcessEntry} {e : PodEvent} {t t' : Roster}
    {es : List ContainerEvent} (step : Handled processes e t es t') : Revised t es t' := by
  cases step with
  | told => exact handle_revised processes e t
  | dropped => exact (removeAll_revised _ _).forget_list

/-- A run from the empty roster: what the cluster told, each time with the processes that there
were, everything announced, and the roster in the end. -/
inductive Followed :
    List (List Host.ProcessEntry × PodEvent) → List ContainerEvent → Roster → Prop where
  | start : Followed [] [] empty
  | next {told : List (List Host.ProcessEntry × PodEvent)} {processes : List Host.ProcessEntry}
      {e : PodEvent} {t t' : Roster} {es news : List ContainerEvent} :
      Followed told es t → Handled processes e t news t' →
        Followed (told ++ [(processes, e)]) (es ++ news) t'

theorem Followed.split_last {told : List (List Host.ProcessEntry × PodEvent)}
    {processes : List Host.ProcessEntry} {e : PodEvent} {es : List ContainerEvent} {t : Roster}
    (run : Followed (told ++ [(processes, e)]) es t) :
    ∃ earlier before news, Followed told earlier before ∧ Handled processes e before news t ∧
      es = earlier ++ news := by
  generalize whole : told ++ [(processes, e)] = all at run
  cases run with
  | start => simp at whole
  | next before step =>
    obtain ⟨rfl, last⟩ := List.append_inj' whole rfl
    cases last
    exact ⟨_, _, _, before, step, rfl⟩

theorem Followed.of_nil {es : List ContainerEvent} {t : Roster} (run : Followed [] es t) :
    es = [] ∧ t = empty := by
  generalize whole : [] = all at run
  cases run with
  | start => exact ⟨rfl, rfl⟩
  | next => simp at whole

theorem Followed.revised {told : List (List Host.ProcessEntry × PodEvent)} {t : Roster}
    {es : List ContainerEvent} (run : Followed told es t) : Revised empty es t := by
  induction run with
  | start => exact .same fun _ => rfl
  | next _ step ih => exact .trans ih step.revised

inductive Continued (t₀ : Roster) :
    List (List Host.ProcessEntry × PodEvent) → List ContainerEvent → Roster → Prop where
  | start : Continued t₀ [] [] t₀
  | next {told : List (List Host.ProcessEntry × PodEvent)} {processes : List Host.ProcessEntry}
      {e : PodEvent} {t t' : Roster} {es news : List ContainerEvent} :
      Continued t₀ told es t → Handled processes e t news t' →
        Continued t₀ (told ++ [(processes, e)]) (es ++ news) t'

theorem followed_iff_continued {told : List (List Host.ProcessEntry × PodEvent)}
    {es : List ContainerEvent} {t : Roster} : Followed told es t ↔ Continued empty told es t := by
  constructor <;> intro run
  · induction run with
    | start => exact .start
    | next _ step ih => exact ih.next step
  · induction run with
    | start => exact .start
    | next _ step ih => exact ih.next step

def continueAll (t₀ : Roster) (told : List (List Host.ProcessEntry × PodEvent)) :
    List ContainerEvent × Roster :=
  told.foldl
    (fun (es, t) (processes, e) => (es ++ (t.handle processes e).1, (t.handle processes e).2))
    ([], t₀)

theorem continueAll_continued (t₀ : Roster) (told : List (List Host.ProcessEntry × PodEvent)) :
    Continued t₀ told (continueAll t₀ told).1 (continueAll t₀ told).2 := by
  induction told using List.reverseRecOn with
  | nil => exact .start
  | append_singleton told last ih =>
    have step : Handled last.1 last.2 (continueAll t₀ told).2 _ _ := .told last.2 _
    simpa [continueAll, List.foldl_append] using ih.next step

def followAll (told : List (List Host.ProcessEntry × PodEvent)) : List ContainerEvent × Roster :=
  continueAll empty told

theorem followAll_followed (told : List (List Host.ProcessEntry × PodEvent)) :
    Followed told (followAll told).1 (followAll told).2 :=
  followed_iff_continued.mpr (continueAll_continued empty told)

def tracked (t : Roster) : List Container := t.pods.toList.flatMap (·.2)

theorem mem_tracked_iff {t : Roster} {c : Container} :
    c ∈ t.tracked ↔ ∃ key, c ∈ t.containersOf key := by
  simp only [tracked, List.mem_flatMap, Prod.exists, Std.ExtTreeMap.mem_toList_iff_getElem?_eq_some]
  constructor
  · rintro ⟨key, containers, found, member⟩
    exact ⟨key, by simpa [containersOf, found] using member⟩
  · rintro ⟨key, member⟩
    cases found : t.pods[key]? with
    | none => simp [containersOf, found] at member
    | some containers => exact ⟨key, containers, found, by simpa [containersOf, found] using member⟩

theorem mem_tracked_congr {t t' : Roster} (kept : ∀ key, t'.containersOf key = t.containersOf key)
    (c : Container) : c ∈ t'.tracked ↔ c ∈ t.tracked := by
  rw [mem_tracked_iff, mem_tracked_iff]
  simp only [kept]

def tenth (id : String) : Host.ProcessEntry :=
  ⟨"10", some ("0::/kubepods/" ++ id).toUTF8.toList⟩

def podWith (name id : String) : Pod :=
  ⟨some name, some "shop", some name, none, [⟨"api", some id, true⟩]⟩

end NodeDiagnostics.Cluster.Roster
