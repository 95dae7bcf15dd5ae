import NodeDiagnostics.Proofs.Cluster.Following
import NodeDiagnostics.Proofs.Registry.History

/-!
A roster keeps containers by pod and a registry keeps them by process, and the registry learns of
the roster's containers through what it announces. The registry never holds a container that the
roster has given up. It misses one exactly if news of another container's end, which carries the
same process number, came after the container itself was announced.
-/
namespace NodeDiagnostics.Cluster.Roster
open Registry

def Sole (t : Roster) (c : Container) : Prop := ∀ d ∈ t.tracked, d.pid = c.pid → d = c

instance (t : Roster) (c : Container) : Decidable (t.Sole c) :=
  inferInstanceAs (Decidable (∀ d ∈ t.tracked, d.pid = c.pid → d = c))

/-- After the container was announced, its process was given up on account of some container, and
nothing was told about the process since. -/
def Overtaken (c : Container) (es : List ContainerEvent) : Prop :=
  ∃ before d after, es = before ++ .removed d :: after ∧ .added c ∈ before ∧ d.pid = c.pid ∧
    ∀ e ∈ after, e.container.pid ≠ c.pid

structure Accounts (t : Roster) (es : List ContainerEvent) : Prop where
  held : ∀ pid c, lastAbout pid es = some (.added c) → c ∈ t.tracked
  announced : ∀ c ∈ t.tracked, .added c ∈ es

theorem Accounts.pod {t t' : Roster} {es : List ContainerEvent} (h : Accounts t es) (key : String)
    (now : List Container)
    (replaced : ∀ other,
      t'.containersOf other = if key = other then now else t.containersOf other) :
    Accounts t' (es ++ changes (t.containersOf key) now) := by
  constructor
  · intro pid c last
    rw [lastAbout_append] at last
    cases fresh : lastAbout pid (changes (t.containersOf key) now) with
    | some e =>
      rw [fresh] at last
      cases last
      have member := added_mem_changes.mp (mem_of_lastAbout fresh)
      exact mem_tracked_iff.mpr ⟨key, by simpa [replaced] using member.1⟩
    | none =>
      rw [fresh] at last
      obtain ⟨other, member⟩ := mem_tracked_iff.mp (h.held pid c last)
      by_cases own : key = other
      · subst own
        -- had the pod lost the container, the news of that would be about the process
        have stays : c ∈ now := by
          by_contra gone
          have told := removed_mem_changes.mpr ⟨member, gone⟩
          exact lastAbout_eq_none_iff.mp fresh _ told (lastAbout_eq_some_iff.mp last).1
        exact mem_tracked_iff.mpr ⟨key, by simpa [replaced] using stays⟩
      · exact mem_tracked_iff.mpr ⟨other, by simpa [replaced, own] using member⟩
  · intro c member
    obtain ⟨other, member⟩ := mem_tracked_iff.mp member
    rw [replaced] at member
    by_cases known : c ∈ t.tracked
    · exact List.mem_append_left _ (h.announced c known)
    · split at member
      · have new : c ∉ t.containersOf key := fun old => known (mem_tracked_iff.mpr ⟨key, old⟩)
        exact List.mem_append_right _ (added_mem_changes.mpr ⟨member, new⟩)
      · exact absurd (mem_tracked_iff.mpr ⟨other, member⟩) known

theorem Accounts.revised {t t' : Roster} {es news : List ContainerEvent} (h : Accounts t es)
    (step : Revised t news t') : Accounts t' (es ++ news) := by
  induction step generalizing es with
  | same kept =>
    rw [List.append_nil]
    exact ⟨fun pid c last => (mem_tracked_congr kept c).mpr (h.held pid c last),
      fun c member => h.announced c ((mem_tracked_congr kept c).mp member)⟩
  | pod key now replaced => exact h.pod key now replaced
  | trans _ _ first second =>
    rw [← List.append_assoc]
    exact second (first h)

theorem Followed.accounts {told : List (List Host.ProcessEntry × PodEvent)} {t : Roster}
    {es : List ContainerEvent} (run : Followed told es t) : Accounts t es := by
  have initial : Accounts empty [] := by
    constructor
    · intro pid c last
      cases last
    · intro c member
      simp [tracked, empty] at member
  simpa using initial.revised run.revised

/-- Every container of the registry is one of the roster's; and a container of the roster whose
process no other of its containers has is the one that the registry finds, unless it was
overtaken. -/
theorem found_iff_not_overtaken {told : List (List Host.ProcessEntry × PodEvent)} {t : Roster}
    {es : List ContainerEvent} (run : Followed told es t) :
    (∀ pid c, (Registry.empty.applyAll es).lookup? pid = some c → c ∈ t.tracked) ∧
    ∀ c ∈ t.tracked, t.Sole c →
      ((Registry.empty.applyAll es).lookup? c.pid = some c ↔ ¬ Overtaken c es) := by
  have h := run.accounts
  refine ⟨fun pid c found => h.held pid c (lookup?_history_eq_some_iff.mp found), ?_⟩
  intro c member sole
  rw [lookup?_history_eq_some_iff]
  constructor
  · rintro last ⟨before, d, after, split, -, same, quiet⟩
    have gone : lastAbout c.pid es = some (.removed d) :=
      lastAbout_eq_some_iff.mpr ⟨same, before, after, split, quiet⟩
    rw [gone] at last
    cases last
  · intro free
    cases last : lastAbout c.pid es with
    | none => exact absurd rfl (lastAbout_eq_none_iff.mp last _ (h.announced c member))
    | some e =>
      cases e with
      | added d =>
        have same : d.pid = c.pid := (lastAbout_eq_some_iff.mp last).1
        rw [sole d (h.held c.pid d last) same]
      | removed d =>
        obtain ⟨same, before, after, split, quiet⟩ := lastAbout_eq_some_iff.mp last
        refine absurd ⟨before, d, after, split, ?_, same, quiet⟩ free
        have announced := h.announced c member
        rw [split] at announced
        rcases List.mem_append.mp announced with earlier | later
        · exact earlier
        · rcases List.mem_cons.mp later with other | later
          · cases other
          · exact absurd rfl (quiet _ later)

/-- A process number passes from one pod's container to another's, and the end of the first pod is
told after the second has come. -/
def handover : List (List Host.ProcessEntry × PodEvent) :=
  [([tenth "aaaaaaaaaaaa"], .present (podWith "old" "aaaaaaaaaaaa")),
    ([tenth "bbbbbbbbbbbb"], .present (podWith "new" "bbbbbbbbbbbb")),
    ([tenth "bbbbbbbbbbbb"], .gone (podWith "old" "aaaaaaaaaaaa"))]

def successor : Container := ⟨"bbbbbbbbbbbb", "shop", "new", "api", 10, false⟩

theorem successor_overtaken :
    Followed handover (followAll handover).1 (followAll handover).2 ∧
      Overtaken successor (followAll handover).1 := by
  have run := followAll_followed handover
  have member : successor ∈ (followAll handover).2.tracked := by decide +kernel
  have sole : (followAll handover).2.Sole successor := by decide +kernel
  have lost : (Registry.empty.applyAll (followAll handover).1).lookup? successor.pid ≠
      some successor := by decide +kernel
  refine ⟨run, ?_⟩
  by_contra free
  exact lost (((found_iff_not_overtaken run).2 successor member sole).mpr free)

theorem successor_lost : ∃ told es t, Followed told es t ∧
    ∃ c ∈ t.tracked, t.Sole c ∧ (Registry.empty.applyAll es).lookup? c.pid = none := by
  refine ⟨handover, _, _, followAll_followed handover, successor, ?_, ?_, ?_⟩
  · decide +kernel
  · decide +kernel
  · decide +kernel

end NodeDiagnostics.Cluster.Roster
