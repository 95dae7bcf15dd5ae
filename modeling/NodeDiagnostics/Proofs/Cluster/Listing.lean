import NodeDiagnostics.Proofs.Cluster.Ledger
import NodeDiagnostics.Proofs.Host.FirstProcess
import NodeDiagnostics.Proofs.Registry.Subscription

namespace NodeDiagnostics.Cluster
namespace Pod

theorem containersOf_eq_filterMap (processes : List Host.ProcessEntry) (pods : List Pod) :
    containersOf processes pods = pods.filterMap fun p => p.key?.map fun key =>
      (key, p.live.filterMap fun c => (Host.resolve? processes c.id).map c.withPid) := by
  simp only [containersOf, List.map_filterMap]
  refine List.filterMap_congr fun p listed => ?_
  cases named : p.key? with
  | none => rfl
  | some key =>
    simp only [Option.map_some]
    refine congrArg (fun found => some (key, found)) (List.filterMap_congr fun c live => ?_)
    have followed : (key, p.live) ∈ pods.filterMap fun p => p.key?.map fun key => (key, p.live) :=
      List.mem_filterMap.mpr ⟨p, listed, by rw [named]; rfl⟩
    have asked : c.id ∈ (pods.filterMap fun p => p.key?.map fun key => (key, p.live)).flatMap
        fun f => f.2.map (·.id) :=
      List.mem_flatMap.mpr ⟨_, followed, List.mem_map_of_mem live⟩
    rw [Host.getElem?_resolveAll asked]

/-- To go through the processes once for all pods comes to the same as once for each pod. -/
theorem containersOf_flatMap (processes : List Host.ProcessEntry) (pods : List Pod) :
    containersOf processes pods = pods.flatMap fun p => containersOf processes [p] := by
  simp only [containersOf_eq_filterMap, List.filterMap_eq_flatMap_toList, List.flatMap_singleton]

def seed (processes : List Host.ProcessEntry) (pods : List Pod) : List Container :=
  (containersOf processes pods).flatMap (·.2)

theorem seed_eq (processes : List Host.ProcessEntry) (pods : List Pod) :
    seed processes pods = pods.flatMap (Pod.found processes) := by
  rw [seed, containersOf_flatMap, List.flatMap_assoc]
  rfl

end Pod

namespace Roster

def relisting (processes : List Host.ProcessEntry) (order : List Pod) :
    List (List Host.ProcessEntry × PodEvent) :=
  (processes, .listBegins) :: order.map (processes, .present ·) ++ [(processes, .listEnds)]

structure Listing (processes : List Host.ProcessEntry) (order : List Pod)
    (es : List ContainerEvent) (t : Roster) : Prop where
  announced : es = (order.flatMap (Pod.found processes)).map .added
  listed : t.listed = some (order.filterMap Pod.key?).reverse
  named : ∀ key ∈ t.pods, key ∈ order.filterMap Pod.key?
  holds : ∀ key c, c ∈ t.containersOf key ↔
    ∃ p ∈ order, p.key? = some key ∧ c ∈ p.found processes

theorem Listing.present {processes : List Host.ProcessEntry} {order : List Pod} {p : Pod}
    {es news : List ContainerEvent} {t t' : Roster} (h : Listing processes order es t)
    (distinct : ((order ++ [p]).filterMap Pod.key?).Nodup)
    (step : Handled processes (.present p) t news t') :
    Listing processes (order ++ [p]) (es ++ news) t' := by
  cases step
  cases named : p.key? with
  | none =>
    have nothing := Pod.found_unnamed processes named
    have still : t.handle processes (.present p) = ([], t) := by
      simp only [handle, Pod.containersOf_unnamed processes named, applyAll]
    rw [still]
    constructor
    · simp [h.announced, nothing]
    · simp [h.listed, named]
    · simpa [named] using h.named
    · simpa [named, or_and_right, exists_or] using h.holds
  | some key =>
    have told : t.handle processes (.present p) = t.apply key (p.found processes) := by
      simp [handle, Pod.containersOf_named processes named, applyAll]
    have fresh : key ∉ order.filterMap Pod.key? := by
      rw [List.filterMap_append, List.nodup_append] at distinct
      intro earlier
      exact distinct.2.2 key earlier key (by simp [named]) rfl
    have unknown : t.containersOf key = [] := by
      refine List.eq_nil_iff_forall_not_mem.mpr fun c member => ?_
      obtain ⟨q, listed, same, -⟩ := (h.holds key c).mp member
      exact fresh (List.mem_filterMap.mpr ⟨q, listed, same⟩)
    rw [told]
    constructor
    · simp [apply, changes, unknown, h.announced]
    · simp [apply, h.listed, named]
    · intro other member
      simp only [List.filterMap_append, List.mem_append]
      by_cases same : key = other
      · exact .inr (by simp [named, same])
      · rw [Std.ExtTreeMap.mem_iff_isSome_getElem?, getElem?_apply, if_neg same] at member
        exact .inl (h.named other (Std.ExtTreeMap.mem_iff_isSome_getElem?.mpr member))
    · intro other c
      simp only [containersOf_apply, List.mem_append, List.mem_singleton, or_and_right, exists_or,
        exists_eq_left, ← h.holds, named, Option.some.injEq]
      by_cases same : key = other
      · subst same
        simp [unknown]
      · simp [same]

theorem Followed.listing {processes : List Host.ProcessEntry} {order : List Pod}
    {es : List ContainerEvent} {t : Roster} (distinct : (order.filterMap Pod.key?).Nodup)
    (run : Followed ((processes, .listBegins) :: order.map (processes, .present ·)) es t) :
    Listing processes order es t := by
  induction order using List.reverseRecOn generalizing es t with
  | nil =>
    have beginning : Followed ([] ++ [(processes, .listBegins)]) es t := run
    obtain ⟨_, _, _, before, step, rfl⟩ := beginning.split_last
    obtain ⟨rfl, rfl⟩ := before.of_nil
    cases step
    constructor <;> simp [handle, beginList, empty, containersOf]
  | append_singleton order p ih =>
    rw [List.map_append, List.map_singleton, ← List.cons_append] at run
    obtain ⟨_, _, _, before, step, rfl⟩ := run.split_last
    have earlier : (order.filterMap Pod.key?).Nodup := by
      rw [List.filterMap_append] at distinct
      exact (List.nodup_append.mp distinct).1
    exact (ih earlier before).present distinct step

theorem Listing.finish {processes : List Host.ProcessEntry} {order : List Pod}
    {es news : List ContainerEvent} {t t' : Roster} (h : Listing processes order es t)
    (step : Handled processes .listEnds t news t') :
    news = [] ∧ ∀ key, t'.containersOf key = t.containersOf key := by
  obtain ⟨rest, left_out, rfl, rfl⟩ := step.entered
  have nothing : t.leftOut = [] := by
    simp only [leftOut, h.listed, List.filter_eq_nil_iff, Std.ExtTreeMap.mem_keys]
    intro key member
    simpa using h.named key member
  rw [nothing, List.perm_nil] at left_out
  subst left_out
  exact ⟨rfl, fun _ => rfl⟩

theorem Followed.relisted {processes : List Host.ProcessEntry} {order : List Pod}
    {es : List ContainerEvent} {t : Roster} (distinct : (order.filterMap Pod.key?).Nodup)
    (run : Followed (relisting processes order) es t) :
    es = (order.flatMap (Pod.found processes)).map .added ∧
      ∀ key c, c ∈ t.containersOf key ↔ ∃ p ∈ order, p.key? = some key ∧ c ∈ p.found processes := by
  obtain ⟨_, _, _, before, step, rfl⟩ := run.split_last
  have listing := before.listing distinct
  obtain ⟨rfl, still⟩ := listing.finish step
  refine ⟨by rw [List.append_nil, listing.announced], fun key c => ?_⟩
  rw [still, listing.holds]

/-- What a list of pods seeds a registry with is what is found of each pod alone, whether or not a
process is found, a pod can be followed or an identifier comes twice. So a roster that is new to the
node announces of these pods, named once each and in any order, only what the registry knows, if no
two containers share a process: the registry's subscribers, whoever of them comes and goes, hear
nothing, and in the end the roster has the containers of just these pods. -/
theorem seed_agrees_with_news (processes : List Host.ProcessEntry) (pods : List Pod) :
    Pod.containersOf processes pods = pods.flatMap (fun p => Pod.containersOf processes [p]) ∧
    ∀ order : List Pod, (∀ p ∈ order, p ∈ pods) → (order.filterMap Pod.key?).Nodup →
      ((Pod.seed processes pods).map (·.pid)).Nodup →
      ∀ es t, Followed (relisting processes order) es t →
        (∀ c, c ∈ t.tracked ↔ ∃ p ∈ order, c ∈ p.found processes) ∧
        ∀ (r : Registry) (moves : List Registry.Move), moves.filterMap Registry.Move.news? = es →
          let seeded := r.applyAll ((Pod.seed processes pods).map .added)
          (seeded.moveAll moves).1 = [] ∧
            (seeded.moveAll moves).2.containers = seeded.containers := by
  refine ⟨Pod.containersOf_flatMap processes pods, ?_⟩
  intro order among distinct apart es t run
  obtain ⟨announced, holds⟩ := run.relisted distinct
  refine ⟨fun c => ?_, fun r moves heard => Registry.moveAll_silent fun e told => ?_⟩
  · rw [mem_tracked_iff]
    constructor
    · rintro ⟨key, member⟩
      obtain ⟨p, listed, -, found⟩ := (holds key c).mp member
      exact ⟨p, listed, found⟩
    · rintro ⟨p, listed, found⟩
      cases named : p.key? with
      | none => simp [Pod.found_unnamed processes named] at found
      | some key => exact ⟨key, (holds key c).mpr ⟨p, listed, named, found⟩⟩
  · have member : e ∈ moves.filterMap Registry.Move.news? :=
      List.mem_filterMap.mpr ⟨.news e, told, rfl⟩
    rw [heard, announced] at member
    obtain ⟨c, inside, rfl⟩ := List.mem_map.mp member
    obtain ⟨p, listed, found⟩ := List.mem_flatMap.mp inside
    have seeded : c ∈ Pod.seed processes pods := by
      rw [Pod.seed_eq]
      exact List.mem_flatMap.mpr ⟨p, among p listed, found⟩
    exact Registry.known_seeded apart seeded r

/-- Two containers that are found and one that is not, in pods of which one cannot be followed. -/
def shelf : List Pod :=
  [podWith "cart" "aaaaaaaaaaaa",
    ⟨none, some "shop", some "ghost", none, [⟨"api", some "aaaaaaaaaaaa", true⟩]⟩,
    ⟨some "store", some "shop", some "store", none,
      [⟨"db", some "bbbbbbbbbbbb", true⟩, ⟨"log", some "cccccccccccc", true⟩]⟩]

def shelfProcesses : List Host.ProcessEntry :=
  [⟨"11", some (Text.utf8 "0::/kubepods/bbbbbbbbbbbb")⟩, tenth "aaaaaaaaaaaa"]

theorem shelf_agrees :
    let order := shelf.reverse
    let run := followAll (relisting shelfProcesses order)
    let seeded := Registry.empty.applyAll ((Pod.seed shelfProcesses shelf).map .added)
    (∀ p ∈ order, p ∈ shelf) ∧ (order.filterMap Pod.key?).Nodup ∧
      ((Pod.seed shelfProcesses shelf).map (·.pid)) = [10, 11] ∧
      Followed (relisting shelfProcesses order) run.1 run.2 ∧ run.1.length = 2 ∧
      (seeded.moveAll (.subscribe :: run.1.map .news)).1 = [] := by
  intro order run seeded
  have among : ∀ p ∈ order, p ∈ shelf := fun p => List.mem_reverse.mp
  have distinct : (order.filterMap Pod.key?).Nodup := by decide +kernel
  have pids : (Pod.seed shelfProcesses shelf).map (·.pid) = [10, 11] := by decide +kernel
  have apart : ((Pod.seed shelfProcesses shelf).map (·.pid)).Nodup := by
    rw [pids]
    decide
  have followed := followAll_followed (relisting shelfProcesses order)
  have heard (es : List ContainerEvent) :
      (Registry.Move.subscribe :: es.map .news).filterMap Registry.Move.news? = es := by
    rw [List.filterMap_cons_none rfl, List.filterMap_map]
    exact List.filterMap_some
  obtain ⟨-, agrees⟩ := seed_agrees_with_news shelfProcesses shelf
  obtain ⟨-, silent⟩ := agrees order among distinct apart run.1 run.2 followed
  exact ⟨among, distinct, pids, followed, by decide +kernel,
    (silent Registry.empty _ (heard run.1)).1⟩

end Roster
end NodeDiagnostics.Cluster
