import NodeDiagnostics.Collection.Pass
import NodeDiagnostics.Proofs.Export.Simulation

/-!
A pass asks all collectors whether they are supported, collects from those that are, and exports
what was gathered, in three rounds. Those that are collected from at the same time may finish in any
order: each has a place for its outcome.
-/
namespace NodeDiagnostics.Collection

open Export (ExportState ObjectStore Destination Log HostOf recorded noted noted_agree)
open Request (each)

inductive Fate where
  | skipped (e : Error)
  | failed (e : Error)
  | succeeded

def Fate.ofResult : Except Error Unit → Fate
  | .ok () => succeeded
  | .error e => failed e

structure Ending where
  name : String
  fate : Fate

namespace Ending

def success? (e : Ending) : Option String :=
  match e.fate with
  | .succeeded => some e.name
  | _ => none

def skip? (e : Ending) : Option Skipped :=
  match e.fate with
  | .skipped reason => some ⟨e.name, reason.message⟩
  | _ => none

def failure? (e : Ending) : Option Failure :=
  match e.fate with
  | .failed error => some ⟨e.name, error⟩
  | _ => none

end Ending

def Failure.reported (f : Failure) : Failed := ⟨f.collector, f.error.message⟩

def reportOf (endings : List Ending) : Report where
  succeeded := endings.filterMap Ending.success?
  skipped := endings.filterMap Ending.skip?
  failed := (endings.filterMap Ending.failure?).map Failure.reported

def passOf (endings : List Ending) : Pass where
  report := reportOf endings
  failures := endings.filterMap Ending.failure?

/-- How collectors end, by what they say of their support, and how the turns of those end that are
supported. -/
def endings : List String → List (Except Error Unit) → List (Except Error Unit) → List Ending
  | name :: names, .error e :: checks, results => ⟨name, .skipped e⟩ :: endings names checks results
  | name :: names, .ok () :: checks, result :: results =>
    ⟨name, .ofResult result⟩ :: endings names checks results
  | _, _, _ => []

variable {σ : Type}

def admitted : List (Collector σ) → List (Except Error Unit) → List (Collector σ)
  | c :: rest, .ok () :: checks => c :: admitted rest checks
  | _ :: rest, .error _ :: checks => admitted rest checks
  | _, _ => []

def deliver (store : ObjectStore σ) (d : Destination) :
    Collector σ × Except Error Unit → Request (ExportState σ) (Except Error Unit)
  | (_, .error e) => .always (.error e)
  | (c, .ok ()) => ExportState.exportItems store d c.data

theorem admitted_map {τ : Type} (f : Collector σ → Collector τ) (collectors : List (Collector σ))
    (checks : List (Except Error Unit)) :
    admitted (collectors.map f) checks = (admitted collectors checks).map f := by
  induction collectors generalizing checks with
  | nil => simp [admitted]
  | cons c rest ih =>
    match checks with
    | [] => rfl
    | .ok () :: checks => simp only [List.map_cons, admitted, ih]
    | .error e :: checks => simp only [List.map_cons, admitted, ih]

namespace Pass

def noting (p : Pass) (endings : List Ending) : Pass where
  report := {
    succeeded := p.report.succeeded ++ endings.filterMap Ending.success?
    skipped := p.report.skipped ++ endings.filterMap Ending.skip?
    failed := p.report.failed ++ (endings.filterMap Ending.failure?).map Failure.reported }
  failures := p.failures ++ endings.filterMap Ending.failure?

theorem noting_append (p : Pass) (former latter : List Ending) :
    (p.noting former).noting latter = p.noting (former ++ latter) := by
  simp [noting]

theorem noting_congr {former latter : List Ending}
    (success : former.filterMap Ending.success? = latter.filterMap Ending.success?)
    (skip : former.filterMap Ending.skip? = latter.filterMap Ending.skip?)
    (failure : former.filterMap Ending.failure? = latter.filterMap Ending.failure?) (p : Pass) :
    p.noting former = p.noting latter := by
  simp only [noting, success, skip, failure]

theorem noting_empty (endings : List Ending) : empty.noting endings = passOf endings := by
  simp [noting, empty, Report.empty, passOf, reportOf]

def skips : List (Collector σ) → List (Except Error Unit) → List Ending
  | c :: rest, .error e :: checks => ⟨c.name, .skipped e⟩ :: skips rest checks
  | _ :: rest, .ok () :: checks => skips rest checks
  | _, _ => []

def ended (supported : List (Collector σ)) (results : List (Except Error Unit)) : List Ending :=
  List.zipWith (fun c result => ⟨c.name, .ofResult result⟩) supported results

theorem checkAll_eq (collectors : List (Collector σ)) (p : Pass) (s : ExportState σ) :
    checkAll collectors p s =
      ((admitted collectors (each check collectors s).1,
        p.noting (skips collectors (each check collectors s).1)), (each check collectors s).2) := by
  induction collectors generalizing p s with
  | nil => simp [checkAll, each, admitted, skips, noting]
  | cons c rest ih =>
    rcases answer : check c s with ⟨checked, t⟩
    simp only [checkAll, each, answer]
    cases checked with
    | ok => simp only [ih, admitted, skips]
    | error e =>
      simp only [ih, admitted, skips]
      have noted : p.skip c.name e = p.noting [⟨c.name, .skipped e⟩] := by
        simp [skip, noting, Ending.success?, Ending.skip?, Ending.failure?]
      rw [noted, noting_append, List.singleton_append]

section
variable (store : ObjectStore σ) (d : Destination)

theorem settle_eq (c : Collector σ) (collected : Except Error Unit) (p : Pass) (s : ExportState σ) :
    settle store d c collected p s =
      (p.noting [⟨c.name, .ofResult (deliver store d (c, collected) s).1⟩],
        (deliver store d (c, collected) s).2) := by
  have failed (e : Error) : p.fail c.name e = p.noting [⟨c.name, .failed e⟩] := by
    simp [fail, noting, Ending.success?, Ending.skip?, Ending.failure?, Failure.reported]
  have succeeded : p.succeed c.name = p.noting [⟨c.name, .succeeded⟩] := by
    simp [succeed, noting, Ending.success?, Ending.skip?, Ending.failure?]
  cases collected with
  | error e => simp only [settle, deliver, Request.always, failed, Fate.ofResult]
  | ok =>
    simp only [settle, deliver]
    rcases ExportState.exportItems store d c.data s with ⟨_ | _, t⟩
    · simp only [failed, Fate.ofResult]
    · simp only [succeeded, Fate.ofResult]

theorem settleAll_eq {supported : List (Collector σ)} {outcomes : List (Except Error Unit)}
    (same : outcomes.length = supported.length) (p : Pass) (s : ExportState σ) :
    settleAll store d (supported.zip outcomes) p s =
      (p.noting (ended supported (each (deliver store d) (supported.zip outcomes) s).1),
        (each (deliver store d) (supported.zip outcomes) s).2) := by
  induction supported generalizing outcomes p s with
  | nil => simp [settleAll, each, ended, noting]
  | cons c rest ih =>
    cases outcomes with
    | nil => contradiction
    | cons collected outcomes =>
      simp only [List.zip_cons_cons, settleAll, settle_eq, each, ih (Nat.succ.inj same),
        noting_append, ended, List.zipWith_cons_cons, List.singleton_append]

end

theorem filterMap_skips {β : Type} {f : Ending → Option β}
    (never : ∀ name e, f ⟨name, .skipped e⟩ = none) (collectors : List (Collector σ))
    (checks : List (Except Error Unit)) : (skips collectors checks).filterMap f = [] := by
  induction collectors generalizing checks with
  | nil => rfl
  | cons c rest ih =>
    match checks with
    | [] => rfl
    | .error e :: checks => simp only [skips, List.filterMap_cons, never, ih]
    | .ok () :: checks => simp only [skips, ih]

theorem filterMap_endings {β : Type} {f : Ending → Option β}
    (one_sided : (∀ name e, f ⟨name, .skipped e⟩ = none) ∨
      ∀ name result, f ⟨name, .ofResult result⟩ = none)
    {collectors : List (Collector σ)} {checks results : List (Except Error Unit)}
    (answered : checks.length = collectors.length)
    (delivered : results.length = (admitted collectors checks).length) :
    (skips collectors checks ++ ended (admitted collectors checks) results).filterMap f =
      (endings (collectors.map (·.name)) checks results).filterMap f := by
  induction collectors generalizing checks results with
  | nil => simp [skips, admitted, ended, endings]
  | cons c rest ih =>
    match checks with
    | [] => contradiction
    | .error e :: checks =>
      have others := ih (Nat.succ.inj answered) delivered
      simp only [skips, admitted, endings, List.map_cons, List.cons_append, List.filterMap_cons]
      rw [others]
    | .ok () :: checks =>
      match results with
      | [] => contradiction
      | result :: results =>
        have others := ih (Nat.succ.inj answered) (Nat.succ.inj delivered)
        simp only [skips, admitted, endings, ended, List.map_cons, List.zipWith_cons_cons,
          List.filterMap_cons, List.filterMap_append] at others ⊢
        rw [← others]
        rcases one_sided with never | never
        · rw [filterMap_skips never]
          rfl
        · rw [never]

theorem length_deliveries (store : ObjectStore σ) (d : Destination) {supported : List (Collector σ)}
    {outcomes : List (Except Error Unit)} (same : outcomes.length = supported.length)
    (s : ExportState σ) :
    (each (deliver store d) (supported.zip outcomes) s).1.length = supported.length := by
  simp [same]

theorem settleAll_passOf (store : ObjectStore σ) (d : Destination) {collectors : List (Collector σ)}
    {checks outcomes : List (Except Error Unit)} (answered : checks.length = collectors.length)
    (gathered : outcomes.length = (admitted collectors checks).length) (s : ExportState σ) :
    let deliveries := each (deliver store d) ((admitted collectors checks).zip outcomes) s
    settleAll store d ((admitted collectors checks).zip outcomes)
        (empty.noting (skips collectors checks)) s =
      (passOf (endings (collectors.map (·.name)) checks deliveries.1), deliveries.2) := by
  intro deliveries
  have delivered : deliveries.1.length = (admitted collectors checks).length :=
    length_deliveries store d gathered s
  rw [settleAll_eq store d gathered, noting_append, ← noting_empty]
  congr 1
  refine noting_congr ?_ ?_ ?_ empty
  · exact filterMap_endings (.inl fun _ _ => rfl) answered delivered
  · refine filterMap_endings (.inr fun name result => ?_) answered delivered
    cases result <;> rfl
  · exact filterMap_endings (.inl fun _ _ => rfl) answered delivered

theorem run_eq (store : ObjectStore σ) (d : Destination) (collectors : List (Collector σ))
    (s : ExportState σ) :
    let checks := each check collectors s
    let supported := admitted collectors checks.1
    let outcomes := each collect supported checks.2
    let deliveries := each (deliver store d) (supported.zip outcomes.1) outcomes.2
    run store d collectors s =
      (passOf (endings (collectors.map (·.name)) checks.1 deliveries.1), deliveries.2) := by
  intro checks supported outcomes deliveries
  simp only [run, checkAll_eq]
  exact settleAll_passOf store d (Request.length_each collectors s)
    (Request.length_each supported checks.2) outcomes.2

end Pass

section
variable {α : Type}

/-- What has arrived from everyone, in the order of their places. It comes to nothing as long as one
is missing. -/
def joined (n : Nat) (arrived : List (Nat × α)) : Option (List α) :=
  ((List.range n).map fun i => arrived.lookup i).mapM id

theorem map_lookup_zip {places : List Nat} {outcomes : List α} (distinct : places.Nodup)
    (same : outcomes.length = places.length) :
    places.map (fun i => (places.zip outcomes).lookup i) = outcomes.map some := by
  induction places generalizing outcomes with
  | nil => simpa using same
  | cons i rest ih =>
    match outcomes with
    | [] => contradiction
    | outcome :: outcomes =>
      obtain ⟨fresh, distinct⟩ := List.nodup_cons.mp distinct
      have others : rest.map (fun j => ((i :: rest).zip (outcome :: outcomes)).lookup j) =
          rest.map fun j => (rest.zip outcomes).lookup j := by
        refine List.map_congr_left fun j member => ?_
        have other : (j == i) = false := by
          rw [beq_eq_false_iff_ne]
          exact fun same => fresh (same ▸ member)
        rw [List.zip_cons_cons, List.lookup_cons, other]
      rw [List.map_cons, others, ih distinct (Nat.succ.inj same)]
      simp

theorem filterMap_range (l : List α) : (List.range l.length).filterMap (l[·]?) = l := by
  induction l using List.reverseRecOn with
  | nil => rfl
  | append_singleton l last ih =>
    have former : ∀ i ∈ List.range l.length, (l ++ [last])[i]? = l[i]? := fun i inside =>
      List.getElem?_append_left (List.mem_range.mp inside)
    rw [List.length_append, List.length_singleton, List.range_succ, List.filterMap_append,
      List.filterMap_congr former, ih]
    simp

theorem map_getElem?_some {order : List Nat} {table : List α}
    (inside : ∀ i ∈ order, i < table.length) :
    order.map (table[·]?) = (order.filterMap (table[·]?)).map some := by
  induction order with
  | nil => rfl
  | cons i rest ih =>
    have here : i < table.length := inside i List.mem_cons_self
    simp [here, ih fun j member => inside j (List.mem_cons_of_mem i member)]

/-- Once all have finished, in whatever order, everyone's outcome stands in its place. -/
theorem joined_of_finished {order : List Nat} {table : List α}
    (finished : order.Perm (List.range table.length)) :
    joined table.length (order.zip (order.filterMap (table[·]?))) = some table := by
  have inside : ∀ i ∈ order, i < table.length := fun i member =>
    List.mem_range.mp (finished.mem_iff.mp member)
  have everyone := map_getElem?_some inside
  have size : (order.filterMap (table[·]?)).length = order.length := by
    simpa using (congrArg List.length everyone).symm
  have arrived := map_lookup_zip (finished.nodup_iff.mpr List.nodup_range) size
  rw [← everyone, List.map_inj_left] at arrived
  have here : ∀ i ∈ List.range table.length,
      (order.zip (order.filterMap (table[·]?))).lookup i = table[i]? :=
    fun i member => arrived i (finished.mem_iff.mpr member)
  have whole : (List.range table.length).map (table[·]?) = table.map some := by
    rw [map_getElem?_some fun i => List.mem_range.mp, filterMap_range]
  rw [joined, List.map_congr_left here, whole, mapM_map_some]

theorem exists_table {order : List Nat} {outcomes : List α}
    (finished : order.Perm (List.range outcomes.length)) :
    ∃ table : List α, table.length = outcomes.length ∧ order.filterMap (table[·]?) = outcomes := by
  have distinct : order.Nodup := finished.nodup_iff.mpr List.nodup_range
  have size : outcomes.length = order.length := by rw [finished.length_eq, List.length_range]
  have arrived := map_lookup_zip distinct size
  have present : ∀ o ∈ (List.range outcomes.length).map fun i => (order.zip outcomes).lookup i,
      o.isSome := by
    refine List.forall_mem_map.mpr fun i inside => ?_
    have member : (order.zip outcomes).lookup i ∈ outcomes.map some :=
      arrived ▸ List.mem_map_of_mem (finished.mem_iff.mpr inside)
    obtain ⟨outcome, -, here⟩ := List.mem_map.mp member
    rw [← here]
    rfl
  obtain ⟨table, places⟩ := exists_eq_map_some present
  have length : table.length = outcomes.length := by
    simpa using (congrArg List.length places).symm
  refine ⟨table, length, ?_⟩
  have found : ∀ i ∈ order, table[i]? = (order.zip outcomes).lookup i := by
    intro i member
    have inside : i < outcomes.length := List.mem_range.mp (finished.mem_iff.mp member)
    have here := congrArg (·[i]?) places
    simpa [inside, length, eq_comm] using here
  have all : order.map (table[·]?) = outcomes.map some :=
    (List.map_congr_left found).trans arrived
  have collapsed := congrArg (List.filterMap id) all
  simpa [List.filterMap_map, Function.comp_def] using collapsed

end

namespace Pass

/-- The second round, if those that run at the same time finish in the given order. -/
def gather (supported : List (Collector σ)) (order : List Nat) :
    Request (ExportState σ) (Option (List (Except Error Unit))) := fun s =>
  let (outcomes, s) := each collect (order.filterMap (supported[·]?)) s
  (joined supported.length (order.zip outcomes), s)

/-- A pass in which the collectors that run at the same time finish in the given order. It comes to
nothing as long as one of them has not finished. -/
def runFinishing (store : ObjectStore σ) (d : Destination) (order : List Nat)
    (collectors : List (Collector σ)) : Request (ExportState σ) (Option Pass) := fun s =>
  let ((supported, p), s) := checkAll collectors empty s
  match gather supported order s with
  | (none, s) => (none, s)
  | (some outcomes, s) =>
    let (p, s) := settleAll store d (supported.zip outcomes) p s
    (some p, s)

end Pass

def Finishes (order : List Nat) (collectors : List (Collector σ)) (s : ExportState σ) : Prop :=
  order.Perm (List.range (Pass.checkAll collectors .empty s).1.1.length)

theorem Pass.run_eq_runFinishing (store : ObjectStore σ) (d : Destination)
    (collectors : List (Collector σ)) (s : ExportState σ) :
    ∃ order, Finishes order collectors s ∧
      runFinishing store d order collectors s =
        (some (run store d collectors s).1, (run store d collectors s).2) := by
  refine ⟨_, .refl _, ?_⟩
  simp only [runFinishing, run, gather, filterMap_range]
  generalize checkAll collectors empty s = checked
  obtain ⟨⟨supported, p⟩, t⟩ := checked
  have size : (each collect supported t).1.length = supported.length :=
    Request.length_each supported t
  dsimp only
  generalize each collect supported t = gathered at size ⊢
  obtain ⟨outcomes, u⟩ := gathered
  have all := joined_of_finished (.refl (List.range outcomes.length))
  rw [filterMap_range] at all
  dsimp only at size ⊢
  rw [← size, all]

/-- What there is to know of a pass: the answers of its first two rounds, and the endings. -/
theorem Pass.runFinishing_eq (store : ObjectStore σ) (d : Destination) {order : List Nat}
    {collectors supported : List (Collector σ)} {s t u : ExportState σ}
    {checks table : List (Except Error Unit)} (checked : each check collectors s = (checks, t))
    (admits : admitted collectors checks = supported)
    (gathered : gather supported order t = (some table, u))
    (size : table.length = supported.length) :
    let deliveries := each (deliver store d) (supported.zip table) u
    runFinishing store d order collectors s =
      (some (passOf (endings (collectors.map (·.name)) checks deliveries.1)), deliveries.2) := by
  subst admits
  have answered : checks.length = collectors.length := by
    rw [← Request.length_each collectors s, checked]
  have settled := settleAll_passOf store d answered size u
  simp only [runFinishing, checkAll_eq, checked, gathered]
  exact congrArg (fun after => (some after.1, after.2)) settled

section
variable {τ : Type} {R : ExportState σ → ExportState τ → Prop} {f : Collector τ → Collector σ}
  {first : ObjectStore σ} {second : ObjectStore τ} {d : Destination}

/-- Two ways to look at collectors, on related hosts: both give the same answers. -/
structure Mirrors (R : ExportState σ → ExportState τ → Prop) (first : ObjectStore σ)
    (second : ObjectStore τ) (d : Destination) (f : Collector τ → Collector σ) : Prop where
  named : ∀ c, (f c).name = c.name
  check : ∀ c, Request.Agree R (Pass.check (f c)) (Pass.check c)
  collect : ∀ c, Request.Agree R (Pass.collect (f c)) (Pass.collect c)
  deliver : ∀ c collected, Request.Agree R (deliver first d (f c, collected))
    (deliver second d (c, collected))

namespace Mirrors
variable (h : Mirrors R first second d f)
include h

theorem skips_map (collectors : List (Collector τ)) (checks : List (Except Error Unit)) :
    Pass.skips (collectors.map f) checks = Pass.skips collectors checks := by
  induction collectors generalizing checks with
  | nil => simp [Pass.skips]
  | cons c rest ih =>
    match checks with
    | [] => rfl
    | .ok () :: checks => simp only [List.map_cons, Pass.skips, ih]
    | .error e :: checks => simp only [List.map_cons, Pass.skips, ih, h.named]

theorem gather (supported : List (Collector τ)) (order : List Nat) :
    Request.Agree R (Pass.gather (supported.map f) order) (Pass.gather supported order) := by
  have asked : order.filterMap ((supported.map f)[·]?) =
      (order.filterMap (supported[·]?)).map f := by simp [List.map_filterMap]
  intro s t related
  obtain ⟨same, after⟩ := Request.Agree.each_map
    (fun c (_ : c ∈ order.filterMap (supported[·]?)) => h.collect c) s t related
  simp only [Pass.gather, asked, same, List.length_map]
  exact ⟨trivial, after⟩

theorem settleAll (supported : List (Collector τ)) (outcomes : List (Except Error Unit))
    (p : Pass) : Request.Agree R (Pass.settleAll first d ((supported.map f).zip outcomes) p)
      (Pass.settleAll second d (supported.zip outcomes) p) := by
  induction supported generalizing outcomes p with
  | nil => exact Request.Agree.always R p
  | cons c rest ih =>
    cases outcomes with
    | nil => exact Request.Agree.always R p
    | cons collected outcomes =>
      intro s t related
      obtain ⟨same, after⟩ := h.deliver c collected s t related
      simp only [List.map_cons, List.zip_cons_cons, Pass.settleAll, Pass.settle_eq, h.named, same]
      exact ih outcomes _ _ _ after

theorem runFinishing (order : List Nat) (collectors : List (Collector τ)) :
    Request.Agree R (Pass.runFinishing first d order (collectors.map f))
      (Pass.runFinishing second d order collectors) := by
  intro s t related
  obtain ⟨answers, after⟩ := Request.Agree.each_map
    (fun c (_ : c ∈ collectors) => h.check c) s t related
  simp only [Pass.runFinishing, Pass.checkAll_eq, answers, admitted_map, h.skips_map]
  generalize admitted collectors _ = supported
  generalize Pass.noting _ _ = p
  obtain ⟨same, gathered⟩ := h.gather supported order _ _ after
  generalize Pass.gather (supported.map f) order _ = here at same gathered ⊢
  generalize Pass.gather supported order _ = there at same gathered ⊢
  obtain ⟨outcomes, s'⟩ := here
  obtain ⟨outcomes', t'⟩ := there
  cases same
  cases outcomes with
  | none => exact ⟨rfl, gathered⟩
  | some outcomes =>
    obtain ⟨same, last⟩ := h.settleAll supported outcomes p s' t' gathered
    exact ⟨congrArg some same, last⟩

end Mirrors
end

def Collector.recorded (c : Collector σ) : Collector (Log σ) where
  name := c.name
  checkSupported := noted (.checked c.name) c.checkSupported
  collect := noted (.collected c.name) c.collect
  data := noted (.asked c.name) c.data

/-- That the deeds are written down makes no difference to a pass. -/
theorem recorded_mirrors (store : ObjectStore σ) (d : Destination) :
    Mirrors (ExportState.Like HostOf) (recorded store) store d Collector.recorded where
  named _ := rfl
  check _ := ExportState.ask_agree (noted_agree _ _)
  collect _ := ExportState.ask_agree (noted_agree _ _)
  deliver c collected := by
    cases collected with
    | error e => exact Request.Agree.always _ _
    | ok =>
      have same := (Export.recorded_simulates store).alike d
      exact same.exportItems (ExportState.ask_agree (noted_agree _ _))

end NodeDiagnostics.Collection
