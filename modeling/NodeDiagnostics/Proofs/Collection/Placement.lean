import NodeDiagnostics.Proofs.Collection.Fates

/-!
Where a pass puts each collector, and why. Everything that is asked is written down, so that the
deeds of each collector's turn can be told from those of the others.
-/
namespace NodeDiagnostics.Collection

open Export (ExportState ObjectStore Destination Deed Log Held Course Task recorded)
open Request (each)

/-- How far a collector came in a pass, and what its export did. -/
inductive Turn where
  | skipped (e : Error)
  | uncollected (e : Error)
  | exported (result : Except Error Unit) (deeds : List Deed)

structure Part where
  name : String
  turn : Turn

namespace Part

def fate (p : Part) : Fate :=
  match p.turn with
  | .skipped e => .skipped e
  | .uncollected e => .failed e
  | .exported result _ => .ofResult result

def ending (p : Part) : Ending := ⟨p.name, p.fate⟩

def checked (p : Part) : Deed :=
  .checked p.name <| match p.turn with
    | .skipped e => .error e
    | _ => .ok ()

def collected? (p : Part) : Option Deed :=
  match p.turn with
  | .skipped _ => none
  | .uncollected e => some (.collected p.name (.error e))
  | .exported .. => some (.collected p.name (.ok ()))

def deeds (p : Part) : List Deed :=
  match p.turn with
  | .exported _ deeds => deeds
  | _ => []

end Part

/-- What decides the end of a collector, of which the export comes after the earlier deeds. -/
structure Judged (d : Destination) (earlier : List Deed) (p : Part) : Prop where
  course : ∀ result added, p.turn = .exported result added →
    Course d earlier (.items p.name) result added
  skipped : ∀ e, p.fate = .skipped e ↔ p.checked = .checked p.name (.error e)
  asked : ∀ producer, (∃ answer, .asked producer answer ∈ p.deeds) ↔ producer = p.name ∧
    p.collected? = some (.collected p.name (.ok ())) ∧ Held (earlier ++ p.deeds)
  succeeded : p.fate = .succeeded ↔
    p.collected? = some (.collected p.name (.ok ())) ∧ Held (earlier ++ p.deeds) ∧
      ∃ items, .asked p.name (.ok items) ∈ p.deeds ∧ ∀ item content, items[item]? = some content →
        .put (d.key item) (Text.utf8 content) (.ok ()) ∈ p.deeds

theorem Fate.ofResult_eq_succeeded_iff (result : Except Error Unit) :
    Fate.ofResult result = .succeeded ↔ result = .ok () := by
  cases result <;> simp [Fate.ofResult]

theorem Fate.ofResult_ne_skipped (result : Except Error Unit) (e : Error) :
    Fate.ofResult result ≠ .skipped e := by
  cases result <;> simp [Fate.ofResult]

theorem judged_skipped (d : Destination) (earlier : List Deed) (name : String) (e : Error) :
    Judged d earlier ⟨name, .skipped e⟩ where
  course _ _ impossible := by cases impossible
  skipped := by simp [Part.fate, Part.checked]
  asked := by simp [Part.deeds, Part.collected?]
  succeeded := by simp [Part.fate, Part.collected?]

theorem judged_uncollected (d : Destination) (earlier : List Deed) (name : String) (e : Error) :
    Judged d earlier ⟨name, .uncollected e⟩ where
  course _ _ impossible := by cases impossible
  skipped := by simp [Part.fate, Part.checked]
  asked := by simp [Part.deeds, Part.collected?]
  succeeded := by simp [Part.fate, Part.collected?]

theorem judged_exported {d : Destination} {earlier added : List Deed} {name : String}
    {result : Except Error Unit} (course : Course d earlier (.items name) result added) :
    Judged d earlier ⟨name, .exported result added⟩ where
  course _ _ same := by
    cases same
    exact course
  skipped := by simp [Part.fate, Part.checked, Fate.ofResult_ne_skipped]
  asked producer := by
    simp only [Part.deeds, Part.collected?, true_and, ← course.asked_iff]
    constructor
    · rintro ⟨answer, asked⟩
      cases course.asks asked
      exact ⟨rfl, answer, asked⟩
    · rintro ⟨rfl, asked⟩
      exact asked
  succeeded := by
    simp only [Part.fate, Part.collected?, Part.deeds, true_and, Fate.ofResult_eq_succeeded_iff]
    exact course.complete_iff

def Judge (d : Destination) (earlier : List Deed) (parts : List Part) : Prop :=
  ∀ before part after, parts = before ++ part :: after →
    Judged d (earlier ++ before.flatMap Part.deeds) part

theorem judge_nil (d : Destination) (earlier : List Deed) : Judge d earlier [] :=
  fun before part after split => by simp at split

theorem Judge.cons {d : Destination} {earlier : List Deed} {p : Part} {parts : List Part}
    (first : Judged d earlier p) (rest : Judge d (earlier ++ p.deeds) parts) :
    Judge d earlier (p :: parts) := by
  intro before part after split
  cases before with
  | nil =>
    obtain ⟨rfl, -⟩ := List.cons.inj split
    simpa using first
  | cons other before =>
    obtain ⟨rfl, others⟩ := List.cons.inj split
    simpa [List.append_assoc] using rest before part after others

variable {σ : Type}

/-- How those end that were supported, and what is left to say of the others. -/
structure Apportioned (collectors : List (Collector σ))
    (checks outcomes results : List (Except Error Unit)) (parts : List Part) : Prop where
  everyone : parts.map Part.name = collectors.map (·.name)
  checked : parts.map Part.checked =
    List.zipWith (fun c answer => .checked c.name answer) collectors checks
  collected : parts.filterMap Part.collected? =
    List.zipWith (fun c answer => .collected c.name answer) (admitted collectors checks) outcomes
  ended : parts.map Part.ending = endings (collectors.map (·.name)) checks results

namespace Apportioned

variable {c : Collector σ} {rest : List (Collector σ)}
  {checks outcomes results : List (Except Error Unit)} {parts : List Part}

theorem skipped (e : Error) (shares : Apportioned rest checks outcomes results parts) :
    Apportioned (c :: rest) (.error e :: checks) outcomes results
      (⟨c.name, .skipped e⟩ :: parts) where
  everyone := by simp [shares.everyone]
  checked := by simp [shares.checked, Part.checked]
  collected := shares.collected
  ended := by simpa [Part.ending, Part.fate, endings] using shares.ended

theorem uncollected (e : Error) (shares : Apportioned rest checks outcomes results parts) :
    Apportioned (c :: rest) (.ok () :: checks) (.error e :: outcomes) (.error e :: results)
      (⟨c.name, .uncollected e⟩ :: parts) where
  everyone := by simp [shares.everyone]
  checked := by simp [shares.checked, Part.checked]
  collected := by simp [shares.collected, Part.collected?, admitted]
  ended := by simp [Part.ending, Part.fate, endings, Fate.ofResult, shares.ended]

theorem exported (result : Except Error Unit) (added : List Deed)
    (shares : Apportioned rest checks outcomes results parts) :
    Apportioned (c :: rest) (.ok () :: checks) (.ok () :: outcomes) (result :: results)
      (⟨c.name, .exported result added⟩ :: parts) where
  everyone := by simp [shares.everyone]
  checked := by simp [shares.checked, Part.checked]
  collected := by simp [shares.collected, Part.collected?, admitted]
  ended := by simp [Part.ending, Part.fate, endings, shares.ended]

end Apportioned

theorem settle_parts (store : ObjectStore σ) (d : Destination) {collectors : List (Collector σ)}
    {checks outcomes : List (Except Error Unit)} (answered : checks.length = collectors.length)
    (gathered : outcomes.length = (admitted collectors checks).length)
    {s : ExportState (Log σ)} (aware : s.Aware) :
    let after := each (deliver (recorded store) d)
      (((admitted collectors checks).map Collector.recorded).zip outcomes) s
    ∃ parts, Apportioned collectors checks outcomes after.1 parts ∧
      after.2.deeds = s.deeds ++ parts.flatMap Part.deeds ∧ Judge d s.deeds parts := by
  induction collectors generalizing checks outcomes s with
  | nil =>
    refine ⟨[], ⟨rfl, by simp, by simp [admitted], by simp [endings]⟩, ?_, judge_nil d s.deeds⟩
    simp [admitted, each]
  | cons c rest ih =>
    obtain ⟨answer, checks, rfl⟩ := List.exists_cons_of_length_eq_add_one answered
    have others := Nat.succ.inj answered
    rcases answer with e | ⟨⟩
    · obtain ⟨parts, shares, deeds, judge⟩ := ih others gathered aware
      refine ⟨_, shares.skipped e, by simpa [Part.deeds, admitted] using deeds, ?_⟩
      exact .cons (judged_skipped d _ c.name e) (by simpa [Part.deeds] using judge)
    obtain ⟨outcome, outcomes, rfl⟩ := List.exists_cons_of_length_eq_add_one gathered
    have behind := Nat.succ.inj gathered
    rcases outcome with e | ⟨⟩
    · obtain ⟨parts, shares, deeds, judge⟩ := ih others behind aware
      refine ⟨_, shares.uncollected e, ?_, ?_⟩
      · simpa [Part.deeds, admitted, each, deliver, Request.always] using deeds
      · exact .cons (judged_uncollected d _ c.name e) (by simpa [Part.deeds] using judge)
    · rcases exported : deliver (recorded store) d (c.recorded, .ok ()) s with ⟨result, t⟩
      obtain ⟨added, course, entered, aware'⟩ :=
        ExportState.exportItems_course store d aware exported
      obtain ⟨parts, shares, deeds, judge⟩ := ih others behind aware'
      refine ⟨⟨c.name, .exported result added⟩ :: parts, ?_, ?_, ?_⟩
      · simpa [admitted, each, exported] using shares.exported result added
      · simp [Part.deeds, admitted, each, exported, deeds, entered]
      · exact .cons (judged_exported course) (by simpa [Part.deeds, ← entered] using judge)

theorem check_deeds (collectors : List (Collector σ)) {s : ExportState (Log σ)} (aware : s.Aware) :
    let after := each Pass.check (collectors.map Collector.recorded) s
    after.2.deeds = s.deeds ++
        List.zipWith (fun c answer => .checked c.name answer) collectors after.1 ∧
      after.2.Aware := by
  rw [Request.each_map]
  obtain ⟨entered, ready⟩ :=
    ExportState.each_noted (fun c => .checked c.name) (·.checkSupported) collectors s
  refine ⟨entered, aware.append ready entered fun answer member => ?_⟩
  obtain ⟨c, given, other⟩ := exists_of_mem_zipWith member
  cases other

theorem collect_deeds (running : List (Collector σ)) {s : ExportState (Log σ)} (aware : s.Aware) :
    let after := each Pass.collect (running.map Collector.recorded) s
    after.2.deeds = s.deeds ++
        List.zipWith (fun c answer => .collected c.name answer) running after.1 ∧
      after.2.Aware := by
  rw [Request.each_map]
  obtain ⟨entered, ready⟩ :=
    ExportState.each_noted (fun c => .collected c.name) (·.collect) running s
  refine ⟨entered, aware.append ready entered fun answer member => ?_⟩
  obtain ⟨c, given, other⟩ := exists_of_mem_zipWith member
  cases other

theorem filterMap_zipWith {α β γ : Type} (f : α → β → γ) {l : List α} {l' : List β}
    (same : l.length = l'.length) (order : List Nat) :
    List.zipWith f (order.filterMap (l[·]?)) (order.filterMap (l'[·]?)) =
      order.filterMap ((List.zipWith f l l')[·]?) := by
  induction order with
  | nil => rfl
  | cons i rest ih =>
    by_cases inside : i < l.length
    · have inside' : i < l'.length := same ▸ inside
      simp [inside, inside', ih]
    · have outside' : ¬ i < l'.length := same ▸ inside
      simp [inside, outside', ih]

/-- Each of those that run at the same time is collected from once. -/
theorem gather_deeds {supported : List (Collector σ)} {order : List Nat}
    (finished : order.Perm (List.range supported.length)) {s : ExportState (Log σ)}
    (aware : s.Aware) : ∃ table t gathered,
      Pass.gather (supported.map Collector.recorded) order s = (some table, t) ∧
      table.length = supported.length ∧
      t.deeds = s.deeds ++ gathered ∧ t.Aware ∧
      gathered.Perm (List.zipWith (fun c answer => .collected c.name answer) supported table) := by
  let running := order.filterMap (supported[·]?)
  have asked : order.filterMap ((supported.map Collector.recorded)[·]?) =
      running.map Collector.recorded := by simp [running, List.map_filterMap]
  let arrivals := each Pass.collect (running.map Collector.recorded) s
  obtain ⟨entered, aware'⟩ := collect_deeds running aware
  have number : arrivals.1.length = supported.length := by
    simp [arrivals, running, (finished.filterMap _).length_eq, filterMap_range]
  obtain ⟨table, size, arrived⟩ := exists_table (number ▸ finished)
  rw [number] at size
  refine ⟨table, arrivals.2, _, ?_, size, entered, aware', ?_⟩
  · have all := joined_of_finished (size ▸ finished)
    rw [arrived, size] at all
    simp only [Pass.gather, asked, List.length_map]
    exact congrArg (·, arrivals.2) all
  · let deeds := List.zipWith (fun (c : Collector σ) answer => Deed.collected c.name answer)
      supported table
    have whole : (List.range supported.length).filterMap (deeds[·]?) = deeds := by
      have length : deeds.length = supported.length := by simp [deeds, size]
      rw [← length, filterMap_range]
    have shuffled := finished.filterMap (deeds[·]?)
    rw [whole, ← filterMap_zipWith _ size.symm order, arrived] at shuffled
    exact shuffled

/-- A pass that leaves no collector out, mixes none up and counts none twice: in its first round all
are asked whether they are supported, in the second those that are gather what they have, each once,
and in the third what was gathered is exported. -/
structure Placed (d : Destination) (earlier : List Deed) (collectors : List (Collector σ))
    (p : Pass) (parts : List Part) (later : List Deed) : Prop where
  everyone : parts.map Part.name = collectors.map (·.name)
  rounds : ∃ gathered, gathered.Perm (parts.filterMap Part.collected?) ∧
    later = earlier ++ parts.map Part.checked ++ gathered ++ parts.flatMap Part.deeds ∧
    Judge d (earlier ++ parts.map Part.checked ++ gathered) parts
  report : p.report = reportOf (parts.map Part.ending)
  number : p.report.succeeded.length + p.report.skipped.length + p.report.failed.length =
    collectors.length
  failures : p.report.failed = p.failures.map Failure.reported
  message : p.message? = none ↔ p.report.failed = []

theorem length_reportOf (endings : List Ending) :
    (reportOf endings).succeeded.length + (reportOf endings).skipped.length +
      (reportOf endings).failed.length = endings.length := by
  simp only [reportOf, List.length_map]
  induction endings with
  | nil => rfl
  | cons e rest ih =>
    obtain ⟨name, fate⟩ := e
    simp only [List.filterMap_cons, Ending.success?, Ending.skip?, Ending.failure?]
    cases fate <;> simp only [List.length_cons] <;> omega

theorem passOf_message (endings : List Ending) :
    (passOf endings).message? = none ↔ (passOf endings).report.failed = [] := by
  simp [Pass.message?, passOf, reportOf]

theorem runFinishing_placed (store : ObjectStore σ) (d : Destination)
    {collectors : List (Collector σ)} {order : List Nat} {s : ExportState (Log σ)} (aware : s.Aware)
    (finishes : Finishes order collectors s.unrecorded) : ∃ p t parts,
      Pass.runFinishing (recorded store) d order (collectors.map Collector.recorded) s =
        (some p, t) ∧ Placed d s.deeds collectors p parts t.deeds := by
  obtain ⟨same, -⟩ := Request.Agree.each_map
    (fun c (_ : c ∈ collectors) => (recorded_mirrors store d).check c)
    s _ (ExportState.like_unrecorded s)
  let checks := each Pass.check (collectors.map Collector.recorded) s
  have supported : admitted (collectors.map Collector.recorded) checks.1 =
      (admitted collectors checks.1).map Collector.recorded := admitted_map _ _ _
  have answered : checks.1.length = collectors.length := by simp [checks]
  have finished : order.Perm (List.range (admitted collectors checks.1).length) := by
    rwa [Finishes, Pass.checkAll_eq, ← same] at finishes
  obtain ⟨asked, aware'⟩ := check_deeds collectors aware
  obtain ⟨table, t, gathered, all, size, entered, aware'', each_once⟩ :=
    gather_deeds finished aware'
  obtain ⟨parts, shares, deeds, judge⟩ := settle_parts store d answered size aware''
  let deliveries := each (deliver (recorded store) d)
    (((admitted collectors checks.1).map Collector.recorded).zip table) t
  have names : (collectors.map Collector.recorded).map (·.name) = collectors.map (·.name) := by
    simp [Collector.recorded, Function.comp_def]
  have ran : Pass.runFinishing (recorded store) d order (collectors.map Collector.recorded) s =
      (some (passOf (parts.map Part.ending)), deliveries.2) := by
    rw [shares.ended, ← names]
    exact Pass.runFinishing_eq (recorded store) d rfl supported all (by simp [size])
  have later : t.deeds = s.deeds ++ parts.map Part.checked ++ gathered := by
    rw [entered, asked, shares.checked]
  refine ⟨_, _, parts, ran, ⟨shares.everyone, ⟨gathered, ?_, ?_, ?_⟩, rfl, ?_, rfl, ?_⟩⟩
  · rw [shares.collected]
    exact each_once
  · rw [deeds, later]
  · exact later ▸ judge
  · have number := length_reportOf (parts.map Part.ending)
    have count := congrArg List.length shares.everyone
    simp only [List.length_map] at number count
    exact number.trans count
  · exact passOf_message _

/-- After any calls of the exporter, a pass over any collectors puts each where it belongs, in
whatever order those that run at the same time finish; one of those orders is that in which they are
listed. -/
theorem everyone_placed (store : ObjectStore σ) (d : Destination) (s : σ)
    (past : List (Export.Call σ)) (collectors : List (Collector σ)) :
    let before := (ExportState.performAll (recorded store) d (past.map Export.Call.recorded)
      (.initial ([], s))).2
    (∃ order, Finishes order collectors before.unrecorded ∧
      Pass.runFinishing store d order collectors before.unrecorded =
        (some (Pass.run store d collectors before.unrecorded).1,
          (Pass.run store d collectors before.unrecorded).2)) ∧
    ∀ order, Finishes order collectors before.unrecorded → ∃ p after parts,
      Pass.runFinishing (recorded store) d order (collectors.map Collector.recorded) before =
        (some p, after) ∧
      Pass.runFinishing store d order collectors before.unrecorded = (some p, after.unrecorded) ∧
      Placed d before.deeds collectors p parts after.deeds := by
  intro before
  have aware : before.Aware := (ExportState.performAll_orderly store d past
    (ExportState.initial_aware s) Export.orderly_nil).1
  refine ⟨Pass.run_eq_runFinishing store d collectors before.unrecorded, fun order finishes => ?_⟩
  obtain ⟨p, after, parts, ran, placed⟩ := runFinishing_placed store d aware finishes
  have plain := ExportState.unrecorded_of_agree
    ((recorded_mirrors store d).runFinishing order collectors) before
  rw [ran] at plain
  exact ⟨p, after, parts, ran, plain, placed⟩

end NodeDiagnostics.Collection
