import NodeDiagnostics.Collection.GadgetTrace
import NodeDiagnostics.Proofs.Collection.Fates
import NodeDiagnostics.Proofs.Text.Words
import NodeDiagnostics.Trace.Run

/-!
Collectors that a deployment leaves out. Each of them has one word that leaves it out: a trace its
own name, and what works through the cluster's API the name of that group. If the word is listed the
collector is skipped before the cluster is asked anything, and if it is not, the list has no part in
what becomes of the collector.
-/
namespace NodeDiagnostics.Collection

open Export (ExportState ObjectStore Destination Deed Log noted)
open Request (each)

inductive Shipped where
  | dnsTrace
  | tcpTrace
  | consumption
  | gadgetTrace (g : GadgetTrace)

variable {σ : Type}

namespace Shipped

def name : Shipped → String
  | dnsTrace => Trace.dnsName
  | tcpTrace => Trace.tcpName
  | consumption => Consumption.name
  | gadgetTrace g => g.name

def word : Shipped → String
  | dnsTrace => Trace.dnsName
  | tcpTrace => Trace.tcpName
  | consumption => clusterGroup
  | gadgetTrace _ => clusterGroup

def checkSupported (api : Cluster.Api σ) (settings : Settings) :
    Shipped → Request σ (Except Error Unit)
  | dnsTrace, s => (Trace.checkSupported settings Trace.dnsName, s)
  | tcpTrace, s => (Trace.checkSupported settings Trace.tcpName, s)
  | consumption, s => (Consumption.checkSupported settings, s)
  | gadgetTrace _, s => GadgetTrace.checkSupported api settings s

def collector (k : Shipped) (api : Cluster.Api σ) (settings : Settings)
    (collect : Request σ (Except Error Unit)) (data : Request σ (Except Error Export.Items)) :
    Collector σ :=
  ⟨k.name, k.checkSupported api settings, collect, data⟩

end Shipped

theorem excludes_iff {os : String} {lookup : String → Option String} {settings : Settings}
    {ws : List (List Char)} (read : Settings.ofVariables os lookup = .ok settings)
    (words : Text.Spaced ws ((lookup Settings.excludedVariable).getD "").toList) (word : String) :
    settings.excludes word = true ↔ word.toList ∈ ws := by
  have excluded : settings.excluded = ws.map String.ofList := by
    simp only [Settings.ofVariables] at read
    split at read
    · contradiction
    · cases read
      rw [Settings.wordsOf, words.words_eq]
  rw [Settings.excludes, List.contains_iff_mem, excluded, List.mem_map]
  constructor
  · rintro ⟨w, member, rfl⟩
    rwa [String.toList_ofList]
  · intro member
    exact ⟨word.toList, member, String.ofList_toList⟩

theorem checkIncluded_listed {settings : Settings} {word : String}
    (listed : settings.excludes word = true) :
    ∃ reason, settings.checkIncluded word = .error (.unsupported reason) := by
  rw [Settings.checkIncluded, if_pos listed]
  exact ⟨_, rfl⟩

theorem checkIncluded_unlisted {settings : Settings} {word : String}
    (unlisted : settings.excludes word = false) : settings.checkIncluded word = .ok () := by
  rw [Settings.checkIncluded, if_neg (by rw [unlisted]; exact Bool.false_ne_true)]

theorem checkLinux_eq (settings : Settings) : settings.checkLinux = .ok () ∨
    ∃ reason, settings.checkLinux = .error (.unsupported reason) := by
  rw [Settings.checkLinux]
  split
  · exact .inl rfl
  · exact .inr ⟨_, rfl⟩

theorem trace_refused {settings : Settings} {name : String} {e : Error}
    (refused : settings.checkIncluded name = .error e) :
    Trace.checkSupported settings name = .error e := by
  simp [Trace.checkSupported, refused, bind, Except.bind]

theorem trace_admitted {settings : Settings} {name : String}
    (admitted : settings.checkIncluded name = .ok ()) :
    Trace.checkSupported settings name = settings.checkLinux := by
  simp [Trace.checkSupported, admitted, bind, Except.bind]

theorem Shipped.checkSupported_listed {settings : Settings} {k : Shipped}
    (listed : settings.excludes k.word = true) : ∃ reason, ∀ (api : Cluster.Api σ) (host : σ),
      k.checkSupported api settings host = (.error (.unsupported reason), host) := by
  obtain ⟨reason, refused⟩ := checkIncluded_listed listed
  cases k with
  | dnsTrace => exact ⟨reason, fun api host => congrArg (·, host) (trace_refused refused)⟩
  | tcpTrace => exact ⟨reason, fun api host => congrArg (·, host) (trace_refused refused)⟩
  | consumption => exact ⟨reason, fun api host => congrArg (·, host) refused⟩
  | gadgetTrace g =>
    simp only [word] at refused
    -- on another system that is the reason, since a gadget asks for the system first
    rcases checkLinux_eq settings with linux | ⟨other, foreign⟩
    · refine ⟨reason, fun api host => ?_⟩
      simp [checkSupported, GadgetTrace.checkSupported, linux, refused, bind, Except.bind]
    · refine ⟨other, fun api host => ?_⟩
      simp [checkSupported, GadgetTrace.checkSupported, foreign, bind, Except.bind]

theorem Shipped.checkSupported_unlisted (api : Cluster.Api σ) {settings : Settings} {k : Shipped}
    (unlisted : settings.excludes k.word = false) :
    k.checkSupported api settings = k.checkSupported api { settings with excluded := [] } := by
  have admitted := checkIncluded_unlisted unlisted
  have free : Settings.checkIncluded { settings with excluded := [] } k.word = .ok () :=
    checkIncluded_unlisted rfl
  funext host
  cases k with
  | dnsTrace =>
    exact congrArg (·, host) ((trace_admitted admitted).trans (trace_admitted free).symm)
  | tcpTrace =>
    exact congrArg (·, host) ((trace_admitted admitted).trans (trace_admitted free).symm)
  | consumption => exact congrArg (·, host) (admitted.trans free.symm)
  | gadgetTrace g =>
    simp only [word] at admitted free
    simp only [checkSupported, GadgetTrace.checkSupported, admitted, free]
    rfl

/-- A cluster that grants whatever it is asked for. -/
def generous : Cluster.Api σ := ⟨fun _ => .always (.ok []), fun _ => .always (.ok [])⟩

theorem Shipped.checkSupported_generous {settings : Settings} {k : Shipped}
    (unlisted : settings.excludes k.word = false) (linux : settings.os = "linux") (host : σ) :
    k.checkSupported generous settings host = (.ok (), host) := by
  have admitted := checkIncluded_unlisted unlisted
  have native : settings.checkLinux = .ok () := by rw [Settings.checkLinux, if_pos linux]
  cases k with
  | dnsTrace => exact congrArg (·, host) ((trace_admitted admitted).trans native)
  | tcpTrace => exact congrArg (·, host) ((trace_admitted admitted).trans native)
  | consumption => exact congrArg (·, host) admitted
  | gadgetTrace g =>
    simp only [word] at admitted
    simp only [checkSupported, GadgetTrace.checkSupported, admitted, native, bind, Except.bind]
    rfl

/-- A pass that differs from another in one collector, which was found unsupported: nothing became
of it but an entry among those that were skipped. -/
structure PassesOver (name : String) (e : Error) (p q : Pass) : Prop where
  succeeded : p.report.succeeded = q.report.succeeded
  failed : p.report.failed = q.report.failed
  failures : p.failures = q.failures
  skipped : ∃ front back, q.report.skipped = front ++ back ∧
    p.report.skipped = front ++ ⟨name, e.message⟩ :: back

theorem passOf_unsupported (name : String) (e : Error) (before after : List Ending) :
    PassesOver name e (passOf (before ++ ⟨name, .skipped e⟩ :: after))
      (passOf (before ++ after)) where
  succeeded := by simp [passOf, reportOf, List.filterMap_cons, Ending.success?]
  failed := by simp [passOf, reportOf, List.filterMap_cons, Ending.failure?]
  failures := by simp [passOf, List.filterMap_cons, Ending.failure?]
  skipped := by
    refine ⟨before.filterMap Ending.skip?, after.filterMap Ending.skip?, ?_, ?_⟩
    · simp [passOf, reportOf]
    · simp [passOf, reportOf, List.filterMap_cons, Ending.skip?]

theorem endings_unsupported (c : Collector σ) (e : Error) (after : List (Collector σ))
    (checks' : List (Except Error Unit)) {before : List (Collector σ)}
    {checks results : List (Except Error Unit)} (answered : checks.length = before.length)
    (delivered : results.length = (admitted (before ++ after) (checks ++ checks')).length) :
    admitted (before ++ c :: after) (checks ++ .error e :: checks') =
        admitted (before ++ after) (checks ++ checks') ∧
      ∃ front back,
        endings ((before ++ after).map (·.name)) (checks ++ checks') results = front ++ back ∧
        endings ((before ++ c :: after).map (·.name)) (checks ++ .error e :: checks') results =
          front ++ ⟨c.name, .skipped e⟩ :: back := by
  induction before generalizing checks results with
  | nil =>
    cases List.length_eq_zero_iff.mp answered
    exact ⟨rfl, [], _, rfl, rfl⟩
  | cons b rest ih =>
    match checks with
    | [] => contradiction
    | .error reason :: checks =>
      obtain ⟨same, front, back, all, more⟩ := ih (Nat.succ.inj answered) delivered
      refine ⟨same, ⟨b.name, .skipped reason⟩ :: front, back, ?_, ?_⟩
      · exact congrArg (_ :: ·) all
      · exact congrArg (_ :: ·) more
    | .ok () :: checks =>
      match results with
      | [] => contradiction
      | result :: results =>
        obtain ⟨same, front, back, all, more⟩ :=
          ih (Nat.succ.inj answered) (Nat.succ.inj delivered)
        refine ⟨congrArg (b :: ·) same, ⟨b.name, .ofResult result⟩ :: front, back, ?_, ?_⟩
        · exact congrArg (_ :: ·) all
        · exact congrArg (_ :: ·) more

/-- A collector that is refused at once, whatever it would go on to do, leaves a pass and the host
as they are without it. -/
theorem run_unsupported (store : ObjectStore σ) (d : Destination) {c : Collector σ} {e : Error}
    (unsupported : ∀ s, c.checkSupported s = (.error e, s)) (before after : List (Collector σ))
    (s : ExportState σ) :
    PassesOver c.name e (Pass.run store d (before ++ c :: after) s).1
        (Pass.run store d (before ++ after) s).1 ∧
      (Pass.run store d (before ++ c :: after) s).2 =
        (Pass.run store d (before ++ after) s).2 := by
  have refused (t : ExportState σ) : Pass.check c t = (.error e, t) := by
    simp only [Pass.check, ExportState.ask, unsupported]
  let former := each Pass.check before s
  let latter := each Pass.check after former.2
  let supported := admitted (before ++ after) (former.1 ++ latter.1)
  let outcomes := each Pass.collect supported latter.2
  let deliveries := each (deliver store d) (supported.zip outcomes.1) outcomes.2
  have answered : former.1.length = before.length := Request.length_each before s
  have delivered : deliveries.1.length = supported.length := by simp [deliveries, outcomes]
  obtain ⟨same, front, back, all, more⟩ := endings_unsupported c e after latter.1 answered delivered
  have asked : each Pass.check (before ++ c :: after) s =
      (former.1 ++ .error e :: latter.1, latter.2) := by
    simp only [Request.each_append, each, refused, former, latter]
  have asked' : each Pass.check (before ++ after) s = (former.1 ++ latter.1, latter.2) :=
    Request.each_append before after s
  have ran := Pass.run_eq store d (before ++ c :: after) s
  have ran' := Pass.run_eq store d (before ++ after) s
  simp only [asked, same] at ran
  simp only [asked'] at ran'
  rw [ran, ran', all, more]
  exact ⟨passOf_unsupported c.name e front back, rfl⟩

section
variable {os : String} {lookup : String → Option String} {settings : Settings}
  {ws : List (List Char)}

/-- A collector whose word is one of the words of the list is not supported, whatever the cluster
would answer, and a pass skips it: whatever it would do to collect and to export, the pass is apart
from that the one without it, and so is the host that it leaves. To a collector whose word is not
among them the list is as good as empty. So on Linux it is refused by every cluster exactly if its
word is listed. -/
theorem listed_skipped (read : Settings.ofVariables os lookup = .ok settings)
    (words : Text.Spaced ws ((lookup Settings.excludedVariable).getD "").toList) (k : Shipped) :
    (k.word.toList ∈ ws → ∃ reason, ∀ api : Cluster.Api σ,
      (∀ host, k.checkSupported api settings host = (.error (.unsupported reason), host)) ∧
      ∀ (store : ObjectStore σ) (d : Destination) (before after : List (Collector σ))
        (collect : Request σ (Except Error Unit)) (data : Request σ (Except Error Export.Items))
        (s : ExportState σ),
        let pass := Pass.run store d (before ++ k.collector api settings collect data :: after) s
        let without := Pass.run store d (before ++ after) s
        PassesOver k.name (.unsupported reason) pass.1 without.1 ∧ pass.2 = without.2) ∧
    (k.word.toList ∉ ws → ∀ api : Cluster.Api σ,
      k.checkSupported api settings = k.checkSupported api { settings with excluded := [] }) ∧
    (settings.os = "linux" → ∀ host : σ,
      k.word.toList ∈ ws ↔
        ∀ api : Cluster.Api σ, (k.checkSupported api settings host).1 ≠ .ok ()) := by
  have heeded := excludes_iff read words k.word
  refine ⟨fun listed => ?_, fun unlisted api => ?_, fun linux host => ⟨fun listed api => ?_, ?_⟩⟩
  · obtain ⟨reason, refused⟩ := Shipped.checkSupported_listed (σ := σ) (heeded.mpr listed)
    refine ⟨reason, fun api => ⟨refused api, ?_⟩⟩
    intro store d before after collect data s
    exact run_unsupported store d (c := k.collector api settings collect data) (refused api) before
      after s
  · exact Shipped.checkSupported_unlisted api (Bool.eq_false_iff.mpr (mt heeded.mp unlisted))
  · obtain ⟨reason, refused⟩ := Shipped.checkSupported_listed (σ := σ) (heeded.mpr listed)
    rw [refused api host]
    exact nofun
  · contrapose!
    intro unlisted
    have free := Bool.eq_false_iff.mpr (mt heeded.mp unlisted)
    exact ⟨generous, congrArg Prod.fst (Shipped.checkSupported_generous free linux host)⟩

end

def leavingOut (list : String) (name : String) : Option String :=
  if name = Settings.nodeVariable then some "node-1"
  else if name = Settings.excludedVariable then some list
  else none

def site : Destination := ⟨"2026-10-17T08:15:30Z", "node-1"⟩

def dnsGadget : Shipped := .gadgetTrace ⟨"dns", "node-1"⟩

def Shipped.watched (settings : Settings) (k : Shipped) : Collector (Log Export.MemoryStore) :=
  k.collector generous settings (noted (.collected k.name) (.always (.ok ())))
    (noted (.asked k.name) (.always (.ok ∅)))

def watchedRun (settings : Settings) (kinds : List Shipped) :
    Pass × ExportState (Log Export.MemoryStore) :=
  Pass.run (Export.recorded Export.MemoryStore.store) site (kinds.map (Shipped.watched settings))
    (.initial ([], .empty))

/-- Who was collected from or asked for data. -/
def bothered (deeds : List Deed) : List String :=
  deeds.filterMap fun
    | .collected name _ | .asked name _ => some name
    | _ => none

/-- The word of the group, put between blanks beside a trace's name, leaves a gadget out. A trace
that the list does not name has its turn. -/
theorem gadget_skipped :
    let lookup := leavingOut " connectedCluster  ig-tcptrace "
    let ws := ["connectedCluster".toList, "ig-tcptrace".toList]
    ∃ settings, Settings.ofVariables "linux" lookup = .ok settings ∧
      Text.Spaced ws ((lookup Settings.excludedVariable).getD "").toList ∧
      dnsGadget.word.toList ∈ ws ∧
      bothered (watchedRun settings [dnsGadget, .dnsTrace]).2.deeds =
        [Trace.dnsName, Trace.dnsName] := by
  intro lookup ws
  let settings : Settings :=
    ⟨"linux", "node-1", ["connectedCluster", "ig-tcptrace"], "", "", "", ""⟩
  have read : Settings.ofVariables "linux" lookup = .ok settings := by decide +kernel
  have words : Text.Spaced ws ((lookup Settings.excludedVariable).getD "").toList :=
    Text.words_eq_iff.mp (by decide +kernel)
  have listed : dnsGadget.word.toList ∈ ws := by decide
  refine ⟨settings, read, words, listed, ?_⟩
  obtain ⟨skipped, -⟩ := listed_skipped (σ := Log Export.MemoryStore) read words dnsGadget
  obtain ⟨reason, refused⟩ := skipped listed
  obtain ⟨-, passed⟩ := refused generous
  obtain ⟨-, same⟩ := passed (Export.recorded Export.MemoryStore.store) site []
    [Shipped.watched settings .dnsTrace] (noted (.collected dnsGadget.name) (.always (.ok ())))
    (noted (.asked dnsGadget.name) (.always (.ok ∅))) (.initial ([], .empty))
  have alone : bothered (watchedRun settings [.dnsTrace]).2.deeds =
      [Trace.dnsName, Trace.dnsName] := by decide +kernel
  exact (congrArg (fun s => bothered s.deeds) same).trans alone

/-- The names of the collectors that work through the cluster's API are not words that leave them
out: both are on this list, both are supported, and both are collected from and asked for data. -/
theorem own_names_unheeded :
    let lookup := leavingOut "systemperf gadget-dns"
    let ws := ["systemperf".toList, "gadget-dns".toList]
    ∃ settings, Settings.ofVariables "linux" lookup = .ok settings ∧
      Text.Spaced ws ((lookup Settings.excludedVariable).getD "").toList ∧
      let both := [Shipped.consumption, dnsGadget]
      (∀ k ∈ both, k.name.toList ∈ ws ∧ k.checkSupported generous settings () = (.ok (), ())) ∧
      bothered (watchedRun settings both).2.deeds =
        ["systemperf", "gadget-dns", "systemperf", "gadget-dns"] := by
  intro lookup ws
  have read : Settings.ofVariables "linux" lookup =
      .ok ⟨"linux", "node-1", ["systemperf", "gadget-dns"], "", "", "", ""⟩ := by
    decide +kernel
  refine ⟨_, read, Text.words_eq_iff.mp (by decide +kernel), ?_, by decide +kernel⟩
  intro k member
  rcases List.mem_pair.mp member with rfl | rfl
  · exact ⟨by decide, rfl⟩
  · exact ⟨by decide, by decide +kernel⟩

end NodeDiagnostics.Collection
