import NodeDiagnostics.Probe.Packets
import NodeDiagnostics.Proofs.Probe.Embodiment
import NodeDiagnostics.Proofs.Trace.Teardown

namespace NodeDiagnostics.Probe.Crew
open Trace

variable {α β τ : Type}

structure Silent (x : Crew α β) : Prop where
  refuses : x.probe.started = false
  idle : x.probe.workers.workers = ∅
  untracked : x.probe.workers.namespaceOf = ∅
  waited : ∀ thread ∈ x.threads, thread = .joined

section
variable {x : Crew α β}

theorem InCharge.silent_stop (h : InCharge x) : Silent x.stop := by
  refine ⟨rfl, rfl, rfl, ?_⟩
  intro thread member
  obtain ⟨id, inside, found⟩ := List.mem_iff_getElem.mp member
  have there : x.stop.threads[id]? = some thread := List.getElem?_eq_some_iff.mpr ⟨inside, found⟩
  by_contra loose
  exact h.all_told id ⟨thread, there, loose⟩

theorem joinAll_nil (threads : List (WorkerThread β)) : joinAll [] threads = threads := by
  refine List.ext_getElem? fun id => ?_
  rw [getElem?_joinAll, if_neg List.not_mem_nil]

theorem Silent.attach (h : Silent x) (c : Container) (lookup : Pid → Option NamespaceId)
    (setup : Container → Setup β) : (x.attach c lookup setup).2 = x := by
  simp only [Crew.attach, NamespaceProbe.attach_of_stopped h.refuses, h.refuses, Bool.false_and]
  rfl

theorem Silent.detach (h : Silent x) (c : Container) : x.detach c = x := by
  have unknown : x.probe.workers.namespaceOf[c.pid]? = none := by simp [h.untracked]
  have nobody : x.probe.workers.dismissed? c = none := by
    simp [NamespaceWorkers.dismissed?, unknown]
  simp only [Crew.detach, NamespaceProbe.detach, NamespaceWorkers.detach, unknown, nobody,
    Option.map_none, Option.toList_none, joinAll_nil]

theorem Silent.stop (h : Silent x) : x.stop = x := by
  obtain ⟨⟨name, started, label, workers, namespaceOf⟩, threads, heard⟩ := x
  obtain ⟨refuses, idle, untracked, -⟩ := h
  dsimp only at refuses idle untracked
  subst refuses idle untracked
  have nobody : (∅ : Posts).toList.map (·.2.body) = [] := rfl
  simp only [Crew.stop, NamespaceProbe.stop, NamespaceWorkers.stopAll, NamespaceWorkers.empty,
    nobody, joinAll_nil]

theorem Silent.work (h : Silent x) (id : ThreadId) (step : β → Except Error (List α × β)) :
    x.work id step = x := by
  unfold Crew.work
  split
  · rename_i body polling
    have waited := h.waited _ (List.mem_of_getElem? polling)
    contradiction
  · rfl

end

abbrev Shift (α β : Type) := ThreadId × (β → Except Error (List α × β))

def shift : Shift α β → Crew α β × τ → Crew α β × τ :=
  fun (id, step) (x, t) => (x.work id step, t)

section
variable (name : String) (host : Surroundings β τ)

theorem keeps_inCharge :
    Teardown.Keeps (tracer name host) (shift (α := α)) fun s => s.1.InCharge where
  attach c _ h := h.attach c _ _
  detach c _ h := h.detach c
  stop _ h := h.stop
  work w _ h := h.work w.1 w.2

theorem Silent.keeps {x : Crew α β} (h : Silent x) :
    Teardown.Keeps (tracer name host) shift fun s => s.1 = x where
  attach c := by
    rintro ⟨_, t⟩ rfl
    exact h.attach c _ _
  detach c := by
    rintro ⟨_, t⟩ rfl
    exact h.detach c
  stop := by
    rintro ⟨_, t⟩ rfl
    exact h.stop
  work w := by
    rintro ⟨_, t⟩ rfl
    exact h.work w.1 w.2

theorem keeps_silent :
    Teardown.Keeps (tracer name host) (shift (α := α)) fun s => s.1.Silent where
  attach c s h := ((h.keeps name host).attach c s rfl).symm ▸ h
  detach c s h := ((h.keeps name host).detach c s rfl).symm ▸ h
  stop s h := ((h.keeps name host).stop s rfl).symm ▸ h
  work w s h := ((h.keeps name host).work w s rfl).symm ▸ h

/-- Once the teardown of a probe has come to its end, no worker and no process is left, every thread
has been waited for, and no later turn of a callback or of a thread changes anything. -/
theorem silent_once_stopped (selector : Selector) (t : Teardown (Crew α β × τ))
    (reached : Reached t.host.1) (begun : t.closing ≠ .stopped)
    (turns late : List (Turn (Shift α β)))
    (stopped : (t.play (tracer name host) selector shift turns).closing = .stopped) :
    (t.play (tracer name host) selector shift turns).host.1.Silent ∧
      ((t.play (tracer name host) selector shift turns).play
          (tracer name host) selector shift late).host.1 =
        (t.play (tracer name host) selector shift turns).host.1 := by
  have silent := (keeps_inCharge name host).stopped_play (keeps_silent name host)
    (fun s inCharge => inCharge.silent_stop) selector reached.inCharge
    (fun already => absurd already begun) turns stopped
  exact ⟨silent, (silent.keeps name host).play selector rfl late⟩

end

def listener : Container := ⟨"aaaaaaaaaaaa", "shop", "cart", "api", 10, false⟩

def newcomer : Container := ⟨"bbbbbbbbbbbb", "shop", "cart", "cache", 11, false⟩

def openHost : Surroundings Packets.Channel Unit where
  admits _ := .ok ()
  namespaceOf _ pid := some pid.toNat
  setup _ _ := .ready .socket
  next t := t

def listening : Crew (Sighting DnsEvent) Packets.Channel :=
  ((ofName Packets.name "dns").start.attach listener (openHost.namespaceOf ())
    (openHost.setup ())).2

/-- The connection is to be closed while the news of another container is under way. -/
def crossed : Teardown (Crew (Sighting DnsEvent) Packets.Channel × Unit) :=
  ⟨.ofList [(listener.pid, listener)], (listening, ()), .listing, .idle, [.added newcomer]⟩

/-- The callback finds the newcomer unattached and waits for the probe; the connection is closed and
the probe stopped before it gets its turn. -/
def overtaken : List (Turn (Shift (Sighting DnsEvent) Packets.Channel)) :=
  [.follower, .closer, .closer, .worker (0, fun body => .ok ([], body)), .closer, .closer, .closer]

theorem crossed_stopped :
    (crossed.play (tracer Packets.name openHost) .everything shift overtaken).closing =
      .stopped := by
  decide +kernel

theorem newcomer_refused : crossed.closing ≠ .stopped ∧
    (crossed.play (tracer Packets.name openHost) .everything shift overtaken).host.1.Silent ∧
    ((crossed.play (tracer Packets.name openHost) .everything shift overtaken).play
        (tracer Packets.name openHost) .everything shift [.follower]).host.1 =
      (crossed.play (tracer Packets.name openHost) .everything shift overtaken).host.1 := by
  have begun : crossed.closing ≠ .stopped := by decide
  have reached : Reached crossed.host.1 := .attach listener (openHost.namespaceOf ())
    (openHost.setup ()) (.start (.ofName Packets.name "dns"))
  exact ⟨begun, silent_once_stopped Packets.name openHost .everything crossed reached begun
    overtaken [.follower] crossed_stopped⟩

end NodeDiagnostics.Probe.Crew
