import NodeDiagnostics.Probe.Tracing
import NodeDiagnostics.Proofs.Probe.Membership
import NodeDiagnostics.Proofs.Trace.Simulation

namespace NodeDiagnostics.Probe
open Trace NamespaceWorkers

variable {α β τ : Type}

def Tracks (attached : Attached) (w : NamespaceWorkers β) : Prop :=
  ∃ notes, Agrees notes w ∧ ∀ (pid : Pid) (c : Container),
    attached[pid]? = some c ↔ c.pid = pid ∧ ∃ ns, (c, ns) ∈ notes

theorem tracks_empty (label : String) : Tracks ∅ (empty label : NamespaceWorkers β) :=
  ⟨[], agrees_empty label, by simp⟩

section
variable {attached : Attached} {w : NamespaceWorkers β} {c : Container}

theorem Tracks.tracked_iff (h : Tracks attached w) (pid : Pid) :
    (∃ ns, w.namespaceOf[pid]? = some ns) ↔ ∃ c, attached[pid]? = some c := by
  obtain ⟨notes, agrees, noted⟩ := h
  constructor
  · rintro ⟨ns, tracked⟩
    obtain ⟨c, member, own⟩ := (agrees.filed pid ns).mp tracked
    exact ⟨c, (noted pid c).mpr ⟨own, ns, member⟩⟩
  · rintro ⟨c, held⟩
    obtain ⟨own, ns, member⟩ := (noted pid c).mp held
    exact ⟨ns, (agrees.filed pid ns).mpr ⟨c, member, own⟩⟩

theorem Tracks.untracked (h : Tracks attached w) {pid : Pid} (free : attached[pid]? = none) :
    w.namespaceOf[pid]? = none := by
  cases tracked : w.namespaceOf[pid]? with
  | none => rfl
  | some ns =>
    obtain ⟨c, held⟩ := (h.tracked_iff pid).mp ⟨ns, tracked⟩
    rw [free] at held
    contradiction

theorem Tracks.member_iff (h : Tracks attached w) (c : Container) :
    (∃ ns, c ∈ w.membersOf ns) ↔ attached[c.pid]? = some c := by
  obtain ⟨notes, agrees, noted⟩ := h
  simp only [noted, agrees.members, Notes.mem_living, true_and]

theorem Tracks.poll (h : Tracks attached w) (ns : NamespaceId) (step : Poll α β) :
    Tracks attached (w.poll ns step).2 := by
  obtain ⟨notes, agrees, noted⟩ := h
  exact ⟨notes, agrees.poll ns step, noted⟩

theorem Tracks.pollEach (h : Tracks attached w) (polls : List (NamespaceId × Poll α β)) :
    Tracks attached (w.pollEach polls) := by
  induction polls generalizing w with
  | nil => exact h
  | cons p polls ih => exact ih (h.poll p.1 p.2)

theorem Tracks.attach (h : Tracks attached w) (free : attached[c.pid]? = none)
    (lookup : Pid → Option NamespaceId) (setup : Container → Setup β) :
    Tracks (match (w.attach c lookup setup).1.result with
      | .ok () => attached.insert c.pid c
      | .error _ => attached) (w.attach c lookup setup).2 := by
  have untracked := h.untracked free
  obtain ⟨notes, agrees, noted⟩ := h
  -- Whichever worker takes the container, it is noted, for its process was not tracked before.
  have grown : ∀ ns (pid : Pid) (d : Container), (attached.insert c.pid c)[pid]? = some d ↔
      d.pid = pid ∧ ∃ at_, (d, at_) ∈ notes ++ [(c, ns)] := by
    intro ns pid d
    have fresh : ∀ at_, (d, at_) ∈ notes → d.pid ≠ c.pid := fun at_ member same =>
      agrees.not_noted untracked (List.mem_map.mpr ⟨(d, at_), member, same⟩)
    simp only [Std.ExtTreeMap.getElem?_insert, Std.LawfulEqCmp.compare_eq_iff_eq]
    split
    · rename_i own
      subst own
      simp only [Option.some.injEq, List.mem_append, List.mem_singleton, Prod.mk.injEq]
      constructor
      · rintro rfl
        exact ⟨rfl, ns, .inr ⟨rfl, rfl⟩⟩
      · rintro ⟨own, at_, member | ⟨rfl, -⟩⟩
        · exact absurd own (fresh at_ member)
        · rfl
    · rename_i other
      rw [noted]
      simp only [List.mem_append, List.mem_singleton, Prod.mk.injEq]
      constructor
      · rintro ⟨own, at_, member⟩
        exact ⟨own, at_, .inl member⟩
      · rintro ⟨own, at_, member | ⟨rfl, -⟩⟩
        · exact ⟨own, at_, member⟩
        · exact absurd own other
  have ends := attach_ends w c lookup setup
  generalize (w.attach c lookup setup).1 = outcome at ends ⊢
  generalize (w.attach c lookup setup).2 = after at ends ⊢
  cases ends with
  | known ns tracked =>
    rw [untracked] at tracked
    contradiction
  | noProcess => exact ⟨notes, agrees, noted⟩
  | failed => exact ⟨notes, agrees, noted⟩
  | joined ns worker _ located served =>
    refine ⟨notes ++ [(c, ns)], agrees.enlist untracked ?_, grown ns⟩
    rw [membersOf_of_served served]
  | started ns body _ located unserved ready =>
    refine ⟨notes ++ [(c, ns)], agrees.enlist untracked ?_, grown ns⟩
    rw [membersOf_of_unserved unserved]
    rfl

theorem Tracks.detach (h : Tracks attached w) {pid : Pid} (held : attached[pid]? = some c) :
    Tracks (attached.erase pid) (w.detach c) := by
  obtain ⟨notes, agrees, noted⟩ := h
  obtain ⟨rfl, -⟩ := (noted pid c).mp held
  refine ⟨_, agrees.detach c, ?_⟩
  intro pid d
  rw [Std.ExtTreeMap.getElem?_erase]
  simp only [List.mem_filter, bne_iff_ne, Std.LawfulEqCmp.compare_eq_iff_eq]
  split
  · rename_i own
    subst own
    constructor
    · intro nothing
      contradiction
    · rintro ⟨own, at_, -, other⟩
      exact absurd own other
  · rename_i other
    rw [noted]
    constructor
    · rintro ⟨own, at_, member⟩
      exact ⟨own, at_, member, fun same => other (same.symm.trans own)⟩
    · rintro ⟨own, at_, member, -⟩
      exact ⟨own, at_, member⟩

end

section
variable {attached : Attached} {p : NamespaceProbe β}

theorem Tracks.attach_probe (h : Tracks attached p.workers) {c : Container}
    (free : attached[c.pid]? = none) (lookup : Pid → Option NamespaceId)
    (setup : Container → Setup β) :
    Tracks (match (p.attach c lookup setup).1 with
      | .ok () => attached.insert c.pid c
      | .error _ => attached) (p.attach c lookup setup).2.workers := by
  cases started : p.started with
  | true =>
    rw [NamespaceProbe.attach_of_started started]
    exact h.attach free lookup setup
  | false =>
    rw [NamespaceProbe.attach_of_stopped started]
    exact h

variable (name : String) (host : Surroundings β τ) (polls : τ → List (NamespaceId × Poll α β))

theorem tracks_attachOne (h : Tracks attached p.workers) (c : Container) (t : τ) :
    let after := attachOne (NamespaceProbe.tracer name host polls) c attached (p, t)
    Tracks after.1.2 after.2.1.workers := by
  unfold attachOne
  split
  · exact h
  · rename_i absent
    have free : attached[c.pid]? = none := by simpa using absent
    have grown := h.attach_probe free (host.namespaceOf t) (host.setup t)
    simp only [NamespaceProbe.tracer]
    generalize p.attach c (host.namespaceOf t) (host.setup t) = answer at grown ⊢
    obtain ⟨result, after⟩ := answer
    cases result with
    | ok => exact grown.pollEach (polls t)
    | error e => exact grown.pollEach (polls t)

theorem tracks_detachOne (h : Tracks attached p.workers) (c : Container) (t : τ) :
    let after := detachOne (NamespaceProbe.tracer name host polls) c attached (p, t)
    Tracks after.1 after.2.1.workers := by
  unfold detachOne
  split
  · exact h
  · rename_i known held
    exact (h.detach held).pollEach (polls t)

theorem tracks_followAll (h : Tracks attached p.workers) (selector : Selector)
    (es : List ContainerEvent) (t : τ) :
    let after := followAll (NamespaceProbe.tracer name host polls) selector es (attached, p, t)
    Tracks after.1 after.2.1.workers := by
  induction es generalizing attached p t with
  | nil => exact h
  | cons e es ih =>
    refine ih ?_ _
    cases e with
    | added c =>
      dsimp only [Connection.follow]
      split
      · exact tracks_attachOne name host polls h c t
      · exact h
    | removed c => exact tracks_detachOne name host polls h c t

end

/-- How the workers' books stand to what a connection holds and to the registry. -/
structure Mirrors (r : Registry) (attached : Attached) (w : NamespaceWorkers β) : Prop where
  tracked : ∀ pid : Pid, (∃ ns, w.namespaceOf[pid]? = some ns) ↔ ∃ c, attached[pid]? = some c
  members : ∀ (ns : NamespaceId) (worker : Worker β), w.workers[ns]? = some worker →
    ∀ c ∈ worker.members, attached[c.pid]? = some c ∧ r.lookup? c.pid = some c
  served : ∀ (pid : Pid) (c : Container), attached[pid]? = some c → ∃ ns, c ∈ w.membersOf ns
  owner : ∀ (ns : NamespaceId) (worker : Worker β), w.workers[ns]? = some worker →
    ∃ c, worker.owner? = some c ∧ r.lookup? c.pid = some c

theorem Tracks.mirrors {r : Registry} {attached : Attached} {w : NamespaceWorkers β}
    (h : Tracks attached w)
    (known : ∀ (pid : Pid) (c : Container), attached[pid]? = some c → r.lookup? pid = some c) :
    Mirrors r attached w := by
  have members : ∀ (ns : NamespaceId) (worker : Worker β), w.workers[ns]? = some worker →
      ∀ c ∈ worker.members, attached[c.pid]? = some c ∧ r.lookup? c.pid = some c := by
    intro ns worker served c member
    have held : attached[c.pid]? = some c := by
      refine (h.member_iff c).mp ⟨ns, ?_⟩
      rwa [membersOf_of_served served]
    exact ⟨held, known c.pid c held⟩
  refine ⟨h.tracked_iff, members, ?_, ?_⟩
  · intro pid c held
    obtain ⟨notes, -, noted⟩ := id h
    obtain ⟨rfl, -⟩ := (noted pid c).mp held
    exact (h.member_iff c).mpr held
  · intro ns worker served
    obtain ⟨notes, agrees, -⟩ := id h
    have some_one := agrees.staffed ns worker served
    obtain ⟨c, rest, first⟩ := List.exists_cons_of_ne_nil some_one
    refine ⟨c, by rw [Worker.owner?, first, List.head?_cons], ?_⟩
    exact (members ns worker served c (by rw [first]; exact List.mem_cons_self)).2

section
variable (name : String) (host : Surroundings β τ) (polls : τ → List (NamespaceId × Poll α β))
open Connection

theorem tracks_connect (r : Registry) (selector : Selector) (label : String) (started : Bool)
    (t : τ) :
    let made := connect r (NamespaceProbe.tracer name host polls) selector
      (⟨name, started, empty label⟩, t)
    Tracks (heldAfter made.1.1) made.2.1.workers := by
  have all := connect_eq_followAll r (NamespaceProbe.tracer name host polls) selector
    (⟨name, started, empty label⟩, t)
  have tracks := tracks_followAll name host polls (p := ⟨name, started, empty label⟩)
    (tracks_empty label) selector (r.snapshot.map .added) t
  simp only [← all] at tracks
  exact tracks

theorem tracks_notifyAll (news : List ContainerEvent) {c : Connection} {r : Registry}
    {p : NamespaceProbe β} (h : Tracks c.attached p.workers) (t : τ) :
    let after := notifyAll (NamespaceProbe.tracer name host polls) news (c, r) (p, t)
    Tracks after.1.1.attached after.2.1.workers := by
  induction news generalizing c r p t with
  | nil => exact h
  | cons e news ih =>
    obtain ⟨changes, same⟩ :=
      notify_eq_followAll c r (NamespaceProbe.tracer name host polls) e (p, t)
    have next := tracks_followAll name host polls h c.selector changes t
    simp only [← same] at next
    exact ih next _

/-- After a connection has been made, and after each piece of news, the workers serve just the
attached containers, with the records that the registry has. Where no connection is made, they
serve none. -/
theorem workers_mirror_registry (r : Registry) (selector : Selector) (label : String)
    (started : Bool) (news : List ContainerEvent) (t : τ) :
    match connect r (NamespaceProbe.tracer name host polls) selector
      (⟨name, started, empty label⟩, t) with
    | ((.error _, connected), p, _) => Mirrors connected ∅ p.workers
    | ((.ok made, connected), state) =>
      match notifyAll (NamespaceProbe.tracer name host polls) news (made, connected) state with
      | ((c, after), p, _) => Mirrors after c.attached p.workers := by
  have first := tracks_connect name host polls r selector label started t
  rcases result : connect r (NamespaceProbe.tracer name host polls) selector
    (⟨name, started, empty label⟩, t) with ⟨⟨e | made, connected⟩, p, t'⟩
  · rw [result] at first
    have none_held : Tracks ∅ p.workers := first
    exact none_held.mirrors (by simp)
  · rw [result] at first
    exact (tracks_notifyAll name host polls news first t').mirrors
      (held_known result news)

end

end NodeDiagnostics.Probe
