import NodeDiagnostics.Proofs.Trace.Connection
import NodeDiagnostics.Trace.Run

namespace NodeDiagnostics.Trace

variable {σ τ α : Type} {R : σ → τ → Prop}

/-- From related states, both hosts give the same answer and come to related states. -/
def Matches (R : σ → τ → Prop) (first : Request σ α) (second : Request τ α) : Prop :=
  ∀ s t, R s t → (first s).1 = (second t).1 ∧ R (first s).2 (second t).2

structure Simulates (R : σ → τ → Prop) (first : Tracer σ) (second : Tracer τ) : Prop where
  name : first.name = second.name
  attach : ∀ c, Matches R (first.attach c) (second.attach c)
  detach : ∀ c, Matches R (first.detach c) (second.detach c)

theorem logged_simulates (tracer : Tracer σ) :
    Simulates (fun (kept : List Call × σ) s => kept.2 = s) (logged tracer) tracer := by
  refine ⟨rfl, ?_, ?_⟩
  · rintro c ⟨log, s⟩ t rfl
    simp only [logged]
    rcases answer : tracer.attach c s with ⟨e | ⟨⟩, s'⟩
    · exact ⟨rfl, rfl⟩
    · exact ⟨rfl, rfl⟩
  · rintro c ⟨log, s⟩ t rfl
    exact ⟨rfl, rfl⟩

namespace Simulates

variable {first : Tracer σ} {second : Tracer τ}

theorem attachOne (h : Simulates R first second) (c : Container) (attached : Attached) :
    Matches R (attachOne first c attached) (attachOne second c attached) := by
  intro s t related
  unfold Trace.attachOne
  split
  · exact ⟨rfl, related⟩
  · obtain ⟨same, after⟩ := h.attach c s t related
    generalize first.attach c s = here at same after ⊢
    generalize second.attach c t = there at same after ⊢
    obtain ⟨answer, s'⟩ := here
    obtain ⟨answer', t'⟩ := there
    cases same
    cases answer with
    | ok => exact ⟨rfl, after⟩
    | error e => exact ⟨rfl, after⟩

theorem detachOne (h : Simulates R first second) (c : Container) (attached : Attached) :
    Matches R (detachOne first c attached) (detachOne second c attached) := by
  intro s t related
  unfold Trace.detachOne
  split
  · exact ⟨rfl, related⟩
  · rename_i known _
    exact ⟨rfl, (h.detach known s t related).2⟩

theorem follow (h : Simulates R first second) (selector : Selector) (e : ContainerEvent)
    (attached : Attached) : Matches R (Connection.follow first selector e attached)
      (Connection.follow second selector e attached) := by
  intro s t related
  cases e with
  | added c =>
    simp only [Connection.follow]
    split
    · obtain ⟨same, after⟩ := h.attachOne c attached s t related
      exact ⟨congrArg Prod.snd same, after⟩
    · exact ⟨rfl, related⟩
  | removed c => exact h.detachOne c attached s t related

theorem followAll (h : Simulates R first second) (selector : Selector) (es : List ContainerEvent)
    (attached : Attached) : Matches R (fun s => followAll first selector es (attached, s))
      (fun t => followAll second selector es (attached, t)) := by
  induction es generalizing attached with
  | nil => exact fun s t related => ⟨rfl, related⟩
  | cons e es ih =>
    intro s t related
    obtain ⟨same, after⟩ := h.follow selector e attached s t related
    simp only [Trace.followAll, List.foldl_cons]
    generalize Connection.follow first selector e attached s = here at same after ⊢
    generalize Connection.follow second selector e attached t = there at same after ⊢
    obtain ⟨held, s'⟩ := here
    obtain ⟨held', t'⟩ := there
    cases same
    exact ih held s' t' after

theorem attachEach (h : Simulates R first second) (l : List Container) (attached : Attached) :
    Matches R (Connection.attachEach first l attached)
      (Connection.attachEach second l attached) := by
  induction l generalizing attached with
  | nil => exact fun s t related => ⟨rfl, related⟩
  | cons c l ih =>
    intro s t related
    obtain ⟨same, after⟩ := h.attachOne c attached s t related
    simp only [Connection.attachEach]
    generalize Trace.attachOne first c attached s = here at same after ⊢
    generalize Trace.attachOne second c attached t = there at same after ⊢
    obtain ⟨⟨done, held⟩, s'⟩ := here
    obtain ⟨answer, t'⟩ := there
    cases same
    obtain ⟨alike, last⟩ := ih held s' t' after
    exact ⟨by simp only [alike], last⟩

theorem connect (h : Simulates R first second) (registry : Registry) (selector : Selector) :
    Matches R (Connection.connect registry first selector)
      (Connection.connect registry second selector) := by
  intro s t related
  obtain ⟨same, after⟩ := h.attachEach (registry.subscribe.2.snapshot.filter selector.selects) ∅
    s t related
  simp only [Connection.connect, same, h.name]
  split
  · exact ⟨rfl, after⟩
  · exact ⟨rfl, after⟩

theorem notify (h : Simulates R first second) (c : Connection) (registry : Registry)
    (e : ContainerEvent) : Matches R (c.notify registry first e) (c.notify registry second e) := by
  intro s t related
  simp only [Connection.notify, Connection.receive_eq_followAll]
  obtain ⟨same, after⟩ := h.followAll c.selector
    (((registry.notify e).1.filter (·.subscription = c.subscription)).map (·.event)) c.attached
    s t related
  exact ⟨by rw [same], after⟩

theorem notifyAll (h : Simulates R first second) (news : List ContainerEvent)
    (state : Connection × Registry) : Matches R (Connection.notifyAll first news state)
      (Connection.notifyAll second news state) := by
  induction news generalizing state with
  | nil => exact fun s t related => ⟨rfl, related⟩
  | cons e news ih =>
    intro s t related
    obtain ⟨same, after⟩ := h.notify state.1 state.2 e s t related
    simp only [Connection.notifyAll, same]
    exact ih _ _ _ after

theorem close (h : Simulates R first second) (c : Connection) (registry : Registry) :
    Matches R (c.close registry first) (c.close registry second) := by
  intro s t related
  simp only [Connection.close_eq_followAll]
  obtain ⟨same, after⟩ := h.followAll c.selector ((c.attached.toList.map (·.2)).map .removed)
    c.attached s t related
  exact ⟨by rw [same], after⟩

end Simulates

namespace Connection

def heldAfter (answer : Except Error Connection) : Attached :=
  match answer with
  | .ok c => c.attached
  | .error _ => ∅

theorem attachEach_of_none {tracer : Tracer σ} {l : List Container} {attached : Attached} {s : σ}
    (failed : (attachEach tracer l attached s).1.1 = 0) :
    (attachEach tracer l attached s).1.2 = attached := by
  obtain ⟨same, -⟩ := (logged_simulates tracer).attachEach l attached ([], s) s rfl
  rw [← same] at failed ⊢
  exact (attachEach_refused failed).1

/-- Making a connection is attaching to the containers of the registry, whether it succeeds or not.
-/
theorem connect_eq_followAll (registry : Registry) (tracer : Tracer σ) (selector : Selector)
    (s : σ) :
    let made := connect registry tracer selector s
    (heldAfter made.1.1, made.2) =
      followAll tracer selector (registry.snapshot.map .added) (∅, s) := by
  have all := attachEach_eq_followAll tracer selector registry.snapshot ∅ s
  have same : registry.subscribe.2.snapshot = registry.snapshot := rfl
  rw [← all]
  simp only [connect, same]
  split
  · rename_i none_done
    have failed : (attachEach tracer (registry.snapshot.filter selector.selects) ∅ s).1.1 = 0 := by
      simp only [Bool.and_eq_true, beq_iff_eq] at none_done
      exact none_done.2
    rw [attachEach_of_none failed]
    rfl
  · rfl

theorem notify_eq_followAll (c : Connection) (registry : Registry) (tracer : Tracer σ)
    (e : ContainerEvent) (s : σ) : ∃ changes,
      ((c.notify registry tracer e s).1.1.attached, (c.notify registry tracer e s).2) =
        followAll tracer c.selector changes (c.attached, s) := by
  simp only [Connection.notify, receive_eq_followAll]
  exact ⟨_, rfl⟩

theorem held_known {registry connected : Registry} {tracer : Tracer σ} {selector : Selector}
    {made : Connection} {s s' : σ}
    (result : connect registry tracer selector s = ((.ok made, connected), s'))
    (news : List ContainerEvent) (pid : Pid) (c : Container)
    (held : (notifyAll tracer news (made, connected) s').1.1.attached[pid]? = some c) :
    (notifyAll tracer news (made, connected) s').1.2.lookup? pid = some c := by
  -- What is known of connections is known of tracers that keep a log, so one is put beside this.
  obtain ⟨same, after⟩ := (logged_simulates tracer).connect registry selector ([], s) s rfl
  rw [result] at same after
  rcases kept : connect registry (logged tracer) selector ([], s) with ⟨answer, log, t⟩
  rw [kept] at same after
  cases same
  obtain ⟨alike, -⟩ := (logged_simulates tracer).notifyAll news (made, connected) (log, t) s' after
  have now := (connect_upToDate kept).notifyAll tracer news t
  rw [← alike] at held ⊢
  exact (now.follows.known pid c held).1

end Connection

structure World.Like (R : σ → τ → Prop) (w : World σ) (v : World τ) : Prop where
  journal : w.journal = v.journal
  clock : w.clock = v.clock
  host : R w.host v.host

/-- Two runs in which the same happens, if they launch tracers that answer alike. -/
structure Reenacts {ε : Type} (R : σ → τ → Prop) (run : Run ε σ) (again : Run ε τ) : Prop where
  name : run.name = again.name
  node : run.node = again.node
  happenings : run.window.happenings = again.window.happenings
  opened : Matches R run.window.opened again.window.opened
  closed : Matches R run.window.closed again.window.closed

inductive LaunchedAlike (R : σ → τ → Prop) :
    Except Error (Tracer σ) × σ → Except Error (Tracer τ) × τ → Prop
  | failed (e : Error) (s : σ) (t : τ) (related : R s t) :
      LaunchedAlike R (.error e, s) (.error e, t)
  | started (first : Tracer σ) (second : Tracer τ) (s : σ) (t : τ) (related : R s t)
      (alike : Simulates R first second) (stop : Matches R first.stop second.stop) :
      LaunchedAlike R (.ok first, s) (.ok second, t)

section
variable {w : World σ} {v : World τ}

theorem World.Like.ask (h : World.Like R w v) {first : Request σ α} {second : Request τ α}
    (same : Matches R first second) :
    (w.ask first).1 = (v.ask second).1 ∧ World.Like R (w.ask first).2 (v.ask second).2 := by
  obtain ⟨answer, related⟩ := same w.host v.host h.host
  exact ⟨answer, h.journal, h.clock, related⟩

variable {ε : Type} [TraceEvent ε] {run : Run ε σ} {again : Run ε τ}

theorem World.Like.publish (h : World.Like R w v) (name node : String) (registry : Registry)
    (owner : Option Container) (event : ε) :
    World.Like R (publish name node registry owner event w)
      (publish name node registry owner event v) := by
  simp only [Trace.publish, h.clock, h.journal]
  exact ⟨rfl, rfl, h.host⟩

theorem Reenacts.observe (h : Reenacts R run again) {first : Tracer σ} {second : Tracer τ}
    (alike : Simulates R first second) (happenings : List (Happening ε))
    (state : Connection × Registry) (like : World.Like R w v) :
    (run.observe first happenings state w).1 = (again.observe second happenings state v).1 ∧
      World.Like R (run.observe first happenings state w).2
        (again.observe second happenings state v).2 := by
  induction happenings generalizing state w v with
  | nil => exact ⟨rfl, like⟩
  | cons happening happenings ih =>
    obtain ⟨connection, registry⟩ := state
    cases happening with
    | news e =>
      obtain ⟨same, after⟩ := like.ask (alike.notify connection registry e)
      simp only [Run.observe, same]
      exact ih _ after
    | seen owner event =>
      simp only [Run.observe, h.name, h.node]
      exact ih _ (like.publish again.name again.node registry owner event)

theorem Reenacts.traceWith (h : Reenacts R run again) {first : Tracer σ} {second : Tracer τ}
    (alike : Simulates R first second) (stop : Matches R first.stop second.stop)
    (registry : Registry) (like : World.Like R w v) :
    (run.traceWith registry first w).1 = (again.traceWith registry second v).1 ∧
      World.Like R (run.traceWith registry first w).2
        (again.traceWith registry second v).2 := by
  obtain ⟨same, connected⟩ := like.ask (alike.connect registry .everything)
  simp only [Run.traceWith]
  generalize w.ask (Connection.connect registry first .everything) = made at same connected ⊢
  generalize v.ask (Connection.connect registry second .everything) = made' at same connected ⊢
  obtain ⟨⟨answer, registry'⟩, w'⟩ := made
  obtain ⟨_, v'⟩ := made'
  cases same
  cases answer with
  | error e => exact ⟨by simp only [h.name], (connected.ask stop).2⟩
  | ok connection =>
    have opened := (connected.ask h.opened).2
    obtain ⟨seen, observed⟩ :=
      h.observe alike run.window.happenings (connection, registry') opened
    have closed := (observed.ask h.closed).2
    simp only [← h.happenings]
    generalize run.observe first _ _ _ = here at seen observed closed ⊢
    generalize again.observe second _ _ _ = there at seen observed closed ⊢
    obtain ⟨⟨connection', registry''⟩, w''⟩ := here
    obtain ⟨_, v''⟩ := there
    cases seen
    obtain ⟨left, released⟩ := closed.ask (alike.close connection' registry'')
    exact ⟨congrArg (fun left => (_, left.2)) left, (released.ask stop).2⟩

theorem Reenacts.trace (h : Reenacts R run again) (registry : Registry)
    (like : World.Like R w v)
    (launched : LaunchedAlike R (run.launch w.host) (again.launch v.host)) :
    (run.trace registry w).1 = (again.trace registry v).1 ∧
      World.Like R (run.trace registry w).2 (again.trace registry v).2 := by
  rcases here : run.launch w.host with ⟨answer, s⟩
  rcases there : again.launch v.host with ⟨answer', t⟩
  simp only [Run.trace, World.ask, here, there]
  rw [here, there] at launched
  cases launched with
  | failed e _ _ related =>
    exact ⟨by simp only [h.name], like.journal, like.clock, related⟩
  | started first second _ _ related alike stop =>
    exact h.traceWith alike stop registry ⟨like.journal, like.clock, related⟩

end
end NodeDiagnostics.Trace
