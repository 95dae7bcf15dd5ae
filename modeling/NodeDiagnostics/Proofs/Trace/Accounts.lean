import NodeDiagnostics.Proofs.Trace.Deeds

/-!
A run gives back whatever it takes, on every way out: each tracer that it builds is stopped, the
runtime is no longer watched, and the registry is empty. What is done with the tracers is seen by
carrying out the run on a host that keeps account of them, which changes nothing else.
-/
namespace NodeDiagnostics.Trace
open TracerFactory

variable {ε σ : Type}

def unrecorded {α : Type} (request : Request σ α) : Request (List Deed × σ) α :=
  fun (deeds, s) => ((request s).1, deeds, (request s).2)

def Run.launching (run : Run ε σ) (primary : Option (TracerFactory σ))
    (fallback : TracerFactory σ) : Run ε σ :=
  { run with launch := launchEither primary fallback }

def Run.accounted (run : Run ε σ) (primary : Option (TracerFactory σ))
    (fallback : TracerFactory σ) : Run ε (List Deed × σ) where
  name := run.name
  node := run.node
  opening := run.opening
  launch := launchEither (primary.map (accountedFactory .primary))
    (accountedFactory .fallback fallback)
  window := ⟨unrecorded run.window.opened, run.window.happenings, unrecorded run.window.closed⟩

def HostOf (kept : List Deed × σ) (s : σ) : Prop := kept.2 = s

theorem accounted_simulates (m : Maker) (tracer : Tracer σ) :
    Simulates HostOf (accounted m tracer) tracer := by
  refine ⟨rfl, ?_, ?_⟩
  · rintro c ⟨deeds, s⟩ _ rfl
    simp only [accounted]
    rcases answer : tracer.attach c s with ⟨e | ⟨⟩, s'⟩
    · exact ⟨rfl, rfl⟩
    · exact ⟨rfl, rfl⟩
  · rintro c ⟨deeds, s⟩ _ rfl
    exact ⟨rfl, rfl⟩

theorem Launches.alike {m : Maker} {deeds : List Deed} {launched : Except Error (Tracer σ) × σ}
    {kept : Except Error (Tracer (List Deed × σ)) × (List Deed × σ)}
    (h : Launches m deeds launched kept) : LaunchedAlike HostOf kept launched := by
  cases h with
  | failed e s => exact .failed e _ s rfl
  | started tracer s =>
    refine .started _ tracer _ s rfl (accounted_simulates m tracer) ?_
    rintro ⟨deeds, s⟩ _ rfl
    exact ⟨rfl, rfl⟩

theorem reenacts_accounted (run : Run ε σ) (primary : Option (TracerFactory σ))
    (fallback : TracerFactory σ) :
    Reenacts HostOf (run.accounted primary fallback) (run.launching primary fallback) where
  name := rfl
  node := rfl
  happenings := rfl
  opened := by
    rintro ⟨deeds, s⟩ _ rfl
    exact ⟨rfl, rfl⟩
  closed := by
    rintro ⟨deeds, s⟩ _ rfl
    exact ⟨rfl, rfl⟩

section
variable [TraceEvent ε] (run : Run ε σ) (primary : Option (TracerFactory σ))
  (fallback : TracerFactory σ)

theorem execute_accounted (deeds : List Deed) (w : World σ) :
    let kept := (run.accounted primary fallback).execute ⟨w.journal, w.clock, (deeds, w.host)⟩
    let plain := (run.launching primary fallback).execute w
    kept.1 = plain.1 ∧ World.Like HostOf kept.2 plain.2 := by
  have opening : (run.accounted primary fallback).opening = run.opening := rfl
  have opening' : (run.launching primary fallback).opening = run.opening := rfl
  let begun : World (List Deed × σ) := ⟨w.journal, w.clock, (deeds, w.host)⟩
  have like : World.Like HostOf begun w := ⟨rfl, rfl, rfl⟩
  simp only [Run.execute, opening, opening']
  rcases Registry.setUp run.opening with setback | registry
  · exact ⟨rfl, like⟩
  · obtain ⟨m, earlier, -, launches⟩ := launchEither_route primary fallback deeds w.host
    obtain ⟨same, after⟩ :=
      (reenacts_accounted run primary fallback).trace registry like launches.alike
    simp only [begun] at same after
    simp only [same, true_and]
    exact ⟨after.journal, after.clock, after.host⟩

end

/-- What is called of the tracer shows in the account as it does in its log. -/
def Enters (m : Maker) (deeds : List Deed) (kept : List Deed × σ) (log : List Call × σ) : Prop :=
  kept.1 = deeds ++ log.1.map (.called m) ∧ kept.2 = log.2

theorem accounted_enters (m : Maker) (deeds : List Deed) (tracer : Tracer σ) :
    Simulates (Enters m deeds) (accounted m tracer) (logged tracer) := by
  refine ⟨rfl, ?_, ?_⟩
  · rintro c ⟨kept, s⟩ ⟨log, t⟩ ⟨entered, same⟩
    dsimp only at entered same
    subst entered same
    simp only [accounted, logged]
    rcases answer : tracer.attach c s with ⟨e | ⟨⟩, s'⟩
    · exact ⟨rfl, by simp, rfl⟩
    · exact ⟨rfl, by simp, rfl⟩
  · rintro c ⟨kept, s⟩ ⟨log, t⟩ ⟨entered, same⟩
    dsimp only at entered same
    subst entered same
    exact ⟨rfl, by simp [accounted, logged], rfl⟩

def newsOf (happenings : List (Happening ε)) : List ContainerEvent :=
  happenings.filterMap fun
    | .news e => some e
    | .seen _ _ => none

section
variable [TraceEvent ε]

theorem observe_eq_notifyAll (run : Run ε σ) (tracer : Tracer σ)
    (happenings : List (Happening ε)) (state : Connection × Registry) (w : World σ) :
    ((run.observe tracer happenings state w).1, (run.observe tracer happenings state w).2.host) =
      Connection.notifyAll tracer (newsOf happenings) state w.host := by
  induction happenings generalizing state w with
  | nil => rfl
  | cons happening happenings ih =>
    cases happening with
    | news e => exact ih _ _
    | seen owner event => exact ih state _

section
variable (run : Run ε σ) (registry : Registry) {after : Registry} {tracer : Tracer σ} {s : σ}
  {w : World σ}

theorem traceWith_unconnected {e : Error}
    (failed : Connection.connect registry tracer .everything w.host = ((.error e, after), s)) :
    run.traceWith registry tracer w =
      ((⟨.error (.during s!"failed to connect {run.name} tracer" e), []⟩, after),
        { w with host := (tracer.stop s).2 }) := by
  simp only [Run.traceWith, World.ask, failed]

theorem traceWith_connected {c : Connection}
    (made : Connection.connect registry tracer .everything w.host = ((.ok c, after), s)) :
    let seen := Connection.notifyAll tracer (newsOf run.window.happenings) (c, after)
      (run.window.opened s).2
    let closed := seen.1.1.close seen.1.2 tracer (run.window.closed seen.2).2
    (run.traceWith registry tracer w).1 = (⟨.ok (), [.running, .draining]⟩, closed.1.2) ∧
      (run.traceWith registry tracer w).2.host = (tracer.stop closed.2).2 := by
  have news := observe_eq_notifyAll run tracer run.window.happenings (c, after)
    { w with host := (run.window.opened s).2 }
  simp only [Run.traceWith, World.ask, made, ← news, and_self]

theorem trace_unlaunched {e : Error} (launched : run.launch w.host = (.error e, s)) :
    run.trace registry w = ((⟨.error (.during s!"failed to start {run.name} tracer" e), []⟩,
      registry), { w with host := s }) := by
  simp only [Run.trace, World.ask, launched]

theorem trace_launched (launched : run.launch w.host = (.ok tracer, s)) :
    run.trace registry w = run.traceWith registry tracer { w with host := s } := by
  simp only [Run.trace, World.ask, launched]

end

theorem window_deeds {selector : Selector} {others : List SubscriptionId} {c : Connection}
    {r : Registry} {log : List Call} (now : Connection.UpToDate selector others c r log)
    (m : Maker) (deeds : List Deed) (tracer : Tracer σ) (news : List ContainerEvent)
    (closed : Request σ Unit) (s : σ) :
    let seen := Connection.notifyAll (accounted m tracer) news (c, r)
      (deeds ++ log.map (.called m), s)
    let released := seen.1.1.close seen.1.2 (accounted m tracer) (unrecorded closed seen.2).2
    ∃ calls : List Call, released.2.1 = deeds ++ calls.map (.called m) ∧
      ∀ pid, Alternates none (calls.filter (·.changes pid)) none := by
  -- The account follows the log, of which it is known that the calls alternate.
  have simulates := accounted_enters m deeds tracer
  obtain ⟨same, entered⟩ := simulates.notifyAll news (c, r) (deeds ++ log.map (.called m), s)
    (log, s) ⟨rfl, rfl⟩
  have later := now.notifyAll tracer news s
  generalize Connection.notifyAll (accounted m tracer) news (c, r) _ = kept at same entered ⊢
  generalize Connection.notifyAll (logged tracer) news (c, r) _ = seen at same entered later
  obtain ⟨⟨c', r'⟩, deeds', t⟩ := kept
  obtain ⟨_, log', t'⟩ := seen
  obtain ⟨whole, host⟩ := entered
  dsimp only at same whole host
  subst same whole host
  obtain ⟨-, -, alternates⟩ := later.close tracer (closed t).2
  obtain ⟨-, all, -⟩ := simulates.close c' r' (deeds ++ log'.map (.called m), (closed t).2)
    (log', (closed t).2) ⟨rfl, rfl⟩
  exact ⟨_, all, alternates⟩

/-- From the start of a tracer to its stop, it is called only by the connection. -/
theorem traceWith_deeds (run : Run ε σ) (primary : Option (TracerFactory σ))
    (fallback : TracerFactory σ) (m : Maker) (tracer : Tracer σ) (registry : Registry)
    (w : World (List Deed × σ)) : ∃ calls : List Call,
    let after := (run.accounted primary fallback).traceWith registry (accounted m tracer) w
    after.2.host.1 = w.host.1 ++ (calls.map (.called m) ++ [.stopped m]) ∧
      (.running ∈ after.1.1.stages →
        ∀ pid, Alternates none (calls.filter (·.changes pid)) none) := by
  rcases hosted : w.host with ⟨deeds, s⟩
  have entered := (accounted_enters m deeds tracer).connect registry .everything (deeds, s) ([], s)
    ⟨(List.append_nil deeds).symm, rfl⟩
  rcases logs : Connection.connect registry (logged tracer) .everything ([], s) with
    ⟨⟨answer, registry'⟩, log, t⟩
  rcases made : Connection.connect registry (accounted m tracer) .everything w.host with
    ⟨answer', kept, s'⟩
  rw [← hosted, made, logs] at entered
  obtain ⟨same, whole, host⟩ := entered
  dsimp only at same whole host
  subst same whole host
  cases answer with
  | error e =>
    -- Nothing is known of these calls, and nothing need be: such a run never says that it runs.
    refine ⟨log, ?_, ?_⟩
    · rw [traceWith_unconnected _ _ made]
      simp [accounted_stop]
    · rw [traceWith_unconnected _ _ made]
      simp
  | ok connection =>
    obtain ⟨-, last⟩ := traceWith_connected (run.accounted primary fallback) registry made
    obtain ⟨calls, entered, alternates⟩ := window_deeds (Connection.connect_upToDate logs) m deeds
      tracer (newsOf run.window.happenings) run.window.closed (run.window.opened s').2
    refine ⟨calls, ?_, fun _ => alternates⟩
    have stopped := congrArg (· ++ [Deed.stopped m]) entered
    rw [List.append_assoc] at stopped
    exact (congrArg Prod.fst last).trans stopped

def Run.Connects (run : Run ε σ) (s : σ) : Prop :=
  ∃ registry tracer host c after, Registry.setUp run.opening = .ok registry ∧
    run.launch s = (.ok tracer, host) ∧
    (Connection.connect registry tracer .everything host).1 = (.ok c, after)

theorem execute_outcome (run : Run ε σ) (w : World σ) :
    (run.Connects w.host ∧ (run.execute w).1.1 =
      ⟨.ok (), [.initializing, .running, .draining, .done]⟩) ∨
    (¬ run.Connects w.host ∧ ∃ e, (run.execute w).1.1 = ⟨.error e, [.initializing, .failed]⟩) := by
  rcases opened : Registry.setUp run.opening with e | registry
  · right
    refine ⟨?_, _, by simp only [Run.execute, opened]; rfl⟩
    rintro ⟨_, _, _, _, _, made, -⟩
    rw [opened] at made
    contradiction
  rcases launched : run.launch w.host with ⟨e | tracer, host⟩
  · right
    refine ⟨?_, _, by simp only [Run.execute, opened, trace_unlaunched run registry launched]; rfl⟩
    rintro ⟨_, _, _, _, _, -, made, -⟩
    rw [launched] at made
    cases made
  rcases connected : Connection.connect registry tracer .everything host with
    ⟨⟨e | c, after⟩, host'⟩
  · right
    have ended := traceWith_unconnected run registry (w := { w with host }) connected
    constructor
    · rintro ⟨_, _, _, _, _, made, made', made''⟩
      rw [opened] at made
      cases made
      rw [launched] at made'
      cases made'
      rw [connected] at made''
      cases made''
    · refine ⟨.during s!"failed to connect {run.name} tracer" e, ?_⟩
      simp only [Run.execute, opened, trace_launched run registry launched, ended]
      rfl
  · left
    have ended := (traceWith_connected run registry (w := { w with host }) connected).1
    refine ⟨⟨registry, tracer, host, c, after, opened, launched, by rw [connected]⟩, ?_⟩
    simp only [Run.execute, opened, trace_launched run registry launched, ended]
    rfl

structure Concluded (run : Run ε σ) (s : σ) (outcome : Outcome) : Prop where
  done : outcome.stage = .done ↔ outcome.result = .ok ()
  failed : outcome.stage = .failed ↔ ∃ e, outcome.result = .error e
  passed : ∀ stage ∈ outcome.stages, stage = .running ∨ stage = .draining → run.Connects s

theorem execute_concluded (run : Run ε σ) (w : World σ) :
    Concluded run w.host (run.execute w).1.1 := by
  rcases execute_outcome run w with ⟨connects, ended⟩ | ⟨-, e, ended⟩
  · rw [ended]
    exact ⟨by simp [Outcome.stage], by simp [Outcome.stage], fun _ _ _ => connects⟩
  · rw [ended]
    refine ⟨by simp [Outcome.stage], by simp [Outcome.stage], ?_⟩
    intro stage member passing
    rcases passing with rfl | rfl <;> simp at member

/-- What is left of the registry. If it was not set up it was begun all the same, as soon as the
runtime was watched. -/
structure Emptied (o : Registry.Opening) (left : Option Registry) : Prop where
  begun : left.isSome = true ↔ o.memory = .ok ()
  watch : ∀ r, left = some r → r.watching = false
  containers : ∀ r made, left = some r → Registry.setUp o = .ok made → r.containers = ∅
  subscriptions : ∀ r made, left = some r → Registry.setUp o = .ok made → r.subscriptions = []

theorem setUp_error {o : Registry.Opening} {setback : Registry.Setback}
    (failed : Registry.setUp o = .error setback) :
    (setback.begun.isSome = true ↔ o.memory = .ok ()) ∧
      ∀ r, setback.begun = some r → r.watching = false := by
  unfold Registry.setUp at failed
  rcases memory : o.memory with e | ⟨⟩
  · simp only [memory, Except.error.injEq] at failed
    simp [← failed]
  · rcases listing : o.listing with e | listed
    · simp only [memory, listing, Except.error.injEq] at failed
      simp [← failed, Registry.unwatch]
    · simp [memory, listing] at failed

theorem memory_of_setUp {o : Registry.Opening} {registry : Registry}
    (made : Registry.setUp o = .ok registry) : o.memory = .ok () := by
  unfold Registry.setUp at made
  rcases memory : o.memory with e | ⟨⟩
  · simp [memory] at made
  · rfl

theorem execute_emptied (run : Run ε σ) (w : World σ) :
    Emptied run.opening (run.execute w).1.2 := by
  simp only [Run.execute]
  rcases opened : Registry.setUp run.opening with setback | registry
  · obtain ⟨begun, watch⟩ := setUp_error opened
    exact ⟨begun, watch, by simp [opened], by simp [opened]⟩
  · refine ⟨by simp [memory_of_setUp opened], ?_, ?_, ?_⟩
    · rintro r left
      cases left
      rfl
    · rintro r made left -
      cases left
      rfl
    · rintro r made left -
      cases left
      rfl

/-- The account of a run: nothing without a registry, and else what was done with the tracers. -/
theorem execute_deeds (run : Run ε σ) (primary : Option (TracerFactory σ))
    (fallback : TracerFactory σ) (w : World σ) :
    let after := (run.accounted primary fallback).execute ⟨w.journal, w.clock, ([], w.host)⟩
    ((∃ e, Registry.setUp run.opening = .error e) ∧ .running ∉ after.1.1.stages ∧
      after.2.host.1 = []) ∨
    ((∃ r, Registry.setUp run.opening = .ok r) ∧ ∃ m earlier session,
      Route primary w.host m earlier ∧ Session m session ∧
      after.2.host.1 = earlier ++ session ∧
      (.running ∈ after.1.1.stages → ∃ calls : List Call,
        session = [.asked m, .built m, .started m] ++ (calls.map (.called m) ++ [.stopped m]) ∧
        ∀ pid, Alternates none (calls.filter (·.changes pid)) none)) := by
  have opening : (run.accounted primary fallback).opening = run.opening := rfl
  simp only [Run.execute, opening]
  rcases made : Registry.setUp run.opening with setback | registry
  · exact .inl ⟨⟨setback, rfl⟩, by simp, rfl⟩
  · right
    refine ⟨⟨registry, rfl⟩, ?_⟩
    let begun : World (List Deed × σ) := ⟨w.journal, w.clock, ([], w.host)⟩
    -- What was done before the last launch is settled by the route; what follows it depends on
    -- whether that launch gave a tracer.
    obtain ⟨m, earlier, route, launches⟩ := launchEither_route primary fallback [] w.host
    change Launches m _ _ ((run.accounted primary fallback).launch begun.host) at launches
    rcases launched : (run.accounted primary fallback).launch begun.host with ⟨answer, kept⟩
    rw [launched, List.nil_append] at launches
    generalize launchEither primary fallback w.host = plain at launches
    cases launches with
    | failed e s attempted attempt =>
      refine ⟨m, earlier, attempted, route, .attempted attempt, ?_⟩
      have ended := trace_unlaunched (run.accounted primary fallback) registry launched
      simp only [begun] at ended
      simp only [ended, true_and]
      exact fun running => by simp at running
    | started tracer s =>
      obtain ⟨calls, entered, alternates⟩ := traceWith_deeds run primary fallback m tracer registry
        { begun with host := (earlier ++ [.asked m, .built m, .started m], s) }
      refine ⟨m, earlier, _, route, .traced calls, ?_⟩
      have ended := trace_launched (run.accounted primary fallback) registry launched
      simp only [begun] at ended entered alternates
      simp only [ended]
      generalize (run.accounted primary fallback).traceWith registry (accounted m tracer) _ = after
        at entered alternates ⊢
      refine ⟨?_, fun running => ⟨calls, rfl, alternates ?_⟩⟩
      · rw [entered, List.append_assoc]
      · cases result : after.1.1.result <;> simpa [result] using running

structure Returned (o : Registry.Opening) (primary : Option (TracerFactory σ)) (s : σ)
    (outcome : Outcome) (deeds : List Deed) : Prop extends Settled deeds where
  built : ∀ m, deeds.count (.built m) ≤ 1
  asked : .asked .fallback ∈ deeds ↔ (∃ r, Registry.setUp o = .ok r) ∧
    ∀ factory, primary = some factory → Unlaunched factory s
  detached : .running ∈ outcome.stages → ∃ (m : Maker) (before : List Deed) (calls : List Call),
    deeds = before ++ .started m :: (calls.map (.called m) ++ [.stopped m]) ∧
      (∀ n call, .called n call ∉ before) ∧
      ∀ pid, Alternates none (calls.filter (·.changes pid)) none

theorem execute_returned (run : Run ε σ) (primary : Option (TracerFactory σ))
    (fallback : TracerFactory σ) (w : World σ) :
    let after := (run.accounted primary fallback).execute ⟨w.journal, w.clock, ([], w.host)⟩
    Returned run.opening primary w.host after.1.1 after.2.host.1 := by
  have deeds := execute_deeds run primary fallback w
  dsimp only at deeds ⊢
  generalize (run.accounted primary fallback).execute _ = after at deeds ⊢
  rcases deeds with ⟨⟨e, failed⟩, idle, untouched⟩ |
    ⟨made, m, earlier, session, route, last, all, traced⟩
  · rw [untouched]
    refine ⟨⟨fun _ => rfl, rfl, fun n => by simp [live, liveFrom]⟩, fun n => by simp, ?_, ?_⟩
    · simp [failed]
    · exact fun running => absurd running idle
  · rw [all]
    refine ⟨route.settled last, route.built_le last, ?_, ?_⟩
    · have asked := route.asked_iff last
      simpa [made] using asked
    · intro running
      obtain ⟨calls, rfl, alternates⟩ := traced running
      refine ⟨m, earlier ++ [.asked m, .built m], calls, by simp, ?_, alternates⟩
      intro n call
      have uncalled := route.uncalled (n := n) (c := call)
      simpa using uncalled

/-- On every way out, a run has returned what it took. Keeping the account of that changes neither
how the run ends nor what it publishes. -/
theorem run_returned (run : Run ε σ) (primary : Option (TracerFactory σ))
    (fallback : TracerFactory σ) (w : World σ) :
    let plain := (run.launching primary fallback).execute w
    let kept := (run.accounted primary fallback).execute ⟨w.journal, w.clock, ([], w.host)⟩
    (kept.1 = plain.1 ∧ World.Like HostOf kept.2 plain.2) ∧
      Concluded (run.launching primary fallback) w.host plain.1.1 ∧
      Returned run.opening primary w.host plain.1.1 kept.2.host.1 ∧
      Emptied run.opening plain.1.2 := by
  have like := execute_accounted run primary fallback [] w
  have returned := execute_returned run primary fallback w
  dsimp only at like returned ⊢
  rw [like.1] at returned
  exact ⟨like, execute_concluded _ w, returned, execute_emptied (run.launching primary fallback) w⟩

end

def unlisted : Run TcpEvent Unit where
  name := tcpName
  node := "node-1"
  opening := ⟨.ok (), [], .error (.configuration "unreachable"), true⟩
  launch s := (.error (.resource tcpName "no tracer"), s)
  window := ⟨fun s => ((), s), [], fun s => ((), s)⟩

/-- It does not follow from there being no first factory that the second is asked: without a
registry neither is. -/
theorem unlisted_asks_nobody : ¬ ∀ (run : Run TcpEvent Unit) (primary : Option (TracerFactory Unit))
    (fallback : TracerFactory Unit) (w : World Unit),
    .asked .fallback ∈ ((run.accounted primary fallback).execute
      ⟨w.journal, w.clock, ([], w.host)⟩).2.host.1 ↔
        ∀ factory, primary = some factory → Unlaunched factory w.host := by
  intro always
  have asked := (always unlisted none unlisted.launch ⟨.empty, .ofReadings [], ()⟩).mpr (by simp)
  change Deed.asked .fallback ∈ [] at asked
  simp at asked

end NodeDiagnostics.Trace
