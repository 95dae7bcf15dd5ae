import NodeDiagnostics.Proofs.Trace.Simulation

namespace NodeDiagnostics.Trace

variable {σ : Type}

/-- The factories that a run may have. One that is the only one is the fallback. -/
inductive Maker where
  | primary
  | fallback
deriving DecidableEq, Repr

inductive Deed where
  | asked (m : Maker)
  | built (m : Maker)
  | started (m : Maker)
  | unstarted (m : Maker)
  | called (m : Maker) (c : Call)
  | stopped (m : Maker)
deriving DecidableEq, Repr

def accounted (m : Maker) (tracer : Tracer σ) : Tracer (List Deed × σ) where
  name := tracer.name
  start := fun (deeds, s) => match tracer.start s with
    | (.ok (), s) => (.ok (), deeds ++ [.started m], s)
    | (.error e, s) => (.error e, deeds ++ [.unstarted m], s)
  attach c := fun (deeds, s) => match tracer.attach c s with
    | (.ok (), s) => (.ok (), deeds ++ [.called m (.attached c)], s)
    | (.error e, s) => (.error e, deeds ++ [.called m (.refused c)], s)
  detach c := fun (deeds, s) =>
    ((tracer.detach c s).1, deeds ++ [.called m (.detached c)], (tracer.detach c s).2)
  stop := fun (deeds, s) => ((), deeds ++ [.stopped m], (tracer.stop s).2)

theorem accounted_start (m : Maker) (tracer : Tracer σ) (deeds : List Deed) (s : σ) :
    (accounted m tracer).start (deeds, s) = match tracer.start s with
      | (.ok (), s) => (.ok (), deeds ++ [.started m], s)
      | (.error e, s) => (.error e, deeds ++ [.unstarted m], s) :=
  rfl

theorem accounted_stop (m : Maker) (tracer : Tracer σ) (deeds : List Deed) (s : σ) :
    (accounted m tracer).stop (deeds, s) = ((), deeds ++ [.stopped m], (tracer.stop s).2) :=
  rfl

def accountedFactory (m : Maker) (factory : TracerFactory σ) : TracerFactory (List Deed × σ) :=
  fun (deeds, s) => match factory s with
    | (.ok tracer, s) => (.ok (accounted m tracer), deeds ++ [.asked m, .built m], s)
    | (.error e, s) => (.error e, deeds ++ [.asked m], s)

inductive Attempt (m : Maker) : List Deed → Prop
  | unbuilt : Attempt m [.asked m]
  | unstarted : Attempt m [.asked m, .built m, .unstarted m, .stopped m]

inductive Session (m : Maker) : List Deed → Prop
  | attempted {deeds : List Deed} (attempt : Attempt m deeds) : Session m deeds
  | traced (calls : List Call) :
      Session m ([.asked m, .built m, .started m] ++ (calls.map (.called m) ++ [.stopped m]))

def liveFrom (now : List Maker) (deeds : List Deed) : List Maker :=
  deeds.foldl
    (fun now d => match d with
      | .started m => m :: now
      | .stopped m => now.erase m
      | _ => now)
    now

def live (deeds : List Deed) : List Maker := liveFrom [] deeds

/-- A part of an account in which each tracer that is built is stopped, just once, and no two are
live at a time. -/
structure Settled (deeds : List Deed) : Prop where
  stopped : ∀ m, deeds.count (.stopped m) = deeds.count (.built m)
  ended : live deeds = []
  single : ∀ n, (live (deeds.take n)).length ≤ 1

theorem liveFrom_append (now : List Maker) (first second : List Deed) :
    liveFrom now (first ++ second) = liveFrom (liveFrom now first) second :=
  List.foldl_append

theorem liveFrom_calls (m : Maker) (calls : List Call) (now : List Maker) :
    liveFrom now (calls.map (.called m)) = now := by
  induction calls with
  | nil => rfl
  | cons call calls ih => exact ih

theorem Settled.append {first second : List Deed} (h : Settled first) (h' : Settled second) :
    Settled (first ++ second) := by
  have onward : ∀ rest, live (first ++ rest) = live rest := by
    intro rest
    rw [live, liveFrom_append, show liveFrom [] first = [] from h.ended, live]
  constructor
  · intro m
    rw [List.count_append, List.count_append, h.stopped, h'.stopped]
  · rw [onward, h'.ended]
  · intro n
    by_cases early : n ≤ first.length
    · rw [List.take_append_of_le_length early]
      exact h.single n
    · obtain ⟨k, rfl⟩ := Nat.exists_eq_add_of_le (Nat.le_of_not_le early)
      rw [List.take_length_add_append, onward]
      exact h'.single k

theorem count_called_map (m : Maker) (calls : List Call) {d : Deed} (other : ∀ c, d ≠ .called m c) :
    (calls.map (.called m)).count d = 0 := by
  refine List.count_eq_zero.mpr fun member => ?_
  obtain ⟨c, -, same⟩ := List.mem_map.mp member
  exact other c same.symm

theorem Attempt.uncalled {m n : Maker} {c : Call} {deeds : List Deed} (h : Attempt m deeds) :
    .called n c ∉ deeds := by
  cases h <;> simp

theorem Attempt.settled {m : Maker} {deeds : List Deed} (h : Attempt m deeds) :
    Settled deeds := by
  cases h with
  | unbuilt =>
    refine ⟨fun n => by simp, rfl, fun n => ?_⟩
    cases n <;> simp [live, liveFrom]
  | unstarted =>
    refine ⟨fun n => by simp [List.count_cons], by simp [live, liveFrom], fun n => ?_⟩
    rcases n with _ | _ | _ | _ | n <;> simp [live, liveFrom]

section
variable {m : Maker} {deeds : List Deed}

theorem Session.settled (h : Session m deeds) : Settled deeds := by
  cases h with
  | attempted attempt => exact attempt.settled
  | traced calls =>
    -- While the tracer is called it alone is live, however far the calls have come.
    have during : ∀ (some_calls : List Call) (rest : List Deed),
        live (.asked m :: .built m :: .started m :: (some_calls.map (.called m) ++ rest)) =
          liveFrom [m] rest := by
      intro some_calls rest
      have calling : liveFrom [m] (some_calls.map (.called m) ++ rest) = liveFrom [m] rest := by
        rw [liveFrom_append, liveFrom_calls]
      exact calling
    refine ⟨fun n => ?_, ?_, fun n => ?_⟩
    · have called : (calls.map (Deed.called m)).count (.stopped n) = 0 ∧
          (calls.map (Deed.called m)).count (.built n) = 0 :=
        ⟨count_called_map m calls (by simp), count_called_map m calls (by simp)⟩
      simp [List.count_append, List.count_cons, called]
    · exact (during calls _).trans (by simp [liveFrom])
    · rcases n with _ | _ | _ | n
      · simp [live, liveFrom]
      · simp [live, liveFrom]
      · simp [live, liveFrom]
      · simp only [List.cons_append, List.nil_append, List.take_succ_cons, List.take_append,
          ← List.map_take, during]
        generalize n - (calls.map (Deed.called m)).length = k
        cases k <;> simp [liveFrom]

theorem Session.asked_iff (h : Session m deeds) (n : Maker) : .asked n ∈ deeds ↔ m = n := by
  cases h with
  | attempted attempt => cases attempt <;> simp [eq_comm]
  | traced calls => simp [eq_comm]

theorem Session.built_le (h : Session m deeds) (n : Maker) :
    deeds.count (.built n) ≤ if m = n then 1 else 0 := by
  cases h with
  | attempted attempt => cases attempt <;> by_cases same : m = n <;> simp [same]
  | traced calls =>
    have called : (calls.map (Deed.called m)).count (.built n) = 0 :=
      count_called_map m calls (by simp)
    simp only [List.count_append, called]
    by_cases same : m = n <;> simp [same]

end

def Unlaunched (factory : TracerFactory σ) (s : σ) : Prop :=
  match factory s with
  | (.error _, _) => True
  | (.ok tracer, s) => ∃ e, (tracer.start s).1 = .error e

theorem unlaunched_iff (factory : TracerFactory σ) (s : σ) :
    Unlaunched factory s ↔ ∃ e, (factory.launch s).1 = .error e := by
  unfold Unlaunched TracerFactory.launch
  rcases factory s with ⟨e | tracer, after⟩
  · exact ⟨fun _ => ⟨e, rfl⟩, fun _ => trivial⟩
  · dsimp only
    rcases tracer.start after with ⟨e | ⟨⟩, last⟩ <;> simp

inductive Launches (m : Maker) (deeds : List Deed) : Except Error (Tracer σ) × σ →
    Except Error (Tracer (List Deed × σ)) × (List Deed × σ) → Prop
  | failed (e : Error) (s : σ) (attempted : List Deed) (attempt : Attempt m attempted) :
      Launches m deeds (.error e, s) (.error e, deeds ++ attempted, s)
  | started (tracer : Tracer σ) (s : σ) : Launches m deeds (.ok tracer, s)
      (.ok (accounted m tracer), deeds ++ [.asked m, .built m, .started m], s)

theorem launch_launches (m : Maker) (factory : TracerFactory σ) (deeds : List Deed) (s : σ) :
    Launches m deeds (factory.launch s) ((accountedFactory m factory).launch (deeds, s)) := by
  unfold TracerFactory.launch accountedFactory
  dsimp only
  rcases answer : factory s with ⟨e | tracer, s'⟩
  · exact .failed e s' _ .unbuilt
  · simp only [accounted_start]
    rcases beginning : tracer.start s' with ⟨e | ⟨⟩, s''⟩
    · simp only [accounted_stop, List.append_assoc]
      exact .failed e (tracer.stop s'').2 _ .unstarted
    · simp only [List.append_assoc]
      exact .started tracer s''

/-- What has been done before a run launches its last factory, and which that is. -/
inductive Route (primary : Option (TracerFactory σ)) (s : σ) : Maker → List Deed → Prop
  | only (absent : primary = none) : Route primary s .fallback []
  | first (factory : TracerFactory σ) (given : primary = some factory)
      (launched : ¬ Unlaunched factory s) : Route primary s .primary []
  | second (factory : TracerFactory σ) (given : primary = some factory)
      (unlaunched : Unlaunched factory s) (earlier : List Deed)
      (attempt : Attempt .primary earlier) : Route primary s .fallback earlier

theorem launchEither_route (primary : Option (TracerFactory σ)) (fallback : TracerFactory σ)
    (deeds : List Deed) (s : σ) : ∃ m earlier, Route primary s m earlier ∧
      Launches m (deeds ++ earlier) (TracerFactory.launchEither primary fallback s)
        (TracerFactory.launchEither (primary.map (accountedFactory .primary))
          (accountedFactory .fallback fallback) (deeds, s)) := by
  cases primary with
  | none =>
    refine ⟨.fallback, [], .only rfl, ?_⟩
    rw [List.append_nil]
    exact launch_launches .fallback fallback deeds s
  | some factory =>
    have unlaunched := unlaunched_iff factory s
    have launches := launch_launches .primary factory deeds s
    simp only [TracerFactory.launchEither, Option.map_some]
    generalize factory.launch s = answer at launches unlaunched ⊢
    generalize (accountedFactory .primary factory).launch (deeds, s) = kept at launches ⊢
    cases launches with
    | failed e s' earlier attempt =>
      refine ⟨.fallback, earlier, .second factory rfl (unlaunched.mpr ⟨e, rfl⟩) earlier attempt, ?_⟩
      exact launch_launches .fallback fallback (deeds ++ earlier) s'
    | started tracer s' =>
      refine ⟨.primary, [], .first factory rfl ?_, ?_⟩
      · rw [unlaunched]
        rintro ⟨e, failed⟩
        cases failed
      · rw [List.append_nil]
        exact .started tracer s'

theorem Route.uncalled {primary : Option (TracerFactory σ)} {s : σ} {m n : Maker} {c : Call}
    {earlier : List Deed} (h : Route primary s m earlier) : .called n c ∉ earlier := by
  cases h with
  | only => exact List.not_mem_nil
  | first => exact List.not_mem_nil
  | second factory given unlaunched earlier attempt => exact attempt.uncalled

section
variable {primary : Option (TracerFactory σ)} {s : σ} {m : Maker} {earlier session : List Deed}

theorem Route.settled (h : Route primary s m earlier) (last : Session m session) :
    Settled (earlier ++ session) := by
  cases h with
  | only => exact last.settled
  | first => exact last.settled
  | second factory given unlaunched earlier attempt => exact attempt.settled.append last.settled

theorem Route.built_le (h : Route primary s m earlier) (last : Session m session) (n : Maker) :
    (earlier ++ session).count (.built n) ≤ 1 := by
  have later := last.built_le n
  cases h with
  | only => cases n <;> simp_all
  | first => cases n <;> simp_all
  | second factory given unlaunched earlier attempt =>
    have before := (Session.attempted attempt).built_le n
    rw [List.count_append]
    cases n <;> simp at before later <;> omega

theorem Route.asked_iff (h : Route primary s m earlier) (last : Session m session) :
    .asked .fallback ∈ earlier ++ session ↔
      ∀ factory, primary = some factory → Unlaunched factory s := by
  have asked := last.asked_iff .fallback
  cases h with
  | only absent => simp [asked, absent]
  | first factory given launched => simp [asked, given, launched]
  | second factory given unlaunched => simp [asked, given, unlaunched]

end

end NodeDiagnostics.Trace
