import NodeDiagnostics.Proofs.Probe.Crew
import NodeDiagnostics.Proofs.Trace.Simulation

/-!
Seen through its books, with the bodies that the threads have, a crew is the probe: it gives the
same answers to the same calls, and a thread that polls is its worker that is polled. So a
connection cannot tell the two apart.
-/
namespace NodeDiagnostics.Probe
namespace Crew
open Trace NamespaceWorkers

variable {α β τ : Type}

def view (threads : List (WorkerThread β)) (worker : Worker ThreadId) : Option (Worker β) :=
  threads[worker.body]?.bind (·.worker? worker.members)

def embody (threads : List (WorkerThread β)) (posts : Posts) :
    Std.ExtTreeMap NamespaceId (Worker β) :=
  posts.filterMap fun _ worker => view threads worker

def embodied (threads : List (WorkerThread β)) (w : NamespaceWorkers ThreadId) :
    NamespaceWorkers β :=
  ⟨w.label, embody threads w.workers, w.namespaceOf⟩

def books (x : Crew α β) : NamespaceProbe β :=
  ⟨x.probe.name, x.probe.started, embodied x.threads x.probe.workers⟩

section
variable {threads changed : List (WorkerThread β)} {posts : Posts} {ns : NamespaceId}
  {worker : Worker ThreadId}

theorem getElem?_embody (threads : List (WorkerThread β)) (posts : Posts) (ns : NamespaceId) :
    (embody threads posts)[ns]? = posts[ns]?.bind (view threads) := by
  simp [embody]

theorem embody_insert (threads : List (WorkerThread β)) (posts : Posts) (ns : NamespaceId)
    {seen : Worker β} (here : view changed worker = some seen)
    (elsewhere : ∀ (other : NamespaceId) another, other ≠ ns → posts[other]? = some another →
      view changed another = view threads another) :
    embody changed (posts.insert ns worker) = (embody threads posts).insert ns seen := by
  refine Std.ExtTreeMap.ext_getElem? fun other => ?_
  rw [getElem?_embody, Std.ExtTreeMap.getElem?_insert, Std.ExtTreeMap.getElem?_insert,
    getElem?_embody]
  split
  · exact here
  · rename_i differ
    cases there : posts[other]? with
    | none => rfl
    | some another => exact elsewhere other another (fun same => by simp [same] at differ) there

theorem embody_erase
    (elsewhere : ∀ (other : NamespaceId) another, other ≠ ns → posts[other]? = some another →
      view changed another = view threads another) :
    embody changed (posts.erase ns) = (embody threads posts).erase ns := by
  refine Std.ExtTreeMap.ext_getElem? fun other => ?_
  rw [getElem?_embody, Std.ExtTreeMap.getElem?_erase, Std.ExtTreeMap.getElem?_erase,
    getElem?_embody]
  split
  · rfl
  · rename_i differ
    cases there : posts[other]? with
    | none => rfl
    | some another => exact elsewhere other another (fun same => by simp [same] at differ) there

theorem embody_congr
    (same : ∀ (other : NamespaceId) another, posts[other]? = some another →
      view changed another = view threads another) :
    embody changed posts = embody threads posts := by
  refine Std.ExtTreeMap.ext_getElem? fun other => ?_
  rw [getElem?_embody, getElem?_embody]
  cases there : posts[other]? with
  | none => rfl
  | some another => exact same other another there

theorem view_concat (known : worker.body < threads.length) (thread : WorkerThread β) :
    view (threads ++ [thread]) worker = view threads worker := by
  simp [view, List.getElem?_append_left known]

theorem view_joinAll {ids : List ThreadId} (untold : worker.body ∉ ids) :
    view (joinAll ids threads) worker = view threads worker := by
  rw [view, getElem?_joinAll, if_neg untold, view]

theorem view_set {id : ThreadId} (other : worker.body ≠ id) (thread : WorkerThread β) :
    view (threads.set id thread) worker = view threads worker := by
  simp [view, List.getElem?_set_ne other.symm]

end

section
variable {x : Crew α β} {ns : NamespaceId} {worker : Worker ThreadId}

theorem InCharge.lt (h : InCharge x) (served : x.probe.workers.workers[ns]? = some worker) :
    worker.body < x.threads.length :=
  ((h.employed worker.body).mpr ⟨ns, worker, served, rfl⟩).lt

theorem InCharge.sees (h : InCharge x) (served : x.probe.workers.workers[ns]? = some worker) :
    ∃ body running, ∀ members,
      view x.threads { worker with members } = some ⟨members, body, running⟩ := by
  obtain ⟨thread, found, loose⟩ := (h.employed worker.body).mpr ⟨ns, worker, served, rfl⟩
  cases thread with
  | polling body =>
    exact ⟨body, true, fun members => by simp [Crew.view, found, WorkerThread.worker?]⟩
  | ended body =>
    exact ⟨body, false, fun members => by simp [Crew.view, found, WorkerThread.worker?]⟩
  | joined => contradiction

theorem embodied_served {seen : Worker β} (served : x.probe.workers.workers[ns]? = some worker)
    (view : view x.threads worker = some seen) :
    (embodied x.threads x.probe.workers).workers[ns]? = some seen := by
  simp only [embodied, getElem?_embody, served, Option.bind_some, view]

theorem embodied_unserved (unserved : x.probe.workers.workers[ns]? = none) :
    (embodied x.threads x.probe.workers).workers[ns]? = none := by
  simp only [embodied, getElem?_embody, unserved, Option.bind_none]

theorem InCharge.attach_embodied (h : InCharge x) (c : Container)
    (lookup : Pid → Option NamespaceId) (setup : Container → Setup β) :
    let here := x.probe.workers.attach c lookup (x.numbered setup)
    let there := (embodied x.threads x.probe.workers).attach c lookup setup
    here.1 = there.1 ∧ embodied (if here.1.madeWorker then x.threads ++ [(setup c).thread]
      else x.threads) here.2 = there.2 := by
  dsimp only
  cases tracked : x.probe.workers.namespaceOf[c.pid]? with
  | some ns =>
    have known : (embodied x.threads x.probe.workers).namespaceOf[c.pid]? = some ns := tracked
    rw [attach_of_tracked tracked, attach_of_tracked known]
    exact ⟨rfl, rfl⟩
  | none =>
    have unknown : (embodied x.threads x.probe.workers).namespaceOf[c.pid]? = none := tracked
    cases located : lookup c.pid with
    | none =>
      rw [attach_of_missing tracked located, attach_of_missing unknown located]
      exact ⟨rfl, rfl⟩
    | some ns =>
      cases served : x.probe.workers.workers[ns]? with
      | some worker =>
        obtain ⟨body, running, view⟩ := h.sees served
        rw [attach_of_served tracked located served,
          attach_of_served unknown located (embodied_served served (view worker.members))]
        have grown := embody_insert x.threads x.probe.workers.workers ns
          (view (worker.members ++ [c])) (fun _ _ _ _ => rfl)
        refine ⟨rfl, ?_⟩
        simp only [embodied, enlist, Attachment.madeWorker, Bool.false_eq_true, if_false, grown]
      | none =>
        rw [attach_of_unserved tracked located served,
          attach_of_unserved unknown located (embodied_unserved served)]
        -- The new thread is the last, so the other workers keep theirs.
        have kept : ∀ thread (other : NamespaceId) another,
            x.probe.workers.workers[other]? = some another →
              view (x.threads ++ [thread]) another = view x.threads another :=
          fun thread other another there => view_concat (h.lt there) thread
        cases answer : setup c with
        | ready body =>
          have newest : view (x.threads ++ [.polling body]) ⟨[c], x.threads.length, true⟩ =
              some ⟨[c], body, true⟩ := by
            simp [Crew.view, WorkerThread.worker?]
          have grown := embody_insert x.threads x.probe.workers.workers ns newest
            (fun other another _ there => kept (.polling body) other another there)
          simp only [numbered, answer, Setup.map, Setup.thread, embodied, enlist,
            Attachment.madeWorker, if_true, grown, and_self]
        | refused e =>
          simp only [numbered, answer, Setup.map, Setup.thread, embodied, Attachment.madeWorker,
            if_true, embody_congr (kept .joined), and_self]
        | vanished =>
          simp only [numbered, answer, Setup.map, Setup.thread, embodied, Attachment.madeWorker,
            if_true, embody_congr (kept .joined), and_self]

theorem InCharge.attach_books (h : InCharge x) (c : Container)
    (lookup : Pid → Option NamespaceId) (setup : Container → Setup β) :
    (x.attach c lookup setup).1 = (x.books.attach c lookup setup).1 ∧
      (x.attach c lookup setup).2.books = (x.books.attach c lookup setup).2 := by
  obtain ⟨outcome, after⟩ := h.attach_embodied c lookup setup
  cases started : x.probe.started with
  | false =>
    have stopped : x.books.started = false := started
    rw [NamespaceProbe.attach_of_stopped stopped]
    simp only [Crew.attach, NamespaceProbe.attach_of_stopped started, started, Bool.false_and]
    exact ⟨rfl, rfl⟩
  | true =>
    have running : x.books.started = true := started
    rw [NamespaceProbe.attach_of_started running]
    simp only [Crew.attach, NamespaceProbe.attach_of_started started, started, Bool.true_and]
    refine ⟨congrArg Attachment.result outcome, ?_⟩
    simp only [books, after]
    rw [started]

theorem InCharge.detach_embodied (h : InCharge x) (c : Container) :
    embodied (joinAll ((x.probe.workers.dismissed? c).map (·.body)).toList x.threads)
        (x.probe.workers.detach c) =
      (embodied x.threads x.probe.workers).detach c := by
  -- Only in the last case is a thread told to stop, and no worker that stays has that thread.
  have none_told : ∀ posts : Posts, embody (joinAll [] x.threads) posts = embody x.threads posts :=
    fun posts => embody_congr fun _ _ _ => view_joinAll List.not_mem_nil
  have leaves := detach_leaves x.probe.workers c
  generalize x.probe.workers.dismissed? c = stopped at leaves ⊢
  generalize x.probe.workers.detach c = after at leaves ⊢
  cases leaves with
  | untracked untracked =>
    have unknown : (embodied x.threads x.probe.workers).namespaceOf[c.pid]? = none := untracked
    have same : (embodied x.threads x.probe.workers).detach c =
        embodied x.threads x.probe.workers := by
      simp only [NamespaceWorkers.detach, unknown]
    rw [same]
    simp only [embodied, Option.map_none, Option.toList_none, none_told]
  | unserved ns tracked unserved =>
    have known : (embodied x.threads x.probe.workers).namespaceOf[c.pid]? = some ns := tracked
    have absent := embodied_unserved unserved
    simp only [NamespaceWorkers.detach, known, absent]
    simp only [embodied, Option.map_none, Option.toList_none, none_told]
  | others ns worker tracked served others =>
    have known : (embodied x.threads x.probe.workers).namespaceOf[c.pid]? = some ns := tracked
    obtain ⟨body, running, view⟩ := h.sees served
    rw [detach_tracked known (embodied_served served (view worker.members)), if_neg others]
    have shrunk := embody_insert x.threads x.probe.workers.workers ns
      (view (worker.members.filter (·.pid != c.pid))) (fun _ _ _ _ => rfl)
    simp only [embodied, Option.map_none, Option.toList_none, none_told, shrunk]
  | last ns worker tracked served last =>
    have known : (embodied x.threads x.probe.workers).namespaceOf[c.pid]? = some ns := tracked
    obtain ⟨body, running, view⟩ := h.sees served
    rw [detach_tracked known (embodied_served served (view worker.members)), if_pos last]
    have fewer : embody (joinAll [worker.body] x.threads) (x.probe.workers.workers.erase ns) =
        (embody x.threads x.probe.workers.workers).erase ns := by
      refine embody_erase fun other another differ there => view_joinAll ?_
      rw [List.mem_singleton]
      exact fun alike => differ (h.apart other ns another worker there served alike)
    simp only [embodied, Option.map_some, Option.toList_some, fewer]

theorem start_books (x : Crew α β) : x.start.books = x.books.start :=
  rfl

theorem stop_books (x : Crew α β) : x.stop.books = x.books.stop := by
  have nothing : ∀ threads : List (WorkerThread β), embody threads ∅ = ∅ := fun threads =>
    Std.ExtTreeMap.ext_getElem? fun ns => by simp [getElem?_embody]
  simp only [books, Crew.stop, NamespaceProbe.stop, stopAll, empty, embodied, nothing]

theorem Apart.embody_set {threads : List (WorkerThread β)} {posts : Posts} (h : Apart posts)
    (served : posts[ns]? = some worker) (known : worker.body < threads.length)
    (thread : WorkerThread β) {seen : Worker β} (new : thread.worker? worker.members = some seen) :
    embody (threads.set worker.body thread) posts = (embody threads posts).insert ns seen := by
  refine Std.ExtTreeMap.ext_getElem? fun other => ?_
  rw [getElem?_embody, Std.ExtTreeMap.getElem?_insert, getElem?_embody]
  split
  · rename_i here
    cases Std.LawfulEqCmp.compare_eq_iff_eq.mp here
    simp [served, view, known, new]
  · rename_i differ
    cases there : posts[other]? with
    | none => rfl
    | some another =>
      refine view_set (fun alike => differ ?_) thread
      rw [h other ns another worker there served alike]
      exact Std.ReflCmp.compare_self

/-- A thread that polls is its worker that is polled. -/
theorem InCharge.work_books (h : InCharge x) (served : x.probe.workers.workers[ns]? = some worker)
    (step : β → Except Error (List α × β)) :
    let polled := x.books.workers.poll ns fun _ => step
    (x.work worker.body step).books = { x.books with workers := polled.2 } ∧
      (x.work worker.body step).heard = x.heard ++ polled.1.toOption.getD [] := by
  dsimp only
  obtain ⟨thread, found, loose⟩ := (h.employed worker.body).mpr ⟨ns, worker, served, rfl⟩
  cases thread with
  | polling body =>
    have seen : view x.threads worker = some ⟨worker.members, body, true⟩ := by
      simp [view, found, WorkerThread.worker?]
    have awake : x.books.workers.running? ns = some ⟨worker.members, body, true⟩ := by
      simp [running?, books, embodied_served served seen]
    simp only [poll, awake, Crew.work, found]
    cases answer : step body with
    | ok result =>
      have next := h.apart.embody_set served (h.lt served) (.polling result.2) rfl
      simp only [books, embodied, next, true_and]
      rfl
    | error e =>
      have next := h.apart.embody_set served (h.lt served) (.ended body) rfl
      simp only [books, embodied, next, true_and]
      exact (List.append_nil x.heard).symm
  | ended body =>
    have seen : view x.threads worker = some ⟨worker.members, body, false⟩ := by
      simp [view, found, WorkerThread.worker?]
    have asleep : x.books.workers.running? ns = none := by
      simp [running?, books, embodied_served served seen]
    simp only [poll, asleep, Crew.work, found, true_and]
    exact (List.append_nil x.heard).symm
  | joined => contradiction

end

def tracer (name : String) (host : Surroundings β τ) : Tracer (Crew α β × τ) where
  name := name
  start := fun (x, t) => match host.admits t with
    | .ok () => (.ok (), x.start, host.next t)
    | .error e => (.error e, x, host.next t)
  attach c := fun (x, t) =>
    let (answer, x) := x.attach c (host.namespaceOf t) (host.setup t)
    (answer, x, host.next t)
  detach c := fun (x, t) => (.ok (), x.detach c, host.next t)
  stop := fun (x, t) => ((), x.stop, host.next t)

/-- In place of a probe, a connection may have its crew. -/
theorem tracer_simulates (name : String) (host : Surroundings β τ) :
    Simulates (fun (x : Crew α β × τ) (p : NamespaceProbe β × τ) =>
        x.1.InCharge ∧ x.1.books = p.1 ∧ x.2 = p.2)
      (tracer name host)
      (NamespaceProbe.tracer name host fun _ => ([] : List (NamespaceId × Poll α β))) := by
  refine ⟨rfl, ?_, ?_⟩
  · rintro c ⟨x, t⟩ ⟨p, t⟩ ⟨inCharge, rfl, rfl⟩
    obtain ⟨answer, after⟩ := inCharge.attach_books c (host.namespaceOf t) (host.setup t)
    exact ⟨answer, inCharge.attach c _ _, after, rfl⟩
  · rintro c ⟨x, t⟩ ⟨p, t⟩ ⟨inCharge, rfl, rfl⟩
    refine ⟨rfl, inCharge.detach c, ?_, rfl⟩
    simp only [tracer, NamespaceProbe.tracer, Surroundings.passed, NamespaceProbe.detach,
      ← inCharge.detach_embodied c, books]
    rfl

end Crew
end NodeDiagnostics.Probe
