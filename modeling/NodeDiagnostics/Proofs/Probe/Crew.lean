import NodeDiagnostics.Probe.Tracing
import NodeDiagnostics.Proofs.Probe.Membership

/-!
A namespace probe with its threads. Here a worker knows its thread by a number only; the thread has
the body, and polls until a poll fails or it is told to stop, whatever the books say meanwhile. Who
tells a thread to stop waits for it. The books stay in charge: a thread that nobody has waited for
is the thread of one worker, so nothing polls once the books are empty. What a thread still finds
while it is waited for counts as found before the call.
-/
namespace NodeDiagnostics.Probe
open NamespaceWorkers

variable {α β γ : Type}

abbrev ThreadId := Nat

inductive WorkerThread (β : Type) where
  | polling (body : β)
  | ended (body : β)
  | joined

def WorkerThread.worker? (members : List Container) : WorkerThread β → Option (Worker β)
  | polling body => some ⟨members, body, true⟩
  | ended body => some ⟨members, body, false⟩
  | joined => none

def Setup.map (f : β → γ) : Setup β → Setup γ
  | ready body => ready (f body)
  | refused e => refused e
  | vanished => vanished

def Setup.thread : Setup β → WorkerThread β
  | ready body => .polling body
  | refused _ | vanished => .joined

def joinAll (ids : List ThreadId) (threads : List (WorkerThread β)) : List (WorkerThread β) :=
  threads.mapIdx fun id thread => if id ∈ ids then .joined else thread

/-- The worker that a detach stops: that of the container, if it serves no other. -/
def NamespaceWorkers.dismissed? (w : NamespaceWorkers β) (c : Container) : Option (Worker β) :=
  (w.namespaceOf[c.pid]?.bind (w.workers[·]?)).filter fun worker =>
    (worker.members.filter (·.pid != c.pid)).isEmpty

/-- A probe whose workers have the numbers of their threads as bodies. -/
structure Crew (α β : Type) where
  probe : NamespaceProbe ThreadId
  threads : List (WorkerThread β)
  heard : List α

namespace Crew

def ofName (name label : String) : Crew α β := ⟨.ofName name label, [], []⟩

def start (x : Crew α β) : Crew α β := { x with probe := x.probe.start }

def numbered (x : Crew α β) (setup : Container → Setup β) (c : Container) : Setup ThreadId :=
  (setup c).map fun _ => x.threads.length

def attach (x : Crew α β) (c : Container) (lookup : Pid → Option NamespaceId)
    (setup : Container → Setup β) : Except Error Unit × Crew α β :=
  let made := x.probe.started &&
    (x.probe.workers.attach c lookup (x.numbered setup)).1.madeWorker
  let (answer, probe) := x.probe.attach c lookup (x.numbered setup)
  (answer, { x with
    probe
    threads := if made then x.threads ++ [(setup c).thread] else x.threads })

def detach (x : Crew α β) (c : Container) : Crew α β :=
  { x with
    probe := x.probe.detach c
    threads := joinAll ((x.probe.workers.dismissed? c).map (·.body)).toList x.threads }

def stop (x : Crew α β) : Crew α β :=
  { x with
    probe := x.probe.stop
    threads := joinAll (x.probe.workers.workers.toList.map (·.2.body)) x.threads }

/-- A thread polls. What it finds goes to the handler; if the poll fails, the thread ends. -/
def work (x : Crew α β) (id : ThreadId) (step : β → Except Error (List α × β)) : Crew α β :=
  match x.threads[id]? with
  | some (.polling body) =>
    match step body with
    | .ok (found, body) =>
      { x with threads := x.threads.set id (.polling body), heard := x.heard ++ found }
    | .error _ => { x with threads := x.threads.set id (.ended body) }
  | _ => x

inductive Reached : Crew α β → Prop
  | ofName (name label : String) : Reached (.ofName name label)
  | start {x : Crew α β} : Reached x → Reached x.start
  | attach {x : Crew α β} (c : Container) (lookup : Pid → Option NamespaceId)
      (setup : Container → Setup β) : Reached x → Reached (x.attach c lookup setup).2
  | detach {x : Crew α β} (c : Container) : Reached x → Reached (x.detach c)
  | stop {x : Crew α β} : Reached x → Reached x.stop
  | work {x : Crew α β} (id : ThreadId) (step : β → Except Error (List α × β)) :
      Reached x → Reached (x.work id step)

def Loose (threads : List (WorkerThread β)) (id : ThreadId) : Prop :=
  ∃ thread, threads[id]? = some thread ∧ thread ≠ .joined

abbrev Posts := Std.ExtTreeMap NamespaceId (Worker ThreadId)

def Employs (posts : Posts) (id : ThreadId) : Prop :=
  ∃ (ns : NamespaceId) (worker : Worker ThreadId), posts[ns]? = some worker ∧ worker.body = id

def Apart (posts : Posts) : Prop :=
  ∀ (ns other : NamespaceId) (worker another : Worker ThreadId), posts[ns]? = some worker →
    posts[other]? = some another → worker.body = another.body → ns = other

structure InCharge (x : Crew α β) : Prop where
  employed : ∀ id, Loose x.threads id ↔ Employs x.probe.workers.workers id
  apart : Apart x.probe.workers.workers

end Crew

namespace NamespaceWorkers

/-- The ways in which a detach can end, with the worker that it stops. -/
inductive Leaves (w : NamespaceWorkers β) (c : Container) :
    Option (Worker β) → NamespaceWorkers β → Prop where
  | untracked (untracked : w.namespaceOf[c.pid]? = none) : Leaves w c none w
  | unserved (ns : NamespaceId) (tracked : w.namespaceOf[c.pid]? = some ns)
      (unserved : w.workers[ns]? = none) :
      Leaves w c none { w with namespaceOf := w.namespaceOf.erase c.pid }
  | others (ns : NamespaceId) (worker : Worker β) (tracked : w.namespaceOf[c.pid]? = some ns)
      (served : w.workers[ns]? = some worker)
      (others : worker.members.filter (·.pid != c.pid) ≠ []) :
      Leaves w c none { w with
        namespaceOf := w.namespaceOf.erase c.pid
        workers := w.workers.insert ns
          { worker with members := worker.members.filter (·.pid != c.pid) } }
  | last (ns : NamespaceId) (worker : Worker β) (tracked : w.namespaceOf[c.pid]? = some ns)
      (served : w.workers[ns]? = some worker)
      (last : worker.members.filter (·.pid != c.pid) = []) :
      Leaves w c (some worker) { w with
        namespaceOf := w.namespaceOf.erase c.pid
        workers := w.workers.erase ns }

theorem detach_leaves (w : NamespaceWorkers β) (c : Container) :
    Leaves w c (w.dismissed? c) (w.detach c) := by
  cases tracked : w.namespaceOf[c.pid]? with
  | none =>
    have nobody : w.dismissed? c = none := by simp [dismissed?, tracked]
    have same : w.detach c = w := by simp [NamespaceWorkers.detach, tracked]
    rw [nobody, same]
    exact .untracked tracked
  | some ns =>
    cases served : w.workers[ns]? with
    | none =>
      have nobody : w.dismissed? c = none := by simp [dismissed?, tracked, served]
      have fewer : w.detach c = { w with namespaceOf := w.namespaceOf.erase c.pid } := by
        simp [NamespaceWorkers.detach, tracked, served]
      rw [nobody, fewer]
      exact .unserved ns tracked served
    | some worker =>
      rw [detach_tracked tracked served]
      by_cases last : worker.members.filter (·.pid != c.pid) = []
      · have stopped : w.dismissed? c = some worker := by
          simp [dismissed?, tracked, served, Option.filter, last]
        rw [stopped, if_pos last]
        exact .last ns worker tracked served last
      · have nobody : w.dismissed? c = none := by
          simp [dismissed?, tracked, served, Option.filter, last]
        rw [nobody, if_neg last]
        exact .others ns worker tracked served last

end NamespaceWorkers

namespace Crew

theorem getElem?_joinAll (ids : List ThreadId) (threads : List (WorkerThread β)) (id : ThreadId) :
    (joinAll ids threads)[id]? =
      if id ∈ ids then threads[id]?.map fun _ => .joined else threads[id]? := by
  rw [joinAll, List.getElem?_mapIdx]
  split <;> simp [*]

theorem loose_joinAll (ids : List ThreadId) (threads : List (WorkerThread β)) (id : ThreadId) :
    Loose (joinAll ids threads) id ↔ Loose threads id ∧ id ∉ ids := by
  unfold Loose
  rw [getElem?_joinAll]
  by_cases told : id ∈ ids
  · simp [told]
  · simp [told]

theorem loose_concat (threads : List (WorkerThread β)) (thread : WorkerThread β) (id : ThreadId) :
    Loose (threads ++ [thread]) id ↔
      Loose threads id ∨ id = threads.length ∧ thread ≠ .joined := by
  unfold Loose
  rw [List.getElem?_append]
  split
  · rename_i earlier
    have other : id ≠ threads.length := Nat.ne_of_lt earlier
    simp [other]
  · rename_i later
    have absent : threads[id]? = none := List.getElem?_eq_none (Nat.le_of_not_lt later)
    by_cases newest : id = threads.length
    · simp [newest]
    · have beyond : id - threads.length ≠ 0 :=
        Nat.sub_ne_zero_of_lt (Nat.lt_of_le_of_ne (Nat.le_of_not_lt later) (Ne.symm newest))
      simp [absent, newest, beyond]

theorem Loose.lt {threads : List (WorkerThread β)} {id : ThreadId} (h : Loose threads id) :
    id < threads.length := by
  obtain ⟨thread, found, -⟩ := h
  exact (List.getElem?_eq_some_iff.mp found).1

theorem Loose.set_iff {threads : List (WorkerThread β)} {id : ThreadId} (h : Loose threads id)
    {thread : WorkerThread β} (kept : thread ≠ .joined) (other : ThreadId) :
    Loose (threads.set id thread) other ↔ Loose threads other := by
  by_cases same : id = other
  · subst same
    have now : (threads.set id thread)[id]? = some thread := by simp [h.lt]
    exact ⟨fun _ => h, fun _ => ⟨thread, now, kept⟩⟩
  · simp only [Loose, List.getElem?_set, if_neg same]

section
variable {posts : Posts} {ns : NamespaceId} {worker : Worker ThreadId}

theorem Apart.change (h : Apart posts) (served : posts[ns]? = some worker)
    (members : List Container) : Apart (posts.insert ns { worker with members }) ∧
      ∀ id, Employs (posts.insert ns { worker with members }) id ↔ Employs posts id := by
  have found : ∀ (other : NamespaceId) (another : Worker ThreadId),
      (posts.insert ns { worker with members })[other]? = some another →
        ∃ before, posts[other]? = some before ∧ before.body = another.body := by
    intro other another there
    simp only [Std.ExtTreeMap.getElem?_insert, Std.LawfulEqCmp.compare_eq_iff_eq] at there
    split at there
    · rename_i here
      cases here
      cases there
      exact ⟨worker, served, rfl⟩
    · exact ⟨another, there, rfl⟩
  refine ⟨?_, fun id => ⟨?_, ?_⟩⟩
  · intro ns₁ ns₂ first second there yonder alike
    obtain ⟨before, was, own⟩ := found ns₁ first there
    obtain ⟨before', was', own'⟩ := found ns₂ second yonder
    exact h ns₁ ns₂ before before' was was' ((own.trans alike).trans own'.symm)
  · rintro ⟨other, another, there, own⟩
    obtain ⟨before, was, alike⟩ := found other another there
    exact ⟨other, before, was, alike.trans own⟩
  · rintro ⟨other, another, there, own⟩
    by_cases here : ns = other
    · subst here
      rw [served] at there
      cases there
      exact ⟨ns, { worker with members }, by simp, own⟩
    · exact ⟨other, another, by simp [Std.ExtTreeMap.getElem?_insert, here, there], own⟩

theorem Apart.insert (h : Apart posts) (unserved : posts[ns]? = none)
    (fresh : ¬ Employs posts worker.body) :
    Apart (posts.insert ns worker) ∧
      ∀ id, Employs (posts.insert ns worker) id ↔ Employs posts id ∨ id = worker.body := by
  have found : ∀ (other : NamespaceId) (another : Worker ThreadId),
      (posts.insert ns worker)[other]? = some another ↔
        (other = ns ∧ another = worker) ∨ posts[other]? = some another := by
    intro other another
    simp only [Std.ExtTreeMap.getElem?_insert, Std.LawfulEqCmp.compare_eq_iff_eq]
    split
    · rename_i here
      cases here
      simp [unserved, eq_comm]
    · rename_i elsewhere
      simp [Ne.symm elsewhere]
  refine ⟨?_, fun id => ?_⟩
  · intro ns₁ ns₂ first second there yonder alike
    rcases (found ns₁ first).mp there with ⟨rfl, rfl⟩ | was
    · rcases (found ns₂ second).mp yonder with ⟨rfl, rfl⟩ | was'
      · rfl
      · exact absurd ⟨ns₂, second, was', alike.symm⟩ fresh
    · rcases (found ns₂ second).mp yonder with ⟨rfl, rfl⟩ | was'
      · exact absurd ⟨ns₁, first, was, alike⟩ fresh
      · exact h ns₁ ns₂ first second was was' alike
  · constructor
    · rintro ⟨other, another, there, own⟩
      rcases (found other another).mp there with ⟨rfl, rfl⟩ | was
      · exact .inr own.symm
      · exact .inl ⟨other, another, was, own⟩
    · rintro (⟨other, another, was, own⟩ | rfl)
      · exact ⟨other, another, (found other another).mpr (.inr was), own⟩
      · exact ⟨ns, worker, (found ns worker).mpr (.inl ⟨rfl, rfl⟩), rfl⟩

theorem Apart.erase (h : Apart posts) (served : posts[ns]? = some worker) :
    Apart (posts.erase ns) ∧
      ∀ id, Employs (posts.erase ns) id ↔ Employs posts id ∧ id ≠ worker.body := by
  have found : ∀ (other : NamespaceId) (another : Worker ThreadId),
      (posts.erase ns)[other]? = some another ↔ other ≠ ns ∧ posts[other]? = some another := by
    intro other another
    simp only [Std.ExtTreeMap.getElem?_erase, Std.LawfulEqCmp.compare_eq_iff_eq]
    split
    · rename_i here
      cases here
      simp
    · rename_i elsewhere
      simp [Ne.symm elsewhere]
  refine ⟨?_, fun id => ⟨?_, ?_⟩⟩
  · intro ns₁ ns₂ first second there yonder alike
    exact h ns₁ ns₂ first second ((found ns₁ first).mp there).2 ((found ns₂ second).mp yonder).2
      alike
  · rintro ⟨other, another, there, rfl⟩
    obtain ⟨differ, was⟩ := (found other another).mp there
    exact ⟨⟨other, another, was, rfl⟩,
      fun alike => differ (h other ns another worker was served alike)⟩
  · rintro ⟨⟨other, another, was, rfl⟩, differ⟩
    refine ⟨other, another, (found other another).mpr ⟨?_, was⟩, rfl⟩
    rintro rfl
    rw [served] at was
    cases was
    exact differ rfl

end

section
variable {x : Crew α β}

theorem ofName_inCharge (name label : String) : InCharge (ofName name label : Crew α β) := by
  constructor
  · simp [ofName, Loose, Employs, NamespaceProbe.ofName, empty]
  · simp [ofName, Apart, NamespaceProbe.ofName, empty]

theorem InCharge.attach (h : InCharge x) (c : Container) (lookup : Pid → Option NamespaceId)
    (setup : Container → Setup β) : InCharge (x.attach c lookup setup).2 := by
  cases started : x.probe.started with
  | false =>
    simp only [Crew.attach, NamespaceProbe.attach_of_stopped started, started, Bool.false_and,
      Bool.false_eq_true, if_false]
    exact h
  | true =>
    simp only [Crew.attach, NamespaceProbe.attach_of_started started, started, Bool.true_and]
    have ends := attach_ends x.probe.workers c lookup (x.numbered setup)
    generalize (x.probe.workers.attach c lookup (x.numbered setup)).1 = outcome at ends ⊢
    generalize (x.probe.workers.attach c lookup (x.numbered setup)).2 = after at ends ⊢
    cases ends with
    | known => exact ⟨h.employed, h.apart⟩
    | noProcess => exact ⟨h.employed, h.apart⟩
    | failed ns e _ _ _ unready =>
      -- A thread was started but no worker listed, so it must have been waited for.
      have waited : (setup c).thread = .joined := by
        cases answer : setup c with
        | ready body =>
          exact absurd (by simp [numbered, answer, Setup.map]) (unready x.threads.length)
        | refused e => rfl
        | vanished => rfl
      refine ⟨fun id => ?_, h.apart⟩
      simp only [Attachment.madeWorker, if_true, waited, loose_concat, h.employed]
      simp
    | joined ns worker _ _ served =>
      obtain ⟨apart, employs⟩ := h.apart.change served (worker.members ++ [c])
      exact ⟨fun id => (h.employed id).trans (employs id).symm, apart⟩
    | started ns id _ _ unserved ready =>
      obtain ⟨body, answer⟩ : ∃ body, setup c = .ready body := by
        cases answer : setup c <;> simp_all [numbered, Setup.map]
      have newest : id = x.threads.length := by
        simp only [numbered, answer, Setup.map, Setup.ready.injEq] at ready
        exact ready.symm
      subst newest
      let worker : Worker ThreadId := ⟨[c], x.threads.length, true⟩
      -- Numbers are given in order, so no worker has this one yet.
      have fresh : ¬ Employs x.probe.workers.workers worker.body := fun employed =>
        Nat.lt_irrefl _ ((h.employed _).mpr employed).lt
      obtain ⟨apart, employs⟩ := h.apart.insert unserved fresh
      refine ⟨fun id => Iff.trans ?_ (employs id).symm, apart⟩
      simp only [Attachment.madeWorker, if_true, answer, Setup.thread, loose_concat, h.employed]
      simp [worker]

theorem InCharge.detach (h : InCharge x) (c : Container) : InCharge (x.detach c) := by
  have leaves := detach_leaves x.probe.workers c
  simp only [Crew.detach, NamespaceProbe.detach]
  generalize x.probe.workers.dismissed? c = stopped at leaves ⊢
  generalize x.probe.workers.detach c = after at leaves ⊢
  cases leaves with
  | untracked => exact ⟨fun id => by simp [loose_joinAll, h.employed], h.apart⟩
  | unserved => exact ⟨fun id => by simp [loose_joinAll, h.employed, Employs], h.apart⟩
  | others ns worker _ served =>
    obtain ⟨apart, employs⟩ :=
      h.apart.change served (worker.members.filter (·.pid != c.pid))
    exact ⟨fun id => by simp [loose_joinAll, h.employed, employs], apart⟩
  | last ns worker _ served =>
    obtain ⟨apart, employs⟩ := h.apart.erase served
    exact ⟨fun id => by simp [loose_joinAll, h.employed, employs], apart⟩

theorem InCharge.all_told (h : InCharge x) (id : ThreadId) :
    ¬ Loose (joinAll (x.probe.workers.workers.toList.map (·.2.body)) x.threads) id := by
  rw [loose_joinAll]
  rintro ⟨loose, untold⟩
  obtain ⟨ns, worker, served, own⟩ := (h.employed id).mp loose
  refine untold (List.mem_map.mpr ⟨(ns, worker), ?_, own⟩)
  exact Std.ExtTreeMap.mem_toList_iff_getElem?_eq_some.mpr served

theorem InCharge.stop (h : InCharge x) : InCharge x.stop := by
  constructor
  · intro id
    have told := h.all_told id
    simp only [Crew.stop, told, false_iff]
    simp [Employs, NamespaceProbe.stop, stopAll, empty]
  · simp [Crew.stop, Apart, NamespaceProbe.stop, stopAll, empty]

theorem InCharge.work (h : InCharge x) (id : ThreadId)
    (step : β → Except Error (List α × β)) : InCharge (x.work id step) := by
  unfold Crew.work
  split
  · rename_i body polling
    have loose : Loose x.threads id := ⟨_, polling, by simp⟩
    split
    · exact ⟨fun other => (loose.set_iff (by simp) other).trans (h.employed other), h.apart⟩
    · exact ⟨fun other => (loose.set_iff (by simp) other).trans (h.employed other), h.apart⟩
  · exact h

theorem Reached.inCharge (h : Reached x) : InCharge x := by
  induction h with
  | ofName name label => exact ofName_inCharge name label
  | start _ ih => exact ⟨ih.employed, ih.apart⟩
  | attach c lookup setup _ ih => exact ih.attach c lookup setup
  | detach c _ ih => exact ih.detach c
  | stop _ ih => exact ih.stop
  | work id step _ ih => exact ih.work id step

end

end Crew
end NodeDiagnostics.Probe
