import NodeDiagnostics.Proofs.Registry.History
import NodeDiagnostics.Proofs.Trace.Connection

/-!
A connection is made on one thread while another passes news to the registry. Each thread is cut
into turns at the points where it meets the other: the registry's containers, its subscribers, and
what the tracer is attached to. To detach is one turn, since what the tracer is asked once its entry
is gone touches none of these. A schedule says whose turn it is, and when the threads do not overlap
they do what they do alone.
-/
namespace NodeDiagnostics.Trace
open Registry

inductive Thread where
  | connector
  | messenger
deriving DecidableEq, Repr

inductive Progress where
  | unsubscribed
  | subscribed (id : SubscriptionId)
  | attaching (id : SubscriptionId) (rest : List Container)

def Progress.subscription? : Progress → Option SubscriptionId
  | unsubscribed => none
  | subscribed id => some id
  | attaching id _ => some id

inductive Errand where
  | recorded (changes : List ContainerEvent)
  | telling (announced : List Announcement)

structure Overlap (σ : Type) where
  registry : Registry
  attached : Attached
  host : σ
  progress : Progress
  errand : Errand
  news : List ContainerEvent

namespace Overlap

variable {σ : Type}

def start (r : Registry) (news : List ContainerEvent) (s : σ) : Overlap σ :=
  ⟨r, ∅, s, .unsubscribed, .telling [], news⟩

def connect (tracer : Tracer σ) (x : Overlap σ) : Overlap σ :=
  match x.progress with
  | .unsubscribed =>
    { x with registry := x.registry.subscribe.2, progress := .subscribed x.registry.subscribe.1 }
  | .subscribed id => { x with progress := .attaching id x.registry.snapshot }
  | .attaching _ [] => x
  | .attaching id (c :: rest) =>
    let ((_, attached), host) := attachOne tracer c x.attached x.host
    { x with attached, host, progress := .attaching id rest }

def tell (tracer : Tracer σ) (x : Overlap σ) : Overlap σ :=
  match x.errand with
  | .recorded changes =>
    { x with errand := .telling (announcements x.registry.subscriptions changes) }
  | .telling (a :: rest) =>
    if x.progress.subscription? = some a.subscription then
      let (attached, host) := Connection.follow tracer .everything a.event x.attached x.host
      { x with attached, host, errand := .telling rest }
    else { x with errand := .telling rest }
  | .telling [] =>
    match x.news with
    | [] => x
    | e :: news =>
      { x with
        registry := (x.registry.apply e).2
        errand := .recorded (record x.registry.containers e).1
        news }

def turn (tracer : Tracer σ) (x : Overlap σ) : Thread → Overlap σ
  | .connector => x.connect tracer
  | .messenger => x.tell tracer

def run (tracer : Tracer σ) (schedule : List Thread) (x : Overlap σ) : Overlap σ :=
  schedule.foldl (turn tracer) x

theorem run_append (tracer : Tracer σ) (first second : List Thread) (x : Overlap σ) :
    run tracer (first ++ second) x = run tracer second (run tracer first x) :=
  List.foldl_append

structure Finished (x : Overlap σ) : Prop where
  connected : ∃ id, x.progress = .attaching id []
  told : x.errand = .telling []
  heard : x.news = []

/-- What the connection will be told about the news that the messenger is at. -/
def due (x : Overlap σ) : List ContainerEvent :=
  match x.progress.subscription?, x.errand with
  | none, _ => []
  | some _, .recorded changes => changes
  | some id, .telling announced => (announced.filter (·.subscription = id)).map (·.event)

theorem due_of_recorded {x : Overlap σ} {id : SubscriptionId} {changes : List ContainerEvent}
    (subscribed : x.progress.subscription? = some id) (recorded : x.errand = .recorded changes) :
    x.due = changes := by
  simp [due, subscribed, recorded]

theorem due_of_telling {x : Overlap σ} {id : SubscriptionId} {announced : List Announcement}
    (subscribed : x.progress.subscription? = some id) (telling : x.errand = .telling announced) :
    x.due = (announced.filter (·.subscription = id)).map (·.event) := by
  simp [due, subscribed, telling]

end Overlap

def Willing {σ : Type} (tracer : Tracer σ) : Prop :=
  ∀ c s, (tracer.attach c s).1 = .ok ()

variable {σ : Type} {tracer : Tracer σ}

theorem attachOne_willing (willing : Willing tracer) (c : Container) (attached : Attached)
    (s : σ) :
    (attachOne tracer c attached s).1.1 = true ∧ ∀ pid : Pid,
      (attachOne tracer c attached s).1.2[pid]? =
        if c.pid = pid then some (attached[pid]?.getD c) else attached[pid]? := by
  unfold attachOne
  split
  · rename_i inside
    refine ⟨rfl, fun pid => ?_⟩
    split
    · rename_i same
      subst same
      rw [Std.ExtTreeMap.contains_eq_isSome_getElem?] at inside
      obtain ⟨d, found⟩ := Option.isSome_iff_exists.mp inside
      simp [found]
    · rfl
  · rename_i outside
    have agreed := willing c s
    rcases answer : tracer.attach c s with ⟨e | ⟨⟩, s'⟩
    · rw [answer] at agreed
      cases agreed
    · refine ⟨rfl, fun pid => ?_⟩
      rw [Std.ExtTreeMap.getElem?_insert]
      by_cases same : c.pid = pid
      · subst same
        have free : attached[c.pid]? = none := by simpa using outside
        simp [free]
      · simp [same]

namespace Overlap

theorem run_attaching (tracer : Tracer σ) (x : Overlap σ) (id : SubscriptionId)
    (rest : List Container)
    (attaching : x.progress = .attaching id rest) :
    run tracer (List.replicate rest.length .connector) x =
      let after := Connection.attachEach tracer rest x.attached x.host
      { x with attached := after.1.2, host := after.2, progress := .attaching id [] } := by
  induction rest generalizing x with
  | nil =>
    cases x
    cases attaching
    rfl
  | cons c rest ih =>
    have step := ih (x.connect tracer) (by simp [connect, attaching])
    rw [List.length_cons, List.replicate_succ, run, List.foldl_cons]
    simpa [run, turn, connect, attaching, Connection.attachEach] using step

theorem attachEach_willing (willing : Willing tracer) (l : List Container)
    (attached : Attached) (s : σ) : (Connection.attachEach tracer l attached s).1.1 = l.length := by
  induction l generalizing attached s with
  | nil => rfl
  | cons c l ih =>
    simp [Connection.attachEach, (attachOne_willing willing c attached s).1, ih]

/-- A connector whose turns come all together makes the connection. -/
theorem connect_alone (willing : Willing tracer) (r : Registry) (news : List ContainerEvent)
    (s : σ) :
    let after := run tracer (List.replicate (r.snapshot.length + 2) .connector) (start r news s)
    Connection.connect r tracer .everything s =
      ((.ok ⟨r.next, .everything, after.attached⟩, after.registry), after.host) := by
  have all : r.snapshot.filter Selector.everything.selects = r.snapshot :=
    List.filter_eq_self.mpr fun c _ => Selector.everything_selects c
  have same : r.subscribe.2.snapshot = r.snapshot := rfl
  have rest := run_attaching tracer
    (((start r news s).connect tracer).connect tracer) r.next r.snapshot rfl
  have first : run tracer (List.replicate (r.snapshot.length + 2) .connector) (start r news s) =
      run tracer (List.replicate r.snapshot.length .connector)
        (((start r news s).connect tracer).connect tracer) := rfl
  simp only [first, rest, Connection.connect, same, all, attachEach_willing willing]
  cases r.snapshot with
  | nil => rfl
  | cons c l => simp [start, connect, subscribe]

theorem lookup?_turn (tracer : Tracer σ) (x : Overlap σ) (t : Thread) (pid : Pid) :
    ((x.turn tracer t).registry.applyAll (x.turn tracer t).news).lookup? pid =
      (x.registry.applyAll x.news).lookup? pid := by
  cases t with
  | connector =>
    simp only [turn, connect]
    split
    · rw [lookup?_applyAll, lookup?_applyAll]
      rfl
    · rfl
    · rfl
    · rfl
  | messenger =>
    simp only [turn, tell]
    split
    · rfl
    · split <;> rfl
    · split
      · rfl
      · rename_i heard
        rw [heard]
        rfl

theorem lookup?_run (tracer : Tracer σ) (x : Overlap σ) (schedule : List Thread) (pid : Pid) :
    ((run tracer schedule x).registry.applyAll (run tracer schedule x).news).lookup? pid =
      (x.registry.applyAll x.news).lookup? pid := by
  induction schedule generalizing x with
  | nil => rfl
  | cons t schedule ih => exact (ih (x.turn tracer t)).trans (lookup?_turn tracer x t pid)

theorem run_telling (x : Overlap σ) (id : SubscriptionId) (announced : List Announcement)
    (subscribed : x.progress.subscription? = some id) (telling : x.errand = .telling announced) :
    run tracer (List.replicate announced.length .messenger) x =
      let after := Connection.receive ⟨id, .everything, x.attached⟩ tracer announced x.host
      { x with attached := after.1.attached, host := after.2, errand := .telling [] } := by
  induction announced generalizing x with
  | nil =>
    cases x
    cases telling
    rfl
  | cons a announced ih =>
    have unmoved : (x.tell tracer).progress = x.progress := by
      simp only [tell, telling]
      split <;> rfl
    have next : (x.tell tracer).errand = .telling announced := by
      simp only [tell, telling]
      split <;> rfl
    have step := ih (x.tell tracer) (by rw [unmoved, subscribed]) next
    rw [List.length_cons, List.replicate_succ, run, List.foldl_cons]
    by_cases mine : a.subscription = id
    · simpa [run, turn, tell, telling, subscribed, mine, Connection.receive] using step
    · have other : id ≠ a.subscription := fun same => mine same.symm
      simpa [run, turn, tell, telling, subscribed, mine, other, Connection.receive] using step

theorem notify_alone (x : Overlap σ) {id : SubscriptionId} {e : ContainerEvent}
    {news : List ContainerEvent} (connected : x.progress = .attaching id [])
    (told : x.errand = .telling []) (heard : x.news = e :: news)
    (watching : x.registry.watching = true) :
    let after := run tracer (List.replicate ((x.registry.notify e).1.length + 2) .messenger) x
    Connection.notify ⟨id, .everything, x.attached⟩ x.registry tracer e x.host =
      ((⟨id, .everything, after.attached⟩, after.registry), after.host) := by
  have applied : x.registry.notify e = x.registry.apply e := by
    simp [Registry.notify, watching]
  let y := (x.tell tracer).tell tracer
  have announced : y.errand = .telling (x.registry.apply e).1 := by
    simp [y, tell, told, heard, Registry.apply]
  have subscribed : y.progress.subscription? = some id := by
    simp [y, tell, told, heard, connected, Progress.subscription?]
  have first : run tracer (List.replicate ((x.registry.apply e).1.length + 2) .messenger) x =
      run tracer (List.replicate (x.registry.apply e).1.length .messenger) y := rfl
  simp only [applied, Connection.notify, first, run_telling y id _ subscribed announced]
  simp only [Connection.receive_eq_followAll]
  simp [y, tell, told, heard]

end Overlap
end NodeDiagnostics.Trace
