import NodeDiagnostics.Proofs.Lists
import NodeDiagnostics.Proofs.Trace.Overlap
import NodeDiagnostics.Proofs.Trace.Settling

/-!
When a connection is made while news comes in, news and list may cross: a container may go between
the time that the list is taken and its turn in the list. If the connection hears of that before
the turn comes, it has nothing to detach, and is then attached to a container that is no more.
-/
namespace NodeDiagnostics.Trace
open Registry

def Progress.Expects : Progress → Container → Prop
  | unsubscribed, _ => False
  | subscribed _, _ => True
  | attaching _ rest, c => c ∈ rest

namespace Overlap

variable {σ : Type} {tracer : Tracer σ}

/-- It is the turn of a container that is gone, and the connection will not hear of that: its end
was told while nothing was attached. -/
def Late (x : Overlap σ) (c : Container) : Prop :=
  (∃ id rest, x.progress = .attaching id (c :: rest)) ∧ x.attached[c.pid]? = none ∧
    x.registry.lookup? c.pid ≠ some c ∧ Unended c.pid x.due

def TellsEnd (x : Overlap σ) (pid : Pid) : Prop :=
  ∃ id d rest, x.progress.subscription? = some id ∧
    x.errand = .telling (⟨id, .removed d⟩ :: rest) ∧ d.pid = pid

/-- What is known while the threads take turns, `left` being the containers that were late. -/
structure Underway (left : Container → Prop) (x : Overlap σ) : Prop where
  subscribed : ∀ id, x.progress.subscription? = some id → id ∈ x.registry.subscriptions
  older : ∀ announced, x.errand = .telling announced →
    ∀ a ∈ announced, a.subscription < x.registry.next
  recorded : ∀ changes, x.errand = .recorded changes →
    ∃ m, Replay m changes x.registry.containers
  untouched : x.progress = .unsubscribed → x.attached = ∅
  standing : ∀ id, x.progress.subscription? = some id → ∀ pid,
    Standing pid x.progress.Expects (fun c => c.pid = pid ∧ left c) x.due x.attached[pid]?
      (x.registry.lookup? pid)

theorem Underway.due_replay {left : Container → Prop} {x : Overlap σ} (h : Underway left x)
    (tracer : Tracer σ) (unsubscribed : x.progress = .unsubscribed) :
    ∃ m, Replay m (x.connect tracer).due x.registry.containers := by
  have subscribed : (x.connect tracer).progress.subscription? = some x.registry.next := by
    simp [Overlap.connect, unsubscribed, subscribe, Progress.subscription?]
  have errand : (x.connect tracer).errand = x.errand := by
    simp [Overlap.connect, unsubscribed]
  cases state : x.errand with
  | recorded changes =>
    rw [due_of_recorded subscribed (errand.trans state)]
    exact h.recorded changes state
  | telling announced =>
    -- those subscribers were looked up before this one came
    have none_due : announced.filter (·.subscription = x.registry.next) = [] := by
      rw [List.filter_eq_nil_iff]
      intro a member same
      exact Nat.ne_of_lt (h.older announced state a member) (of_decide_eq_true same)
    rw [due_of_telling subscribed (errand.trans state), none_due]
    exact ⟨_, .nil _⟩

section
variable {left left' : Container → Prop} {x : Overlap σ}

theorem Underway.mono (h : Underway left x) (leaves : ∀ c, left c → left' c) :
    Underway left' x := by
  refine ⟨h.subscribed, h.older, h.recorded, h.untouched, ?_⟩
  intro id subscribed pid
  exact (h.standing id subscribed pid).mono (fun _ _ expected => expected)
    fun c before => ⟨before.1, leaves c before.2⟩

theorem Underway.subscribe (h : Underway left x) (tracer : Tracer σ)
    (progress : x.progress = .unsubscribed) : Underway left (x.connect tracer) := by
  obtain ⟨m, path⟩ := h.due_replay tracer progress
  simp only [Overlap.connect, progress] at path ⊢
  refine ⟨?_, ?_, h.recorded, (by simp), ?_⟩
  · rintro id ⟨⟩
    simp [Registry.subscribe]
  · intro announced telling a member
    exact Nat.lt_succ_of_lt (h.older announced telling a member)
  · rintro id - pid
    rw [h.untouched progress]
    exact Standing.record (.initial (fun _ => trivial) _) path

theorem Underway.list (h : Underway left x) (tracer : Tracer σ) {id : SubscriptionId}
    (progress : x.progress = .subscribed id) : Underway left (x.connect tracer) := by
  have subscribed : x.progress.subscription? = some id := by rw [progress]; rfl
  simp only [Overlap.connect, progress]
  refine ⟨?_, h.older, h.recorded, (by simp), ?_⟩
  · rintro id' ⟨⟩
    exact h.subscribed id subscribed
  · rintro id' - pid
    have due : Overlap.due { x with progress := .attaching id x.registry.snapshot } = x.due := by
      simp [Overlap.due, progress, Progress.subscription?]
    rw [due]
    refine (h.standing id subscribed pid).mono ?_ (fun _ before => before)
    -- a container that waits is in the registry, and so in the list
    intro c here _
    have own := x.registry.keyed pid c here
    exact (x.registry.snapshot_lists.complete c).mpr (own ▸ here)

theorem Underway.attach (h : Underway left x) (willing : Willing tracer)
    {id : SubscriptionId} {c : Container} {rest : List Container}
    (progress : x.progress = .attaching id (c :: rest)) :
    Underway (fun d => left d ∨ d = c ∧ x.Late c) (x.connect tracer) := by
  have subscribed : x.progress.subscription? = some id := by rw [progress]; rfl
  simp only [Overlap.connect, progress]
  refine ⟨?_, h.older, h.recorded, (by simp), ?_⟩
  · rintro id' ⟨⟩
    exact h.subscribed id subscribed
  · rintro id' - pid
    have before := h.standing id subscribed pid
    have due : Overlap.due { x with
        attached := (attachOne tracer c x.attached x.host).1.2
        host := (attachOne tracer c x.attached x.host).2
        progress := .attaching id rest } = x.due := by
      simp [Overlap.due, progress, Progress.subscription?]
    rw [due, (attachOne_willing willing c x.attached x.host).2 pid]
    split
    · rename_i same
      subst same
      refine before.attach (fun d earlier => ⟨earlier.1, .inl earlier.2⟩) ?_
      intro free gone unended
      exact ⟨rfl, .inr ⟨rfl, ⟨id, rest, progress⟩, free, gone, unended⟩⟩
    · rename_i other
      refine before.mono ?_ (fun d earlier => ⟨earlier.1, .inl earlier.2⟩)
      intro d here listed
      rw [progress] at listed
      rcases List.mem_cons.mp listed with first | later
      · subst first
        exact absurd (x.registry.keyed pid d here) other
      · exact later

theorem Underway.connect (h : Underway left x) (willing : Willing tracer) :
    Underway (fun c => left c ∨ x.Late c) (x.connect tracer) := by
  cases progress : x.progress with
  | unsubscribed => exact (h.subscribe tracer progress).mono fun _ => .inl
  | subscribed id => exact (h.list tracer progress).mono fun _ => .inl
  | attaching id rest =>
    cases rest with
    | nil =>
      have idle : x.connect tracer = x := by simp [Overlap.connect, progress]
      rw [idle]
      exact h.mono fun _ => .inl
    | cons c rest =>
      refine (h.attach willing progress).mono ?_
      rintro d (before | ⟨rfl, late⟩)
      · exact .inl before
      · exact .inr late

theorem follow_willing (willing : Willing tracer) (e : ContainerEvent) (attached : Attached)
    (s : σ) (pid : Pid) :
    (Connection.follow tracer .everything e attached s).1[pid]? = react pid e attached[pid]? := by
  cases e with
  | added c =>
    rw [Connection.follow, if_pos (Selector.everything_selects c)]
    exact (attachOne_willing willing c attached s).2 pid
  | removed c => exact getElem?_detachOne tracer c attached s pid

theorem Underway.record (h : Underway left x) (tracer : Tracer σ) {e : ContainerEvent}
    {news : List ContainerEvent} (errand : x.errand = .telling []) (heard : x.news = e :: news) :
    Underway left (x.tell tracer) := by
  have path := record_replay x.registry.keyed e
  simp only [Overlap.tell, errand, heard]
  refine ⟨h.subscribed, (by simp), ?_, h.untouched, ?_⟩
  · rintro changes ⟨⟩
    exact ⟨_, path⟩
  · intro id subscribed pid
    have before := h.standing id subscribed pid
    rw [due_of_telling (x := x) subscribed errand] at before
    rw [due_of_recorded subscribed rfl]
    exact before.record path

theorem Underway.lookUp (h : Underway left x) (tracer : Tracer σ) {changes : List ContainerEvent}
    (errand : x.errand = .recorded changes) : Underway left (x.tell tracer) := by
  simp only [Overlap.tell, errand]
  refine ⟨h.subscribed, ?_, (by simp), h.untouched, ?_⟩
  · rintro announced ⟨⟩ a member
    obtain ⟨e, -, told⟩ := List.mem_flatMap.mp member
    obtain ⟨id, subscribed, rfl⟩ := List.mem_map.mp told
    exact x.registry.fresh id subscribed
  · intro id subscribed pid
    have due : Overlap.due { x with
        errand := .telling (announcements x.registry.subscriptions changes) } = x.due := by
      rw [due_of_telling subscribed rfl, announcements_to x.registry.distinct,
        if_pos (h.subscribed id subscribed), due_of_recorded (x := x) subscribed errand]
    rw [due]
    exact h.standing id subscribed pid

theorem Underway.pass (h : Underway left x) (tracer : Tracer σ) {a : Announcement}
    {rest : List Announcement} (errand : x.errand = .telling (a :: rest))
    (other : x.progress.subscription? ≠ some a.subscription) : Underway left (x.tell tracer) := by
  simp only [Overlap.tell, errand, if_neg other]
  refine ⟨h.subscribed, ?_, (by simp), h.untouched, ?_⟩
  · rintro announced ⟨⟩ b member
    exact h.older _ errand b (List.mem_cons_of_mem a member)
  · intro id subscribed pid
    have apart : a.subscription ≠ id := fun same => other (same ▸ subscribed)
    have before := h.standing id subscribed pid
    rw [due_of_telling (x := x) subscribed errand,
      List.filter_cons_of_neg (by simpa using apart)] at before
    rwa [due_of_telling subscribed rfl]

theorem Underway.deliver (h : Underway left x) (willing : Willing tracer) {a : Announcement}
    {rest : List Announcement} (errand : x.errand = .telling (a :: rest))
    (mine : x.progress.subscription? = some a.subscription) :
    Underway (fun c => left c ∧ Unended c.pid [a.event]) (x.tell tracer) := by
  simp only [Overlap.tell, errand, if_pos mine]
  refine ⟨h.subscribed, ?_, (by simp), ?_, ?_⟩
  · rintro announced ⟨⟩ b member
    exact h.older _ errand b (List.mem_cons_of_mem a member)
  · intro unsubscribed
    rw [unsubscribed] at mine
    cases mine
  · intro id subscribed pid
    have same : a.subscription = id := Option.some.inj (mine.symm.trans subscribed)
    have before := h.standing id subscribed pid
    rw [due_of_telling (x := x) subscribed errand, List.filter_cons_of_pos (by simpa using same),
      List.map_cons] at before
    rw [due_of_telling subscribed rfl, follow_willing willing]
    refine before.react.mono (fun _ _ expected => expected) ?_
    rintro c ⟨⟨own, crossed⟩, unended⟩
    exact ⟨own, crossed, own ▸ unended⟩

theorem Underway.tell (h : Underway left x) (willing : Willing tracer) :
    Underway (fun c => left c ∧ ¬ x.TellsEnd c.pid) (x.tell tracer) := by
  have untold (other : ∀ a rest, x.errand = .telling (a :: rest) →
      x.progress.subscription? ≠ some a.subscription) :
      ∀ c, left c → left c ∧ ¬ x.TellsEnd c.pid := by
    refine fun c before => ⟨before, ?_⟩
    rintro ⟨id, d, rest, subscribed, telling, -⟩
    exact other _ _ telling subscribed
  cases errand : x.errand with
  | recorded changes =>
    exact (h.lookUp tracer errand).mono (untold (by simp [errand]))
  | telling announced =>
    cases announced with
    | nil =>
      refine Underway.mono ?_ (untold (by simp [errand]))
      cases heard : x.news with
      | nil =>
        have idle : x.tell tracer = x := by simp [Overlap.tell, errand, heard]
        rwa [idle]
      | cons e news => exact h.record tracer errand heard
    | cons a rest =>
      by_cases mine : x.progress.subscription? = some a.subscription
      · refine (h.deliver willing errand mine).mono ?_
        rintro c ⟨before, unended⟩
        refine ⟨before, ?_⟩
        rintro ⟨id, d, others, -, telling, ended⟩
        rw [errand] at telling
        cases telling
        exact unended d List.mem_cons_self ended
      · refine (h.pass tracer errand mine).mono (untold ?_)
        intro b others telling
        rw [errand] at telling
        cases telling
        exact mine

end

def Noticed (tracer : Tracer σ) (pid : Pid) (x : Overlap σ) (turns : List Thread) : Prop :=
  ∃ before after, turns = before ++ .messenger :: after ∧ (run tracer before x).TellsEnd pid

/-- The container's turn came late, and no end under its process was told to the connection since.
-/
def LeftBehind (tracer : Tracer σ) (x : Overlap σ) (schedule : List Thread) (c : Container) :
    Prop :=
  ∃ before after, schedule = before ++ .connector :: after ∧ (run tracer before x).Late c ∧
    ¬ Noticed tracer c.pid (run tracer (before ++ [.connector]) x) after

theorem leftBehind_of_late {x : Overlap σ} {schedule : List Thread} {c : Container}
    (late : (run tracer schedule x).Late c) :
    LeftBehind tracer x (schedule ++ [.connector]) c := by
  refine ⟨schedule, [], rfl, late, ?_⟩
  rintro ⟨before, after, split, -⟩
  simp at split

theorem LeftBehind.append {x : Overlap σ} {schedule : List Thread} {c : Container}
    (h : LeftBehind tracer x schedule c) (t : Thread)
    (untold : t = .messenger → ¬ (run tracer schedule x).TellsEnd c.pid) :
    LeftBehind tracer x (schedule ++ [t]) c := by
  obtain ⟨before, after, rfl, late, unnoticed⟩ := h
  refine ⟨before, after ++ [t], by simp, late, ?_⟩
  rintro ⟨middle, rest, split, ends⟩
  rcases concat_eq_append_cons split with ⟨rfl, rfl, -⟩ | ⟨rest, rfl, -⟩
  · refine untold rfl ?_
    rwa [← run_append, List.append_assoc] at ends
  · exact unnoticed ⟨middle, rest, rfl, ends⟩

theorem start_underway (left : Container → Prop) (r : Registry) (news : List ContainerEvent)
    (s : σ) : Underway left (start r news s) := by
  refine ⟨?_, ?_, (by simp [start]), fun _ => rfl, ?_⟩
  · rintro id ⟨⟩
  · rintro announced ⟨⟩ a member
    cases member
  · rintro id ⟨⟩

theorem run_underway (willing : Willing tracer) (r : Registry)
    (news : List ContainerEvent) (s : σ) (schedule : List Thread) :
    Underway (LeftBehind tracer (start r news s) schedule)
      (run tracer schedule (start r news s)) := by
  induction schedule using List.reverseRecOn with
  | nil => exact start_underway _ r news s
  | append_singleton schedule t ih =>
    rw [run_append]
    cases t with
    | connector =>
      refine (ih.connect willing).mono ?_
      rintro c (before | late)
      · exact before.append .connector nofun
      · exact leftBehind_of_late late
    | messenger =>
      refine (ih.tell willing).mono ?_
      rintro c ⟨before, untold⟩
      exact before.append .messenger fun _ => untold

theorem turn_keeps (willing : Willing tracer) {x : Overlap σ} {pid : Pid} {c : Container}
    (held : x.attached[pid]? = some c) (t : Thread)
    (untold : t = .messenger → ¬ x.TellsEnd pid) : (x.turn tracer t).attached[pid]? = some c := by
  cases t with
  | connector =>
    cases progress : x.progress with
    | unsubscribed => simpa [turn, connect, progress] using held
    | subscribed id => simpa [turn, connect, progress] using held
    | attaching id rest =>
      cases rest with
      | nil => simpa [turn, connect, progress] using held
      | cons d rest =>
        simp only [turn, connect, progress, (attachOne_willing willing d x.attached x.host).2 pid]
        split <;> simp [held]
  | messenger =>
    cases errand : x.errand with
    | recorded changes => simpa [turn, tell, errand] using held
    | telling announced =>
      cases announced with
      | nil =>
        cases heard : x.news <;> simpa [turn, tell, errand, heard] using held
      | cons a rest =>
        simp only [turn, tell, errand]
        split
        · rename_i mine
          have unended : Unended pid [a.event] := by
            intro d member same
            rw [List.mem_singleton] at member
            refine untold rfl ⟨a.subscription, d, rest, mine, ?_, same⟩
            rw [errand, member]
          rw [follow_willing willing, held]
          exact settle_of_unended unended c
        · exact held

theorem run_keeps (willing : Willing tracer) {x : Overlap σ} {pid : Pid} {c : Container}
    (held : x.attached[pid]? = some c) (turns : List Thread)
    (unnoticed : ¬ Noticed tracer pid x turns) : (run tracer turns x).attached[pid]? = some c := by
  induction turns generalizing x with
  | nil => exact held
  | cons t turns ih =>
    refine ih (turn_keeps willing held t ?_) ?_
    · rintro rfl ends
      exact unnoticed ⟨[], turns, rfl, ends⟩
    · rintro ⟨before, after, rfl, ends⟩
      exact unnoticed ⟨t :: before, after, rfl, ends⟩

theorem LeftBehind.attached (willing : Willing tracer) {x : Overlap σ}
    {schedule : List Thread} {c : Container} (h : LeftBehind tracer x schedule c) :
    (run tracer schedule x).attached[c.pid]? = some c := by
  obtain ⟨before, after, rfl, ⟨⟨id, rest, progress⟩, free, -, -⟩, unnoticed⟩ := h
  have taken : (run tracer (before ++ [.connector]) x).attached[c.pid]? = some c := by
    rw [run_append]
    simp only [run, List.foldl_cons, List.foldl_nil, turn, connect] at progress free ⊢
    simp only [progress, (attachOne_willing willing c _ _).2 c.pid, free]
    simp
  have last := run_keeps willing taken after unnoticed
  rwa [← run_append, List.append_assoc] at last

/-- Once both threads are done, in whatever order they took their turns, the tracer is attached to
just the containers of the registry, if each container that was left behind is one of them. -/
theorem attached_eq_containers_iff (willing : Willing tracer) (r : Registry)
    (news : List ContainerEvent) (s : σ) (schedule : List Thread)
    (finished : (run tracer schedule (start r news s)).Finished) :
    (run tracer schedule (start r news s)).attached =
        (run tracer schedule (start r news s)).registry.containers ↔
      ∀ c, LeftBehind tracer (start r news s) schedule c →
        (run tracer schedule (start r news s)).registry.lookup? c.pid = some c := by
  constructor
  · intro same c left
    rw [lookup?, ← same]
    exact left.attached willing
  · intro held
    have h := run_underway willing r news s schedule
    obtain ⟨id, connected⟩ := finished.connected
    have subscribed : (run tracer schedule (start r news s)).progress.subscription? = some id := by
      rw [connected]
      rfl
    apply Std.ExtTreeMap.ext_getElem?
    intro pid
    have standing := h.standing id subscribed pid
    rw [due_of_telling subscribed finished.told] at standing
    cases standing with
    | settles agrees => exact agrees
    | waits c _ _ _ listed =>
      rw [connected] at listed
      cases listed
    | stays c _ gone _ crossed =>
      obtain ⟨rfl, left⟩ := crossed
      exact absurd (held c left) gone

def former : Container := ⟨"aaaaaaaaaaaa", "shop", "old", "api", 10, false⟩

def latter : Container := ⟨"bbbbbbbbbbbb", "shop", "new", "api", 10, false⟩

/-- A process changes hands after the list is taken, and the first container's turn comes when its
end has been told. -/
def crossed : List Thread :=
  [.connector, .connector, .messenger, .messenger, .messenger, .connector, .messenger]

def idler : Tracer Unit := .nodeWide "probe" (fun s => (.ok (), s)) (fun s => ((), s))

def handedOver : Overlap Unit :=
  run idler crossed (start (empty.apply (.added former)).2 [.added latter] ())

theorem handedOver_finished : handedOver.Finished :=
  ⟨⟨0, by rfl⟩, by rfl, by rfl⟩

theorem crossed_left_behind : Willing idler ∧ handedOver.Finished ∧
    ∃ c, LeftBehind idler (start (empty.apply (.added former)).2 [.added latter] ()) crossed c ∧
      handedOver.registry.lookup? c.pid ≠ some c := by
  have willing : Willing idler := fun _ _ => rfl
  refine ⟨willing, handedOver_finished, ?_⟩
  by_contra none
  have same := (attached_eq_containers_iff willing _ _ _ crossed handedOver_finished).mpr
    fun c left => by_contra fun gone => none ⟨c, left, gone⟩
  have held : handedOver.attached[former.pid]? = some former := by decide +kernel
  have here : handedOver.registry.containers[former.pid]? = some latter := by decide +kernel
  have moved : handedOver.attached[former.pid]? = some latter := by
    rw [← here]
    exact congrArg (·[former.pid]?) same
  exact absurd (held.symm.trans moved) (by decide)

/-- In the end the tracer is attached to the container that is gone and not to the one that is
there. -/
theorem former_stays_attached : ∃ (tracer : Tracer Unit) (r : Registry)
    (news : List ContainerEvent) (schedule : List Thread),
    Willing tracer ∧ (run tracer schedule (start r news ())).Finished ∧
      ∃ pid : Pid, (run tracer schedule (start r news ())).attached[pid]? = some former ∧
        (run tracer schedule (start r news ())).registry.lookup? pid = some latter := by
  refine ⟨idler, _, _, crossed, fun _ _ => rfl, handedOver_finished, former.pid, ?_, ?_⟩
  · decide +kernel
  · decide +kernel

end Overlap
end NodeDiagnostics.Trace
