import NodeDiagnostics.Proofs.Trace.Connection

/-!
A connection is closed, and its tracer stopped, while callbacks of the registry are still under way
on another thread, and while the tracer's own workers go on. The subscription has ended, so no more
callbacks come than those that were taken before. What the tracer is asked is one turn, for its
owner is locked meanwhile. What is attached is looked up and changed in turns of their own: the
locks on its entries are left out, so that here the threads may cross more freely than they can. A
thread that has its turns alone does what it does on its own.
-/
namespace NodeDiagnostics.Trace

/-- How far the teardown has come. Where no connection was made, it begins at `stopping`. -/
inductive Closing where
  | listing
  | clearing (rest : List Container)
  | releasing (known : Container) (rest : List Container)
  | stopping
  | stopped
deriving DecidableEq

inductive Following where
  | idle
  | asking (c : Container)
  | releasing (known : Container)

structure Teardown (σ : Type) where
  attached : Attached
  host : σ
  closing : Closing
  following : Following
  callbacks : List ContainerEvent

inductive Turn (ω : Type) where
  | closer
  | follower
  | worker (w : ω)

namespace Teardown

variable {σ ω : Type}

def close (tracer : Tracer σ) (t : Teardown σ) : Teardown σ :=
  match t.closing with
  | .listing => { t with closing := .clearing (t.attached.toList.map (·.2)) }
  | .clearing [] => { t with closing := .stopping }
  | .clearing (c :: rest) =>
    match t.attached[c.pid]? with
    | none => { t with closing := .clearing rest }
    | some known =>
      { t with attached := t.attached.erase c.pid, closing := .releasing known rest }
  | .releasing known rest =>
    { t with host := (tracer.detach known t.host).2, closing := .clearing rest }
  | .stopping => { t with host := (tracer.stop t.host).2, closing := .stopped }
  | .stopped => t

def follow (tracer : Tracer σ) (selector : Selector) (t : Teardown σ) : Teardown σ :=
  match t.following, t.callbacks with
  | .idle, [] => t
  | .idle, .added c :: callbacks =>
    if selector.selects c && !t.attached.contains c.pid then
      { t with following := .asking c, callbacks }
    else { t with callbacks }
  | .idle, .removed c :: callbacks =>
    match t.attached[c.pid]? with
    | none => { t with callbacks }
    | some known =>
      { t with attached := t.attached.erase c.pid, following := .releasing known, callbacks }
  | .asking c, _ =>
    match tracer.attach c t.host with
    | (.ok (), host) =>
      { t with attached := t.attached.insert c.pid c, host, following := .idle }
    | (.error _, host) => { t with host, following := .idle }
  | .releasing known, _ =>
    { t with host := (tracer.detach known t.host).2, following := .idle }

section
variable (tracer : Tracer σ) (selector : Selector) (work : ω → σ → σ)

def turn (t : Teardown σ) : Turn ω → Teardown σ
  | .closer => t.close tracer
  | .follower => t.follow tracer selector
  | .worker w => { t with host := work w t.host }

def play (turns : List (Turn ω)) (t : Teardown σ) : Teardown σ :=
  turns.foldl (turn tracer selector work) t

theorem play_append (first second : List (Turn ω)) (t : Teardown σ) :
    play tracer selector work (first ++ second) t =
      play tracer selector work second (play tracer selector work first t) :=
  List.foldl_append

theorem play_cons (m : Turn ω) (turns : List (Turn ω)) (t : Teardown σ) :
    play tracer selector work (m :: turns) t =
      play tracer selector work turns (turn tracer selector work t m) :=
  rfl

theorem clearing_alone (rest : List Container) (attached : Attached) (s : σ)
    (following : Following) (callbacks : List ContainerEvent) : ∃ n,
    let cleared := rest.foldl (fun (attached, s) c => detachOne tracer c attached s) (attached, s)
    play tracer selector work (List.replicate n .closer)
        ⟨attached, s, .clearing rest, following, callbacks⟩ =
      ⟨cleared.1, cleared.2, .stopping, following, callbacks⟩ := by
  induction rest generalizing attached s with
  | nil => exact ⟨1, rfl⟩
  | cons c rest ih =>
    simp only [List.foldl_cons]
    unfold detachOne
    split
    · rename_i free
      obtain ⟨n, done⟩ := ih attached s
      refine ⟨n + 1, Eq.trans ?_ done⟩
      rw [List.replicate_succ, play_cons]
      simp only [turn, close, free]
    · rename_i known found
      obtain ⟨n, done⟩ := ih (attached.erase c.pid) (tracer.detach known s).2
      refine ⟨n + 2, Eq.trans ?_ done⟩
      rw [List.replicate_succ, List.replicate_succ, play_cons, play_cons]
      simp only [turn, close, found]

theorem close_alone (c : Connection) (r : Registry) (s : σ) (following : Following)
    (callbacks : List ContainerEvent) : ∃ n,
    let closed := c.close r tracer s
    play tracer selector work (List.replicate n .closer)
        ⟨c.attached, s, .listing, following, callbacks⟩ =
      ⟨closed.1.1, (tracer.stop closed.2).2, .stopped, following, callbacks⟩ := by
  obtain ⟨n, cleared⟩ := clearing_alone tracer selector work (c.attached.toList.map (·.2))
    c.attached s following callbacks
  refine ⟨n + 2, ?_⟩
  have order : List.replicate (n + 2) (Turn.closer (ω := ω)) =
      .closer :: (List.replicate n .closer ++ [.closer]) := by
    rw [← List.replicate_succ', List.replicate_succ]
  rw [order, play_cons, play_append]
  simp only [turn, close, cleared]
  rfl

theorem follow_alone (e : ContainerEvent) (attached : Attached) (s : σ) (closing : Closing)
    (callbacks : List ContainerEvent) : ∃ n,
    let after := Connection.follow tracer selector e attached s
    play tracer selector work (List.replicate n .follower)
        ⟨attached, s, closing, .idle, e :: callbacks⟩ =
      ⟨after.1, after.2, closing, .idle, callbacks⟩ := by
  cases e with
  | added c =>
    cases chosen : selector.selects c with
    | false => exact ⟨1, by simp [play, turn, follow, Connection.follow, chosen]⟩
    | true =>
      cases inside : attached.contains c.pid with
      | true =>
        exact ⟨1, by simp [play, turn, follow, Connection.follow, attachOne, chosen, inside]⟩
      | false =>
        refine ⟨2, ?_⟩
        rcases answer : tracer.attach c s with ⟨e | ⟨⟩, s'⟩ <;>
          simp [play, turn, follow, Connection.follow, attachOne, chosen, inside, answer]
  | removed c =>
    cases found : attached[c.pid]? with
    | none => exact ⟨1, by simp [play, turn, follow, Connection.follow, detachOne, found]⟩
    | some known => exact ⟨2, by simp [play, turn, follow, Connection.follow, detachOne, found]⟩

/-- Whatever is asked of the tracer, and whatever its workers do, the host stays so. -/
structure Keeps (P : σ → Prop) : Prop where
  attach : ∀ c s, P s → P (tracer.attach c s).2
  detach : ∀ c s, P s → P (tracer.detach c s).2
  stop : ∀ s, P s → P (tracer.stop s).2
  work : ∀ w s, P s → P (work w s)

end

section
variable {tracer : Tracer σ} {work : ω → σ → σ} {P Q : σ → Prop} {t : Teardown σ}

theorem Keeps.follow (h : Keeps tracer work P) (selector : Selector) (now : P t.host) :
    P (t.follow tracer selector).host := by
  unfold Teardown.follow
  split
  · exact now
  · split <;> exact now
  · split <;> exact now
  · rename_i c _
    have asked := h.attach c t.host now
    split <;> rename_i answer <;> rw [answer] at asked <;> exact asked
  · exact h.detach _ t.host now

theorem Keeps.close (h : Keeps tracer work P) (now : P t.host) : P (t.close tracer).host := by
  unfold Teardown.close
  split
  · exact now
  · exact now
  · split <;> exact now
  · exact h.detach _ t.host now
  · exact h.stop t.host now
  · exact now

theorem Keeps.turn (h : Keeps tracer work P) (selector : Selector) (now : P t.host)
    (m : Turn ω) : P (t.turn tracer selector work m).host := by
  cases m with
  | closer => exact h.close now
  | follower => exact h.follow selector now
  | worker w => exact h.work w t.host now

theorem Keeps.play (h : Keeps tracer work P) (selector : Selector) (now : P t.host)
    (turns : List (Turn ω)) : P (t.play tracer selector work turns).host := by
  induction turns generalizing t with
  | nil => exact now
  | cons m turns ih => exact ih (h.turn selector now m)

theorem closing_follow (tracer : Tracer σ) (selector : Selector) (t : Teardown σ) :
    (t.follow tracer selector).closing = t.closing := by
  unfold Teardown.follow
  split
  · rfl
  · split <;> rfl
  · split <;> rfl
  · split <;> rfl
  · rfl

theorem Keeps.stopped_turn (after : Keeps tracer work Q)
    (stops : ∀ s, P s → Q (tracer.stop s).2) (selector : Selector) (now : P t.host)
    (done : t.closing = .stopped → Q t.host) (m : Turn ω) :
    (t.turn tracer selector work m).closing = .stopped →
      Q (t.turn tracer selector work m).host := by
  -- Only the closer's turn can bring the end about, and it does so by a stop.
  cases m with
  | closer =>
    intro stopped
    simp only [Teardown.turn, Teardown.close] at stopped ⊢
    split at stopped
    · contradiction
    · contradiction
    · split at stopped <;> contradiction
    · contradiction
    · exact stops t.host now
    · exact done stopped
  | follower =>
    intro stopped
    have before : t.closing = .stopped := (closing_follow tracer selector t).symm.trans stopped
    exact after.follow selector (done before)
  | worker w =>
    intro stopped
    exact after.work w t.host (done stopped)

theorem Keeps.stopped_play (h : Keeps tracer work P) (after : Keeps tracer work Q)
    (stops : ∀ s, P s → Q (tracer.stop s).2) (selector : Selector) (now : P t.host)
    (done : t.closing = .stopped → Q t.host) (turns : List (Turn ω)) :
    (t.play tracer selector work turns).closing = .stopped →
      Q (t.play tracer selector work turns).host := by
  induction turns generalizing t with
  | nil => exact done
  | cons m turns ih =>
    exact ih (h.turn selector now m) (after.stopped_turn stops selector now done m)

end

end Teardown
end NodeDiagnostics.Trace
