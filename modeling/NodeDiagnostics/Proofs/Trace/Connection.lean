import NodeDiagnostics.Proofs.Trace.Attachment

namespace NodeDiagnostics.Trace.Connection
open Registry

variable {σ : Type}

theorem attachEach_eq_followAll (tracer : Tracer σ) (selector : Selector) (l : List Container)
    (attached : Attached) (s : σ) :
    ((attachEach tracer (l.filter selector.selects) attached s).1.2,
      (attachEach tracer (l.filter selector.selects) attached s).2) =
      followAll tracer selector (l.map .added) (attached, s) := by
  induction l generalizing attached s with
  | nil => rfl
  | cons c l ih =>
    cases chosen : selector.selects c with
    | true =>
      have step := ih (attachOne tracer c attached s).1.2 (attachOne tracer c attached s).2
      simpa [attachEach, followAll, follow, chosen] using step
    | false => simpa [followAll, follow, chosen] using ih attached s

theorem attachOne_refused {tracer : Tracer σ} {c : Container} {attached : Attached}
    {log : List Call} {s : σ}
    (failed : (attachOne (logged tracer) c attached (log, s)).1.1 = false) :
    (attachOne (logged tracer) c attached (log, s)).1.2 = attached ∧
      (attachOne (logged tracer) c attached (log, s)).2.1 = log ++ [.refused c] := by
  unfold attachOne at failed ⊢
  split at failed
  · contradiction
  · rename_i absent
    simp only [logged, absent] at failed ⊢
    rcases answer : tracer.attach c s with ⟨e | ⟨⟩, s'⟩
    · simp
    · simp [answer] at failed

theorem attachEach_refused {tracer : Tracer σ} {l : List Container} {attached : Attached}
    {log : List Call} {s : σ}
    (failed : (attachEach (logged tracer) l attached (log, s)).1.1 = 0) :
    (attachEach (logged tracer) l attached (log, s)).1.2 = attached ∧
      (attachEach (logged tracer) l attached (log, s)).2.1 = log ++ l.map .refused := by
  induction l generalizing attached log s with
  | nil => simp [attachEach]
  | cons c l ih =>
    simp only [attachEach] at failed ⊢
    cases done : (attachOne (logged tracer) c attached (log, s)).1.1 with
    | true => simp [done] at failed
    | false =>
      obtain ⟨kept, asked⟩ := attachOne_refused done
      simp only [done, Bool.false_eq_true, ↓reduceIte] at failed
      obtain ⟨rest, more⟩ := ih failed
      refine ⟨rest.trans kept, ?_⟩
      rw [more, asked]
      simp

theorem receive_eq_followAll (c : Connection) (tracer : Tracer σ) (announced : List Announcement)
    (s : σ) :
    c.receive tracer announced s =
      let events := (announced.filter (·.subscription = c.subscription)).map (·.event)
      let after := followAll tracer c.selector events (c.attached, s)
      ({ c with attached := after.1 }, after.2) := by
  simp only [receive, followAll, List.foldl_map]
  generalize announced.filter (·.subscription = c.subscription) = mine
  induction mine generalizing c s with
  | nil => rfl
  | cons a mine ih => exact ih { c with attached := _ } _

theorem notify_replay (r : Registry) (e : ContainerEvent) : ∃ changes,
    (r.notify e).1 = announcements r.subscriptions changes ∧
      Replay r.containers changes (r.notify e).2.containers ∧
      (r.notify e).2.subscriptions = r.subscriptions := by
  unfold Registry.notify
  split
  · exact ⟨_, rfl, record_replay r.keyed e, rfl⟩
  · exact ⟨[], rfl, .nil _, rfl⟩

theorem close_eq_followAll (c : Connection) (r : Registry) (tracer : Tracer σ) (s : σ) :
    c.close r tracer s =
      let events := (c.attached.toList.map (·.2)).map .removed
      let after := followAll tracer c.selector events (c.attached, s)
      ((after.1, r.unsubscribe c.subscription), after.2) := by
  simp [Connection.close, followAll, follow, List.foldl_map]

theorem unsubscribe_newest {r : Registry} {others : List SubscriptionId} {id : SubscriptionId}
    (subscribed : r.subscriptions = others ++ [id]) :
    (r.unsubscribe id).subscriptions = others := by
  have apart := List.nodup_append.mp (subscribed ▸ r.distinct)
  have stay : others.filter (· ≠ id) = others := by
    apply List.filter_eq_self.mpr
    intro other member
    simpa using apart.2.2 other member id (List.mem_singleton_self id)
  simp only [unsubscribe, subscribed, List.filter_append, stay]
  simp

structure UpToDate (selector : Selector) (others : List SubscriptionId) (c : Connection)
    (r : Registry) (log : List Call) : Prop where
  selected : c.selector = selector
  subscribed : r.subscriptions = others ++ [c.subscription]
  follows : Follows selector r.containers c.attached log

section
variable {selector : Selector} {others : List SubscriptionId} {c : Connection} {r : Registry}
  {log : List Call}

theorem UpToDate.notify (h : UpToDate selector others c r log) (tracer : Tracer σ)
    (e : ContainerEvent) (s : σ) :
    let after := c.notify r (logged tracer) e (log, s)
    UpToDate selector others after.1.1 after.1.2 after.2.1 := by
  obtain ⟨changes, told, path, same⟩ := notify_replay r e
  have mine : c.subscription ∈ r.subscriptions := by simp [h.subscribed]
  simp only [Connection.notify, receive_eq_followAll, told, announcements_to r.distinct,
    if_pos mine, h.selected]
  exact ⟨rfl, same.trans h.subscribed, h.follows.replay r.keyed path tracer s⟩

def notifyAll (tracer : Tracer σ) : List ContainerEvent → Connection × Registry →
    Request σ (Connection × Registry)
  | [], state, s => (state, s)
  | e :: rest, (c, r), s =>
    notifyAll tracer rest (c.notify r tracer e s).1 (c.notify r tracer e s).2

theorem UpToDate.notifyAll (h : UpToDate selector others c r log) (tracer : Tracer σ)
    (news : List ContainerEvent) (s : σ) :
    let after := notifyAll (logged tracer) news (c, r) (log, s)
    UpToDate selector others after.1.1 after.1.2 after.2.1 := by
  induction news generalizing c r log s with
  | nil => exact h
  | cons e news ih => exact ih (h.notify tracer e s) _

theorem UpToDate.close (h : UpToDate selector others c r log) (tracer : Tracer σ) (s : σ) :
    let after := c.close r (logged tracer) (log, s)
    after.1.1 = ∅ ∧ after.1.2.subscriptions = others ∧
      ∀ pid, Alternates none (after.2.1.filter (·.changes pid)) none := by
  have keyed : Keyed c.attached := fun pid d found =>
    r.keyed pid d (h.follows.known pid d found).1
  -- closing is told like news: what is attached stands for the containers, and all of them go
  have self : Follows selector c.attached c.attached log :=
    ⟨fun pid d found => ⟨found, (h.follows.known pid d found).2⟩,
      fun pid d found _ missing => absurd (found.symm.trans missing) (by simp),
      h.follows.calls⟩
  have cleared := self.replay keyed (lists_values keyed).replay_removed tracer s
  simp only [close_eq_followAll, h.selected, unsubscribe_newest h.subscribed, true_and]
  generalize followAll (logged tracer) selector _ _ = after at cleared ⊢
  have none_left : ∀ pid : Pid, after.1[pid]? = none := fun pid => cleared.free_of_free (by simp)
  refine ⟨Std.ExtTreeMap.ext_getElem? fun pid => by rw [none_left pid]; simp, fun pid => ?_⟩
  have calls := cleared.calls pid
  rwa [none_left pid] at calls

theorem connect_upToDate {after : Registry} {tracer : Tracer σ} {s : σ} {state : List Call × σ}
    (made : connect r (logged tracer) selector ([], s) = ((.ok c, after), state)) :
    UpToDate selector r.subscriptions c after state.1 := by
  have initial : Follows selector ∅ ∅ [] :=
    ⟨fun pid d found => by simp at found, fun pid d found => by simp at found,
      fun pid => by simp [Alternates]⟩
  have grown := initial.replay keyed_empty r.snapshot_lists.replay_added tracer s
  rw [← attachEach_eq_followAll] at grown
  simp only [connect] at made
  split at made
  · cases made
  · cases made
    exact ⟨rfl, rfl, grown⟩

/-- Where no connection is made, there was something to attach to and the tracer refused it all;
nothing is attached and nothing subscribed. -/
theorem connect_failed {after : Registry} {e : Error} {tracer : Tracer σ} {s : σ}
    {state : List Call × σ}
    (failed : connect r (logged tracer) selector ([], s) = ((.error e, after), state)) :
    after.subscriptions = r.subscriptions ∧
      (∃ c, r.lookup? c.pid = some c ∧ selector.selects c = true) ∧
      state.1 = (r.snapshot.filter selector.selects).map .refused := by
  simp only [connect] at failed
  split at failed
  · rename_i none_done
    cases failed
    simp only [Bool.and_eq_true, Bool.not_eq_eq_eq_not, Bool.not_true, List.isEmpty_eq_false_iff,
      beq_iff_eq] at none_done
    refine ⟨unsubscribe_newest rfl, ?_, (attachEach_refused none_done.2).2⟩
    obtain ⟨c, member⟩ := List.exists_mem_of_ne_nil _ none_done.1
    obtain ⟨present, chosen⟩ := List.mem_filter.mp member
    exact ⟨c, (r.snapshot_lists.complete c).mp present, chosen⟩
  · cases failed

end

/-- Whatever is selected, however the tracer answers, and whatever the news: the tracer is attached
to selected containers of the registry only, misses none but those that it refused when last asked,
and is attached to and detached from each process in turn. In the end it is attached to nothing. -/
theorem connection_faithful (r : Registry) (tracer : Tracer σ) (selector : Selector)
    (news : List ContainerEvent) (s : σ) :
    match connect r (logged tracer) selector ([], s) with
    | ((.error _, after), log, _) => after.subscriptions = r.subscriptions ∧
        (∃ c, r.lookup? c.pid = some c ∧ selector.selects c = true) ∧
        log = (r.snapshot.filter selector.selects).map .refused
    | ((.ok made, connected), state) =>
      match notifyAll (logged tracer) news (made, connected) state with
      | ((c, after), log, s) => Follows selector after.containers c.attached log ∧
          after.subscriptions = r.subscriptions ++ [c.subscription] ∧
          match c.close after (logged tracer) (log, s) with
          | ((attached, closed), log, _) => attached = ∅ ∧ closed.subscriptions = r.subscriptions ∧
              ∀ pid, Alternates none (log.filter (·.changes pid)) none := by
  rcases result : connect r (logged tracer) selector ([], s) with ⟨⟨e | made, connected⟩, log, s'⟩
  · exact connect_failed result
  · have now := (connect_upToDate result).notifyAll tracer news s'
    exact ⟨now.follows, now.subscribed, now.close tracer _⟩

end NodeDiagnostics.Trace.Connection
