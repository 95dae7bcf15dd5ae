import NodeDiagnostics.Proofs.Registry.History
import NodeDiagnostics.Proofs.Registry.Replay

namespace NodeDiagnostics.Registry

inductive Move where
  | news (e : ContainerEvent)
  | subscribe
  | unsubscribe (id : SubscriptionId)
deriving DecidableEq, Repr

def Move.news? : Move → Option ContainerEvent
  | news e => some e
  | subscribe => none
  | unsubscribe _ => none

def move (r : Registry) : Move → List Announcement × Registry
  | .news e => r.apply e
  | .subscribe => ([], r.subscribe.2)
  | .unsubscribe id => ([], r.unsubscribe id)

def moveAll (r : Registry) : List Move → List Announcement × Registry
  | [] => ([], r)
  | m :: rest => ((r.move m).1 ++ ((r.move m).2.moveAll rest).1, ((r.move m).2.moveAll rest).2)

def received (id : SubscriptionId) (announced : List Announcement) : List ContainerEvent :=
  (announced.filter (·.subscription = id)).map (·.event)

def copyOf (snapshot : List Container) : Std.ExtTreeMap Pid Container :=
  snapshot.foldl (fun m c => m.insert c.pid c) ∅

def Move.changes (m : Move) (containers : Std.ExtTreeMap Pid Container) : List ContainerEvent :=
  match m with
  | news e => (record containers e).1
  | subscribe => []
  | unsubscribe _ => []

def changesAlong (r : Registry) : List Move → List ContainerEvent
  | [] => []
  | m :: rest => m.changes r.containers ++ (r.move m).2.changesAlong rest

theorem received_append (id : SubscriptionId) (first second : List Announcement) :
    received id (first ++ second) = received id first ++ received id second := by
  simp [received]

theorem Replay.of_added {m m' : Std.ExtTreeMap Pid Container} {l : List Container}
    (h : Replay m (l.map .added) m') : m' = l.foldl (fun m c => m.insert c.pid c) m := by
  induction l generalizing m with
  | nil => cases h; rfl
  | cons c l ih =>
    cases h with
    | added _ rest => exact ih rest

theorem copyOf_snapshot (r : Registry) : copyOf r.snapshot = r.containers :=
  r.snapshot_lists.replay_added.of_added.symm

theorem move_replay (r : Registry) (m : Move) :
    Replay r.containers (m.changes r.containers) (r.move m).2.containers := by
  cases m with
  | news e => exact record_replay r.keyed e
  | subscribe => exact .nil _
  | unsubscribe id => exact .nil _

theorem moveAll_replay (r : Registry) (moves : List Move) :
    Replay r.containers (r.changesAlong moves) (r.moveAll moves).2.containers := by
  induction moves generalizing r with
  | nil => exact .nil _
  | cons m moves ih => exact (r.move_replay m).append (ih (r.move m).2)

theorem subscribed_move {r : Registry} {id : SubscriptionId} {m : Move}
    (subscribed : id ∈ r.subscriptions) (stays : m ≠ .unsubscribe id) :
    id ∈ (r.move m).2.subscriptions := by
  cases m with
  | news e => exact subscribed
  | subscribe => exact List.mem_append_left _ subscribed
  | unsubscribe other =>
    have differ : id ≠ other := fun same => stays (same ▸ rfl)
    simpa [move, unsubscribe] using And.intro subscribed differ

theorem subscribed_moveAll {r : Registry} {id : SubscriptionId} {moves : List Move}
    (subscribed : id ∈ r.subscriptions) (stays : .unsubscribe id ∉ moves) :
    id ∈ (r.moveAll moves).2.subscriptions := by
  induction moves generalizing r with
  | nil => exact subscribed
  | cons m moves ih =>
    obtain ⟨other, later⟩ := List.ne_and_not_mem_of_not_mem_cons stays
    exact ih (subscribed_move subscribed other.symm) later

theorem received_move {r : Registry} {id : SubscriptionId} (subscribed : id ∈ r.subscriptions)
    (m : Move) : received id (r.move m).1 = m.changes r.containers := by
  cases m with
  | news e => exact (announcements_to r.distinct _ id).trans (if_pos subscribed)
  | subscribe => rfl
  | unsubscribe other => rfl

/-- A subscriber hears of all that changes until it leaves, and so hears what all others hear. -/
theorem received_moveAll {r : Registry} {id : SubscriptionId} {moves : List Move}
    (subscribed : id ∈ r.subscriptions) (stays : .unsubscribe id ∉ moves) :
    received id (r.moveAll moves).1 = r.changesAlong moves := by
  induction moves generalizing r with
  | nil => rfl
  | cons m moves ih =>
    obtain ⟨other, later⟩ := List.ne_and_not_mem_of_not_mem_cons stays
    simp only [moveAll, changesAlong, received_append, received_move subscribed]
    rw [ih (subscribed_move subscribed other.symm) later]

def Known (containers : Std.ExtTreeMap Pid Container) : ContainerEvent → Prop
  | .added c => containers[c.pid]? = some c
  | .removed c => containers[c.pid]? = none

theorem record_silent_iff (m : Std.ExtTreeMap Pid Container) (e : ContainerEvent) :
    (record m e).1 = [] ↔ Known m e := by
  cases e with
  | added c =>
    cases found : m[c.pid]? with
    | none => simp [record, Known, found]
    | some old => by_cases same : old = c <;> simp [record, Known, found, same]
  | removed c => cases found : m[c.pid]? <;> simp [record, Known, found]

theorem record_unchanged_iff (m : Std.ExtTreeMap Pid Container) (e : ContainerEvent) :
    (record m e).2 = m ↔ Known m e := by
  constructor
  · intro same
    cases e with
    | added c =>
      have here := getElem?_record_added m c c.pid
      rwa [same, if_pos rfl] at here
    | removed c =>
      have here := getElem?_record_removed m c c.pid
      rwa [same, if_pos rfl] at here
  · intro known
    cases e with
    | added c => exact insert_eq_self known
    | removed c => exact erase_eq_self known

theorem announcements_eq_nil_iff {subscriptions : List SubscriptionId} {id : SubscriptionId}
    (subscribed : id ∈ subscriptions) (changes : List ContainerEvent) :
    announcements subscriptions changes = [] ↔ changes = [] := by
  cases changes with
  | nil => simp [announcements]
  | cons e changes =>
    have some_one : subscriptions ≠ [] := List.ne_nil_of_mem subscribed
    simp [announcements, some_one]

/-- Nothing is announced as long as all news was known, whoever comes and goes. -/
theorem moveAll_silent {r : Registry} {moves : List Move}
    (known : ∀ e, .news e ∈ moves → Known r.containers e) :
    (r.moveAll moves).1 = [] ∧ (r.moveAll moves).2.containers = r.containers := by
  induction moves generalizing r with
  | nil => exact ⟨rfl, rfl⟩
  | cons m moves ih =>
    have still : (r.move m).1 = [] ∧ (r.move m).2.containers = r.containers := by
      cases m with
      | news e =>
        have told : Known r.containers e := known e List.mem_cons_self
        have silent := (record_silent_iff r.containers e).mpr told
        refine ⟨?_, (record_unchanged_iff r.containers e).mpr told⟩
        simp only [move, apply, silent, announcements, List.flatMap_nil]
      | subscribe => exact ⟨rfl, rfl⟩
      | unsubscribe id => exact ⟨rfl, rfl⟩
    have later : ∀ e, .news e ∈ moves → Known (r.move m).2.containers e := by
      rw [still.2]
      exact fun e member => known e (List.mem_cons_of_mem m member)
    obtain ⟨silent, same⟩ := ih later
    exact ⟨by rw [moveAll, still.1, silent, List.append_nil], by rw [moveAll, same, still.2]⟩

theorem known_seeded {seed : List Container} (apart : (seed.map (·.pid)).Nodup) {c : Container}
    (member : c ∈ seed) (r : Registry) :
    Known (r.applyAll (seed.map .added)).containers (.added c) := by
  obtain ⟨before, after, rfl⟩ := List.append_of_mem member
  have others : ∀ d ∈ after, d.pid ≠ c.pid := by
    rw [List.map_append, List.map_cons] at apart
    have behind := (List.nodup_cons.mp (List.nodup_append.mp apart).2.1).1
    exact fun d inside same => behind (List.mem_map.mpr ⟨d, inside, same⟩)
  have last : lastAbout c.pid ((before ++ c :: after).map .added) = some (.added c) := by
    refine lastAbout_eq_some_iff.mpr ⟨rfl, before.map .added, after.map .added, by simp, ?_⟩
    intro e told
    obtain ⟨d, inside, rfl⟩ := List.mem_map.mp told
    exact others d inside
  have found := lookup?_applyAll r ((before ++ c :: after).map .added) c.pid
  rw [last] at found
  exact found

/-- Whatever happens after it has subscribed, a subscriber that stays can replay what it hears on
the snapshot that it found, and then has the registry's containers, each under its own process.
Those subscribed before it hear the same over that time. And nothing is announced exactly where
nothing changes, that is where the news was known. -/
theorem subscriber_in_step (r : Registry) (moves : List Move)
    (stays : .unsubscribe r.subscribe.1 ∉ moves) :
    match r.subscribe.2.moveAll moves with
    | (announced, now) =>
      Replay (copyOf r.snapshot) (received r.subscribe.1 announced) now.containers ∧
      (∀ pid c, now.lookup? pid = some c → c.pid = pid) ∧
      (∀ other ∈ r.subscriptions, .unsubscribe other ∉ moves →
        received other announced = received r.subscribe.1 announced) ∧
      ∀ e, ((now.apply e).1 = [] ↔ (now.apply e).2.containers = now.containers) ∧
        ((now.apply e).2.containers = now.containers ↔ Known now.containers e) := by
  have subscribed : r.subscribe.1 ∈ r.subscribe.2.subscriptions :=
    List.mem_append_right _ (List.mem_singleton_self _)
  have heard := received_moveAll subscribed stays
  refine ⟨?_, ?_, ?_, ?_⟩
  · rw [heard, copyOf_snapshot]
    exact moveAll_replay r.subscribe.2 moves
  · exact (r.subscribe.2.moveAll moves).2.keyed
  · intro other earlier remains
    rw [heard]
    exact received_moveAll (List.mem_append_left _ earlier) remains
  · intro e
    have unchanged := record_unchanged_iff (r.subscribe.2.moveAll moves).2.containers e
    have silent : ((r.subscribe.2.moveAll moves).2.apply e).1 = [] ↔
        Known (r.subscribe.2.moveAll moves).2.containers e :=
      (announcements_eq_nil_iff (subscribed_moveAll subscribed stays) _).trans
        (record_silent_iff _ e)
    exact ⟨silent.trans unchanged.symm, unchanged⟩

/-- A subscriber that finds a container at process 10, which then dies and leaves the number to
another, while a second subscriber comes and goes. -/
theorem subscriber_of_reused_process :
    let first : Container := ⟨"aaaaaaaaaaaa", "shop", "old", "api", 10, false⟩
    let second : Container := ⟨"bbbbbbbbbbbb", "shop", "new", "api", 10, false⟩
    let r := empty.applyAll [.added first]
    let moves : List Move := [.subscribe, .news (.added first), .news (.added second),
      .unsubscribe 1, .news (.removed first), .news (.removed first)]
    .unsubscribe r.subscribe.1 ∉ moves ∧
      Replay (copyOf r.snapshot) [.removed first, .added second, .removed second]
        (r.subscribe.2.moveAll moves).2.containers := by
  intro first second r moves
  have stays : .unsubscribe r.subscribe.1 ∉ moves := by decide +kernel
  have heard : received r.subscribe.1 (r.subscribe.2.moveAll moves).1 =
      [.removed first, .added second, .removed second] := by decide +kernel
  exact ⟨stays, heard ▸ (subscriber_in_step r moves stays).1⟩

end NodeDiagnostics.Registry
