import NodeDiagnostics.Probe.Connections
import NodeDiagnostics.Proofs.Lists
import NodeDiagnostics.Proofs.Probe.Membership

/-!
The thread of a worker ends by itself when a poll fails, and neither the books nor an attach take
notice. So a container that joins a namespace is served exactly if no poll there has failed, or if
the worker whose poll failed has lost all of its members since.
-/
namespace NodeDiagnostics.Probe.NamespaceWorkers

variable {α β : Type}

def pulse (w : NamespaceWorkers β) (ns : NamespaceId) : Option Bool :=
  w.workers[ns]?.map (·.running)

def Fails (w : NamespaceWorkers β) (ns : NamespaceId) : Move α β → Prop
  | .poll polled step => polled = ns ∧ ∃ worker e,
      w.running? ns = some worker ∧ step worker.owner? worker.body = .error e
  | _ => False

/-- In one of the moves a poll of the namespace's worker failed, and the namespace has had members
ever since. -/
def Abandoned (label : String) (moves : List (Move α β)) (ns : NamespaceId) : Prop :=
  ∃ before m after, moves = before ++ m :: after ∧ Fails (run label before).2 ns m ∧
    ∀ first rest, after = first ++ rest →
      (run label (before ++ m :: first)).2.membersOf ns ≠ []

theorem running?_eq_some_iff {w : NamespaceWorkers β} {ns : NamespaceId} {worker : Worker β} :
    w.running? ns = some worker ↔ w.workers[ns]? = some worker ∧ worker.running = true := by
  rw [running?, Option.filter_eq_some_iff]

theorem isSome_running?_iff (w : NamespaceWorkers β) (ns : NamespaceId) :
    (w.running? ns).isSome = true ↔ w.pulse ns = some true := by
  unfold running? pulse
  cases w.workers[ns]? with
  | none => simp
  | some worker => cases awake : worker.running <;> simp [Option.filter, awake]

theorem pulse_insert (w : NamespaceWorkers β) (ns other : NamespaceId) (worker : Worker β) :
    pulse { w with workers := w.workers.insert ns worker } other =
      if ns = other then some worker.running else w.pulse other := by
  by_cases same : ns = other <;> simp [pulse, Std.ExtTreeMap.getElem?_insert, same]

theorem pulse_erase (w : NamespaceWorkers β) (ns other : NamespaceId) :
    pulse { w with workers := w.workers.erase ns } other =
      if ns = other then none else w.pulse other := by
  by_cases same : ns = other <;> simp [pulse, Std.ExtTreeMap.getElem?_erase, same]

theorem pulse_enlist (w : NamespaceWorkers β) (pid : Pid) (ns other : NamespaceId)
    (worker : Worker β) : (w.enlist pid ns worker).pulse other =
      if ns = other then some worker.running else w.pulse other :=
  pulse_insert w ns other worker

theorem membersOf_enlist (w : NamespaceWorkers β) (pid : Pid) (ns other : NamespaceId)
    (worker : Worker β) : (w.enlist pid ns worker).membersOf other =
      if ns = other then worker.members else w.membersOf other :=
  membersOf_insert w ns other worker

theorem pulse_of_served {w : NamespaceWorkers β} {ns : NamespaceId} {worker : Worker β}
    (served : w.workers[ns]? = some worker) : w.pulse ns = some worker.running := by
  simp [pulse, served]

theorem pulse_of_unserved {w : NamespaceWorkers β} {ns : NamespaceId}
    (unserved : w.workers[ns]? = none) : w.pulse ns = none := by
  simp [pulse, unserved]

theorem pulse_attach (w : NamespaceWorkers β) (c : Container) (lookup : Pid → Option NamespaceId)
    (setup : Container → Setup β) (ns : NamespaceId) :
    (w.attach c lookup setup).2.pulse ns = w.pulse ns ∨
      (w.pulse ns = none ∧ (w.attach c lookup setup).2.pulse ns = some true) := by
  have ends := attach_ends w c lookup setup
  generalize (w.attach c lookup setup).1 = outcome at ends
  generalize (w.attach c lookup setup).2 = after at ends ⊢
  cases ends with
  | known => exact .inl rfl
  | noProcess => exact .inl rfl
  | failed => exact .inl rfl
  | joined at_ worker untracked located served =>
    left
    rw [pulse_enlist]
    split
    · rename_i same
      subst same
      exact (pulse_of_served served).symm
    · rfl
  | started at_ body untracked located unserved ready =>
    rw [pulse_enlist]
    split
    · rename_i same
      subst same
      exact .inr ⟨pulse_of_unserved unserved, rfl⟩
    · exact .inl rfl

theorem pulse_detach (w : NamespaceWorkers β) (c : Container) (ns : NamespaceId) :
    (w.detach c).pulse ns = w.pulse ns ∨ (w.detach c).pulse ns = none := by
  unfold detach
  split
  · exact .inl rfl
  · rename_i at_ tracked
    split
    · exact .inl rfl
    · rename_i worker served
      dsimp only
      split
      · have shrunk := pulse_erase w at_ ns
        by_cases same : at_ = ns
        · rw [if_pos same] at shrunk
          exact .inr shrunk
        · rw [if_neg same] at shrunk
          exact .inl shrunk
      · left
        refine (pulse_insert w at_ ns
          { worker with members := worker.members.filter (·.pid != c.pid) }).trans ?_
        split
        · rename_i same
          subst same
          exact (pulse_of_served served).symm
        · rfl

theorem pulse_poll (w : NamespaceWorkers β) (polled ns : NamespaceId)
    (step : Option Container → β → Except Error (List α × β)) :
    (Fails w ns (.poll polled step) → (w.poll polled step).2.pulse ns = some false) ∧
      (¬ Fails w ns (.poll polled step) → (w.poll polled step).2.pulse ns = w.pulse ns) := by
  unfold poll
  split
  · rename_i asleep
    refine ⟨?_, fun _ => rfl⟩
    rintro ⟨rfl, worker, e, awake, -⟩
    rw [asleep] at awake
    cases awake
  · rename_i worker awake
    have found := running?_eq_some_iff.mp awake
    split
    · rename_i events body answered
      have kept := pulse_insert w polled ns { worker with body }
      constructor
      · rintro ⟨rfl, other, e, same, failed⟩
        rw [awake] at same
        cases same
        rw [answered] at failed
        cases failed
      · intro _
        refine kept.trans ?_
        split
        · rename_i same
          subst same
          exact (pulse_of_served found.1).symm
        · rfl
    · rename_i e failed
      have ended := pulse_insert w polled ns { worker with running := false }
      constructor
      · rintro ⟨rfl, -⟩
        rw [if_pos rfl] at ended
        exact ended
      · intro fine
        have elsewhere : polled ≠ ns := fun same => fine ⟨same, worker, e, same ▸ awake, failed⟩
        rw [if_neg elsewhere] at ended
        exact ended

section
variable {notes : Notes} {w : NamespaceWorkers β}

theorem Agrees.pulse_eq_none_iff (h : Agrees notes w) (ns : NamespaceId) :
    w.pulse ns = none ↔ w.membersOf ns = [] := by
  cases served : w.workers[ns]? with
  | none => simp [pulse, membersOf, served]
  | some worker =>
    have some_one := h.staffed ns worker served
    simp [pulse, membersOf, served, some_one]

/-- A thread is found to have ended if this move ends it, or if it had ended before and its
worker still has members. -/
theorem Agrees.ended_move_iff (h : Agrees notes w) (ns : NamespaceId) (m : Move α β) :
    (w.move m).pulse ns = some false ↔
      (Fails w ns m ∨ w.pulse ns = some false) ∧ (w.move m).membersOf ns ≠ [] := by
  have present := (h.move m).pulse_eq_none_iff ns
  cases m with
  | attach c lookup setup =>
    have effect := pulse_attach w c lookup setup ns
    simp only [NamespaceWorkers.move, Fails, false_or] at present ⊢
    rcases effect with same | ⟨absent, fresh⟩
    · rw [ne_eq, ← present, same]
      simp +contextual
    · simp [absent, fresh]
  | detach c =>
    have effect := pulse_detach w c ns
    simp only [NamespaceWorkers.move, Fails, false_or] at present ⊢
    rcases effect with same | gone
    · rw [ne_eq, ← present, same]
      simp +contextual
    · simp [gone, present.mp gone]
  | stopAll => simp [NamespaceWorkers.move, stopAll, pulse, membersOf, empty]
  | poll polled step =>
    have effect := pulse_poll w polled ns step
    simp only [NamespaceWorkers.move] at present ⊢
    rw [ne_eq, ← present]
    by_cases fails : Fails w ns (.poll polled step)
    · simp [effect.1 fails, fails]
    · rw [effect.2 fails]
      simp +contextual [fails]

end

theorem run_append_singleton (label : String) (moves : List (Move α β)) (m : Move α β) :
    (run label (moves ++ [m])).2 = (run label moves).2.move m := by
  simp [run, List.foldl_append]

theorem abandoned_append_singleton (label : String) (moves : List (Move α β)) (m : Move α β)
    (ns : NamespaceId) : Abandoned label (moves ++ [m]) ns ↔
      (Fails (run label moves).2 ns m ∨ Abandoned label moves ns) ∧
        ((run label moves).2.move m).membersOf ns ≠ [] := by
  rw [← run_append_singleton]
  -- Either the poll that failed is the last move, or the history before it was abandoned already.
  constructor
  · rintro ⟨before, failing, after, split, fails, staffed⟩
    rcases concat_eq_append_cons split with ⟨rfl, rfl, rfl⟩ | ⟨earlier, rfl, rfl⟩
    · exact ⟨.inl fails, staffed [] [] rfl⟩
    · refine ⟨.inr ⟨before, failing, earlier, rfl, fails, ?_⟩, ?_⟩
      · rintro first rest rfl
        exact staffed first (rest ++ [m]) (by simp)
      · have last := staffed (earlier ++ [m]) [] (by simp)
        simpa using last
  · rintro ⟨fails | ⟨before, failing, after, rfl, fails, staffed⟩, last⟩
    · refine ⟨moves, m, [], rfl, fails, ?_⟩
      intro first rest nothing
      obtain ⟨rfl, rfl⟩ := List.append_eq_nil_iff.mp nothing.symm
      exact last
    · refine ⟨before, failing, after ++ [m], by simp, fails, ?_⟩
      intro first rest split
      rcases List.eq_nil_or_concat rest with rfl | ⟨others, tail, rfl⟩
      · rw [List.append_nil] at split
        subst split
        simpa using last
      · rw [List.concat_eq_append, ← List.append_assoc] at split
        obtain ⟨same, -⟩ := List.append_inj' split rfl
        exact staffed first others same

theorem ended_iff_abandoned (label : String) (moves : List (Move α β)) (ns : NamespaceId) :
    (run label moves).2.pulse ns = some false ↔ Abandoned label moves ns := by
  induction moves using List.reverseRecOn with
  | nil =>
    constructor
    · intro ended
      simp [run, pulse, empty] at ended
    · rintro ⟨before, m, after, split, -⟩
      simp at split
  | append_singleton moves m ih =>
    rw [run_append_singleton, (run_agrees label moves).ended_move_iff, ih,
      abandoned_append_singleton]

/-- An attach of a new process that succeeds leaves the container with the worker of its namespace,
whose thread ran before the call or was started in it; unless the namespace had been abandoned, and
then the worker's thread had ended before the call. -/
theorem served_iff_not_abandoned (label : String) (moves : List (Move α β)) (c : Container)
    (lookup : Pid → Option NamespaceId) (setup : Container → Setup β)
    (untracked : (run label moves).2.namespaceOf[c.pid]? = none)
    (succeeded : ((run label moves).2.attach c lookup setup).1.result = .ok ()) :
    ∃ ns, lookup c.pid = some ns ∧
      c ∈ ((run label moves).2.attach c lookup setup).2.membersOf ns ∧
      ((((run label moves).2.attach c lookup setup).2.running? ns).isSome = true ↔
        ¬ Abandoned label moves ns) := by
  have history := ended_iff_abandoned label moves
  generalize (run label moves).2 = w at untracked succeeded history ⊢
  have ends := attach_ends w c lookup setup
  generalize (w.attach c lookup setup).1 = outcome at ends succeeded
  generalize (w.attach c lookup setup).2 = after at ends ⊢
  cases ends with
  | known ns tracked =>
    rw [untracked] at tracked
    contradiction
  | noProcess => contradiction
  | failed => contradiction
  | joined ns worker _ located served =>
    refine ⟨ns, located, ?_, ?_⟩
    · rw [membersOf_enlist, if_pos rfl]
      simp
    · rw [isSome_running?_iff, pulse_enlist, if_pos rfl, ← history, pulse_of_served served]
      cases worker.running <;> simp
  | started ns body _ located unserved ready =>
    refine ⟨ns, located, ?_, ?_⟩
    · rw [membersOf_enlist, if_pos rfl]
      simp
    · rw [isSome_running?_iff, pulse_enlist, if_pos rfl, ← history, pulse_of_unserved unserved]
      simp

def leader : Container := ⟨"aaaaaaaaaaaa", "shop", "cart", "api", 10, false⟩

def sibling : Container := ⟨"bbbbbbbbbbbb", "shop", "cart", "cache", 11, false⟩

def onePod : Pid → Option NamespaceId := fun _ => some 1

def readable : Pid → Connections.Tables := fun _ => ⟨some [], none⟩

/-- The leader's process ends, and with it the socket tables that its worker reads. -/
def leaderEnds : List (Move (Sighting TcpEvent) Net.ConnectionTable) :=
  [.attach leader onePod (Connections.setup readable),
    .poll 1 (Connections.poll (fun _ => Connections.noTables) 0)]

def siblingComes : Attachment × NamespaceWorkers Net.ConnectionTable :=
  (run "tcp" leaderEnds).2.attach sibling onePod (Connections.setup readable)

theorem sibling_untracked : (run "tcp" leaderEnds).2.namespaceOf[sibling.pid]? = none := by
  decide +kernel

theorem sibling_attached : siblingComes.1.result = .ok () := by
  decide +kernel

theorem sibling_asleep : siblingComes.2.running? 1 = none := by
  decide +kernel

/-- The sibling of a container whose worker has come to its end is abandoned. -/
theorem sibling_abandoned : (run "tcp" leaderEnds).2.namespaceOf[sibling.pid]? = none ∧
    siblingComes.1.result = .ok () ∧ Abandoned "tcp" leaderEnds 1 := by
  refine ⟨sibling_untracked, sibling_attached, ?_⟩
  obtain ⟨ns, located, -, served⟩ := served_iff_not_abandoned "tcp" leaderEnds sibling onePod
    (Connections.setup readable) sibling_untracked sibling_attached
  have here : ns = 1 := (Option.some.inj located).symm
  subst here
  by_contra kept
  have awake : (siblingComes.2.running? 1).isSome = true := served.mpr kept
  rw [sibling_asleep] at awake
  contradiction

theorem attached_unserved : ∃ (moves : List (Move (Sighting TcpEvent) Net.ConnectionTable))
    (c : Container) (lookup : Pid → Option NamespaceId)
    (setup : Container → Setup Net.ConnectionTable),
    (run "tcp" moves).2.namespaceOf[c.pid]? = none ∧
      ((run "tcp" moves).2.attach c lookup setup).1.result = .ok () ∧
      ∀ ns, lookup c.pid = some ns →
        ((run "tcp" moves).2.attach c lookup setup).2.running? ns = none := by
  refine ⟨leaderEnds, sibling, onePod, Connections.setup readable, sibling_untracked,
    sibling_attached, ?_⟩
  intro ns located
  have here : ns = 1 := (Option.some.inj located).symm
  subst here
  exact sibling_asleep

end NodeDiagnostics.Probe.NamespaceWorkers
