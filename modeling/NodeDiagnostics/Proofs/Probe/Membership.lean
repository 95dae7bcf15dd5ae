import NodeDiagnostics.Probe.NamespaceWorkers
import Mathlib.Data.Finset.Card
import Mathlib.Data.List.Induction

/-!
Who is served by which worker. A caller that notes whom it has attached and not yet detached, in
that order, knows all of the workers' books: each worker's members are the noted containers of its
namespace, and the process of each is filed under that namespace and no other. So a worker belongs
to the member noted first, and none is kept without a member.
-/
namespace NodeDiagnostics.Probe.NamespaceWorkers

variable {α β : Type}

/-- A call, with what the host does in it, or a poll that falls between two calls. -/
inductive Move (α β : Type) where
  | attach (c : Container) (lookup : Pid → Option NamespaceId) (setup : Container → Setup β)
  | detach (c : Container)
  | stopAll
  | poll (ns : NamespaceId) (step : Option Container → β → Except Error (List α × β))

def move (w : NamespaceWorkers β) : Move α β → NamespaceWorkers β
  | .attach c lookup setup => (w.attach c lookup setup).2
  | .detach c => w.detach c
  | .stopAll => w.stopAll
  | .poll ns step => (w.poll ns step).2

/-- The containers that are attached, longest attached first, with their namespaces. -/
abbrev Notes := List (Container × NamespaceId)

def Notes.attached (notes : Notes) (c : Container) (located : Option NamespaceId) :
    Except Error Unit → Notes
  | .ok () => match located with
    | some ns => if c.pid ∈ notes.map (·.1.pid) then notes else notes ++ [(c, ns)]
    | none => notes
  | .error _ => notes

def note (w : NamespaceWorkers β) (notes : Notes) : Move α β → Notes
  | .attach c lookup setup =>
    notes.attached c (lookup c.pid) (w.attach c lookup setup).1.result
  | .detach c => notes.filter (·.1.pid != c.pid)
  | .stopAll => []
  | .poll _ _ => notes

def run (label : String) (moves : List (Move α β)) : Notes × NamespaceWorkers β :=
  moves.foldl (fun (notes, w) m => (w.note notes m, w.move m)) ([], empty label)

def Notes.living (notes : Notes) (ns : NamespaceId) : List Container :=
  (notes.filter (·.2 = ns)).map (·.1)

def membersOf (w : NamespaceWorkers β) (ns : NamespaceId) : List Container :=
  (w.workers[ns]?.map (·.members)).getD []

structure Agrees (notes : Notes) (w : NamespaceWorkers β) : Prop where
  distinct : (notes.map (·.1.pid)).Nodup
  filed : ∀ (pid : Pid) (ns : NamespaceId),
    w.namespaceOf[pid]? = some ns ↔ ∃ c, (c, ns) ∈ notes ∧ c.pid = pid
  members : ∀ ns, w.membersOf ns = notes.living ns
  staffed : ∀ (ns : NamespaceId) (worker : Worker β),
    w.workers[ns]? = some worker → worker.members ≠ []

def enlist (w : NamespaceWorkers β) (pid : Pid) (ns : NamespaceId) (worker : Worker β) :
    NamespaceWorkers β :=
  { w with workers := w.workers.insert ns worker, namespaceOf := w.namespaceOf.insert pid ns }

/-- The ways in which an attach can end. -/
inductive Ends (w : NamespaceWorkers β) (c : Container) (lookup : Pid → Option NamespaceId)
    (setup : Container → Setup β) : Attachment → NamespaceWorkers β → Prop where
  | known (ns : NamespaceId) (tracked : w.namespaceOf[c.pid]? = some ns) :
      Ends w c lookup setup .known w
  | noProcess (untracked : w.namespaceOf[c.pid]? = none) (missing : lookup c.pid = none) :
      Ends w c lookup setup (.noProcess c.pid) w
  | joined (ns : NamespaceId) (worker : Worker β) (untracked : w.namespaceOf[c.pid]? = none)
      (located : lookup c.pid = some ns) (served : w.workers[ns]? = some worker) :
      Ends w c lookup setup .joined
        (w.enlist c.pid ns { worker with members := worker.members ++ [c] })
  | started (ns : NamespaceId) (body : β) (untracked : w.namespaceOf[c.pid]? = none)
      (located : lookup c.pid = some ns) (unserved : w.workers[ns]? = none)
      (ready : setup c = .ready body) :
      Ends w c lookup setup .started (w.enlist c.pid ns ⟨[c], body, true⟩)
  | failed (ns : NamespaceId) (e : Error) (untracked : w.namespaceOf[c.pid]? = none)
      (located : lookup c.pid = some ns) (unserved : w.workers[ns]? = none)
      (unready : ∀ body, setup c ≠ .ready body) :
      Ends w c lookup setup (.failed e) w

section
variable {w : NamespaceWorkers β} {c : Container} {lookup : Pid → Option NamespaceId}
  {setup : Container → Setup β} {ns : NamespaceId}

theorem attach_of_tracked (tracked : w.namespaceOf[c.pid]? = some ns) :
    w.attach c lookup setup = (.known, w) := by
  simp [attach, Std.ExtTreeMap.contains_eq_isSome_getElem?, tracked]

theorem attach_of_missing (untracked : w.namespaceOf[c.pid]? = none)
    (missing : lookup c.pid = none) :
    w.attach c lookup setup = (.noProcess c.pid, w) := by
  simp [attach, Std.ExtTreeMap.contains_eq_isSome_getElem?, untracked, missing]

theorem attach_of_served {worker : Worker β} (untracked : w.namespaceOf[c.pid]? = none)
    (located : lookup c.pid = some ns) (served : w.workers[ns]? = some worker) :
    w.attach c lookup setup =
      (.joined, w.enlist c.pid ns { worker with members := worker.members ++ [c] }) := by
  simp [attach, Std.ExtTreeMap.contains_eq_isSome_getElem?, untracked, located, served, enlist]

theorem attach_of_unserved (untracked : w.namespaceOf[c.pid]? = none)
    (located : lookup c.pid = some ns) (unserved : w.workers[ns]? = none) :
    w.attach c lookup setup = match setup c with
      | .ready body => (.started, w.enlist c.pid ns ⟨[c], body, true⟩)
      | .refused e => (.failed e, w)
      | .vanished =>
        (.failed (.resource w.label "worker exited before reporting readiness"), w) := by
  cases ready : setup c <;>
    simp [attach, Std.ExtTreeMap.contains_eq_isSome_getElem?, untracked, located, unserved, ready,
      enlist]

end

theorem attach_ends (w : NamespaceWorkers β) (c : Container) (lookup : Pid → Option NamespaceId)
    (setup : Container → Setup β) :
    Ends w c lookup setup (w.attach c lookup setup).1 (w.attach c lookup setup).2 := by
  cases tracked : w.namespaceOf[c.pid]? with
  | some ns =>
    rw [attach_of_tracked tracked]
    exact .known ns tracked
  | none =>
    cases located : lookup c.pid with
    | none =>
      rw [attach_of_missing tracked located]
      exact .noProcess tracked located
    | some ns =>
      cases served : w.workers[ns]? with
      | some worker =>
        rw [attach_of_served tracked located served]
        exact .joined ns worker tracked located served
      | none =>
        rw [attach_of_unserved tracked located served]
        cases ready : setup c with
        | ready body => exact .started ns body tracked located served ready
        | refused e => exact .failed ns e tracked located served fun body => by simp [ready]
        | vanished => exact .failed ns _ tracked located served fun body => by simp [ready]

theorem membersOf_insert (w : NamespaceWorkers β) (ns other : NamespaceId) (worker : Worker β) :
    membersOf { w with workers := w.workers.insert ns worker } other =
      if ns = other then worker.members else w.membersOf other := by
  by_cases same : ns = other <;> simp [membersOf, Std.ExtTreeMap.getElem?_insert, same]

theorem membersOf_erase (w : NamespaceWorkers β) (ns other : NamespaceId) :
    membersOf { w with workers := w.workers.erase ns } other =
      if ns = other then [] else w.membersOf other := by
  by_cases same : ns = other <;> simp [membersOf, Std.ExtTreeMap.getElem?_erase, same]

theorem membersOf_of_served {w : NamespaceWorkers β} {ns : NamespaceId} {worker : Worker β}
    (served : w.workers[ns]? = some worker) : w.membersOf ns = worker.members := by
  simp [membersOf, served]

theorem membersOf_of_unserved {w : NamespaceWorkers β} {ns : NamespaceId}
    (unserved : w.workers[ns]? = none) : w.membersOf ns = [] := by
  simp [membersOf, unserved]

theorem Notes.living_append (notes : Notes) (c : Container) (ns other : NamespaceId) :
    living (notes ++ [(c, ns)]) other = notes.living other ++ if ns = other then [c] else [] := by
  by_cases same : ns = other <;> simp [living, same]

theorem Notes.living_filter (notes : Notes) (pid : Pid) (ns : NamespaceId) :
    living (notes.filter (·.1.pid != pid)) ns = (notes.living ns).filter (·.pid != pid) := by
  simp only [living, List.filter_map, List.filter_filter, Function.comp_def, Bool.and_comm]

theorem Notes.mem_living {notes : Notes} {c : Container} {ns : NamespaceId} :
    c ∈ notes.living ns ↔ (c, ns) ∈ notes := by
  simp [living]

theorem agrees_empty (label : String) : Agrees [] (empty label : NamespaceWorkers β) := by
  constructor
  · exact List.nodup_nil
  · simp [empty]
  · simp [empty, membersOf, Notes.living]
  · simp [empty]

section
variable {notes : Notes} {w : NamespaceWorkers β}

theorem Agrees.noted_iff (h : Agrees notes w) (pid : Pid) :
    pid ∈ notes.map (·.1.pid) ↔ ∃ ns, w.namespaceOf[pid]? = some ns := by
  simp only [h.filed, List.mem_map, Prod.exists]
  constructor
  · rintro ⟨c, ns, member, same⟩
    exact ⟨ns, c, member, same⟩
  · rintro ⟨ns, c, member, same⟩
    exact ⟨c, ns, member, same⟩

theorem Agrees.not_noted (h : Agrees notes w) {pid : Pid}
    (untracked : w.namespaceOf[pid]? = none) : pid ∉ notes.map (·.1.pid) := by
  rw [h.noted_iff, untracked]
  simp

theorem Agrees.enlist (h : Agrees notes w) {c : Container} {ns : NamespaceId} {worker : Worker β}
    (untracked : w.namespaceOf[c.pid]? = none) (grown : worker.members = w.membersOf ns ++ [c]) :
    Agrees (notes ++ [(c, ns)]) (w.enlist c.pid ns worker) := by
  have fresh := h.not_noted untracked
  constructor
  · rw [List.map_append]
    refine List.nodup_append.mpr ⟨h.distinct, by simp, ?_⟩
    rintro pid known other new same
    rw [same, List.mem_singleton.mp new] at known
    exact fresh known
  · intro pid other
    simp only [NamespaceWorkers.enlist, Std.ExtTreeMap.getElem?_insert,
      Std.LawfulEqCmp.compare_eq_iff_eq, List.mem_append, List.mem_singleton, Prod.mk.injEq]
    by_cases own : c.pid = pid
    · rw [if_pos own, Option.some.injEq]
      constructor
      · rintro rfl
        exact ⟨c, .inr ⟨rfl, rfl⟩, own⟩
      · rintro ⟨d, earlier | ⟨rfl, rfl⟩, same⟩
        · exact absurd (List.mem_map.mpr ⟨(d, other), earlier, same.trans own.symm⟩) fresh
        · rfl
    · rw [if_neg own, h.filed]
      constructor
      · rintro ⟨d, member, same⟩
        exact ⟨d, .inl member, same⟩
      · rintro ⟨d, earlier | ⟨rfl, rfl⟩, same⟩
        · exact ⟨d, earlier, same⟩
        · exact absurd same own
  · intro other
    have grew := membersOf_insert w ns other worker
    rw [grown, h.members, h.members] at grew
    rw [Notes.living_append]
    refine grew.trans ?_
    by_cases same : ns = other <;> simp [same]
  · intro other found served
    simp only [NamespaceWorkers.enlist, Std.ExtTreeMap.getElem?_insert,
      Std.LawfulEqCmp.compare_eq_iff_eq] at served
    split at served
    · cases served
      simp [grown]
    · exact h.staffed other found served

theorem Agrees.attach (h : Agrees notes w) (c : Container) (lookup : Pid → Option NamespaceId)
    (setup : Container → Setup β) :
    Agrees (notes.attached c (lookup c.pid) (w.attach c lookup setup).1.result)
      (w.attach c lookup setup).2 := by
  have ends := attach_ends w c lookup setup
  generalize (w.attach c lookup setup).1 = outcome at ends ⊢
  generalize (w.attach c lookup setup).2 = after at ends ⊢
  cases ends with
  | known ns tracked =>
    have noted : c.pid ∈ notes.map (·.1.pid) := (h.noted_iff c.pid).mpr ⟨ns, tracked⟩
    cases located : lookup c.pid with
    | none => exact h
    | some other =>
      simp only [Notes.attached, Attachment.result, if_pos noted]
      exact h
  | noProcess untracked missing => exact h
  | joined ns worker untracked located served =>
    simp only [Notes.attached, Attachment.result, located, if_neg (h.not_noted untracked)]
    refine h.enlist untracked ?_
    rw [membersOf_of_served served]
  | started ns body untracked located unserved ready =>
    simp only [Notes.attached, Attachment.result, located, if_neg (h.not_noted untracked)]
    refine h.enlist untracked ?_
    rw [membersOf_of_unserved unserved]
    rfl
  | failed ns e untracked located unserved unready => exact h

theorem detach_tracked {c : Container} {ns : NamespaceId} {worker : Worker β}
    (tracked : w.namespaceOf[c.pid]? = some ns) (served : w.workers[ns]? = some worker) :
    w.detach c = { w with
      namespaceOf := w.namespaceOf.erase c.pid
      workers :=
        if worker.members.filter (·.pid != c.pid) = [] then w.workers.erase ns
        else w.workers.insert ns
          { worker with members := worker.members.filter (·.pid != c.pid) } } := by
  simp only [detach, tracked, served, List.isEmpty_iff]
  split <;> rfl

theorem membersOf_detach {c : Container} {ns : NamespaceId} {worker : Worker β}
    (tracked : w.namespaceOf[c.pid]? = some ns) (served : w.workers[ns]? = some worker)
    (other : NamespaceId) : (w.detach c).membersOf other =
      if ns = other then worker.members.filter (·.pid != c.pid) else w.membersOf other := by
  rw [detach_tracked tracked served]
  by_cases last : worker.members.filter (·.pid != c.pid) = []
  · simp only [last, ↓reduceIte]
    exact membersOf_erase { w with namespaceOf := w.namespaceOf.erase c.pid } ns other
  · simp only [last, ↓reduceIte]
    exact membersOf_insert { w with namespaceOf := w.namespaceOf.erase c.pid } ns other _

theorem Agrees.served_of_tracked (h : Agrees notes w) {pid : Pid} {ns : NamespaceId}
    (tracked : w.namespaceOf[pid]? = some ns) : ∃ worker, w.workers[ns]? = some worker := by
  obtain ⟨c, member, -⟩ := (h.filed pid ns).mp tracked
  cases served : w.workers[ns]? with
  | some worker => exact ⟨worker, rfl⟩
  | none =>
    have nobody := h.members ns
    rw [membersOf_of_unserved served] at nobody
    rw [← Notes.mem_living, ← nobody] at member
    cases member

theorem Agrees.elsewhere (h : Agrees notes w) {pid : Pid} {ns other : NamespaceId}
    (tracked : w.namespaceOf[pid]? = some ns) (differ : ns ≠ other) :
    (notes.living other).filter (·.pid != pid) = notes.living other := by
  refine List.filter_eq_self.mpr fun c member => ?_
  rw [bne_iff_ne]
  intro same
  have found := (h.filed pid other).mpr ⟨c, Notes.mem_living.mp member, same⟩
  rw [tracked] at found
  exact differ (Option.some.inj found)

theorem Agrees.detach (h : Agrees notes w) (c : Container) :
    Agrees (notes.filter (·.1.pid != c.pid)) (w.detach c) := by
  cases tracked : w.namespaceOf[c.pid]? with
  | none =>
    have same : w.detach c = w := by simp [NamespaceWorkers.detach, tracked]
    have all : notes.filter (·.1.pid != c.pid) = notes := by
      refine List.filter_eq_self.mpr fun a member => ?_
      rw [bne_iff_ne]
      intro own
      exact h.not_noted tracked (List.mem_map.mpr ⟨a, member, own⟩)
    rwa [same, all]
  | some ns =>
    obtain ⟨worker, served⟩ := h.served_of_tracked tracked
    have lived : worker.members = notes.living ns := by
      rw [← h.members, membersOf_of_served served]
    constructor
    · exact (List.filter_sublist.map _).nodup h.distinct
    · intro pid other
      simp only [detach_tracked tracked served, Std.ExtTreeMap.getElem?_erase,
        Std.LawfulEqCmp.compare_eq_iff_eq, List.mem_filter, bne_iff_ne]
      by_cases own : c.pid = pid
      · rw [if_pos own]
        simp only [reduceCtorEq, false_iff, not_exists, not_and]
        rintro d ⟨-, differ⟩ same
        exact differ (same.trans own.symm)
      · rw [if_neg own, h.filed]
        refine exists_congr fun d => ?_
        constructor
        · rintro ⟨member, same⟩
          exact ⟨⟨member, fun equal => own (equal.symm.trans same)⟩, same⟩
        · rintro ⟨⟨member, -⟩, same⟩
          exact ⟨member, same⟩
    · intro other
      rw [membersOf_detach tracked served, Notes.living_filter]
      by_cases same : ns = other
      · subst same
        rw [if_pos rfl, lived]
      · rw [if_neg same, h.members, h.elsewhere tracked same]
    · intro other found remains
      rw [detach_tracked tracked served] at remains
      -- the worker stops with its last member, so one that goes on has others
      dsimp only at remains
      split at remains
      · rw [Std.ExtTreeMap.getElem?_erase] at remains
        split at remains
        · contradiction
        · exact h.staffed other found remains
      · rename_i others
        rw [Std.ExtTreeMap.getElem?_insert] at remains
        split at remains
        · cases remains
          exact others
        · exact h.staffed other found remains

theorem poll_keeps (w : NamespaceWorkers β) (ns : NamespaceId)
    (step : Option Container → β → Except Error (List α × β)) :
    (w.poll ns step).2.namespaceOf = w.namespaceOf ∧
      ∀ other : NamespaceId, (w.poll ns step).2.workers[other]?.map Worker.members =
        w.workers[other]?.map Worker.members := by
  unfold poll
  split
  · exact ⟨rfl, fun other => rfl⟩
  · rename_i worker awake
    have served : w.workers[ns]? = some worker := (Option.filter_eq_some_iff.mp awake).1
    split
    all_goals
      refine ⟨rfl, fun other => ?_⟩
      by_cases same : ns = other
      · subst same
        simp [served]
      · simp [Std.ExtTreeMap.getElem?_insert, same]

theorem Agrees.poll (h : Agrees notes w) (ns : NamespaceId)
    (step : Option Container → β → Except Error (List α × β)) :
    Agrees notes (w.poll ns step).2 := by
  obtain ⟨filed, members⟩ := poll_keeps w ns step
  constructor
  · exact h.distinct
  · intro pid other
    rw [filed]
    exact h.filed pid other
  · intro other
    rw [← h.members, membersOf, membersOf, members]
  · intro other worker served
    have before := members other
    rw [served] at before
    obtain ⟨known, found, same⟩ := Option.map_eq_some_iff.mp before.symm
    exact same ▸ h.staffed other known found

theorem Agrees.move (h : Agrees notes w) (m : Move α β) : Agrees (w.note notes m) (w.move m) := by
  cases m with
  | attach c lookup setup => exact h.attach c lookup setup
  | detach c => exact h.detach c
  | stopAll => exact agrees_empty w.label
  | poll ns step => exact h.poll ns step

end

theorem run_agrees (label : String) (moves : List (Move α β)) :
    Agrees (run label moves).1 (run label moves).2 := by
  induction moves using List.reverseRecOn with
  | nil => exact agrees_empty label
  | append_singleton moves m ih =>
    have step := ih.move m
    simpa [run, List.foldl_append] using step

/-- A worker is made exactly where none serves the namespace of a process that is new; and where
none is made, how a worker would have started does not matter. -/
theorem madeWorker_iff (w : NamespaceWorkers β) (c : Container)
    (lookup : Pid → Option NamespaceId) (setup : Container → Setup β) :
    (w.attach c lookup setup).1.madeWorker = true ↔
      w.namespaceOf[c.pid]? = none ∧ ∃ ns : NamespaceId,
        lookup c.pid = some ns ∧ w.workers[ns]? = none := by
  have ends := attach_ends w c lookup setup
  generalize (w.attach c lookup setup).1 = outcome at ends ⊢
  generalize (w.attach c lookup setup).2 = after at ends
  cases ends with
  | known ns tracked => simp [Attachment.madeWorker, tracked]
  | noProcess untracked missing => simp [Attachment.madeWorker, missing]
  | joined ns worker untracked located served =>
    constructor
    · intro made
      contradiction
    · rintro ⟨-, other, found, unserved⟩
      rw [located] at found
      cases found
      rw [served] at unserved
      contradiction
  | started ns body untracked located unserved ready =>
    exact ⟨fun _ => ⟨untracked, ns, located, unserved⟩, fun _ => rfl⟩
  | failed ns e untracked located unserved unready =>
    exact ⟨fun _ => ⟨untracked, ns, located, unserved⟩, fun _ => rfl⟩

theorem attach_setup_irrelevant {w : NamespaceWorkers β} {c : Container}
    {lookup : Pid → Option NamespaceId} {setup : Container → Setup β}
    (unmade : (w.attach c lookup setup).1.madeWorker = false) (other : Container → Setup β) :
    w.attach c lookup other = w.attach c lookup setup := by
  have ends := attach_ends w c lookup setup
  generalize same : w.attach c lookup setup = answer at ends unmade ⊢
  obtain ⟨outcome, after⟩ := answer
  cases ends with
  | known ns tracked => exact attach_of_tracked tracked
  | noProcess untracked missing => exact attach_of_missing untracked missing
  | joined ns worker untracked located served => exact attach_of_served untracked located served
  | started => contradiction
  | failed => contradiction

theorem attach_refused {w : NamespaceWorkers β} {c : Container}
    {lookup : Pid → Option NamespaceId} {setup : Container → Setup β} {e : Error}
    (refused : (w.attach c lookup setup).1.result = .error e) :
    (w.attach c lookup setup).2 = w := by
  have ends := attach_ends w c lookup setup
  generalize (w.attach c lookup setup).1 = outcome at ends refused
  generalize (w.attach c lookup setup).2 = after at ends ⊢
  cases ends with
  | known => rfl
  | noProcess => rfl
  | joined => contradiction
  | started => contradiction
  | failed => rfl

def membersWith (w : NamespaceWorkers β) (ns : NamespaceId) (pid : Pid) : Nat :=
  ((w.membersOf ns).map (·.pid)).count pid

section
variable {notes : Notes} {w : NamespaceWorkers β}

theorem Agrees.membersWith_eq (h : Agrees notes w) (ns : NamespaceId) (pid : Pid) :
    w.membersWith ns pid = if w.namespaceOf[pid]? = some ns then 1 else 0 := by
  have once : ((notes.living ns).map (·.pid)).Nodup := by
    rw [Notes.living, List.map_map]
    exact (List.filter_sublist.map _).nodup h.distinct
  have here : pid ∈ (notes.living ns).map (·.pid) ↔ w.namespaceOf[pid]? = some ns := by
    simp only [h.filed, List.mem_map, Notes.mem_living]
  rw [membersWith, h.members, once.count]
  simp only [here]

theorem Agrees.filed_iff (h : Agrees notes w) (pid : Pid) (ns : NamespaceId) :
    w.namespaceOf[pid]? = some ns ↔
      ∀ other, w.membersWith other pid = if other = ns then 1 else 0 := by
  constructor
  · intro tracked other
    simp only [h.membersWith_eq, tracked, Option.some.injEq, eq_comm]
  · intro counted
    have one := counted ns
    rw [h.membersWith_eq, if_pos rfl] at one
    by_contra elsewhere
    rw [if_neg elsewhere] at one
    contradiction

theorem Agrees.size_eq (h : Agrees notes w) :
    w.size = (w.namespaceOf.toList.map (·.2)).toFinset.card := by
  have served : w.workers.keys.toFinset = (w.namespaceOf.toList.map (·.2)).toFinset := by
    ext ns
    simp only [List.mem_toFinset, List.mem_map, Prod.exists, exists_eq_right,
      Std.ExtTreeMap.mem_toList_iff_getElem?_eq_some, Std.ExtTreeMap.mem_keys,
      Std.ExtTreeMap.mem_iff_isSome_getElem?, Option.isSome_iff_exists]
    constructor
    · rintro ⟨worker, found⟩
      have some_one := h.staffed ns worker found
      rw [← membersOf_of_served found, h.members] at some_one
      obtain ⟨c, member⟩ := List.exists_mem_of_ne_nil _ some_one
      exact ⟨c.pid, (h.filed c.pid ns).mpr ⟨c, Notes.mem_living.mp member, rfl⟩⟩
    · rintro ⟨pid, tracked⟩
      exact h.served_of_tracked tracked
  rw [← served, List.toFinset_card_of_nodup Std.ExtTreeMap.nodup_keys, Std.ExtTreeMap.length_keys]
  rfl

end

end NodeDiagnostics.Probe.NamespaceWorkers
