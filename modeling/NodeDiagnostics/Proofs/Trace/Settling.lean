import NodeDiagnostics.Proofs.Registry.Replay
import NodeDiagnostics.Trace.Connection

/-!
A single process, between what a connection holds of it, what the connection is yet to be told, and
what the registry has. Once an end is told, it no longer matters what was held before; as long as
none is, what is held stays.
-/
namespace NodeDiagnostics.Trace
open Registry

/-- What a connection that selects everything holds of a process after it was told of something. -/
def react (pid : Pid) (e : ContainerEvent) (held : Option Container) : Option Container :=
  if e.container.pid = pid then
    match e with
    | .added c => some (held.getD c)
    | .removed _ => none
  else held

def settle (pid : Pid) (due : List ContainerEvent) (held : Option Container) : Option Container :=
  due.foldl (fun held e => react pid e held) held

def Unended (pid : Pid) (due : List ContainerEvent) : Prop :=
  ∀ d, .removed d ∈ due → d.pid ≠ pid

def Quiet (pid : Pid) (due : List ContainerEvent) : Prop :=
  ∀ e ∈ due, e.container.pid ≠ pid

theorem Quiet.unended {pid : Pid} {due : List ContainerEvent} (quiet : Quiet pid due) :
    Unended pid due := fun _ member => quiet _ member

theorem settle_of_unended {pid : Pid} {due : List ContainerEvent} (unended : Unended pid due)
    (c : Container) : settle pid due (some c) = some c := by
  induction due with
  | nil => rfl
  | cons e due ih =>
    have first : react pid e (some c) = some c := by
      cases e with
      | added d => simp [react]
      | removed d => exact if_neg (unended d List.mem_cons_self)
    rw [settle, List.foldl_cons, first]
    exact ih fun d member => unended d (List.mem_cons_of_mem e member)

theorem settle_of_ended {pid : Pid} {due : List ContainerEvent} (ended : ¬ Unended pid due)
    (held held' : Option Container) : settle pid due held = settle pid due held' := by
  induction due generalizing held held' with
  | nil => exact absurd (fun d member => nomatch member) ended
  | cons e due ih =>
    rw [settle, settle, List.foldl_cons, List.foldl_cons]
    by_cases later : Unended pid due
    · have now : ∃ d, e = .removed d ∧ d.pid = pid := by
        by_contra none
        refine ended fun d member same => ?_
        rcases List.mem_cons.mp member with first | rest
        · exact none ⟨d, first.symm, same⟩
        · exact later d rest same
      obtain ⟨d, rfl, same⟩ := now
      have cleared (held : Option Container) : react pid (.removed d) held = none := if_pos same
      rw [cleared, cleared]
    · exact ih later _ _

theorem settle_replay {m m' : Std.ExtTreeMap Pid Container} {changes : List ContainerEvent}
    (path : Replay m changes m') (pid : Pid) : settle pid changes m[pid]? = m'[pid]? := by
  induction path with
  | nil => rfl
  | @added m m' c es free _ ih =>
    rw [settle, List.foldl_cons, ← settle, ← ih, Std.ExtTreeMap.getElem?_insert]
    congr 1
    by_cases same : c.pid = pid
    · subst same
      simp [react, ContainerEvent.container, free]
    · simp [react, ContainerEvent.container, same]
  | @removed m m' c es held _ ih =>
    rw [settle, List.foldl_cons, ← settle, ← ih, Std.ExtTreeMap.getElem?_erase]
    congr 1
    by_cases same : c.pid = pid <;> simp [react, ContainerEvent.container, same]

theorem quiet_of_unended {m m' : Std.ExtTreeMap Pid Container} {changes : List ContainerEvent}
    (path : Replay m changes m') {pid : Pid} {c : Container} (held : m[pid]? = some c)
    (unended : Unended pid changes) : Quiet pid changes ∧ m'[pid]? = some c := by
  induction path with
  | nil => exact ⟨by simp [Quiet], held⟩
  | @added m m' d es free _ ih =>
    have other : d.pid ≠ pid := by
      rintro rfl
      rw [held] at free
      cases free
    have stays : (m.insert d.pid d)[pid]? = some c := by
      simpa [Std.ExtTreeMap.getElem?_insert, other] using held
    obtain ⟨quiet, last⟩ := ih stays fun e member => unended e (List.mem_cons_of_mem _ member)
    exact ⟨List.forall_mem_cons.mpr ⟨other, quiet⟩, last⟩
  | @removed m m' d es known _ ih =>
    have other : d.pid ≠ pid := unended d List.mem_cons_self
    have stays : (m.erase d.pid)[pid]? = some c := by
      simpa [Std.ExtTreeMap.getElem?_erase, other] using held
    obtain ⟨quiet, last⟩ := ih stays fun e member => unended e (List.mem_cons_of_mem _ member)
    exact ⟨List.forall_mem_cons.mpr ⟨other, quiet⟩, last⟩

/-- How it stands with a process between what is attached there and what the registry has. -/
inductive Standing (pid : Pid) (expected left : Container → Prop) (due : List ContainerEvent)
    (held now : Option Container) : Prop where
  | settles (agrees : settle pid due held = now)
  | waits (c : Container) (quiet : Quiet pid due) (free : held = none) (here : now = some c)
      (listed : expected c)
  | stays (c : Container) (attached : held = some c) (gone : now ≠ some c)
      (unended : Unended pid due) (crossed : left c)

section
variable {pid : Pid} {expected left : Container → Prop} {due : List ContainerEvent}
  {held now : Option Container}

theorem Standing.mono {expected' left' : Container → Prop}
    (h : Standing pid expected left due held now)
    (expects : ∀ c, now = some c → expected c → expected' c) (leaves : ∀ c, left c → left' c) :
    Standing pid expected' left' due held now := by
  cases h with
  | settles agrees => exact .settles agrees
  | waits c quiet free here listed => exact .waits c quiet free here (expects c here listed)
  | stays c attached gone unended crossed => exact .stays c attached gone unended (leaves c crossed)

theorem Standing.record {m m' : Std.ExtTreeMap Pid Container} {changes : List ContainerEvent}
    (h : Standing pid expected left [] held m[pid]?) (path : Replay m changes m') :
    Standing pid expected left changes held m'[pid]? := by
  by_cases unended : Unended pid changes
  · cases h with
    | settles agrees =>
      have same : held = m[pid]? := agrees
      rw [same]
      exact .settles (settle_replay path pid)
    | waits c _ free here listed =>
      obtain ⟨quiet, still⟩ := quiet_of_unended path here unended
      exact .waits c quiet free still listed
    | stays c attached gone _ crossed =>
      by_cases back : m'[pid]? = some c
      · rw [attached, back]
        exact .settles (settle_of_unended unended c)
      · exact .stays c attached back unended crossed
  · -- the changes end what was held, whether it was in step or not
    exact .settles ((settle_of_ended unended held m[pid]?).trans (settle_replay path pid))

theorem Standing.react {e : ContainerEvent}
    (h : Standing pid expected left (e :: due) held now) :
    Standing pid expected (fun c => left c ∧ Unended pid [e]) due (react pid e held) now := by
  cases h with
  | settles agrees => exact .settles agrees
  | waits c quiet free here listed =>
    have other : Trace.react pid e held = held := if_neg (quiet e List.mem_cons_self)
    rw [other]
    exact .waits c (fun f member => quiet f (List.mem_cons_of_mem e member)) free here listed
  | stays c attached gone unended crossed =>
    have first : Unended pid [e] := fun d member => by
      rw [List.mem_singleton] at member
      exact unended d (member ▸ List.mem_cons_self)
    have kept : Trace.react pid e held = some c := by
      rw [attached]
      exact settle_of_unended first c
    exact .stays c kept gone (fun d member => unended d (List.mem_cons_of_mem e member))
      ⟨crossed, first⟩

theorem Standing.attach {c : Container} {expected' left' : Container → Prop}
    (h : Standing c.pid expected left due held now)
    (leaves : ∀ d, left d → left' d)
    (late : held = none → now ≠ some c → Unended c.pid due → left' c) :
    Standing c.pid expected' left' due (some (held.getD c)) now := by
  cases held with
  | some d =>
    cases h with
    | settles agrees => exact .settles agrees
    | waits d _ free _ _ => cases free
    | stays d attached gone unended crossed =>
      exact .stays d attached gone unended (leaves d crossed)
  | none =>
    by_cases ended : Unended c.pid due
    · have kept : settle c.pid due (some c) = some c := settle_of_unended ended c
      by_cases here : now = some c
      · exact .settles (kept.trans here.symm)
      · exact .stays c rfl here ended (late rfl here ended)
    · -- an end is still to be told, and clears away whatever is attached now
      cases h with
      | settles agrees => exact .settles ((settle_of_ended ended _ _).trans agrees)
      | waits d quiet _ _ _ => exact absurd quiet.unended ended
      | stays d attached _ _ _ => cases attached

theorem Standing.initial {expected left : Container → Prop} {pid : Pid}
    (all : ∀ c, expected c) (now : Option Container) :
    Standing pid expected left [] none now := by
  cases now with
  | none => exact .settles rfl
  | some c => exact .waits c (fun _ member => nomatch member) rfl rfl (all c)

end

end NodeDiagnostics.Trace
