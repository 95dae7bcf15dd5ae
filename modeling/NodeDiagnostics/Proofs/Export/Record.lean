import Mathlib.Data.List.Induction
import Mathlib.Data.String.Basic
import NodeDiagnostics.Export.Exporter
import NodeDiagnostics.Proofs.Lists

/-!
What an exporter asks of its host. Every request is written down with its answer, whether it goes to
the store, to a producer or to a stream; each call of the exporter follows one of a few courses, and
whether it sees to the container first is decided by the requests before it.
-/
namespace NodeDiagnostics.Export

/-- A request in the course of a pass, and how it was answered. -/
inductive Deed where
  | ensured (answer : Except Error Unit)
  | put (key : String) (content : List UInt8) (answer : Except Error Unit)
  | asked (producer : String) (answer : Except Error Items)
  | read (item : String) (answer : Except Error (List UInt8))
  | checked (collector : String) (answer : Except Error Unit)
  | collected (collector : String) (answer : Except Error Unit)

def Deed.waits : Deed → Bool
  | put .. | asked .. | read .. => true
  | _ => false

structure Entry (σ : Type) where
  deed : Deed
  host : σ

abbrev Log (σ : Type) := List (Entry σ) × σ

variable {σ α : Type}

def noted (deed : α → Deed) (request : Request σ α) : Request (Log σ) α := fun log =>
  let (answer, s) := request log.2
  (answer, log.1 ++ [⟨deed answer, s⟩], s)

/-- A store that writes down what is asked of it. -/
def recorded (store : ObjectStore σ) : ObjectStore (Log σ) where
  ensureContainer := noted .ensured store.ensureContainer
  put key content := noted (.put key content) (store.put key content)

inductive Call (σ : Type) where
  | items (producer : String) (data : Request σ (Except Error Items))
  | stream (item : String) (content : Request σ (Except Error (List UInt8)))

inductive Task where
  | items (producer : String)
  | stream (item : String)

namespace Call

def recorded : Call σ → Call (Log σ)
  | items producer data => items producer (noted (.asked producer) data)
  | stream item content => stream item (noted (.read item) content)

def task : Call σ → Task
  | items producer _ => .items producer
  | stream item _ => .stream item

end Call

namespace ExportState

def perform (store : ObjectStore σ) (d : Destination) :
    Call σ → Request (ExportState σ) (Except Error Unit)
  | .items _ data => exportItems store d data
  | .stream item content => exportStream store d item content

def performAll (store : ObjectStore σ) (d : Destination) :
    List (Call σ) → Request (ExportState σ) (List (Except Error Unit)) :=
  Request.each (perform store d)

def deeds (s : ExportState (Log σ)) : List Deed := s.host.1.map (·.deed)

def unrecorded (s : ExportState (Log σ)) : ExportState σ := ⟨s.containerReady, s.host.2⟩

end ExportState

def Held (deeds : List Deed) : Prop := .ensured (.ok ()) ∈ deeds

/-- Before there is a container no producer is asked, no stream is read and nothing is put, and once
there is one nobody asks for it again. -/
structure Orderly (deeds : List Deed) : Prop where
  guarded : ∀ before deed after, deeds = before ++ deed :: after → deed.waits = true → Held before
  once : ∀ before after, deeds = before ++ .ensured (.ok ()) :: after →
    ∀ answer, .ensured answer ∉ after

inductive Attempt (earlier : List Deed) : Except Error Unit → List Deed → Prop where
  | needless : Held earlier → Attempt earlier (.ok ()) []
  | made (answer : Except Error Unit) : ¬ Held earlier → Attempt earlier answer [.ensured answer]

structure Ascending (items : Items) (listed : List (String × String)) : Prop where
  sorted : listed.Pairwise fun a b => a.1 < b.1
  same : ∀ item content, (item, content) ∈ listed ↔ items[item]? = some content

def uploaded (d : Destination) (i : String × String) : Deed :=
  .put (d.key i.1) (Text.utf8 i.2) (.ok ())

/-- How a call goes: its answer, and what it does after the earlier deeds. -/
inductive Course (d : Destination) (earlier : List Deed) :
    Task → Except Error Unit → List Deed → Prop where
  | unreachable {task e attempt} : Attempt earlier (.error e) attempt →
      Course d earlier task (.error e) attempt
  | noData {producer e attempt} : Attempt earlier (.ok ()) attempt →
      Course d earlier (.items producer) (.error e) (attempt ++ [.asked producer (.error e)])
  | notUploaded {producer items attempt listed before item content after e} :
      Attempt earlier (.ok ()) attempt → Ascending items listed →
      listed = before ++ (item, content) :: after →
      Course d earlier (.items producer) (.error (.upload item e))
        (attempt ++ .asked producer (.ok items) :: (before.map (uploaded d) ++
          [.put (d.key item) (Text.utf8 content) (.error e)]))
  | complete {producer items attempt listed} :
      Attempt earlier (.ok ()) attempt → Ascending items listed →
      Course d earlier (.items producer) (.ok ())
        (attempt ++ .asked producer (.ok items) :: listed.map (uploaded d))
  | unread {item e attempt} : Attempt earlier (.ok ()) attempt →
      Course d earlier (.stream item) (.error e) (attempt ++ [.read item (.error e)])
  | refused {item bytes attempt e} : Attempt earlier (.ok ()) attempt →
      Course d earlier (.stream item) (.error (.upload item e))
        (attempt ++ [.read item (.ok bytes), .put (d.key item) bytes (.error e)])
  | sent {item bytes attempt} : Attempt earlier (.ok ()) attempt →
      Course d earlier (.stream item) (.ok ())
        (attempt ++ [.read item (.ok bytes), .put (d.key item) bytes (.ok ())])

theorem toList_ascending (items : Items) : Ascending items items.toList where
  sorted := pairwise_toList items
  same := fun _ _ => Std.ExtTreeMap.mem_toList_iff_getElem?_eq_some

theorem held_append {earlier added : List Deed} (only : ∀ answer, .ensured answer ∉ added) :
    Held (earlier ++ added) ↔ Held earlier := by
  rw [Held, List.mem_append, or_iff_left (only _)]
  exact Iff.rfl

theorem not_ensured_of_waits {added : List Deed} (waiting : ∀ deed ∈ added, deed.waits = true)
    (answer : Except Error Unit) : .ensured answer ∉ added :=
  fun member => Bool.false_ne_true (waiting _ member)

theorem waits_uploaded (d : Destination) (listed : List (String × String)) :
    ∀ deed ∈ listed.map (uploaded d), deed.waits = true :=
  List.forall_mem_map.mpr fun _ _ => rfl

namespace ExportState

/-- The exporter knows of the container exactly if it was seen to. -/
def Aware (s : ExportState (Log σ)) : Prop := s.containerReady = true ↔ Held s.deeds

variable {s t : ExportState (Log σ)}

theorem ask_noted {deed : α → Deed} {request : Request σ α} {answer : α}
    (ran : ask (noted deed request) s = (answer, t)) :
    t.deeds = s.deeds ++ [deed answer] ∧ t.containerReady = s.containerReady := by
  simp only [ask, noted, Prod.mk.injEq] at ran
  obtain ⟨rfl, rfl⟩ := ran
  simp [deeds]

theorem Aware.append (aware : s.Aware) (ready : t.containerReady = s.containerReady)
    {added : List Deed} (entered : t.deeds = s.deeds ++ added)
    (only : ∀ answer, .ensured answer ∉ added) : t.Aware := by
  unfold Aware
  rw [ready, entered, held_append only]
  exact aware

theorem each_noted {β : Type} (deed : β → α → Deed) (request : β → Request σ α) (l : List β)
    (s : ExportState (Log σ)) :
    let after := Request.each (fun b => ask (noted (deed b) (request b))) l s
    after.2.deeds = s.deeds ++ List.zipWith deed l after.1 ∧
      after.2.containerReady = s.containerReady := by
  induction l generalizing s with
  | nil => simp [Request.each]
  | cons b rest ih =>
    rcases asked : ask (noted (deed b) (request b)) s with ⟨answer, t⟩
    obtain ⟨entered, same⟩ := ask_noted asked
    obtain ⟨later, same'⟩ := ih t
    simp only [Request.each, asked]
    refine ⟨?_, same'.trans same⟩
    rw [later, entered, List.append_assoc]
    rfl

variable (store : ObjectStore σ) (d : Destination)

theorem ensure_attempt {answer : Except Error Unit} (aware : s.Aware)
    (ran : ensure (recorded store) s = (answer, t)) : ∃ attempt,
    Attempt s.deeds answer attempt ∧ t.deeds = s.deeds ++ attempt ∧ t.Aware := by
  by_cases ready : s.containerReady = true
  · simp only [ensure, ready, if_true, Prod.mk.injEq] at ran
    obtain ⟨rfl, rfl⟩ := ran
    exact ⟨[], .needless (aware.mp ready), by simp, aware⟩
  · have unheld : ¬ Held s.deeds := fun held => ready (aware.mpr held)
    rcases asked : ask (recorded store).ensureContainer s with ⟨given, u⟩
    obtain ⟨entered, same⟩ := ask_noted asked
    simp only [ensure, ready, asked] at ran
    refine ⟨[.ensured answer], .made answer unheld, ?_⟩
    cases given with
    | ok =>
      obtain ⟨rfl, rfl⟩ := ran
      have held : Held u.deeds := entered ▸ List.mem_append_right _ List.mem_cons_self
      exact ⟨entered, iff_of_true rfl held⟩
    | error e =>
      obtain ⟨rfl, rfl⟩ := ran
      refine ⟨entered, ?_⟩
      have still : ¬ Held (s.deeds ++ [.ensured (.error e)]) := by simpa [Held] using unheld
      simpa [Aware, entered, same, ready] using still

theorem putItem_put {item : String} {content : List UInt8} {answer : Except Error Unit}
    (ran : putItem (recorded store) d item content s = (answer, t)) :
    ∃ given, answer = given.mapError (.upload item) ∧
      t.deeds = s.deeds ++ [.put (d.key item) content given] ∧
      t.containerReady = s.containerReady := by
  rcases put : ask ((recorded store).put (d.key item) content) s with ⟨given, u⟩
  obtain ⟨entered, same⟩ := ask_noted put
  simp only [putItem, put] at ran
  obtain ⟨rfl, rfl⟩ := ran
  exact ⟨given, rfl, entered, same⟩

theorem putAll_puts {listed : List (String × String)} {answer : Except Error Unit}
    (ran : putAll (recorded store) d listed s = (answer, t)) :
    t.containerReady = s.containerReady ∧
    ((answer = .ok () ∧ t.deeds = s.deeds ++ listed.map (uploaded d)) ∨
      ∃ before item content after e, listed = before ++ (item, content) :: after ∧
        answer = .error (.upload item e) ∧
        t.deeds = s.deeds ++ (before.map (uploaded d) ++
          [.put (d.key item) (Text.utf8 content) (.error e)])) := by
  induction listed generalizing s with
  | nil =>
    obtain ⟨rfl, rfl⟩ := ran
    simp
  | cons first rest ih =>
    obtain ⟨item, content⟩ := first
    rcases put : putItem (recorded store) d item (Text.utf8 content) s with ⟨answer', u⟩
    obtain ⟨given, named, entered, same⟩ := putItem_put store d put
    simp only [putAll, Request.andThen, put] at ran
    cases given with
    | error e =>
      cases named
      obtain ⟨rfl, rfl⟩ := ran
      exact ⟨same, .inr ⟨[], item, content, rest, e, rfl, rfl, by simpa using entered⟩⟩
    | ok =>
      cases named
      obtain ⟨ready, whole | ⟨before, item', content', after, e, split, stopped, partly⟩⟩ := ih ran
      · refine ⟨ready.trans same, .inl ⟨whole.1, ?_⟩⟩
        rw [whole.2, entered]
        simp [uploaded]
      · refine ⟨ready.trans same, .inr ⟨(item, content) :: before, item', content', after, e, ?_,
          stopped, ?_⟩⟩
        · rw [split, List.cons_append]
        · rw [partly, entered]
          simp [uploaded]

theorem exportItems_course {producer : String} {data : Request σ (Except Error Items)}
    {result : Except Error Unit} (aware : s.Aware)
    (ran : exportItems (recorded store) d (noted (.asked producer) data) s = (result, t)) :
    ∃ added, Course d s.deeds (.items producer) result added ∧ t.deeds = s.deeds ++ added ∧
      t.Aware := by
  rcases ensured : ensure (recorded store) s with ⟨answer, u⟩
  obtain ⟨attempt, tried, entered, still⟩ := ensure_attempt store aware ensured
  simp only [exportItems, Request.andThen, ensured] at ran
  cases answer with
  | error e =>
    obtain ⟨rfl, rfl⟩ := ran
    exact ⟨attempt, .unreachable tried, entered, still⟩
  | ok =>
    rcases asked : ask (noted (.asked producer) data) u with ⟨given, v⟩
    obtain ⟨entered', ready'⟩ := ask_noted asked
    have still' : v.Aware := still.append ready' entered' (by simp)
    simp only [asked] at ran
    cases given with
    | error e =>
      obtain ⟨rfl, rfl⟩ := ran
      refine ⟨_, .noData tried, ?_, still'⟩
      rw [entered', entered, List.append_assoc]
    | ok items =>
      obtain ⟨ready, ⟨rfl, whole⟩ | ⟨before, item, content, after, e, split, rfl, partly⟩⟩ :=
        putAll_puts store d ran
      · refine ⟨_, .complete tried (toList_ascending items), ?_, ?_⟩
        · rw [whole, entered', entered, List.append_assoc, List.append_assoc, List.singleton_append]
        · exact still'.append ready whole (not_ensured_of_waits (waits_uploaded d _))
      · refine ⟨_, .notUploaded tried (toList_ascending items) split, ?_, ?_⟩
        · rw [partly, entered', entered, List.append_assoc, List.append_assoc,
            List.singleton_append]
        · exact still'.append ready partly (by simp [uploaded])

theorem exportStream_course {item : String} {content : Request σ (Except Error (List UInt8))}
    {result : Except Error Unit} (aware : s.Aware)
    (ran : exportStream (recorded store) d item (noted (.read item) content) s = (result, t)) :
    ∃ added, Course d s.deeds (.stream item) result added ∧ t.deeds = s.deeds ++ added ∧
      t.Aware := by
  rcases ensured : ensure (recorded store) s with ⟨answer, u⟩
  obtain ⟨attempt, tried, entered, still⟩ := ensure_attempt store aware ensured
  simp only [exportStream, Request.andThen, ensured] at ran
  cases answer with
  | error e =>
    obtain ⟨rfl, rfl⟩ := ran
    exact ⟨attempt, .unreachable tried, entered, still⟩
  | ok =>
    rcases read : ask (noted (.read item) content) u with ⟨given, v⟩
    obtain ⟨entered', ready'⟩ := ask_noted read
    have still' : v.Aware := still.append ready' entered' (by simp)
    simp only [read] at ran
    cases given with
    | error e =>
      obtain ⟨rfl, rfl⟩ := ran
      refine ⟨_, .unread tried, ?_, still'⟩
      rw [entered', entered, List.append_assoc]
    | ok bytes =>
      obtain ⟨given, named, put, ready⟩ := putItem_put store d ran
      have all : t.deeds = s.deeds ++
          (attempt ++ [.read item (.ok bytes), .put (d.key item) bytes given]) := by
        rw [put, entered', entered]
        simp
      have aware' : t.Aware := still'.append ready put (by simp)
      cases given with
      | ok =>
        subst named
        exact ⟨_, .sent tried, all, aware'⟩
      | error e =>
        subst named
        exact ⟨_, .refused tried, all, aware'⟩

/-- Every call goes one of the courses. -/
theorem perform_course {call : Call σ} {answer : Except Error Unit} (aware : s.Aware)
    (ran : perform (recorded store) d call.recorded s = (answer, t)) : ∃ added,
    Course d s.deeds call.task answer added ∧ t.deeds = s.deeds ++ added ∧ t.Aware := by
  cases call with
  | items producer data => exact exportItems_course store d aware ran
  | stream item content => exact exportStream_course store d aware ran

theorem initial_aware (s : σ) : Aware (.initial ([], s)) := by
  simp [Aware, Held, initial, deeds]

end ExportState

section
variable {d : Destination} {earlier added : List Deed} {task : Task} {answer : Except Error Unit}

theorem Course.attempted (h : Course d earlier task answer added) :
    ∃ given attempt rest, Attempt earlier given attempt ∧ added = attempt ++ rest ∧
      (∀ deed ∈ rest, deed.waits = true) ∧ (rest ≠ [] → given = .ok ()) := by
  cases h with
  | unreachable tried => exact ⟨_, _, [], tried, by simp, by simp, by simp⟩
  | noData tried => exact ⟨_, _, _, tried, rfl, by simp [Deed.waits], fun _ => rfl⟩
  | notUploaded tried _ _ =>
    refine ⟨_, _, _, tried, rfl, List.forall_mem_cons.mpr ⟨rfl, ?_⟩, fun _ => rfl⟩
    exact List.forall_mem_append.mpr ⟨waits_uploaded d _, by simp [Deed.waits]⟩
  | complete tried _ =>
    exact ⟨_, _, _, tried, rfl, List.forall_mem_cons.mpr ⟨rfl, waits_uploaded d _⟩, fun _ => rfl⟩
  | unread tried => exact ⟨_, _, _, tried, rfl, by simp [Deed.waits], fun _ => rfl⟩
  | refused tried => exact ⟨_, _, _, tried, rfl, by simp [Deed.waits], fun _ => rfl⟩
  | sent tried => exact ⟨_, _, _, tried, rfl, by simp [Deed.waits], fun _ => rfl⟩

theorem Attempt.held_iff {given : Except Error Unit} (h : Attempt earlier given added) :
    Held (earlier ++ added) ↔ given = .ok () := by
  cases h with
  | needless held => simpa using held
  | made _ unheld =>
    have other : .ensured (.ok ()) ∉ earlier := unheld
    simp [Held, other, eq_comm]

theorem Attempt.not_mem {given : Except Error Unit} (h : Attempt earlier given added) (deed : Deed)
    (waits : deed.waits = true) : deed ∉ added := by
  cases h with
  | needless => exact List.not_mem_nil
  | made =>
    intro member
    cases List.mem_singleton.mp member
    contradiction

theorem Attempt.held_append (h : Attempt earlier (.ok ()) added) {rest : List Deed}
    (only : ∀ answer, .ensured answer ∉ rest) : Held (earlier ++ (added ++ rest)) := by
  rw [← List.append_assoc, Export.held_append only]
  exact h.held_iff.mpr rfl

theorem Destination.toList_key (d : Destination) (item : String) : (d.key item).toList =
    d.time.toList.map (fun c => if c = ':' then '-' else c) ++
      '/' :: (d.node.toList ++ '/' :: item.toList) := by
  simp [key, path]

theorem Destination.key_inj (d : Destination) {a b : String} : d.key a = d.key b ↔ a = b := by
  constructor
  · exact (String.append_right_inj (d.path ++ "/")).mp
  · exact congrArg d.key

theorem Course.asks (h : Course d earlier task answer added) {producer : String}
    {given : Except Error Items} (asked : .asked producer given ∈ added) :
    task = .items producer := by
  have foreign {given'} {attempt : List Deed} (tried : Attempt earlier given' attempt) :=
    tried.not_mem (.asked producer given) rfl
  cases h with
  | unreachable tried => exact absurd asked (foreign tried)
  | noData tried =>
    obtain ⟨rfl, -⟩ : producer = _ ∧ _ := by simpa [foreign tried] using asked
    rfl
  | notUploaded tried _ _ =>
    obtain ⟨rfl, -⟩ : producer = _ ∧ _ := by simpa [foreign tried, uploaded] using asked
    rfl
  | complete tried _ =>
    obtain ⟨rfl, -⟩ : producer = _ ∧ _ := by simpa [foreign tried, uploaded] using asked
    rfl
  | unread tried => simp [foreign tried] at asked
  | refused tried => simp [foreign tried] at asked
  | sent tried => simp [foreign tried] at asked

section
variable {producer : String} (h : Course d earlier (.items producer) answer added)
include h

/-- A producer is asked exactly if there is a container by then. -/
theorem Course.asked_iff : (∃ given, .asked producer given ∈ added) ↔ Held (earlier ++ added) := by
  cases h with
  | unreachable tried =>
    have unheld : ¬ Held (earlier ++ added) := by simp [tried.held_iff]
    exact iff_of_false (fun ⟨given, asked⟩ => tried.not_mem _ rfl asked) unheld
  | @noData _ e _ tried =>
    exact iff_of_true ⟨.error e, by simp⟩ (tried.held_append (by simp))
  | @notUploaded _ items _ _ _ _ _ _ _ tried _ _ =>
    exact iff_of_true ⟨.ok items, by simp⟩ (tried.held_append (by simp [uploaded]))
  | @complete _ items _ _ tried _ =>
    exact iff_of_true ⟨.ok items, by simp⟩ (tried.held_append (by simp [uploaded]))

/-- An export is complete exactly if there is a container, the producer has items, and each of them
is stored. -/
theorem Course.complete_iff : answer = .ok () ↔ Held (earlier ++ added) ∧
    ∃ items, .asked producer (.ok items) ∈ added ∧ ∀ item content, items[item]? = some content →
      .put (d.key item) (Text.utf8 content) (.ok ()) ∈ added := by
  have asked := h.asked_iff
  cases h with
  | unreachable tried =>
    have unheld : ¬ Held (earlier ++ added) := by simp [tried.held_iff]
    simp [unheld]
  | noData tried =>
    refine iff_of_false (by simp) ?_
    rintro ⟨-, items, member, -⟩
    have known := tried.not_mem (.asked producer (.ok items)) rfl
    simp [known] at member
  | @notUploaded _ items attempt listed before item content after e tried ascending split =>
    refine iff_of_false (by simp) ?_
    rintro ⟨-, items', member, stored⟩
    have known := tried.not_mem (.asked producer (.ok items')) rfl
    obtain rfl : items' = items := by simpa [known, uploaded] using member
    have here : items'[item]? = some content :=
      (ascending.same item content).mp (by rw [split]; simp)
    have earlier_ones : ∀ i ∈ before, i.1 < item := by
      have sorted := ascending.sorted
      rw [split, List.pairwise_append] at sorted
      exact fun i member => sorted.2.2 i member (item, content) List.mem_cons_self
    have put := stored item content here
    simp only [List.mem_append, List.mem_cons, List.mem_map, List.not_mem_nil, or_false, uploaded,
      reduceCtorEq, false_or] at put
    rcases put with first | ⟨i, member, same⟩ | last
    · exact absurd first (tried.not_mem _ rfl)
    · have again : i.1 = item := d.key_inj.mp (Deed.put.inj same).1
      exact absurd (earlier_ones i member) (again ▸ lt_irrefl _)
    · cases (Deed.put.inj last).2.2
  | @complete _ items attempt listed tried ascending =>
    refine iff_of_true rfl ⟨asked.mp ⟨.ok items, by simp⟩, items, by simp, ?_⟩
    intro item content present
    have member := (ascending.same item content).mpr present
    exact List.mem_append_right _
      (List.mem_cons_of_mem _ (List.mem_map.mpr ⟨(item, content), member, rfl⟩))

end

structure Performed (d : Destination) (earlier : List Deed) (task : Task)
    (answer : Except Error Unit) (added : List Deed) : Prop where
  course : Course d earlier task answer added
  attempted : (∃ given, .ensured given ∈ added) ↔ ¬ Held earlier
  unreached : ∀ e, .ensured (.error e) ∈ added → added = [.ensured (.error e)]

theorem Course.performed (h : Course d earlier task answer added) :
    Performed d earlier task answer added := by
  obtain ⟨given, attempt, rest, tried, rfl, waiting, allowed⟩ := h.attempted
  have only := not_ensured_of_waits waiting
  refine ⟨h, ?_, ?_⟩
  · have begun : (∃ given, .ensured given ∈ attempt ++ rest) ↔
        ∃ given, .ensured given ∈ attempt := by simp [only]
    rw [begun]
    cases tried with
    | needless held => simp [held]
    | made _ unheld => simp [unheld]
  · intro e member
    have failed : .ensured (.error e) ∈ attempt :=
      (List.mem_append.mp member).resolve_right (only _)
    cases tried with
    | needless held => simp at failed
    | made _ unheld =>
      obtain rfl : given = .error e := by simpa [eq_comm] using failed
      have nothing : rest = [] := by
        by_contra some_deed
        cases allowed some_deed
      rw [nothing, List.append_nil]

theorem orderly_nil : Orderly [] := by
  constructor
  · intro before deed after split
    simp at split
  · intro before after split
    simp at split

theorem Orderly.waiting (h : Orderly earlier) (held : Held earlier) {deed : Deed}
    (waits : deed.waits = true) : Orderly (earlier ++ [deed]) := by
  constructor
  · intro before deed' after split waits'
    rcases concat_eq_append_cons split with ⟨rfl, -, -⟩ | ⟨rest, same, -⟩
    · exact held
    · exact h.guarded before deed' rest same waits'
  · intro before after split given
    rcases concat_eq_append_cons split with ⟨-, rfl, -⟩ | ⟨rest, same, rfl⟩
    · contradiction
    · rw [List.mem_append, List.mem_singleton]
      rintro (later | rfl)
      · exact h.once before rest same given later
      · contradiction

theorem Orderly.ensure (h : Orderly earlier) (unheld : ¬ Held earlier)
    (answer : Except Error Unit) : Orderly (earlier ++ [.ensured answer]) := by
  constructor
  · intro before deed after split waits
    rcases concat_eq_append_cons split with ⟨-, rfl, -⟩ | ⟨rest, same, -⟩
    · contradiction
    · exact h.guarded before deed rest same waits
  · intro before after split given
    rcases concat_eq_append_cons split with ⟨-, -, rfl⟩ | ⟨rest, same, -⟩
    · exact List.not_mem_nil
    · exact absurd (same ▸ List.mem_append_right before List.mem_cons_self) unheld

theorem Orderly.waitings (h : Orderly earlier) (held : Held earlier) {rest : List Deed}
    (waiting : ∀ deed ∈ rest, deed.waits = true) : Orderly (earlier ++ rest) := by
  induction rest using List.reverseRecOn with
  | nil => rwa [List.append_nil]
  | append_singleton rest last ih =>
    obtain ⟨before, now⟩ := List.forall_mem_append.mp waiting
    rw [← List.append_assoc]
    exact (ih before).waiting (List.mem_append_left _ held) (now last List.mem_cons_self)

theorem Course.orderly (h : Course d earlier task answer added) (orderly : Orderly earlier) :
    Orderly (earlier ++ added) := by
  obtain ⟨given, attempt, rest, tried, rfl, waiting, allowed⟩ := h.attempted
  rw [← List.append_assoc]
  have reached : Orderly (earlier ++ attempt) := by
    cases tried with
    | needless held => simpa using orderly
    | made _ unheld => exact orderly.ensure unheld given
  by_cases nothing : rest = []
  · simpa [nothing] using reached
  · exact reached.waitings (tried.held_iff.mpr (allowed nothing)) waiting

end

theorem ExportState.performAll_orderly (store : ObjectStore σ) (d : Destination)
    (calls : List (Call σ)) {s : ExportState (Log σ)} (aware : s.Aware)
    (orderly : Orderly s.deeds) :
    (performAll (recorded store) d (calls.map Call.recorded) s).2.Aware ∧
      Orderly (performAll (recorded store) d (calls.map Call.recorded) s).2.deeds := by
  induction calls generalizing s with
  | nil => exact ⟨aware, orderly⟩
  | cons call rest ih =>
    rcases ran : perform (recorded store) d call.recorded s with ⟨answer, t⟩
    obtain ⟨added, course, entered, aware'⟩ := perform_course store d aware ran
    simp only [performAll, List.map_cons, Request.each, ran]
    exact ih aware' (entered ▸ course.orderly orderly)

end NodeDiagnostics.Export
