import NodeDiagnostics.Proofs.Trace.Keys

namespace NodeDiagnostics.Trace

/-- A call that publishes, with the time that it read from the clock. -/
structure Publication where
  trace : String
  owner : Option Container
  time : Time.Instant
  content : String
deriving DecidableEq, Repr

namespace Publication

def key (p : Publication) : String := Journal.key p.owner p.time

def SlashFree (p : Publication) : Prop := ∀ c ∈ p.owner, c.SlashFree
deriving Decidable

def publish (s : Journal) (p : Publication) : Journal := s.publish p.trace p.owner p.time p.content

def publishAll (calls : List Publication) : Journal := calls.foldl publish .empty

def of (trace : String) (calls : List Publication) : List Publication :=
  calls.filter (·.trace = trace)

theorem publishAll_concat (calls : List Publication) (p : Publication) :
    publishAll (calls ++ [p]) = publish (publishAll calls) p := by
  simp [publishAll, List.foldl_append]

theorem buckets_publishAll (trace : String) (calls : List Publication) :
    (publishAll calls).buckets[trace]? =
      if of trace calls = [] then none else some (stored key content (of trace calls)) := by
  induction calls using List.reverseRecOn with
  | nil => simp [publishAll, of, Journal.empty]
  | append_singleton calls p ih =>
    rw [publishAll_concat]
    by_cases here : p.trace = trace
    · have grown : of trace (calls ++ [p]) = of trace calls ++ [p] := by simp [of, here]
      have known : ((publishAll calls).buckets[trace]?).getD ∅ =
          stored key content (of trace calls) := by
        rw [ih]
        split <;> simp_all [stored]
      simp [publish, Journal.publish, here, known, grown, stored_concat, key]
    · have kept : of trace (calls ++ [p]) = of trace calls := by simp [of, here]
      simp [publish, Journal.publish, here, kept, ih, Std.ExtTreeMap.getElem?_insert]

theorem bucket_publishAll (trace : String) (calls : List Publication) :
    (publishAll calls).bucket trace =
      if of trace calls = [] then .error (.emptyTrace trace)
      else .ok (stored key content (of trace calls)) := by
  rw [Journal.bucket, buckets_publishAll]
  split <;> simp_all

def Last (calls : List Publication) (key : String) (p : Publication) : Prop :=
  p.key = key ∧ ∃ earlier later, calls = earlier ++ p :: later ∧ ∀ q ∈ later, q.key ≠ key

theorem bucket_fails_iff (trace : String) (calls : List Publication) (e : Error) :
    (publishAll calls).bucket trace = .error e ↔
      e = .emptyTrace trace ∧ ∀ p ∈ calls, p.trace ≠ trace := by
  have unused : of trace calls = [] ↔ ∀ p ∈ calls, p.trace ≠ trace := by
    simp [of, List.filter_eq_nil_iff]
  rw [bucket_publishAll, ← unused]
  by_cases none : of trace calls = []
  · rw [if_pos none, Except.error.injEq, and_iff_left none, eq_comm]
  · rw [if_neg none]
    simp [none]

theorem bucket_complete {trace : String} {calls : List Publication} {bucket : Bucket}
    (found : (publishAll calls).bucket trace = .ok bucket) :
    (∀ key, key ∈ bucket ↔ ∃ p ∈ of trace calls, p.key = key) ∧
    ∀ key content, bucket[key]? = some content ↔
      ∃ p, Last (of trace calls) key p ∧ p.content = content := by
  rw [bucket_publishAll] at found
  split at found
  · cases found
  · obtain rfl := Except.ok.inj found
    refine ⟨fun k => mem_stored, fun k content => ?_⟩
    rw [getElem?_stored]
    constructor
    · rintro ⟨earlier, p, later, split, here, same, last⟩
      exact ⟨p, ⟨here, earlier, later, split, last⟩, same⟩
    · rintro ⟨p, ⟨here, earlier, later, split, last⟩, same⟩
      exact ⟨earlier, p, later, split, here, same, last⟩

theorem publishAll_eq_of_perm {calls calls' : List Publication} (perm : calls.Perm calls')
    (apart : ∀ trace, ((of trace calls).map key).Nodup) : publishAll calls = publishAll calls' := by
  have buckets : (publishAll calls).buckets = (publishAll calls').buckets := by
    refine Std.ExtTreeMap.ext_getElem? fun trace => ?_
    have ofTrace : (of trace calls).Perm (of trace calls') := perm.filter _
    have unused : of trace calls = [] ↔ of trace calls' = [] :=
      ⟨fun none => (none ▸ ofTrace).nil_eq.symm, fun none => (none ▸ ofTrace).eq_nil⟩
    rw [buckets_publishAll, buckets_publishAll, stored_eq_of_perm ofTrace (apart trace)]
    simp only [unused]
  rw [← Journal.mk.injEq] at buckets
  exact buckets

end Publication

/-- Threads that publish, with the calls that are still to be made by each. The key of a call is
formed before the journal is locked, so the times of the calls need not ascend. -/
structure Publishing where
  threads : List (List Publication)
  journal : Journal
  made : List Publication

namespace Publishing
open Publication

def start (threads : List (List Publication)) : Publishing := ⟨threads, .empty, []⟩

def turn (s : Publishing) (thread : Nat) : Publishing :=
  match s.threads[thread]? with
  | some (p :: rest) => ⟨s.threads.set thread rest, publish s.journal p, s.made ++ [p]⟩
  | _ => s

def run (s : Publishing) (schedule : List Nat) : Publishing := schedule.foldl turn s

def Finished (s : Publishing) : Prop := ∀ thread ∈ s.threads, thread = []
deriving Decidable

/-- The journal is of the calls that were made, none was lost or made up, and each thread made its
calls in their order. -/
structure Accounted (threads : List (List Publication)) (s : Publishing) : Prop where
  journal : s.journal = publishAll s.made
  calls : (s.made ++ s.threads.flatten).Perm threads.flatten
  order : ∀ thread ∈ threads, ∃ done rest, thread = done ++ rest ∧ done.Sublist s.made ∧
    rest ∈ s.threads

theorem accounted_start (threads : List (List Publication)) :
    Accounted threads (start threads) where
  journal := rfl
  calls := .refl _
  order thread member := ⟨[], thread, rfl, List.nil_sublist _, member⟩

theorem turn_cases (s : Publishing) (thread : Nat) : s.turn thread = s ∨
    ∃ before p rest after, s.threads = before ++ (p :: rest) :: after ∧
      s.turn thread = ⟨before ++ rest :: after, publish s.journal p, s.made ++ [p]⟩ := by
  rcases found : s.threads[thread]? with _ | _ | ⟨p, rest⟩
  · exact .inl (by rw [turn, found])
  · exact .inl (by rw [turn, found])
  · obtain ⟨inside, here⟩ := List.getElem?_eq_some_iff.mp found
    refine .inr ⟨s.threads.take thread, p, rest, s.threads.drop (thread + 1), ?_, ?_⟩
    · rw [← here, List.getElem_cons_drop, List.take_append_drop]
    · have moved : s.threads.set thread rest =
          s.threads.take thread ++ rest :: s.threads.drop (thread + 1) := by
        rw [List.set_eq_take_append_cons_drop, if_pos inside]
      rw [turn, found, ← moved]

variable {threads : List (List Publication)} {s : Publishing}

theorem Accounted.turn (h : Accounted threads s) (thread : Nat) :
    Accounted threads (s.turn thread) := by
  rcases s.turn_cases thread with idle | ⟨before, p, rest, after, split, moved⟩
  · rw [idle]
    exact h
  · rw [moved]
    constructor
    · simp [publishAll_concat, h.journal]
    · -- The call goes from the head of its thread to the end of what was made.
      refine .trans ?_ h.calls
      rw [split]
      simp only [List.flatten_append, List.flatten_cons, List.append_assoc, List.cons_append,
        List.nil_append]
      exact List.Perm.append_left _ List.perm_middle.symm
    · intro calls member
      obtain ⟨done, due, rfl, ahead, inside⟩ := h.order calls member
      rw [split, List.mem_append, List.mem_cons] at inside
      rcases inside with other | rfl | other
      · exact ⟨done, due, rfl, List.sublist_append_of_sublist_left ahead,
          List.mem_append_left _ other⟩
      · exact ⟨done ++ [p], rest, by simp, ahead.append (List.Sublist.refl [p]), by simp⟩
      · exact ⟨done, due, rfl, List.sublist_append_of_sublist_left ahead,
          List.mem_append_right _ (List.mem_cons_of_mem _ other)⟩

theorem Accounted.run (h : Accounted threads s) (schedule : List Nat) :
    Accounted threads (s.run schedule) := by
  induction schedule generalizing s with
  | nil => exact h
  | cons thread schedule ih => exact ih (h.turn thread)

theorem Accounted.perm_of_finished (h : Accounted threads s) (finished : s.Finished) :
    s.made.Perm threads.flatten := by
  have none : s.threads.flatten = [] := List.flatten_eq_nil_iff.mpr finished
  simpa [none] using h.calls

theorem Accounted.sublist_of_finished (h : Accounted threads s) (finished : s.Finished) :
    ∀ thread ∈ threads, thread.Sublist s.made := by
  intro thread member
  obtain ⟨done, rest, rfl, ahead, inside⟩ := h.order thread member
  rw [finished rest inside, List.append_nil]
  exact ahead

/-- Threads publish in any order, and different times are written differently. Then no call is lost
or made up, and in the end each thread has made its calls in their order; a trace has no bucket
exactly if no call was for it; its bucket has the keys of the calls for it, each with the content of
the last; calls share a key only if they share the place, or have none, and the time; and if all
keys of a trace differ, every order ends in the same journal. -/
theorem buckets_of_interleaving {stamps : Set Time.Instant}
    (distinct : Set.InjOn Time.Instant.text stamps) (threads : List (List Publication))
    (schedule : List Nat) :
    let s := (start threads).run schedule
    (s.made ++ s.threads.flatten).Perm threads.flatten ∧
    (s.Finished → ∀ thread ∈ threads, thread.Sublist s.made) ∧
    (∀ trace e, s.journal.bucket trace = .error e ↔
      e = .emptyTrace trace ∧ ∀ p ∈ s.made, p.trace ≠ trace) ∧
    (∀ trace bucket, s.journal.bucket trace = .ok bucket →
      (∀ key, key ∈ bucket ↔ ∃ p ∈ of trace s.made, p.key = key) ∧
      ∀ key content, bucket[key]? = some content ↔
        ∃ p, Last (of trace s.made) key p ∧ p.content = content) ∧
    (∀ p ∈ s.made, ∀ q ∈ s.made, p.SlashFree → q.SlashFree → p.time ∈ stamps → q.time ∈ stamps →
      (p.key = q.key ↔
        p.owner.map Container.place = q.owner.map Container.place ∧ p.time = q.time)) ∧
    ∀ other, s.Finished → ((start threads).run other).Finished →
      (∀ trace, ((of trace threads.flatten).map Publication.key).Nodup) →
      ((start threads).run other).journal = s.journal := by
  intro s
  have accounted : Accounted threads s := (accounted_start threads).run schedule
  refine ⟨accounted.calls, accounted.sublist_of_finished, fun trace e => ?_,
    fun trace bucket found => ?_, ?_, ?_⟩
  · rw [accounted.journal, bucket_fails_iff]
  · exact bucket_complete (accounted.journal ▸ found)
  · intro p _ q _ free free' stamp stamp'
    exact Journal.key_inj distinct free free' stamp stamp'
  · intro other finished finished' apart
    have accounted' := (accounted_start threads).run other
    have perm := accounted.perm_of_finished finished
    have perm' := accounted'.perm_of_finished finished'
    rw [accounted.journal, accounted'.journal, publishAll_eq_of_perm (perm'.trans perm.symm)]
    intro trace
    exact ((perm'.filter _).map _).nodup_iff.mpr (apart trace)

def call (name content : String) : Publication :=
  ⟨"ig-dnstrace", some ⟨"id", "default", "web-0", name, 100, false⟩, .epoch, content⟩

/-- Of a container's two calls at one time the later stays, although another came between. -/
theorem later_content_kept : Set.InjOn Time.Instant.text {t | t.Proper} ∧
    let s := (start [[call "app" "first", call "app" "second"], [call "sidecar" "other"]]).run
      [0, 1, 0]
    s.Finished ∧ ∃ bucket, s.journal.bucket "ig-dnstrace" = .ok bucket ∧
      bucket[(call "app" "first").key]? = some "second" ∧
      bucket[(call "sidecar" "other").key]? = some "other" := by
  refine ⟨Time.Instant.text_injOn, ?_⟩
  obtain ⟨-, -, fails, kept, keys, -⟩ := buckets_of_interleaving Time.Instant.text_injOn
    [[call "app" "first", call "app" "second"], [call "sidecar" "other"]] [0, 1, 0]
  intro s
  have made : of "ig-dnstrace" s.made =
    [call "app" "first", call "sidecar" "other", call "app" "second"] := rfl
  have proper : Time.Instant.Proper .epoch := .inl (by decide)
  have apart : (call "app" "second").key ≠ (call "sidecar" "other").key := fun same =>
    absurd ((keys (call "app" "second") (by decide) (call "sidecar" "other") (by decide)
      (by decide) (by decide) proper proper).mp same).1 (by decide)
  refine ⟨by decide, ?_⟩
  cases found : s.journal.bucket "ig-dnstrace" with
  | error e => exact absurd rfl (((fails _ _).mp found).2 (call "app" "first") (by decide))
  | ok bucket =>
    have last := (kept _ bucket found).2
    refine ⟨bucket, rfl, (last _ _).mpr ⟨call "app" "second", ⟨rfl, ?_⟩, rfl⟩,
      (last _ _).mpr ⟨call "sidecar" "other", ⟨rfl, ?_⟩, rfl⟩⟩
    · exact ⟨[call "app" "first", call "sidecar" "other"], [], made, by simp⟩
    · exact ⟨[call "app" "first"], [call "app" "second"], made, by simpa using apart⟩

end Publishing
end NodeDiagnostics.Trace
