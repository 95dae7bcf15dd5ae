import NodeDiagnostics.Proofs.Export.Simulation

namespace NodeDiagnostics.Export

variable {σ α : Type}

/-- A store whose objects are seen through `view`: a put that succeeds replaces one object, and
nothing else changes any. -/
structure Keeps (store : ObjectStore σ) (view : σ → String → Option (List UInt8)) : Prop where
  ensured : ∀ s key, view (store.ensureContainer s).2 key = view s key
  put : ∀ key content s, (store.put key content s).1 = .ok () → ∀ other,
    view (store.put key content s).2 other = if key = other then some content else view s other
  refused : ∀ key content s e, (store.put key content s).1 = .error e → ∀ other,
    view (store.put key content s).2 other = view s other

theorem MemoryStore.keeps : Keeps store fun m key => m.objects[key]? where
  ensured m key := by
    simp only [store, ensureContainer]
    split <;> rfl
  put key content m succeeded other := getElem?_put_of_ok (Prod.ext succeeded rfl)
  refused key content m e failed other := by
    simp only [store, put] at failed ⊢
    split at failed
    · rename_i refused
      simp [refused]
    · contradiction

def faltering (store : ObjectStore σ) : ObjectStore (List (Option Error) × σ) where
  ensureContainer := fun (script, s) =>
    match script with
    | some e :: rest => (.error e, rest, s)
    | _ =>
      let (answer, s) := store.ensureContainer s
      (answer, script.tail, s)
  put key content := fun (script, s) =>
    match script with
    | some e :: rest => (.error e, rest, s)
    | _ =>
      let (answer, s) := store.put key content s
      (answer, script.tail, s)

theorem Keeps.faltering {store : ObjectStore σ} {view : σ → String → Option (List UInt8)}
    (h : Keeps store view) : Keeps (faltering store) fun s => view s.2 where
  ensured := by
    rintro ⟨script, s⟩ key
    simp only [Export.faltering]
    split
    · rfl
    · exact h.ensured s key
  put := by
    rintro key content ⟨script, s⟩ succeeded other
    simp only [Export.faltering] at succeeded ⊢
    split at succeeded
    · contradiction
    · exact h.put key content s succeeded other
  refused := by
    rintro key content ⟨script, s⟩ e failed other
    simp only [Export.faltering] at failed ⊢
    split at failed
    · rfl
    · exact h.refused key content s e failed other

def Deed.stored? (key : String) : Deed → Option (List UInt8)
  | .put other content (.ok ()) => if other = key then some content else none
  | _ => none

def lastStored (deeds : List Deed) (key : String) : Option (List UInt8) :=
  deeds.reverse.findSome? (Deed.stored? key)

theorem lastStored_append (earlier later : List Deed) (key : String) :
    lastStored (earlier ++ later) key = (lastStored later key).or (lastStored earlier key) := by
  simp [lastStored, List.findSome?_append]

theorem lastStored_eq_none_iff (deeds : List Deed) (key : String) :
    lastStored deeds key = none ↔ ∀ content, .put key content (.ok ()) ∉ deeds := by
  simp only [lastStored, List.findSome?_eq_none_iff, List.mem_reverse]
  constructor
  · intro nothing content member
    simpa [Deed.stored?] using nothing _ member
  · intro nothing deed member
    unfold Deed.stored?
    split
    · rename_i other content
      by_cases here : other = key
      · exact absurd (here ▸ member) (nothing content)
      · rw [if_neg here]
    · rfl

/-- A request that touches no object. -/
def Quiet (view : σ → String → Option (List UInt8)) (request : Request σ α) : Prop :=
  ∀ s key, view (request s).2 key = view s key

def Call.Quiet (view : σ → String → Option (List UInt8)) : Call σ → Prop
  | items _ data => Export.Quiet view data
  | stream _ content => Export.Quiet view content

section
variable {store : ObjectStore σ} {view : σ → String → Option (List UInt8)}

/-- At every moment each object is what was last stored under its key, or what it was at first. -/
structure Faithful (view : σ → String → Option (List UInt8)) (first : String → Option (List UInt8))
    (log : Log σ) : Prop where
  always : ∀ before entry after, log.1 = before ++ entry :: after → ∀ key,
    view entry.host key = (lastStored ((before ++ [entry]).map (·.deed)) key).or (first key)
  now : ∀ key, view log.2 key = (lastStored (log.1.map (·.deed)) key).or (first key)

theorem Faithful.enter {first : String → Option (List UInt8)} {log : Log σ}
    (h : Faithful view first log) {deed : Deed} {host : σ}
    (stored : ∀ key, view host key = (deed.stored? key).or (view log.2 key)) :
    Faithful view first (log.1 ++ [⟨deed, host⟩], host) := by
  have now : ∀ key, view host key =
      (lastStored ((log.1 ++ [Entry.mk deed host]).map Entry.deed) key).or (first key) := by
    intro key
    have last : lastStored [deed] key = deed.stored? key := by simp [lastStored]
    rw [stored, h.now, List.map_append, lastStored_append, Option.or_assoc]
    exact congrArg (Option.or · _) last.symm
  refine ⟨?_, now⟩
  intro before entry after split
  rcases concat_eq_append_cons split with ⟨rfl, rfl, -⟩ | ⟨rest, same, -⟩
  · exact now
  · exact h.always before entry rest same

theorem Keeps.stable (h : Keeps store view) (first : String → Option (List UInt8)) :
    Stable (recorded store) (Faithful view first) := by
  constructor
  · intro log faithful
    apply faithful.enter
    intro key
    rw [h.ensured]
    rfl
  · intro key content log faithful
    apply faithful.enter
    intro other
    rcases put : (store.put key content log.2).1 with e | ⟨⟩
    · rw [h.refused key content log.2 e put]
      rfl
    · rw [h.put key content log.2 put]
      by_cases here : key = other
      · simp [Deed.stored?, here]
      · simp [Deed.stored?, here]

theorem Quiet.preserves {request : Request σ α} (h : Quiet view request) {deed : α → Deed}
    (empty : ∀ answer key, (deed answer).stored? key = none)
    (first : String → Option (List UInt8)) :
    Preserves (Faithful view first) (noted deed request) := by
  intro log faithful
  apply faithful.enter
  intro key
  rw [empty, h]
  rfl

theorem Call.Quiet.preserves {call : Call σ} (h : call.Quiet view)
    (first : String → Option (List UInt8)) : call.recorded.Preserves (Faithful view first) := by
  cases call with
  | items producer data => exact Export.Quiet.preserves h (fun _ _ => rfl) first
  | stream item content => exact Export.Quiet.preserves h (fun _ _ => rfl) first

theorem faithful_initial (view : σ → String → Option (List UInt8)) (s : σ) :
    Faithful view (view s) ([], s) := by
  constructor
  · intro before entry after split
    simp at split
  · intro key
    rfl

/-- For every sequence of calls and whichever requests fail: the requests come in order, and the
last call goes one of the courses. As long as nobody else touches them, the objects are at every
moment those that were last put. That the requests are written down makes no difference. An item's
key is the time without colons, the node and the item's name. -/
theorem exports_orderly {store : ObjectStore σ} {view : σ → String → Option (List UInt8)}
    (keeps : Keeps store view) (d : Destination) (s : σ) (past : List (Call σ)) (call : Call σ) :
    let before := ExportState.performAll (recorded store) d (past.map Call.recorded)
      (.initial ([], s))
    let after := before.2.perform (recorded store) d call.recorded
    (∀ item, (d.key item).toList = d.time.toList.map (fun c => if c = ':' then '-' else c) ++
      '/' :: (d.node.toList ++ '/' :: item.toList)) ∧
    (ExportState.performAll store d past (.initial s) = (before.1, before.2.unrecorded) ∧
      before.2.unrecorded.perform store d call = (after.1, after.2.unrecorded)) ∧
    Orderly after.2.deeds ∧
    ∃ added, after.2.deeds = before.2.deeds ++ added ∧
      Performed d before.2.deeds call.task after.1 added ∧
      ((∀ c ∈ past ++ [call], c.Quiet view) →
        Faithful view (view s) after.2.host ∧
        ∀ key, (∀ content, .put key content (.ok ()) ∉ added) →
          view after.2.host.2 key = view before.2.host.2 key) := by
  intro before after
  obtain ⟨aware, orderly⟩ := ExportState.performAll_orderly store d past
    (ExportState.initial_aware s) orderly_nil
  obtain ⟨added, course, entered, -⟩ := ExportState.perform_course store d aware
    (Prod.mk.eta (p := before.2.perform (recorded store) d call.recorded)).symm
  refine ⟨d.toList_key, ⟨?_, ?_⟩, ?_, added, entered, course.performed, fun quiet => ?_⟩
  · exact ExportState.unrecorded_of_agree (ExportState.performAll_recorded store d past)
      (.initial ([], s))
  · exact ExportState.unrecorded_of_agree (ExportState.perform_recorded store d call) before.2
  · rw [entered]
    exact course.orderly orderly
  obtain ⟨former, last⟩ := List.forall_mem_append.mp quiet
  have stable := keeps.stable (view s)
  have faithful : Faithful view (view s) before.2.host := by
    refine stable.performAll d (s := .initial ([], s)) (faithful_initial view s) ?_
    exact List.forall_mem_map.mpr fun c member => (former c member).preserves (view s)
  have faithful' : Faithful view (view s) after.2.host :=
    stable.perform d faithful ((last call List.mem_cons_self).preserves (view s))
  refine ⟨faithful', fun key unput => ?_⟩
  have nothing := (lastStored_eq_none_iff added key).mpr unput
  have same : lastStored after.2.deeds key = lastStored before.2.deeds key := by
    rw [entered, lastStored_append, nothing, Option.none_or]
  exact (faithful'.now key).trans ((congrArg (Option.or · _) same).trans (faithful.now key).symm)

end

/-- The container is refused once, and so is the second item of the next export. -/
def refusals : List (Option Error) :=
  [some (.containerCreation 403 "AuthorizationPermissionMismatch"), none, none,
    some (.storage 500 "InternalError")]

def usage : Items := ((∅ : Items).insert "nodes" "[]").insert "pods" "[]"

def site : Destination := ⟨"2026-10-17T08:15:30Z", "node-1"⟩

abbrev Faltering := List (Option Error) × MemoryStore

def usageExport : Call Faltering := .items "systemperf" (.always (.ok usage))

def secondExport : Except Error Unit × ExportState (Log Faltering) :=
  let store := recorded (faltering MemoryStore.store)
  let first := ExportState.performAll store site [usageExport.recorded]
    (.initial ([], refusals, .empty))
  first.2.perform store site usageExport.recorded

/-- The export that follows a refusal asks for the container again and stores the first item. -/
theorem refusal_outlived :
    Keeps (faltering MemoryStore.store) (fun s key => s.2.objects[key]?) ∧
      usageExport.Quiet (fun s key => s.2.objects[key]?) ∧
      Orderly secondExport.2.deeds ∧
      lastStored secondExport.2.deeds "2026-10-17T08-15-30Z/node-1/nodes" =
        some (Text.utf8 "[]") := by
  have keeps := MemoryStore.keeps.faltering
  have quiet : usageExport.Quiet (fun s key => s.2.objects[key]?) := fun _ _ => rfl
  obtain ⟨-, -, orderly, added, -, -, kept⟩ := exports_orderly keeps site (refusals, .empty)
    [usageExport] usageExport
  obtain ⟨faithful, -⟩ := kept (by simpa using quiet)
  refine ⟨keeps, quiet, orderly, ?_⟩
  have seen := faithful.now "2026-10-17T08-15-30Z/node-1/nodes"
  have stored : secondExport.2.host.2.2.objects["2026-10-17T08-15-30Z/node-1/nodes"]? =
      some (Text.utf8 "[]") := by decide +kernel
  have absent : MemoryStore.empty.objects["2026-10-17T08-15-30Z/node-1/nodes"]? = none := by
    simp [MemoryStore.empty]
  rw [absent, Option.or_none] at seen
  exact seen.symm.trans stored

end NodeDiagnostics.Export
