import Mathlib.Data.List.Induction
import Mathlib.Data.Set.Insert
import Mathlib.Order.Bounds.Defs
import NodeDiagnostics.Proofs.Host.Identifier
import NodeDiagnostics.Proofs.Text.Numeral

/-!
The first process of a container. The pass over the processes sees pairs of an identifier and a
process, and what it keeps of each identifier is the least process seen, in whatever order.
-/
namespace NodeDiagnostics.Host

open NodeDiagnostics.Text (digitChars placeValue)

def Numbered (name : String) (pid : Pid) : Prop :=
  ∃ ds, ds ≠ [] ∧ (name.toList = digitChars ds ∨ name.toList = '+' :: digitChars ds) ∧
    placeValue ds = pid.toNat

/-- The entry is a process with this number, and the text of its control group names the bare
identifier. -/
structure ProcessEntry.Runs (e : ProcessEntry) (bare : String) (pid : Pid) : Prop where
  numbered : Numbered e.name pid
  named : ∃ bytes text, e.cgroup = some bytes ∧ Text.ofUtf8? bytes = some text ∧
    bare.toList <:+: text.toList

def running (entries : List ProcessEntry) (bare : String) : Set Pid :=
  {pid | ∃ e ∈ entries, e.Runs bare pid}

theorem process?_eq_some_iff {e : ProcessEntry} {pid : Pid} {text : List Char} :
    e.process? = some (pid, text) ↔ Numbered e.name pid ∧
      ∃ bytes t, e.cgroup = some bytes ∧ Text.ofUtf8? bytes = some t ∧ t.toList = text := by
  simp only [ProcessEntry.process?, Option.bind_eq_bind, Option.bind_eq_some_iff,
    Text.unsigned?_eq_some_iff, Option.some.injEq, Prod.mk.injEq]
  constructor
  · rintro ⟨_, ⟨ds, digits, written, rfl, small⟩, bytes, file, t, valid, rfl, rfl⟩
    refine ⟨⟨ds, digits, written, ?_⟩, bytes, t, file, valid, rfl⟩
    rw [Nat.toUInt32, UInt32.toNat_ofNat', Nat.mod_eq_of_lt small]
  · rintro ⟨⟨ds, digits, written, value⟩, bytes, t, file, valid, rfl⟩
    refine ⟨pid.toNat, ⟨ds, digits, written, value.symm, pid.toNat_lt⟩, bytes, file, t, valid, ?_,
      rfl⟩
    rw [Nat.toUInt32, UInt32.ofNat_toNat]

theorem mem_wanted {ids : List String} {id : String} {clean : List Char} :
    (id, clean) ∈ wanted ids ↔
      id ∈ ids ∧ 12 ≤ (cleanId id).utf8ByteSize ∧ clean = (cleanId id).toList := by
  simp only [wanted, List.mem_filterMap, List.mem_map]
  constructor
  · rintro ⟨_, ⟨id, asked, rfl⟩, kept⟩
    dsimp only at kept
    split at kept
    · next long =>
      cases kept
      exact ⟨asked, long, rfl⟩
    · contradiction
  · rintro ⟨asked, long, rfl⟩
    exact ⟨_, ⟨id, asked, rfl⟩, if_pos long⟩

def sightings (entries : List ProcessEntry) (ids : List String) : List (String × Pid) :=
  (entries.filterMap ProcessEntry.process?).flatMap fun (pid, cgroup) =>
    ((wanted ids).filter fun w => containsText cgroup w.2).map fun w => (w.1, pid)

def noteAll (seen : List (String × Pid)) : Std.ExtTreeMap String Pid :=
  seen.foldl (fun found s => note found s.1 s.2) ∅

theorem resolveAll_eq (entries : List ProcessEntry) (ids : List String) :
    resolveAll entries ids = noteAll (sightings entries ids) := by
  simp only [noteAll, sightings, List.foldl_flatMap, List.foldl_map, List.foldl_filter]
  rfl

theorem mem_sightings {entries : List ProcessEntry} {ids : List String} {id : String} {pid : Pid} :
    (id, pid) ∈ sightings entries ids ↔
      id ∈ ids ∧ 12 ≤ (cleanId id).utf8ByteSize ∧ pid ∈ running entries (cleanId id) := by
  simp only [sightings, List.mem_flatMap, List.mem_filterMap, List.mem_map, List.mem_filter]
  constructor
  · rintro ⟨⟨pid, cgroup⟩, ⟨e, entry, process⟩, ⟨id, clean⟩, ⟨wanted, within⟩, ⟨⟩⟩
    obtain ⟨asked, long, rfl⟩ := mem_wanted.mp wanted
    obtain ⟨numbered, bytes, text, file, valid, rfl⟩ := process?_eq_some_iff.mp process
    dsimp only at within ⊢
    exact ⟨asked, long, e, entry, numbered, bytes, text, file, valid, containsText_iff.mp within⟩
  · rintro ⟨asked, long, e, entry, numbered, bytes, text, file, valid, within⟩
    refine ⟨(pid, text.toList),
      ⟨e, entry, process?_eq_some_iff.mpr ⟨numbered, bytes, text, file, valid, rfl⟩⟩,
      (id, (cleanId id).toList), ⟨mem_wanted.mpr ⟨asked, long, rfl⟩, ?_⟩, rfl⟩
    dsimp only
    exact containsText_iff.mpr within

section Least

variable {found : Std.ExtTreeMap String Pid} {seen : List (String × Pid)} {id : String} {pid : Pid}

inductive LeastOf (processes : Set Pid) : Option Pid → Prop where
  | absent (empty : processes = ∅) : LeastOf processes none
  | present {first : Pid} (least : IsLeast processes first) : LeastOf processes (some first)

theorem LeastOf.eq_some_iff {processes : Set Pid} {kept : Option Pid}
    (least : LeastOf processes kept) : kept = some pid ↔ IsLeast processes pid := by
  cases least with
  | absent empty => simp [empty, IsLeast]
  | present first =>
    rw [Option.some.injEq]
    refine ⟨fun same => same ▸ first, fun other => ?_⟩
    exact UInt32.le_antisymm (first.2 other.1) (other.2 first.1)

theorem LeastOf.eq_none_iff {processes : Set Pid} {kept : Option Pid}
    (least : LeastOf processes kept) : kept = none ↔ ¬ processes.Nonempty := by
  rw [Set.not_nonempty_iff_eq_empty]
  cases least with
  | absent empty => exact iff_of_true rfl empty
  | present first => exact iff_of_false nofun (Set.nonempty_of_mem first.1).ne_empty

theorem isLeast_insert {processes : Set Pid} {known : Pid} (pid : Pid)
    (least : IsLeast processes known) :
    IsLeast (insert pid processes) (if pid < known then pid else known) := by
  split
  · next lesser =>
    refine ⟨Set.mem_insert _ _, Set.forall_mem_insert.mpr ⟨UInt32.le_refl _, ?_⟩⟩
    exact fun q member => UInt32.le_trans (UInt32.le_of_lt lesser) (least.2 member)
  · next greater =>
    exact ⟨Set.mem_insert_of_mem _ least.1,
      Set.forall_mem_insert.mpr ⟨UInt32.not_lt.mp greater, least.2⟩⟩

theorem LeastOf.note {processes : Set Pid} (least : LeastOf processes found[id]?) :
    LeastOf (insert pid processes) (note found id pid)[id]? := by
  rw [Host.note.eq_def]
  cases known : found[id]? with
  | none =>
    rw [known] at least
    cases least with
    | absent empty =>
      have alone : IsLeast (insert pid processes) pid := by simp [empty, IsLeast, lowerBounds]
      simpa using LeastOf.present alone
  | some first =>
    rw [known] at least
    cases least with
    | present least =>
      have kept := LeastOf.present (isLeast_insert pid least)
      dsimp only
      split
      · next lesser => simpa [lesser] using kept
      · next greater => simpa [greater, known] using kept

theorem getElem?_note_other {other : String} (apart : id ≠ other) :
    (note found id pid)[other]? = found[other]? := by
  rw [note]
  split
  · split
    · simp [Std.ExtTreeMap.getElem?_insert, apart]
    · rfl
  · simp [Std.ExtTreeMap.getElem?_insert, apart]

def seenWith (seen : List (String × Pid)) (id : String) : Set Pid := {pid | (id, pid) ∈ seen}

theorem seenWith_same :
    seenWith (seen ++ [(id, pid)]) id = insert pid (seenWith seen id) := by
  ext p
  simp [seenWith, or_comm]

theorem seenWith_other {other : String} (apart : id ≠ other) :
    seenWith (seen ++ [(id, pid)]) other = seenWith seen other := by
  ext p
  simp [seenWith, Ne.symm apart]

theorem leastOf_noteAll (seen : List (String × Pid)) (id : String) :
    LeastOf (seenWith seen id) (noteAll seen)[id]? := by
  induction seen using List.reverseRecOn with
  | nil => exact .absent (by simp [seenWith])
  | append_singleton seen s ih =>
    obtain ⟨k, pid⟩ := s
    have last : noteAll (seen ++ [(k, pid)]) = note (noteAll seen) k pid := by
      rw [noteAll, List.foldl_append]
      rfl
    rw [last]
    by_cases here : k = id
    · subst here
      rw [seenWith_same]
      exact ih.note
    · rw [getElem?_note_other here, seenWith_other here]
      exact ih

theorem LeastOf.unique {processes : Set Pid} {kept kept' : Option Pid}
    (least : LeastOf processes kept) (least' : LeastOf processes kept') : kept = kept' := by
  refine Option.ext fun pid => ?_
  exact least.eq_some_iff.trans least'.eq_some_iff.symm

end Least

def sought (entries : List ProcessEntry) (ids : List String) (id : String) : Set Pid :=
  {pid | id ∈ ids ∧ 12 ≤ (cleanId id).utf8ByteSize ∧ pid ∈ running entries (cleanId id)}

section Resolving

variable {entries entries' : List ProcessEntry} {ids ids' : List String} {id other : String}
  {pid : Pid}

theorem leastOf_sought (entries : List ProcessEntry) (ids : List String) (id : String) :
    LeastOf (sought entries ids id) (resolveAll entries ids)[id]? := by
  have same : seenWith (sightings entries ids) id = sought entries ids id := by
    ext pid
    exact mem_sightings
  rw [← same, resolveAll_eq]
  exact leastOf_noteAll _ id

theorem isLeast_sought_iff : IsLeast (sought entries ids id) pid ↔
    id ∈ ids ∧ 12 ≤ (cleanId id).utf8ByteSize ∧ IsLeast (running entries (cleanId id)) pid := by
  constructor
  · rintro ⟨⟨asked, long, member⟩, below⟩
    exact ⟨asked, long, member, fun q running => below ⟨asked, long, running⟩⟩
  · rintro ⟨asked, long, member, below⟩
    exact ⟨⟨asked, long, member⟩, fun q sought => below sought.2.2⟩

theorem sought_nonempty_iff : (sought entries ids id).Nonempty ↔
    id ∈ ids ∧ 12 ≤ (cleanId id).utf8ByteSize ∧ (running entries (cleanId id)).Nonempty := by
  simp only [Set.Nonempty, sought, Set.mem_ofPred_eq, exists_and_left]

theorem sought_congr (perm : entries.Perm entries') (same : ∀ i, i ∈ ids ↔ i ∈ ids') (id : String) :
    sought entries' ids' id = sought entries ids id := by
  ext pid
  simp only [sought, running, Set.mem_ofPred_eq, perm.mem_iff, same]

theorem sought_alike (alike : cleanId other = cleanId id) (asked : id ∈ ids)
    (asked' : other ∈ ids') : sought entries ids' other = sought entries ids id := by
  ext pid
  simp only [sought, Set.mem_ofPred_eq, alike, asked, asked']

/-- What else is asked for has no part in it. -/
theorem getElem?_resolveAll (asked : id ∈ ids) :
    (resolveAll entries ids)[id]? = resolve? entries id := by
  have alone : id ∈ [id] := List.mem_singleton_self id
  have least := leastOf_sought entries ids id
  rw [sought_alike rfl alone asked] at least
  exact least.unique (leastOf_sought entries [id] id)

end Resolving

/-- An identifier that is asked for and long enough is resolved to the least process whose control
group names what is left of it behind its scheme, and no other identifier to any. Neither the order
of the processes matters, nor what else is asked for, nor the scheme. -/
theorem first_process_resolved (entries : List ProcessEntry) (ids : List String) (id : String) :
    let found := resolveAll entries ids
    Strips id (cleanId id) ∧
    (∀ pid, found[id]? = some pid ↔ id ∈ ids ∧ 12 ≤ (cleanId id).utf8ByteSize ∧
      IsLeast (running entries (cleanId id)) pid) ∧
    (found[id]? = none ↔ ¬ (id ∈ ids ∧ 12 ≤ (cleanId id).utf8ByteSize ∧
      (running entries (cleanId id)).Nonempty)) ∧
    (∀ entries' ids', entries.Perm entries' → (∀ i, i ∈ ids ↔ i ∈ ids') →
      resolveAll entries' ids' = found) ∧
    (id ∈ ids → ∀ other, Strips other (cleanId id) → resolve? entries other = found[id]? ∧
      ∀ ids', other ∈ ids' → (resolveAll entries ids')[other]? = found[id]?) := by
  intro found
  have least := leastOf_sought entries ids id
  refine ⟨strips_iff.mpr rfl, fun pid => ?_, ?_, ?_, ?_⟩
  · exact least.eq_some_iff.trans isLeast_sought_iff
  · exact least.eq_none_iff.trans sought_nonempty_iff.not
  · intro entries' ids' perm same
    refine Std.ExtTreeMap.ext_getElem? fun i => ?_
    have least' := leastOf_sought entries' ids' i
    rw [sought_congr perm same] at least'
    exact least'.unique (leastOf_sought entries ids i)
  · intro asked other strips
    have alike : ∀ ids', other ∈ ids' → (resolveAll entries ids')[other]? = found[id]? := by
      intro ids' asked'
      have least' := leastOf_sought entries ids' other
      rw [sought_alike (strips_iff.mp strips) asked asked'] at least'
      exact least'.unique least
    exact ⟨alike [other] (List.mem_singleton.mpr rfl), alike⟩

/-- Three processes of one container in no order, and entries that are no processes. -/
def directory : List ProcessEntry :=
  [⟨"4300", some (Text.utf8 "0::/kubepods/cri-containerd-3f4e1c2b9a8d.scope")⟩,
    ⟨"self", some (Text.utf8 "0::/kubepods/cri-containerd-3f4e1c2b9a8d.scope")⟩,
    ⟨"4211", some (Text.utf8 "0::/kubepods/cri-containerd-3f4e1c2b9a8d.scope")⟩,
    ⟨"17", none⟩, ⟨"9", some [0xff]⟩, ⟨"1", some (Text.utf8 "0::/init.scope")⟩,
    ⟨"5000", some (Text.utf8 "0::/kubepods/cri-containerd-3f4e1c2b9a8d.scope")⟩]

def asked : List String := ["cri-o://abc", "containerd://3f4e1c2b9a8d", "containerd://3f4e1c2b9a8d"]

theorem directory_resolved :
    "containerd://3f4e1c2b9a8d" ∈ asked ∧
    Strips "3f4e1c2b9a8d" (cleanId "containerd://3f4e1c2b9a8d") ∧
    directory.Perm directory.reverse ∧
    IsLeast (running directory (cleanId "containerd://3f4e1c2b9a8d")) 4211 ∧
    resolve? directory "3f4e1c2b9a8d" = some 4211 ∧
    resolveAll directory.reverse asked.reverse = resolveAll directory asked := by
  have found : (resolveAll directory asked)["containerd://3f4e1c2b9a8d"]? = some 4211 := by
    decide +kernel
  have member : "containerd://3f4e1c2b9a8d" ∈ asked := by decide
  have strips : Strips "3f4e1c2b9a8d" (cleanId "containerd://3f4e1c2b9a8d") :=
    strips_iff.mpr (by decide +kernel)
  obtain ⟨-, first, -, order, alike⟩ :=
    first_process_resolved directory asked "containerd://3f4e1c2b9a8d"
  refine ⟨member, strips, directory.reverse_perm.symm, ((first 4211).mp found).2.2,
    (alike member _ strips).1.trans found, ?_⟩
  exact order _ _ directory.reverse_perm.symm fun _ => List.mem_reverse.symm

end NodeDiagnostics.Host
