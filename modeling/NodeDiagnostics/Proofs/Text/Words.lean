import Mathlib.Data.List.Basic
import NodeDiagnostics.Text.Blank

namespace NodeDiagnostics.Text

/-- The text is these words, with blanks between them and perhaps around them. -/
inductive Spaced : List (List Char) → List Char → Prop where
  | nil {gap} (blank : ∀ c ∈ gap, isBlank c = true) : Spaced [] gap
  | cons {gap word rest words} (blank : ∀ c ∈ gap, isBlank c = true) (filled : word ≠ [])
      (solid : ∀ c ∈ word, isBlank c = false) (apart : ∀ c ∈ rest.head?, isBlank c = true)
      (others : Spaced words rest) : Spaced (word :: words) (gap ++ (word ++ rest))

theorem words_blank {c : Char} (blank : isBlank c = true) (cs : List Char) :
    words (c :: cs) = words cs := by
  simp [words, List.splitOnP_cons_eq_if_modifyHead, blank]

theorem words_gap {gap : List Char} (blank : ∀ c ∈ gap, isBlank c = true) (cs : List Char) :
    words (gap ++ cs) = words cs := by
  induction gap with
  | nil => rfl
  | cons c gap ih =>
    obtain ⟨first, others⟩ := List.forall_mem_cons.mp blank
    rw [List.cons_append, words_blank first, ih others]

theorem words_word {word rest : List Char} (filled : word ≠ [])
    (solid : ∀ c ∈ word, isBlank c = false) (apart : ∀ c ∈ rest.head?, isBlank c = true) :
    words (word ++ rest) = word :: words rest := by
  cases rest with
  | nil => simp [words, List.splitOnP_eq_singleton solid, filled]
  | cons c rest =>
    have blank : isBlank c = true := apart c rfl
    rw [words_blank blank]
    simp [words, List.splitOnP_append_cons_of_forall_mem solid c blank, filled]

theorem Spaced.words_eq {ws : List (List Char)} {cs : List Char} (spaced : Spaced ws cs) :
    words cs = ws := by
  induction spaced with
  | @nil gap blank => simpa [words] using words_gap blank []
  | cons blank filled solid apart others ih =>
    rw [words_gap blank, words_word filled solid apart, ih]

theorem Spaced.front {word rest : List Char} {words : List (List Char)} (filled : word ≠ [])
    (solid : ∀ c ∈ word, isBlank c = false) (apart : ∀ c ∈ rest.head?, isBlank c = true)
    (others : Spaced words rest) : Spaced (word :: words) (word ++ rest) :=
  @Spaced.cons [] _ _ _ (List.forall_mem_nil _) filled solid apart others

theorem Spaced.blank_cons {ws : List (List Char)} {cs : List Char} {c : Char}
    (blank : isBlank c = true) (spaced : Spaced ws cs) : Spaced ws (c :: cs) := by
  cases spaced with
  | nil others => exact .nil (List.forall_mem_cons.mpr ⟨blank, others⟩)
  | @cons gap _ _ _ others filled solid apart behind =>
    exact @Spaced.cons (c :: gap) _ _ _ (List.forall_mem_cons.mpr ⟨blank, others⟩) filled solid
      apart behind

theorem Spaced.solid_cons {ws : List (List Char)} {cs : List Char} {c : Char}
    (solid : isBlank c = false) (spaced : Spaced ws cs) : ∃ ws', Spaced ws' (c :: cs) := by
  by_cases apart : ∀ d ∈ cs.head?, isBlank d = true
  · have alone : ∀ d ∈ [c], isBlank d = false := List.forall_mem_singleton.mpr solid
    exact ⟨[c] :: ws, .front (List.cons_ne_nil c []) alone apart spaced⟩
  · cases spaced with
    | @nil gap blank => exact absurd (fun d first => blank d (List.mem_of_mem_head? first)) apart
    | @cons gap word rest words blank filled whole behind others =>
      cases gap with
      | nil =>
        exact ⟨(c :: word) :: words, .front (List.cons_ne_nil c word)
          (List.forall_mem_cons.mpr ⟨solid, whole⟩) behind others⟩
      | cons g gap =>
        have first := blank g List.mem_cons_self
        simp [first] at apart

theorem spaced_flatMap {ws : List (List Char)}
    (solid : ∀ w ∈ ws, w ≠ [] ∧ ∀ c ∈ w, isBlank c = false) :
    Spaced ws (ws.flatMap (' ' :: ·)) := by
  induction ws with
  | nil => exact .nil (List.forall_mem_nil _)
  | cons w ws ih =>
    obtain ⟨⟨filled, first⟩, solid⟩ := List.forall_mem_cons.mp solid
    have apart : ∀ c ∈ (ws.flatMap (' ' :: ·)).head?, isBlank c = true := by
      cases ws with
      | nil => simp
      | cons w ws =>
        rintro c ⟨⟩
        decide
    exact (Spaced.front filled first apart (ih solid)).blank_cons (by decide)

theorem exists_spaced (cs : List Char) : ∃ ws, Spaced ws cs := by
  induction cs with
  | nil => exact ⟨[], .nil (List.forall_mem_nil _)⟩
  | cons c cs ih =>
    obtain ⟨ws, spaced⟩ := ih
    cases blank : isBlank c with
    | true => exact ⟨ws, spaced.blank_cons blank⟩
    | false => exact spaced.solid_cons blank

theorem words_eq_iff {ws : List (List Char)} {cs : List Char} : words cs = ws ↔ Spaced ws cs := by
  refine ⟨?_, Spaced.words_eq⟩
  rintro rfl
  obtain ⟨ws, spaced⟩ := exists_spaced cs
  rwa [spaced.words_eq]

end NodeDiagnostics.Text
