import Mathlib.Data.List.Infix
import NodeDiagnostics.Host.Processes

namespace NodeDiagnostics.Host

def schemeMark : List Char := [':', '/', '/']

/-- The bare identifier, alone or behind schemes. -/
def Strips (id bare : String) : Prop :=
  ¬ schemeMark <:+: bare.toList ∧
    (id = bare ∨ ∃ scheme, id.toList = scheme ++ (schemeMark ++ bare.toList))

theorem afterScheme?_later {c : Char} {rest behind : List Char}
    (later : afterScheme? rest = some behind) : afterScheme? (c :: rest) = some behind := by
  rw [afterScheme?, later]

theorem afterScheme?_here {behind : List Char} (last : afterScheme? ('/' :: '/' :: behind) = none) :
    afterScheme? (':' :: '/' :: '/' :: behind) = some behind := by
  rw [afterScheme?, last]
  rfl

theorem mark_prefix_iff {c : Char} {rest : List Char} :
    schemeMark <+: c :: rest ↔ ∃ behind, c = ':' ∧ rest = '/' :: '/' :: behind := by
  constructor
  · rintro ⟨behind, same⟩
    obtain ⟨rfl, rfl⟩ := List.cons.inj same
    exact ⟨behind, rfl, rfl⟩
  · rintro ⟨behind, rfl, rfl⟩
    exact ⟨behind, rfl⟩

theorem afterScheme?_plain {c : Char} {rest : List Char} (unmarked : afterScheme? rest = none)
    (plain : ¬ schemeMark <+: c :: rest) : afterScheme? (c :: rest) = none := by
  rw [afterScheme?.eq_def]
  dsimp only
  rw [unmarked]
  dsimp only
  split
  · next behind same =>
    obtain ⟨rfl, rfl⟩ := List.cons.inj same
    exact absurd ⟨behind, rfl⟩ plain
  · rfl

theorem afterScheme?_eq_none_iff {cs : List Char} :
    afterScheme? cs = none ↔ ¬ schemeMark <:+: cs := by
  induction cs with
  | nil => simp [afterScheme?, schemeMark]
  | cons c rest ih =>
    rw [List.infix_cons_iff, not_or]
    cases later : afterScheme? rest with
    | some behind =>
      rw [afterScheme?_later later]
      rw [later] at ih
      exact iff_of_false nofun fun plain => absurd (ih.mpr plain.2) nofun
    | none =>
      by_cases here : schemeMark <+: c :: rest
      · refine iff_of_false ?_ fun plain => plain.1 here
        obtain ⟨behind, rfl, rfl⟩ := mark_prefix_iff.mp here
        rw [afterScheme?_here later]
        nofun
      · exact iff_of_true (afterScheme?_plain later here) ⟨here, ih.mp later⟩

theorem unmarked_slashes {cs : List Char} :
    schemeMark <:+: '/' :: '/' :: cs ↔ schemeMark <:+: cs := by
  simp [List.infix_cons_iff, schemeMark, List.cons_prefix_cons]

theorem afterScheme?_eq_some_iff {cs bare : List Char} :
    afterScheme? cs = some bare ↔
      ¬ schemeMark <:+: bare ∧ ∃ scheme, cs = scheme ++ (schemeMark ++ bare) := by
  constructor
  · intro found
    induction cs with
    | nil => contradiction
    | cons c rest ih =>
      cases later : afterScheme? rest with
      | some behind =>
        rw [afterScheme?_later later, ← later] at found
        obtain ⟨plain, scheme, rfl⟩ := ih found
        exact ⟨plain, c :: scheme, rfl⟩
      | none =>
        by_cases here : schemeMark <+: c :: rest
        · obtain ⟨behind, rfl, rfl⟩ := mark_prefix_iff.mp here
          rw [afterScheme?_here later] at found
          cases found
          exact ⟨unmarked_slashes.not.mp (afterScheme?_eq_none_iff.mp later), [], rfl⟩
        · rw [afterScheme?_plain later here] at found
          contradiction
  · rintro ⟨plain, scheme, rfl⟩
    induction scheme with
    | nil => exact afterScheme?_here (afterScheme?_eq_none_iff.mpr (unmarked_slashes.not.mpr plain))
    | cons c scheme ih => exact afterScheme?_later ih

theorem strips_iff {id bare : String} : Strips id bare ↔ cleanId id = bare := by
  rw [cleanId]
  cases after : afterScheme? id.toList with
  | none =>
    have plain := afterScheme?_eq_none_iff.mp after
    rw [Option.getD_none, String.ofList_toList]
    constructor
    · rintro ⟨-, same | ⟨scheme, marked⟩⟩
      · exact same
      · exact absurd ⟨scheme, bare.toList, by rw [marked, List.append_assoc]⟩ plain
    · rintro rfl
      exact ⟨plain, .inl rfl⟩
  | some behind =>
    obtain ⟨plain, scheme, marked⟩ := afterScheme?_eq_some_iff.mp after
    rw [Option.getD_some]
    constructor
    · rintro ⟨plain', rfl | ⟨scheme', marked'⟩⟩
      · exact absurd ⟨scheme, behind, by rw [marked, List.append_assoc]⟩ plain'
      · rw [afterScheme?_eq_some_iff.mpr ⟨plain', scheme', marked'⟩] at after
        cases after
        exact String.ofList_toList
    · rintro rfl
      rw [Strips, String.toList_ofList]
      exact ⟨plain, .inr ⟨scheme, marked⟩⟩

theorem containsText_iff {text part : List Char} :
    containsText text part = true ↔ part <:+: text := by
  induction text with
  | nil => simp [containsText]
  | cons c text ih =>
    rw [containsText, Bool.or_eq_true, List.isPrefixOf_iff_prefix, ih, List.infix_cons_iff]

end NodeDiagnostics.Host
