import Mathlib.Data.List.Induction
import Mathlib.Data.String.Basic
import NodeDiagnostics.Json.Basic
import NodeDiagnostics.Proofs.Lists

namespace NodeDiagnostics.Json

def Ordered (members : List (String × Json)) : Prop := members.Pairwise (·.1 < ·.1)

theorem Ordered.nodup {members : List (String × Json)} (h : Ordered members) :
    (members.map (·.1)).Nodup :=
  List.pairwise_map.mpr (h.imp fun less => less.ne)

theorem mem_insertMember {members : List (String × Json)} (ordered : Ordered members)
    (name : String) (value : Json) (m : String × Json) :
    m ∈ insertMember name value members ↔ m = (name, value) ∨ m ∈ members ∧ m.1 ≠ name := by
  induction members with
  | nil => simp [insertMember]
  | cons first rest ih =>
    obtain ⟨above, below⟩ := List.pairwise_cons.mp ordered
    rw [insertMember]
    by_cases less : name < first.1
    · have all : ∀ n ∈ first :: rest, n.1 ≠ name := by
        intro n member
        rcases List.mem_cons.mp member with rfl | later
        · exact less.ne'
        · exact (less.trans (above n later)).ne'
      rw [if_pos less, List.mem_cons]
      constructor
      · rintro (rfl | old)
        · exact .inl rfl
        · exact .inr ⟨old, all m old⟩
      · rintro (rfl | ⟨old, -⟩)
        · exact .inl rfl
        · exact .inr old
    · rw [if_neg less]
      by_cases same : name = first.1
      · have all : ∀ n ∈ rest, n.1 ≠ name := fun n later => same ▸ (above n later).ne'
        rw [if_pos same, List.mem_cons, List.mem_cons]
        constructor
        · rintro (rfl | old)
          · exact .inl rfl
          · exact .inr ⟨.inr old, all m old⟩
        · rintro (rfl | ⟨rfl | old, other⟩)
          · exact .inl rfl
          · exact absurd same.symm other
          · exact .inr old
      · rw [if_neg same, List.mem_cons, List.mem_cons, ih below]
        constructor
        · rintro (rfl | rfl | ⟨old, other⟩)
          · exact .inr ⟨.inl rfl, Ne.symm same⟩
          · exact .inl rfl
          · exact .inr ⟨.inr old, other⟩
        · rintro (rfl | ⟨rfl | old, other⟩)
          · exact .inr (.inl rfl)
          · exact .inl rfl
          · exact .inr (.inr ⟨old, other⟩)

theorem ordered_insertMember {members : List (String × Json)} (ordered : Ordered members)
    (name : String) (value : Json) : Ordered (insertMember name value members) := by
  induction members with
  | nil => exact List.pairwise_singleton _ _
  | cons first rest ih =>
    obtain ⟨above, below⟩ := List.pairwise_cons.mp ordered
    rw [insertMember]
    by_cases less : name < first.1
    · rw [if_pos less]
      refine List.pairwise_cons.mpr ⟨?_, ordered⟩
      intro n member
      rcases List.mem_cons.mp member with rfl | later
      · exact less
      · exact less.trans (above n later)
    · rw [if_neg less]
      by_cases same : name = first.1
      · rw [if_pos same]
        exact List.pairwise_cons.mpr ⟨fun n later => same ▸ above n later, below⟩
      · rw [if_neg same]
        refine List.pairwise_cons.mpr ⟨?_, ih below⟩
        intro n member
        rcases (mem_insertMember below name value n).mp member with rfl | ⟨later, -⟩
        · exact lt_of_le_of_ne (not_lt.mp less) (Ne.symm same)
        · exact above n later

theorem sorted_append (members : List (String × Json)) (last : String × Json) :
    sorted (members ++ [last]) = insertMember last.1 last.2 (sorted members) := by
  simp [sorted, List.foldl_append]

theorem ordered_sorted (members : List (String × Json)) : Ordered (sorted members) := by
  induction members using List.reverseRecOn with
  | nil => exact List.Pairwise.nil
  | append_singleton members last ih =>
    rw [sorted_append]
    exact ordered_insertMember ih last.1 last.2

/-- The last member of each name stays. -/
theorem mem_sorted (members : List (String × Json)) (m : String × Json) :
    m ∈ sorted members ↔
      ∃ earlier later, members = earlier ++ m :: later ∧ ∀ n ∈ later, n.1 ≠ m.1 := by
  induction members using List.reverseRecOn with
  | nil => simp [sorted]
  | append_singleton members last ih =>
    rw [sorted_append, mem_insertMember (ordered_sorted members), ih]
    constructor
    · rintro (rfl | ⟨⟨earlier, later, rfl, none⟩, other⟩)
      · exact ⟨members, [], rfl, by simp⟩
      · refine ⟨earlier, later ++ [last], by simp, ?_⟩
        intro n member
        rcases List.mem_append.mp member with here | here
        · exact none n here
        · exact List.mem_singleton.mp here ▸ Ne.symm other
    · rintro ⟨earlier, later, split, none⟩
      rcases concat_eq_append_cons split with ⟨-, rfl, -⟩ | ⟨rest, same, rfl⟩
      · exact .inl rfl
      · refine .inr ⟨⟨earlier, rest, same, fun n here => ?_⟩, ?_⟩
        · exact none n (List.mem_append_left _ here)
        · exact (none last (by simp)).symm

theorem mem_of_mem_sorted {members : List (String × Json)} {m : String × Json}
    (member : m ∈ sorted members) : m ∈ members := by
  obtain ⟨earlier, later, rfl, -⟩ := (mem_sorted members m).mp member
  exact List.mem_append_right _ List.mem_cons_self

theorem nodup_of_names {members : List (String × Json)} (h : (members.map (·.1)).Nodup) :
    members.Nodup :=
  (List.pairwise_map.mp h).imp fun other same => other (congrArg _ same)

/-- Members with different names are only put in another order. -/
theorem sorted_perm {members : List (String × Json)} (distinct : (members.map (·.1)).Nodup) :
    (sorted members).Perm members := by
  refine (List.perm_ext_iff_of_nodup (nodup_of_names (ordered_sorted members).nodup)
    (nodup_of_names distinct)).mpr ?_
  intro m
  refine ⟨mem_of_mem_sorted, fun member => ?_⟩
  · obtain ⟨earlier, later, rfl⟩ := List.append_of_mem member
    refine (mem_sorted _ m).mpr ⟨earlier, later, rfl, ?_⟩
    intro n after same
    simp only [List.map_append, List.map_cons] at distinct
    have apart := (List.nodup_cons.mp (List.nodup_append.mp distinct).2.1).1
    exact apart (same ▸ List.mem_map_of_mem after)

theorem sorted_of_ordered {members : List (String × Json)} (ordered : Ordered members) :
    sorted members = members :=
  (sorted_perm ordered.nodup).eq_of_pairwise
    (fun _ _ _ _ less more => absurd less more.asymm) (ordered_sorted members) ordered

theorem member?_eq_some {members : List (String × Json)} (distinct : (members.map (·.1)).Nodup)
    {name : String} {value : Json} :
    (object members).member? name = some value ↔ (name, value) ∈ members := by
  induction members with
  | nil => simp [member?]
  | cons m rest ih =>
    obtain ⟨fresh, distinct⟩ := List.nodup_cons.mp distinct
    have ih := ih distinct
    simp only [member?] at ih ⊢
    rw [List.find?_cons, List.mem_cons]
    by_cases here : m.1 = name
    · subst here
      have absent : (m.1, value) ∉ rest := fun member =>
        fresh (List.mem_map_of_mem (f := (·.1)) member)
      simp [absent, Prod.ext_iff, eq_comm]
    · have other : (name, value) ≠ m := by
        rintro rfl
        exact here rfl
      simp [here, ih, other]

theorem member?_sorted {members : List (String × Json)} (distinct : (members.map (·.1)).Nodup)
    (name : String) :
    (object (sorted members)).member? name = (object members).member? name := by
  apply Option.ext
  intro value
  rw [member?_eq_some (ordered_sorted members).nodup, member?_eq_some distinct,
    (sorted_perm distinct).mem_iff]

end NodeDiagnostics.Json
