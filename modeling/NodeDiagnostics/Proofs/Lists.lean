import Mathlib.Data.List.Induction
import Mathlib.Data.List.Nodup
import Mathlib.Data.String.Basic
import Std.Data.ExtTreeMap.Lemmas

namespace NodeDiagnostics

variable {α : Type}

theorem concat_eq_append_cons {l before after : List α} {x y : α}
    (split : l ++ [y] = before ++ x :: after) :
    (l = before ∧ y = x ∧ after = []) ∨ ∃ rest, l = before ++ x :: rest ∧ after = rest ++ [y] := by
  rcases List.eq_nil_or_concat after with rfl | ⟨rest, z, rfl⟩
  · obtain ⟨same, last⟩ := List.append_inj' split rfl
    exact .inl ⟨same, List.head_eq_of_cons_eq last, rfl⟩
  · rw [List.concat_eq_append] at split ⊢
    have whole : l ++ [y] = (before ++ x :: rest) ++ [z] := by simpa using split
    obtain ⟨same, last⟩ := List.append_inj' whole rfl
    exact .inr ⟨rest, same, by rw [List.head_eq_of_cons_eq last]⟩

theorem cut_first {x : α} {before before' after after' : List α} (free : x ∉ before)
    (free' : x ∉ before') (same : before ++ x :: after = before' ++ x :: after') :
    before = before' ∧ after = after' := by
  rcases List.append_eq_append_iff.mp same with ⟨between, rfl, cut⟩ | ⟨between, rfl, cut⟩ <;>
    cases between with
    | nil => simpa [eq_comm] using cut
    | cons y between =>
      obtain ⟨rfl, -⟩ := List.cons.inj cut
      simp at free free'

theorem cut_last {x : α} {before before' after after' : List α} (free : x ∉ after)
    (free' : x ∉ after') (same : before ++ x :: after = before' ++ x :: after') :
    before = before' ∧ after = after' := by
  have backward := congrArg List.reverse same
  simp only [List.reverse_append, List.reverse_cons, List.append_assoc, List.cons_append,
    List.nil_append] at backward
  obtain ⟨behind, ahead⟩ := cut_first (by simpa using free) (by simpa using free') backward
  exact ⟨List.reverse_inj.mp ahead, List.reverse_inj.mp behind⟩

theorem dropWhile_append_kept {p : α → Bool} {x : α} (kept : p x = false) (front rest : List α) :
    (front ++ x :: rest).dropWhile p = front.dropWhile p ++ x :: rest := by
  induction front with
  | nil => simp [kept]
  | cons y front ih =>
    rw [List.cons_append, List.dropWhile_cons, List.dropWhile_cons]
    split
    · exact ih
    · rfl

section Pieces
variable {β : Type} [DecidableEq α] [DecidableEq β]

theorem splitOn_append_free {y : β} {front : List β} (free : y ∉ front) (l : List β) :
    (front ++ l).splitOn y = (l.splitOn y).modifyHead (front ++ ·) := by
  induction front with
  | nil => cases pieces : l.splitOn y <;> simp [pieces]
  | cons b front ih =>
    rw [List.mem_cons, not_or] at free
    rw [List.cons_append, List.splitOn_cons_eq_if_modifyHead,
      if_neg (by simpa using Ne.symm free.1), ih free.2, List.modifyHead_modifyHead]
    rfl

/-- A list whose elements are written one by one, only the mark with a mark, has its pieces written
one by one. -/
theorem splitOn_flatMap {f : α → List β} {x : α} {y : β} (mark : f x = [y])
    (free : ∀ a, a ≠ x → y ∉ f a) (l : List α) :
    (l.flatMap f).splitOn y = (l.splitOn x).map (·.flatMap f) := by
  induction l with
  | nil => rfl
  | cons a rest ih =>
    rw [List.flatMap_cons, List.splitOn_cons_eq_if_modifyHead]
    by_cases here : a = x
    · subst here
      simp [mark, List.splitOn_cons_eq_if_modifyHead, ih]
    · rw [splitOn_append_free (free a here), ih, if_neg (by simpa using here)]
      cases rest.splitOn x with
      | nil => rfl
      | cons first others => rfl

end Pieces
theorem mapM_map_some (l : List α) : (l.map some).mapM id = some l := by
  have everyone := List.mapM_pure (m := Option) (l := l) (f := id)
  rw [List.mapM_map]
  simpa using everyone

theorem exists_eq_map_some {l : List (Option α)} (present : ∀ o ∈ l, o.isSome = true) :
    ∃ table : List α, l = table.map some := by
  induction l with
  | nil => exact ⟨[], rfl⟩
  | cons o rest ih =>
    obtain ⟨a, rfl⟩ := Option.isSome_iff_exists.mp (present o List.mem_cons_self)
    obtain ⟨table, rfl⟩ := ih fun o member => present o (List.mem_cons_of_mem _ member)
    exact ⟨a :: table, rfl⟩

theorem exists_of_mem_zipWith {β γ : Type} {f : α → β → γ} {l : List α} {l' : List β} {x : γ}
    (member : x ∈ List.zipWith f l l') : ∃ a b, f a b = x := by
  have mapped : List.zipWith f l l' = (l.zip l').map fun p => f p.1 p.2 :=
    (List.map_zip_eq_zipWith (f := fun p : α × β => f p.1 p.2)).symm
  rw [mapped] at member
  obtain ⟨p, -, same⟩ := List.mem_map.mp member
  exact ⟨p.1, p.2, same⟩

theorem nodup_eraseDups [BEq α] [LawfulBEq α] (l : List α) : l.eraseDups.Nodup := by
  -- Each step filters what is left, so the induction is on the length.
  induction size : l.length using Nat.strongRecOn generalizing l with
  | ind n ih =>
    cases l with
    | nil => simp
    | cons x rest =>
      rw [List.eraseDups_cons]
      refine List.nodup_cons.mpr ⟨by simp, ih _ ?_ _ rfl⟩
      have shorter := List.length_filter_le (fun y => !y == x) rest
      simp only [List.length_cons] at size
      omega

theorem pairwise_toList (m : Std.ExtTreeMap String α) :
    m.toList.Pairwise fun a b => a.1 < b.1 := by
  have ordered := Std.ExtTreeMap.ordered_keys_toList (t := m)
  exact ordered.imp fun below => compareOfLessAndEq_eq_lt.mp below

def stored (key content : α → String) (l : List α) : Std.ExtTreeMap String String :=
  l.foldl (fun m x => m.insert (key x) (content x)) ∅

section Stored
variable {key content : α → String} {l : List α} {k v : String}

theorem stored_concat (key content : α → String) (l : List α) (x : α) :
    stored key content (l ++ [x]) = (stored key content l).insert (key x) (content x) := by
  simp [stored, List.foldl_append]

/-- The last of each key. -/
theorem getElem?_stored : (stored key content l)[k]? = some v ↔
    ∃ earlier x later, l = earlier ++ x :: later ∧ key x = k ∧ content x = v ∧
      ∀ other ∈ later, key other ≠ k := by
  induction l using List.reverseRecOn with
  | nil => simp [stored]
  | append_singleton l final ih =>
    rw [stored_concat, Std.ExtTreeMap.getElem?_insert]
    simp only [compare_eq_iff_eq]
    by_cases here : key final = k
    · rw [if_pos here]
      constructor
      · intro same
        exact ⟨l, final, [], rfl, here, Option.some.inj same, by simp⟩
      · rintro ⟨earlier, x, later, split, found, rfl, none⟩
        rcases concat_eq_append_cons split with ⟨-, rfl, -⟩ | ⟨rest, -, rfl⟩
        · rfl
        · exact absurd here (none final (by simp))
    · rw [if_neg here, ih]
      constructor
      · rintro ⟨earlier, x, later, rfl, found, same, none⟩
        refine ⟨earlier, x, later ++ [final], by simp, found, same, ?_⟩
        intro other member
        rcases List.mem_append.mp member with old | new
        · exact none other old
        · exact List.mem_singleton.mp new ▸ here
      · rintro ⟨earlier, x, later, split, found, same, none⟩
        rcases concat_eq_append_cons split with ⟨-, rfl, -⟩ | ⟨rest, old, rfl⟩
        · exact absurd found here
        · exact ⟨earlier, x, rest, old, found, same,
            fun other member => none other (List.mem_append_left _ member)⟩

theorem mem_stored : k ∈ stored key content l ↔ ∃ x ∈ l, key x = k := by
  induction l using List.reverseRecOn with
  | nil => simp [stored]
  | append_singleton l final ih =>
    rw [stored_concat, Std.ExtTreeMap.mem_insert, ih]
    simp [or_and_right, exists_or, or_comm]

theorem insert_comm {m : Std.ExtTreeMap String α} {k k' : String} (other : k ≠ k') (v v' : α) :
    (m.insert k v).insert k' v' = (m.insert k' v').insert k v := by
  refine Std.ExtTreeMap.ext_getElem? fun name => ?_
  simp only [Std.ExtTreeMap.getElem?_insert, compare_eq_iff_eq]
  split <;> split <;> simp_all

theorem stored_eq_of_perm {l' : List α} (perm : l.Perm l') (apart : (l.map key).Nodup) :
    stored key content l = stored key content l' := by
  refine perm.foldl_eq' (fun x inside y inside' m => ?_) ∅
  by_cases same : key x = key y
  · rw [List.inj_on_of_nodup_map apart inside inside' same]
  · exact insert_comm same _ _

end Stored
end NodeDiagnostics
