import Mathlib.Tactic.IntervalCases
import NodeDiagnostics.Text.Utf8

namespace NodeDiagnostics.Text

theorem lead_two {n : Nat} (low : 2 ≤ n) (high : n < 32) :
    lead (UInt8.ofNat (n + 192)) = ([], some ⟨n, 1, 0x80, 0xbf⟩) := by
  interval_cases n <;> rfl

/-- The first and the last bits of a sequence of three restrict the byte that comes next: no longer
form than needed, and no surrogates. -/
theorem lead_three {n : Nat} (high : n < 16) :
    lead (UInt8.ofNat (n + 224)) =
      ([], some ⟨n, 2, if n = 0 then 0xa0 else 0x80, if n = 13 then 0x9f else 0xbf⟩) := by
  interval_cases n <;> rfl

theorem lead_four {n : Nat} (high : n < 5) :
    lead (UInt8.ofNat (n + 240)) =
      ([], some ⟨n, 3, if n = 0 then 0x90 else 0x80, if n = 4 then 0x8f else 0xbf⟩) := by
  interval_cases n <;> rfl

section Continuation

variable (bits missing : Nat) {n : Nat} {low high : UInt8} (above : low.toNat ≤ n + 128)
  (below : n + 128 ≤ high.toNat)

include above below

theorem continues :
    (low ≤ UInt8.ofNat (n + 128) ∧ UInt8.ofNat (n + 128) ≤ high) ∧
      (UInt8.ofNat (n + 128)).toNat - 0x80 = n := by
  have size := high.toNat_lt
  have value : (UInt8.ofNat (n + 128)).toNat = n + 128 := by
    rw [UInt8.toNat_ofNat']
    omega
  rw [UInt8.le_iff_toNat_le, UInt8.le_iff_toNat_le, value]
  omega

theorem feed_last :
    feed (some ⟨bits, 1, low, high⟩) (UInt8.ofNat (n + 128)) =
      ([some (Char.ofNat (bits * 64 + n))], none) := by
  obtain ⟨inside, value⟩ := continues above below
  rw [feed, if_pos inside, if_pos (Nat.le_refl 1), value]

theorem feed_more :
    feed (some ⟨bits, missing + 2, low, high⟩) (UInt8.ofNat (n + 128)) =
      ([], some ⟨bits * 64 + n, missing + 1, 0x80, 0xbf⟩) := by
  obtain ⟨inside, value⟩ := continues above below
  have more : ¬ missing + 2 ≤ 1 := by omega
  rw [feed, if_pos inside, if_neg more, value]
  rfl

end Continuation

theorem feed_none (b : UInt8) : feed none b = lead b := rfl

theorem scalarsFrom_cons (pending : Option Unfinished) (b : UInt8) (rest : List UInt8) :
    scalarsFrom pending (b :: rest) =
      (feed pending b).1 ++ scalarsFrom (feed pending b).2 rest := rfl

theorem tail_inside (x : Nat) :
    (0x80 : UInt8).toNat ≤ x % 64 + 128 ∧ x % 64 + 128 ≤ (0xbf : UInt8).toNat := by
  have small := Nat.mod_lt x (show 0 < 64 by decide)
  refine ⟨Nat.le_add_left _ _, ?_⟩
  simp
  omega

section Sequences

variable {v : Nat} (rest : List UInt8)

theorem scalarsFrom_one (small : v < 0x80) :
    scalarsFrom none (UInt8.ofNat v :: rest) = some (Char.ofNat v) :: scalarsFrom none rest := by
  have value : (UInt8.ofNat v).toNat = v := by
    rw [UInt8.toNat_ofNat']
    omega
  have ascii : UInt8.ofNat v < 0x80 := by
    rw [UInt8.lt_iff_toNat_lt, value]
    exact small
  rw [scalarsFrom_cons, feed_none, lead, if_pos ascii, value]
  rfl

theorem scalarsFrom_two (more : 0x80 ≤ v) (small : v < 0x800) :
    scalarsFrom none (UInt8.ofNat (v / 64 % 32 + 192) :: UInt8.ofNat (v % 64 + 128) :: rest) =
      some (Char.ofNat v) :: scalarsFrom none rest := by
  have first : lead (UInt8.ofNat (v / 64 % 32 + 192)) = _ := lead_two (by omega) (by omega)
  have last := feed_last (v / 64 % 32) (tail_inside v).1 (tail_inside v).2
  have whole : v / 64 % 32 * 64 + v % 64 = v := by omega
  simp only [scalarsFrom_cons, feed_none, first, last, whole, List.nil_append, List.cons_append]

theorem scalarsFrom_three (more : 0x800 ≤ v) (small : v < 0x10000)
    (scalar : v < 0xd800 ∨ 0xdfff < v) :
    scalarsFrom none (UInt8.ofNat (v / 4096 % 16 + 224) :: UInt8.ofNat (v / 64 % 64 + 128) ::
      UInt8.ofNat (v % 64 + 128) :: rest) = some (Char.ofNat v) :: scalarsFrom none rest := by
  have first : lead (UInt8.ofNat (v / 4096 % 16 + 224)) = _ := lead_three (by omega)
  have above : (if v / 4096 % 16 = 0 then 0xa0 else 0x80 : UInt8).toNat ≤
      v / 64 % 64 + 128 := by
    split <;> simp; omega
  have below : v / 64 % 64 + 128 ≤
      (if v / 4096 % 16 = 13 then 0x9f else 0xbf : UInt8).toNat := by
    split <;> simp <;> omega
  have second := feed_more (v / 4096 % 16) 0 above below
  have last := feed_last (v / 4096 % 16 * 64 + v / 64 % 64) (tail_inside v).1 (tail_inside v).2
  have whole : (v / 4096 % 16 * 64 + v / 64 % 64) * 64 + v % 64 = v := by omega
  simp only [scalarsFrom_cons, feed_none, first, second, last, whole, List.nil_append,
    List.cons_append]

theorem scalarsFrom_four (more : 0x10000 ≤ v) (small : v < 0x110000) :
    scalarsFrom none (UInt8.ofNat (v / 262144 % 8 + 240) :: UInt8.ofNat (v / 4096 % 64 + 128) ::
      UInt8.ofNat (v / 64 % 64 + 128) :: UInt8.ofNat (v % 64 + 128) :: rest) =
        some (Char.ofNat v) :: scalarsFrom none rest := by
  have first : lead (UInt8.ofNat (v / 262144 % 8 + 240)) = _ := lead_four (by omega)
  have above : (if v / 262144 % 8 = 0 then 0x90 else 0x80 : UInt8).toNat ≤
      v / 4096 % 64 + 128 := by
    split <;> simp; omega
  have below : v / 4096 % 64 + 128 ≤
      (if v / 262144 % 8 = 4 then 0x8f else 0xbf : UInt8).toNat := by
    split <;> simp <;> omega
  have second := feed_more (v / 262144 % 8) 1 above below
  have third := feed_more (v / 262144 % 8 * 64 + v / 4096 % 64) 0 (tail_inside (v / 64)).1
    (tail_inside (v / 64)).2
  have last := feed_last ((v / 262144 % 8 * 64 + v / 4096 % 64) * 64 + v / 64 % 64)
    (tail_inside v).1 (tail_inside v).2
  have whole : ((v / 262144 % 8 * 64 + v / 4096 % 64) * 64 + v / 64 % 64) * 64 + v % 64 = v := by
    omega
  simp only [scalarsFrom_cons, feed_none, first, second, third, last, whole, List.nil_append,
    List.cons_append]

end Sequences

theorem scalarsFrom_encoded (c : Char) (rest : List UInt8) :
    scalarsFrom none (String.utf8EncodeChar c ++ rest) = some c :: scalarsFrom none rest := by
  have valid : c.val.toNat < 0xd800 ∨ 0xdfff < c.val.toNat ∧ c.val.toNat < 0x110000 := c.valid
  have same : Char.ofNat c.val.toNat = c := Char.ofNat_toNat c
  rw [String.utf8EncodeChar]
  generalize c.val.toNat = v at valid same
  subst same
  split
  · next one => exact scalarsFrom_one rest (by omega)
  · split
    · next two => exact scalarsFrom_two rest (by omega) (by omega)
    · split
      · next three => exact scalarsFrom_three rest (by omega) (by omega) (by omega)
      · next four => exact scalarsFrom_four rest (by omega) (by omega)

theorem scalars_utf8 (s : String) : scalars (utf8 s) = s.toList.map some := by
  rw [scalars, utf8]
  induction s.toList with
  | nil => rfl
  | cons c rest ih => rw [List.flatMap_cons, scalarsFrom_encoded, ih, List.map_cons]

theorem ofUtf8Lossy_utf8 (s : String) : ofUtf8Lossy (utf8 s) = s := by
  rw [ofUtf8Lossy, scalars_utf8, List.map_map]
  exact (congrArg String.ofList (List.map_id s.toList)).trans String.ofList_toList

theorem length_utf8 (s : String) : (utf8 s).length = s.utf8ByteSize := by
  rw [← String.size_toByteArray, ← String.utf8Encode_toList, List.utf8Encode,
    List.size_toByteArray, utf8]

end NodeDiagnostics.Text
