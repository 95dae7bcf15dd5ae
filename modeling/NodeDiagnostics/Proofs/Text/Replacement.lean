import Mathlib.Data.String.Basic
import NodeDiagnostics.Proofs.Text.Utf8

namespace NodeDiagnostics.Text

def shownSize (pieces : List (Option Char)) : Nat :=
  String.utf8Len (pieces.map fun c => c.getD '\ufffd')

theorem shownSize_append (first second : List (Option Char)) :
    shownSize (first ++ second) = shownSize first + shownSize second := by
  induction first with
  | nil => simp [shownSize]
  | cons c first ih =>
    simp only [shownSize, List.cons_append, List.map_cons, String.utf8Len_cons] at ih ⊢
    omega

theorem shownSize_some (c : Char) : shownSize [some c] = c.utf8Size := Nat.zero_add _

theorem shownSize_none : shownSize [none] = 3 := rfl

theorem size_ofUtf8Lossy (bytes : List UInt8) :
    (ofUtf8Lossy bytes).utf8ByteSize = shownSize (scalars bytes) :=
  String.utf8ByteSize_ofList _

theorem size_ofNat {v : Nat} (valid : v.isValidChar) :
    (Char.ofNat v).utf8Size =
      if v < 0x80 then 1 else if v < 0x800 then 2 else if v < 0x10000 then 3 else 4 := by
  have value : (Char.ofNat v).val.toNat = v := by
    rw [Char.ofNat, dif_pos valid]
    rfl
  simp only [Char.utf8Size, UInt32.le_iff_toNat_le, value, UInt32.toNat_ofNatLT, ← Nat.lt_succ_iff]

def Takes (count v : Nat) : Prop := v.isValidChar ∧ count ≤ (Char.ofNat v).utf8Size

theorem takes_two {v : Nat} (low : 0x80 ≤ v) (high : v < 0x800) : Takes 2 v := by
  have valid : v.isValidChar := .inl (by omega)
  refine ⟨valid, ?_⟩
  rw [size_ofNat valid]
  split_ifs <;> omega

theorem takes_three {v : Nat} (low : 0x800 ≤ v) (high : v < 0x10000)
    (scalar : v < 0xd800 ∨ 0xdfff < v) : Takes 3 v := by
  have valid : v.isValidChar := by
    unfold Nat.isValidChar
    omega
  refine ⟨valid, ?_⟩
  rw [size_ofNat valid]
  split_ifs <;> omega

theorem takes_four {v : Nat} (low : 0x10000 ≤ v) (high : v < 0x110000) : Takes 4 v := by
  have valid : v.isValidChar := .inr ⟨by omega, high⟩
  refine ⟨valid, ?_⟩
  rw [size_ofNat valid]
  split_ifs <;> omega

/-- A sequence of which some bytes were read. Whatever completes it is a scalar value that takes
those bytes and the missing ones. -/
structure Opened (count : Nat) (p : Unfinished) : Prop where
  more : 1 ≤ p.missing
  short : count + p.missing ≤ 4
  continuing : 0x80 ≤ p.low.toNat
  completed : ∀ v, (p.bits * 64 + (p.low.toNat - 0x80)) * 64 ^ (p.missing - 1) ≤ v →
    v < (p.bits * 64 + (p.high.toNat - 0x80) + 1) * 64 ^ (p.missing - 1) →
    Takes (count + p.missing) v

def Held (count : Nat) : Option Unfinished → Prop
  | none => count = 0
  | some p => Opened count p

section Openings

variable {n : Nat} {low high : UInt8} (continuing : 0x80 ≤ low.toNat) (ending : high.toNat ≤ 0xbf)

include continuing ending

theorem opened_two (longer : 2 ≤ n) (short : n < 32) : Opened 1 ⟨n, 1, low, high⟩ where
  more := Nat.le_refl 1
  short := Nat.le_add_left 2 2
  continuing := continuing
  completed v above below := by
    dsimp only at above below
    exact takes_two (by omega) (by omega)

theorem opened_three (short : n < 16) (longer : n = 0 → 0xa0 ≤ low.toNat)
    (scalar : n = 13 → high.toNat ≤ 0x9f) : Opened 1 ⟨n, 2, low, high⟩ where
  more := Nat.le_add_left 1 1
  short := Nat.le_add_left 3 1
  continuing := continuing
  completed v above below := by
    dsimp only at above below
    exact takes_three (by omega) (by omega) (by omega)

theorem opened_four (short : n < 5) (longer : n = 0 → 0x90 ≤ low.toNat)
    (scalar : n = 4 → high.toNat ≤ 0x8f) : Opened 1 ⟨n, 3, low, high⟩ where
  more := Nat.le_add_left 1 2
  short := Nat.le_refl 4
  continuing := continuing
  completed v above below := by
    dsimp only at above below
    exact takes_four (by omega) (by omega)

end Openings

theorem lead_held (b : UInt8) :
    ∃ count, Held count (lead b).2 ∧ 1 ≤ shownSize (lead b).1 + count := by
  have shown : ∀ {p}, Opened 1 p → ∃ count, Held count (some p) ∧ 1 ≤ shownSize [] + count :=
    fun opened => ⟨1, opened, by decide⟩
  unfold lead
  simp only [UInt8.lt_iff_toNat_lt, UInt8.le_iff_toNat_le, ← UInt8.toNat_inj]
  split_ifs with ascii two e0 ed three f0 four f4
  · exact ⟨0, rfl, (shownSize_some _).symm ▸ Char.utf8Size_pos _⟩
  · change 194 ≤ b.toNat ∧ b.toNat ≤ 223 at two
    exact shown (opened_two (by decide) (by decide) (by omega) (by omega))
  · exact shown (opened_three (by decide) (by decide) (by decide) (by decide) (by decide))
  · exact shown (opened_three (by decide) (by decide) (by decide) (by decide) (by decide))
  · change ¬ b.toNat = 224 at e0
    change ¬ b.toNat = 237 at ed
    change 225 ≤ b.toNat ∧ b.toNat ≤ 239 at three
    exact shown (opened_three (by decide) (by decide) (by omega) (by omega) (by omega))
  · exact shown (opened_four (by decide) (by decide) (by decide) (by decide) (by decide))
  · change 241 ≤ b.toNat ∧ b.toNat ≤ 243 at four
    exact shown (opened_four (by decide) (by decide) (by omega) (by omega) (by omega))
  · exact shown (opened_four (by decide) (by decide) (by decide) (by decide) (by decide))
  · exact ⟨0, rfl, by decide⟩

theorem Opened.continued {count bits missing : Nat} {low high b : UInt8}
    (opened : Opened count ⟨bits, missing + 2, low, high⟩) (above : low.toNat ≤ b.toNat)
    (below : b.toNat ≤ high.toNat) :
    Opened (count + 1) ⟨bits * 64 + (b.toNat - 0x80), missing + 1, 0x80, 0xbf⟩ where
  more := Nat.le_add_left 1 missing
  short := by
    have := opened.short
    dsimp only at this ⊢
    omega
  continuing := by
    change 0x80 ≤ (0x80 : UInt8).toNat
    decide
  completed v least most := by
    -- What stays possible lies within what was possible, a byte of six bits further on.
    have continuing := opened.continuing
    have completed := opened.completed v
    have bounds : (0x80 : UInt8).toNat - 0x80 = 0 ∧ (0xbf : UInt8).toNat - 0x80 + 1 = 64 := by
      decide
    have width : 64 ^ (missing + 1) = 64 * 64 ^ missing := Nat.pow_succ'
    have lower := Nat.mul_le_mul_right (64 ^ (missing + 1))
      (show bits * 64 + (low.toNat - 0x80) ≤ bits * 64 + (b.toNat - 0x80) by omega)
    have upper := Nat.mul_le_mul_right (64 ^ (missing + 1))
      (show bits * 64 + (b.toNat - 0x80) + 1 ≤ bits * 64 + (high.toNat - 0x80) + 1 by omega)
    have all : count + 1 + (missing + 1) = count + (missing + 2) := by omega
    dsimp only at least most ⊢
    rw [bounds.1, Nat.add_zero, Nat.mul_assoc, Nat.add_sub_cancel, ← width] at least
    rw [Nat.add_assoc, bounds.2, ← Nat.succ_mul, Nat.mul_assoc, Nat.add_sub_cancel, ← width] at most
    rw [all]
    exact completed (lower.trans least) (most.trans_le upper)

theorem Opened.feed_held {count : Nat} {p : Unfinished} (opened : Opened count p) (b : UInt8) :
    ∃ after, Held after (feed (some p) b).2 ∧
      count + 1 ≤ shownSize (feed (some p) b).1 + after := by
  by_cases inside : p.low ≤ b ∧ b ≤ p.high
  · have above := UInt8.le_iff_toNat_le.mp inside.1
    have below := UInt8.le_iff_toNat_le.mp inside.2
    obtain ⟨bits, missing, low, high⟩ := p
    rw [feed, if_pos inside]
    rcases missing with _ | _ | missing
    · exact absurd opened.more (Nat.not_succ_le_zero 0)
    · have continuing := opened.continuing
      have completed := opened.completed (bits * 64 + (b.toNat - 0x80))
      simp only [Nat.zero_add, Nat.sub_self, Nat.pow_zero, Nat.mul_one]
        at above below continuing completed
      obtain ⟨-, takes⟩ := completed (by omega) (by omega)
      refine ⟨0, rfl, ?_⟩
      rw [if_pos (Nat.le_refl 1), shownSize_some]
      dsimp only [Nat.add_zero]
      exact takes
    · have unfinished : ¬ missing + 2 ≤ 1 := by omega
      rw [if_neg unfinished]
      exact ⟨count + 1, opened.continued above below, Nat.le_add_left _ _⟩
  · -- The piece that breaks off is replaced, and it was shorter than four bytes.
    have short := opened.short
    have more := opened.more
    rw [feed, if_neg inside]
    obtain ⟨after, held, size⟩ := lead_held b
    refine ⟨after, held, ?_⟩
    change count + 1 ≤ shownSize ([none] ++ (lead b).1) + after
    rw [shownSize_append, shownSize_none]
    omega

theorem length_le_shownSize (bytes : List UInt8) {pending : Option Unfinished} {count : Nat}
    (held : Held count pending) : count + bytes.length ≤ shownSize (scalarsFrom pending bytes) := by
  induction bytes generalizing pending count with
  | nil =>
    cases pending with
    | none => exact Nat.le_of_eq held
    | some p =>
      have more := held.more
      have short := held.short
      change count ≤ 3
      omega
  | cons b rest ih =>
    obtain ⟨after, held, size⟩ : ∃ after, Held after (feed pending b).2 ∧
        count + 1 ≤ shownSize (feed pending b).1 + after := by
      cases pending with
      | none =>
        cases held
        exact lead_held b
      | some p => exact held.feed_held b
    have later := ih held
    rw [scalarsFrom_cons, shownSize_append, List.length_cons]
    omega

/-- A text shown for bytes is never shorter than they are. -/
theorem length_le_size_ofUtf8Lossy (bytes : List UInt8) :
    bytes.length ≤ (ofUtf8Lossy bytes).utf8ByteSize := by
  have size := length_le_shownSize bytes (show Held 0 none from rfl)
  rwa [Nat.zero_add, ← scalars, ← size_ofUtf8Lossy] at size

end NodeDiagnostics.Text
