import Mathlib.Data.List.Basic
import NodeDiagnostics.Dns.Name
import NodeDiagnostics.Proofs.Text.Utf8

namespace NodeDiagnostics.Dns

def nameBytes (labels : List (List UInt8)) : List UInt8 :=
  labels.flatMap (fun l => UInt8.ofNat l.length :: l) ++ [0]

def Sized (label : List UInt8) : Prop := 1 ≤ label.length ∧ label.length ≤ 63

instance (label : List UInt8) : Decidable (Sized label) := inferInstanceAs (Decidable (_ ∧ _))

theorem nameBytes_cons (label : List UInt8) (labels : List (List UInt8)) :
    nameBytes (label :: labels) = UInt8.ofNat label.length :: (label ++ nameBytes labels) := by
  simp [nameBytes]

theorem and_pointer_eq_zero_iff (n : UInt8) : n &&& 0xc0 = 0 ↔ n.toNat ≤ 63 := by
  have all : ∀ m < 256, UInt8.ofNat m &&& 0xc0 = 0 ↔ m ≤ 63 := by decide +kernel
  simpa using all n.toNat n.toNat_lt

theorem Sized.toNat_length {label : List UInt8} (sized : Sized label) :
    (UInt8.ofNat label.length).toNat = label.length := by
  have := sized.2
  rw [UInt8.toNat_ofNat']
  omega

theorem readLabels?_label {label : List UInt8} (sized : Sized label) (bytes : List UInt8) :
    readLabels? (UInt8.ofNat label.length :: (label ++ bytes)) =
      (readLabels? bytes).map fun (labels, rest) => (label :: labels, rest) := by
  have size := sized.toNat_length
  have labelled : UInt8.ofNat label.length ≠ 0 := by
    intro root
    rw [root] at size
    have := sized.1
    simp at size
    omega
  have plain : ¬ (UInt8.ofNat label.length &&& 0xc0 ≠ 0 ∨
      (label ++ bytes).length < (UInt8.ofNat label.length).toNat) := by
    rw [not_or, not_not, and_pointer_eq_zero_iff, size, List.length_append]
    exact ⟨sized.2, by omega⟩
  rw [readLabels?, if_neg labelled, if_neg plain, size, List.drop_left, List.take_left]
  cases readLabels? bytes <;> rfl

theorem readLabels?_nameBytes {labels : List (List UInt8)} (sized : ∀ l ∈ labels, Sized l)
    (rest : List UInt8) : readLabels? (nameBytes labels ++ rest) = some (labels, rest) := by
  induction labels with
  | nil =>
    simp [nameBytes, readLabels?]
  | cons label labels ih =>
    obtain ⟨first, sized⟩ := List.forall_mem_cons.mp sized
    rw [nameBytes_cons, List.cons_append, List.append_assoc, readLabels?_label first, ih sized]
    rfl

theorem readLabels?_sound {bytes rest : List UInt8} {labels : List (List UInt8)}
    (read : readLabels? bytes = some (labels, rest)) :
    bytes = nameBytes labels ++ rest ∧ ∀ l ∈ labels, Sized l := by
  induction bytes using readLabels?.induct generalizing labels with
  | case1 => simp [readLabels?] at read
  | case2 bytes =>
    rw [readLabels?, if_pos rfl] at read
    cases read
    exact ⟨rfl, by simp⟩
  | case3 n bytes labelled refused =>
    rw [readLabels?, if_neg labelled, if_pos refused] at read
    contradiction
  | case4 n bytes labelled accepted ih =>
    rw [readLabels?, if_neg labelled, if_neg accepted] at read
    rw [not_or, not_not, and_pointer_eq_zero_iff] at accepted
    simp only [Option.bind_eq_bind, Option.bind_eq_some_iff] at read
    obtain ⟨⟨others, behind⟩, read, same⟩ := read
    cases same
    obtain ⟨split, sized⟩ := ih read
    have size : (bytes.take n.toNat).length = n.toNat := by
      rw [List.length_take]
      omega
    have named : n.toNat ≠ 0 := fun root => labelled (UInt8.toNat_inj.mp root)
    refine ⟨?_, List.forall_mem_cons.mpr ⟨⟨?_, ?_⟩, sized⟩⟩
    · rw [nameBytes_cons, size, UInt8.ofNat_toNat, List.cons_append, List.append_assoc, ← split,
        List.take_append_drop]
    · omega
    · omega

theorem readLabels?_eq_some_iff {bytes rest : List UInt8} {labels : List (List UInt8)} :
    readLabels? bytes = some (labels, rest) ↔
      bytes = nameBytes labels ++ rest ∧ ∀ l ∈ labels, Sized l :=
  ⟨readLabels?_sound, fun ⟨split, sized⟩ => split ▸ readLabels?_nameBytes sized rest⟩

/-- One wire form holds one sequence of labels. -/
theorem nameBytes_unique {first second : List (List UInt8)} {rest more : List UInt8}
    (sized : ∀ l ∈ first, Sized l) (sized' : ∀ l ∈ second, Sized l)
    (same : nameBytes first ++ rest = nameBytes second ++ more) : first = second ∧ rest = more := by
  have read := readLabels?_nameBytes sized rest
  rw [same, readLabels?_nameBytes sized' more] at read
  cases read
  exact ⟨rfl, rfl⟩

theorem readName?_eq_some_iff {bytes rest : List UInt8} {name : String} :
    readName? bytes = some (name, rest) ↔
      ∃ labels, bytes = nameBytes labels ++ rest ∧ (∀ l ∈ labels, Sized l) ∧
        name = nameText labels ∧ name.utf8ByteSize ≤ maxNameSize := by
  simp only [readName?, Option.bind_eq_bind, Option.bind_eq_some_iff, Prod.exists,
    readLabels?_eq_some_iff]
  constructor
  · rintro ⟨labels, behind, ⟨split, sized⟩, accepted⟩
    split at accepted
    · next short =>
      cases accepted
      exact ⟨labels, split, sized, rfl, short⟩
    · contradiction
  · rintro ⟨labels, split, sized, rfl, short⟩
    exact ⟨labels, rest, ⟨split, sized⟩, if_pos short⟩

end NodeDiagnostics.Dns
