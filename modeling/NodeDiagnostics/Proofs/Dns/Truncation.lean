import NodeDiagnostics.Proofs.Dns.Encoding

namespace NodeDiagnostics.Dns

theorem slice?_within {front rest : List UInt8} {start count : Nat}
    (inside : start + count ≤ front.length) :
    slice? (front ++ rest) start count = slice? front start count := by
  have within : start + count ≤ (front ++ rest).length := by
    rw [List.length_append]
    omega
  rw [slice?, slice?, if_pos inside, if_pos within,
    List.drop_append_of_le_length (by omega : start ≤ front.length),
    List.take_append_of_le_length (by rw [List.length_drop]; omega)]

theorem IpVersion.Carries.congr {v : IpVersion} {front rest rest' header : List UInt8}
    {source destination : Net.Address} (fixed : v.protocolAt < front.length)
    (addressed : v.sourceAt + v.addressSize + v.addressSize ≤ front.length)
    (carries : v.Carries (front ++ rest) header source destination) :
    v.Carries (front ++ rest') header source destination := by
  obtain ⟨⟨first, atFirst, number, size⟩, protocol, sender, receiver⟩ := carries
  have same {n : Nat} (inside : n < front.length) : (front ++ rest')[n]? = (front ++ rest)[n]? := by
    rw [List.getElem?_append_left inside, List.getElem?_append_left inside]
  refine ⟨⟨first, ?_, number, size⟩, ?_, ?_, ?_⟩
  · rw [same (by omega), atFirst]
  · rw [same fixed, protocol]
  · rw [slice?_within (by omega), ← sender, slice?_within (by omega)]
  · rw [slice?_within addressed, ← receiver, slice?_within addressed]

namespace Layout

def withRest (l : Layout) (rest : List UInt8) : Layout :=
  { l with inquiry := { l.inquiry with rest } }

def ipCore (l : Layout) : List UInt8 := (l.withRest []).ip

def core (l : Layout) : List UInt8 := (l.withRest []).bytes

theorem ip_withRest (l : Layout) (rest : List UInt8) : (l.withRest rest).ip = l.ipCore ++ rest := by
  simp [ipCore, withRest, ip, Inquiry.bytes, Inquiry.message, Inquiry.question]

theorem ip_eq_append (l : Layout) : l.ip = l.ipCore ++ l.inquiry.rest :=
  l.ip_withRest l.inquiry.rest

theorem bytes_withRest (l : Layout) (rest : List UInt8) :
    (l.withRest rest).bytes = l.core ++ rest := by
  rw [bytes, ip_withRest, ← List.append_assoc]
  rfl

theorem bytes_eq_append (l : Layout) : l.bytes = l.core ++ l.inquiry.rest :=
  l.bytes_withRest l.inquiry.rest

theorem length_ipCore (l : Layout) :
    l.ipCore.length = l.header.length + 22 + (nameBytes l.inquiry.labels).length := by
  simp [ipCore, withRest, ip, Inquiry.bytes, Inquiry.message, Inquiry.question]
  omega

/-- The fixed fields of a packet lie within its core: the header of IPv6 holds them, and behind even
the shortest header of IPv4 more is read than they take. -/
theorem Fits.fixed {l : Layout} (fits : l.Fits) :
    l.version.protocolAt < l.ipCore.length ∧
      l.version.sourceAt + l.version.addressSize + l.version.addressSize ≤ l.ipCore.length := by
  obtain ⟨first, -, -, size⟩ := fits.carries.version
  rw [length_ipCore, size]
  rcases fits.version with four | six
  · rw [four]
    simp only [ipv4]
    omega
  · rw [six]
    simp only [ipv6]
    omega

theorem Fits.withRest {l : Layout} (fits : l.Fits) (rest : List UInt8) :
    (l.withRest rest).Fits := by
  obtain ⟨fixed, addressed⟩ := fits.fixed
  obtain ⟨version, link, carries, port, asked, sized, short⟩ := fits
  refine ⟨version, link, ?_, port, asked, sized, short⟩
  rw [ip_withRest]
  rw [ip_eq_append] at carries
  exact carries.congr fixed addressed

theorem Fits.read {l : Layout} (fits : l.Fits) (rest : List UInt8) :
    ofFrame? (l.core ++ rest) = some l.packet := by
  rw [← bytes_withRest]
  exact ofFrame?_eq_some_iff.mpr ⟨l.withRest rest, rfl, fits.withRest rest, rfl⟩

theorem Fits.core_unique {l m : Layout} (fits : l.Fits) (fits' : m.Fits) {rest rest' : List UInt8}
    (same : l.core ++ rest = m.core ++ rest') : l.core = m.core := by
  rw [← bytes_withRest, ← bytes_withRest] at same
  have one := (fits.withRest rest).unique (fits'.withRest rest') same
  have cores : (l.withRest rest).core = (m.withRest rest').core := congrArg core one
  exact cores

end Layout

structure Settled (frame : List UInt8) (size : Nat) : Prop where
  within : size ≤ frame.length
  before : ∀ n < size, ofFrame? (frame.take n) = none
  after : ∀ n, size ≤ n → ofFrame? (frame.take n) = ofFrame? frame

theorem Layout.Fits.settled {l : Layout} (fits : l.Fits) : Settled l.bytes l.core.length := by
  have whole := l.bytes_eq_append
  constructor
  · rw [whole, List.length_append]
    omega
  · intro n short
    -- A core inside the part that was received would be the core of the whole frame.
    cases received : ofFrame? (l.bytes.take n) with
    | none => rfl
    | some p =>
      obtain ⟨m, part, fits', -⟩ := ofFrame?_eq_some_iff.mp received
      have continued : m.core ++ (m.inquiry.rest ++ l.bytes.drop n) = l.core ++ l.inquiry.rest := by
        rw [← List.append_assoc, ← m.bytes_eq_append, part, List.take_append_drop, whole]
      have size := congrArg List.length part
      rw [m.bytes_eq_append, fits'.core_unique fits continued, List.length_append,
        List.length_take] at size
      omega
  · intro n long
    rw [whole, List.take_append, List.take_of_length_le long, fits.read, fits.read]

theorem settled_of_refused {frame : List UInt8} (refused : ofFrame? frame = none) :
    Settled frame 0 := by
  refine ⟨Nat.zero_le _, fun n below => absurd below (Nat.not_lt_zero n), fun n _ => ?_⟩
  cases received : ofFrame? (frame.take n) with
  | none => rw [refused]
  | some p =>
    obtain ⟨l, part, fits, -⟩ := ofFrame?_eq_some_iff.mp received
    have read := fits.read (l.inquiry.rest ++ frame.drop n)
    rw [← List.append_assoc, ← l.bytes_eq_append, part, List.take_append_drop, refused] at read
    contradiction

theorem Settled.unique {frame : List UInt8} {p : Packet} {size size' : Nat}
    (read : ofFrame? frame = some p) (settled : Settled frame size)
    (settled' : Settled frame size') : size = size' := by
  have least {n m : Nat} (first : Settled frame n) (second : Settled frame m) : n ≤ m := by
    by_contra below
    have early := first.before m (by omega)
    rw [second.after m (Nat.le_refl m), read] at early
    contradiction
  exact Nat.le_antisymm (least settled settled') (least settled' settled)

/-- More bytes never change a packet, a part of a frame says nothing or what the whole says, and
there is one size from which on it says so. -/
theorem truncation_harmless (frame : List UInt8) :
    (∀ p, ofFrame? frame = some p → ∀ more, ofFrame? (frame ++ more) = some p) ∧
    (∀ front, front <+: frame → ofFrame? front = none ∨ ofFrame? front = ofFrame? frame) ∧
    ∃ size, Settled frame size ∧ ∀ p, ofFrame? frame = some p →
      (∀ size', Settled frame size' → size' = size) ∧ ∀ more, Settled (frame ++ more) size := by
  have settling : ∃ size, Settled frame size ∧ ∀ p, ofFrame? frame = some p →
      ∀ more, Settled (frame ++ more) size := by
    cases decoded : ofFrame? frame with
    | none => exact ⟨0, settled_of_refused decoded, nofun⟩
    | some p =>
      obtain ⟨l, rfl, fits, -⟩ := ofFrame?_eq_some_iff.mp decoded
      refine ⟨l.core.length, fits.settled, fun _ _ more => ?_⟩
      rw [l.bytes_eq_append, List.append_assoc, ← l.bytes_withRest]
      exact (fits.withRest (l.inquiry.rest ++ more)).settled
  obtain ⟨size, settled, further⟩ := settling
  refine ⟨?_, ?_, size, settled, fun p read => ⟨?_, further p read⟩⟩
  · intro p read more
    have again := (further p read more).after frame.length settled.within
    rw [List.take_left, read] at again
    exact again.symm
  · rintro front ⟨rest, rfl⟩
    have part : (front ++ rest).take front.length = front := List.take_left
    by_cases short : front.length < size
    · have silent := settled.before front.length short
      rw [part] at silent
      exact .inl silent
    · have same := settled.after front.length (by omega)
      rw [part] at same
      exact .inr same
  · intro size' settled'
    exact settled'.unique read settled

/-- A query for `a`, with the class of its question and two bytes of padding behind what is read. -/
def query : Layout where
  link := List.replicate 12 0 ++ [0x08, 0x00]
  version := ipv4
  header := [0x45, 0, 0, 47, 0, 1, 0, 0, 64, 17, 0, 0, 192, 0, 2, 1, 192, 0, 2, 53]
  source := .v4 #v[192, 0, 2, 1]
  destination := .v4 #v[192, 0, 2, 53]
  inquiry := {
    sourcePort := 41000, destinationPort := 53, length := 27, checksum := 0, id := 7
    flags := 0x0100, questions := 1, answers := 0, authorities := 0, additional := 0
    labels := [[0x61]], queryType := 1, rest := [0, 1, 0, 0] }

theorem query_fits : query.Fits where
  version := .inl rfl
  link := .plain rfl rfl (by decide)
  carries := ⟨⟨0x45, rfl, by decide, rfl⟩, rfl, rfl, rfl⟩
  asks := ⟨.inr rfl, by decide, by decide, by decide +kernel⟩

theorem query_truncated :
    ofFrame? query.bytes = some query.packet ∧
    ofFrame? (query.bytes ++ [0xff]) = some query.packet ∧
    (query.bytes.take 60 <+: query.bytes ∧ (ofFrame? (query.bytes.take 60) = none ∨
      ofFrame? (query.bytes.take 60) = ofFrame? query.bytes)) ∧
    Settled query.bytes 59 := by
  have read : ofFrame? query.bytes = some query.packet :=
    ofFrame?_eq_some_iff.mpr ⟨query, rfl, query_fits, rfl⟩
  obtain ⟨longer, parts, size, settled, further⟩ := truncation_harmless query.bytes
  have here : 59 = size := (further _ read).1 59 query_fits.settled
  have front : query.bytes.take 60 <+: query.bytes := List.take_prefix 60 _
  exact ⟨read, longer _ read [0xff], ⟨front, parts _ front⟩, here ▸ settled⟩

end NodeDiagnostics.Dns
