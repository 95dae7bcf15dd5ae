import Mathlib.Data.Nat.Bitwise
import NodeDiagnostics.Proofs.Dns.Layout

namespace NodeDiagnostics.Dns

structure Ethernet where
  addresses : Vector UInt8 12
  tag : Option UInt16

def Ethernet.bytes (e : Ethernet) (type : UInt16) : List UInt8 :=
  e.addresses.toList ++ match e.tag with
    | none => wordBytes type
    | some control => wordBytes 0x8100 ++ (wordBytes control ++ wordBytes type)

/-- An IPv4 header; its options fill whole words. -/
structure HeaderV4 where
  service : UInt8
  size : UInt16
  identification : UInt16
  fragment : UInt16
  hops : UInt8
  checksum : UInt16
  source : Vector UInt8 4
  destination : Vector UInt8 4
  options : List UInt8
  aligned : options.length % 4 = 0
  short : options.length ≤ 40

def HeaderV4.front (h : HeaderV4) : List UInt8 :=
  UInt8.ofNat (0x45 + h.options.length / 4) :: h.service :: (wordBytes h.size ++
    (wordBytes h.identification ++ (wordBytes h.fragment ++
      (h.hops :: protocolUdp :: wordBytes h.checksum))))

structure HeaderV6 where
  traffic : UInt8
  flow : Fin 0x100000
  size : UInt16
  hops : UInt8
  source : Vector UInt8 16
  destination : Vector UInt8 16

def HeaderV6.front (h : HeaderV6) : List UInt8 :=
  UInt8.ofNat (0x60 + h.traffic.toNat / 16) ::
    UInt8.ofNat (h.traffic.toNat % 16 * 16 + h.flow.val / 0x10000) ::
      (wordBytes (UInt16.ofNat h.flow.val) ++ (wordBytes h.size ++ [protocolUdp, h.hops]))

inductive Header where
  | v4 (h : HeaderV4)
  | v6 (h : HeaderV6)

namespace Header

def version : Header → IpVersion
  | v4 _ => ipv4
  | v6 _ => ipv6

def source : Header → Net.Address
  | v4 h => .v4 h.source
  | v6 h => .v6 h.source

def destination : Header → Net.Address
  | v4 h => .v4 h.destination
  | v6 h => .v6 h.destination

def front : Header → List UInt8
  | v4 h => h.front
  | v6 h => h.front

def options : Header → List UInt8
  | v4 h => h.options
  | v6 _ => []

def bytes (h : Header) : List UInt8 :=
  h.front ++ (h.source.octets ++ (h.destination.octets ++ h.options))

end Header

structure Frame where
  ethernet : Ethernet
  header : Header
  inquiry : Inquiry

namespace Frame

def layout (f : Frame) : Layout where
  link := f.ethernet.bytes f.header.version.type
  version := f.header.version
  header := f.header.bytes
  source := f.header.source
  destination := f.header.destination
  inquiry := f.inquiry

def bytes (f : Frame) : List UInt8 :=
  f.ethernet.bytes f.header.version.type ++ (f.header.bytes ++ f.inquiry.bytes)

end Frame

theorem Ethernet.link (e : Ethernet) {type : UInt16} (untagged : type ≠ 0x8100) :
    Link (e.bytes type) type := by
  obtain ⟨addresses, tag⟩ := e
  have behind (bytes : List UInt8) (n : Nat) :
      word? (addresses.toList ++ bytes) (12 + n) = word? bytes n := by
    have size : addresses.toList.length = 12 := addresses.length_toList
    simp [word?, List.getElem?_append_right, size, Nat.add_assoc]
  cases tag with
  | none =>
    refine .plain (by simp [bytes]) ?_ untagged
    rw [bytes, behind _ 0, ← List.append_nil (wordBytes type), word?_wordBytes]
  | some control =>
    refine .tagged (by simp [bytes]) ?_ ?_
    · rw [bytes, behind _ 0, word?_wordBytes]
    · rw [bytes, behind _ 4, word?_behind, word?_behind, ← List.append_nil (wordBytes type),
        word?_wordBytes]

theorem slice?_append {front middle rest : List UInt8} {start count : Nat}
    (before : front.length = start) (size : middle.length = count) :
    slice? (front ++ (middle ++ rest)) start count = some middle := by
  subst before size
  simp [slice?]

theorem Header.front_length (h : Header) : h.front.length = h.version.sourceAt := by
  cases h <;> rfl

theorem Header.source_length (h : Header) : h.source.octets.length = h.version.addressSize := by
  cases h with
  | v4 h => exact h.source.length_toList
  | v6 h => exact h.source.length_toList

theorem Header.destination_length (h : Header) :
    h.destination.octets.length = h.version.addressSize := by
  cases h with
  | v4 h => exact h.destination.length_toList
  | v6 h => exact h.destination.length_toList

theorem Header.first (h : Header) (rest : List UInt8) :
    ∃ first : UInt8, (h.bytes ++ rest)[0]? = some first ∧ first >>> 4 = h.version.number ∧
      h.bytes.length = h.version.headerSize first := by
  have size : h.bytes.length =
      h.version.sourceAt + h.version.addressSize + h.version.addressSize + h.options.length := by
    simp [bytes, h.front_length, h.source_length, h.destination_length]
    omega
  cases h with
  | v4 h =>
    have words : ∀ n ≤ 10, UInt8.ofNat (0x45 + n) >>> 4 = 4 ∧
        (UInt8.ofNat (0x45 + n) &&& 0xf).toNat = 5 + n := by decide
    have aligned := h.aligned
    have short := h.short
    obtain ⟨number, count⟩ := words (h.options.length / 4) (by omega)
    refine ⟨_, rfl, number, ?_⟩
    rw [size]
    simp only [version, ipv4, options, count]
    omega
  | v6 h =>
    have number : ∀ n < 16, UInt8.ofNat (0x60 + n) >>> 4 = 6 := by decide
    have traffic := h.traffic.toNat_lt
    exact ⟨_, rfl, number (h.traffic.toNat / 16) (by omega), size⟩

theorem Header.carries (h : Header) (rest : List UInt8) :
    h.version.Carries (h.bytes ++ rest) h.bytes h.source h.destination where
  version := h.first rest
  protocol := by cases h <;> rfl
  source := by
    rw [bytes, List.append_assoc, List.append_assoc]
    exact slice?_append h.front_length h.source_length
  destination := by
    have split : h.bytes ++ rest =
        (h.front ++ h.source.octets) ++ (h.destination.octets ++ (h.options ++ rest)) := by
      simp [bytes]
    rw [split]
    refine slice?_append ?_ h.destination_length
    rw [List.length_append, h.front_length, h.source_length]

theorem Header.version_eq (h : Header) : h.version = ipv4 ∨ h.version = ipv6 := by
  cases h with
  | v4 h => exact .inl rfl
  | v6 h => exact .inr rfl

theorem Header.untagged (h : Header) : h.version.type ≠ 0x8100 := by
  rcases h.version_eq with four | six
  · rw [four]
    decide
  · rw [six]
    decide

theorem Frame.fits (f : Frame) (asks : f.inquiry.Asks) : f.layout.Fits where
  version := f.header.version_eq
  link := f.ethernet.link f.header.untagged
  carries := f.header.carries f.inquiry.bytes
  asks := asks

theorem nameText_utf8 (names : List String) :
    nameText (names.map Text.utf8) =
      if names = [] then "." else String.join (names.map (· ++ ".")) := by
  cases names with
  | nil => rfl
  | cons first rest =>
    rw [if_neg (List.cons_ne_nil first rest)]
    simp [nameText, Function.comp_def, Text.ofUtf8Lossy_utf8]

theorem size_join_le (names : List String) :
    (String.join (names.map (· ++ "."))).utf8ByteSize ≤
      (nameBytes (names.map Text.utf8)).length := by
  induction names with
  | nil => decide
  | cons name names ih =>
    have dot : ".".utf8ByteSize = 1 := rfl
    simp only [List.map_cons, String.join_cons, String.utf8ByteSize_append, nameBytes_cons,
      List.length_cons, List.length_append, Text.length_utf8, dot]
    omega

theorem size_nameText_le (names : List String) :
    (nameText (names.map Text.utf8)).utf8ByteSize ≤ (nameBytes (names.map Text.utf8)).length := by
  rw [nameText_utf8]
  split
  · next root =>
    subst root
    decide
  · exact size_join_le names

theorem and_sign_ne_zero_iff (flags : UInt16) : flags &&& 0x8000 ≠ 0 ↔ 0x8000 ≤ flags.toNat := by
  have value : (flags &&& 0x8000).toNat = (flags.toNat.testBit 15).toNat * 2 ^ 15 := by
    rw [UInt16.toNat_and]
    exact Nat.and_two_pow flags.toNat 15
  have small := flags.toNat_lt
  rw [Nat.testBit_eq_decide_div_mod_eq] at value
  rw [Ne, ← UInt16.toNat_inj, value]
  by_cases top : flags.toNat / 2 ^ 15 % 2 = 1
  · rw [decide_eq_true top]
    exact iff_of_true (by decide) (by omega)
  · rw [decide_eq_false top]
    exact iff_of_false (by decide) (by omega)

theorem toNat_and_code (flags : UInt16) :
    (flags &&& 0xf).toUInt8.toNat = flags.toNat % 16 := by
  have value : (flags &&& 0xf).toNat = flags.toNat % 16 := by
    rw [UInt16.toNat_and]
    exact Nat.and_two_pow_sub_one_eq_mod flags.toNat 4
  rw [UInt16.toNat_toUInt8, value]
  omega

theorem Packet.responseCode_toEvent (p : Packet) (time : UInt64) :
    (p.toEvent time).responseCode.isSome = true ↔ p.direction = .response := by
  cases direction : p.direction <;> simp [toEvent, direction]

/-- A frame is read back with what was written into it. The direction is the first bit of the flags
and the response code the last four; the event has a response code exactly for a response. -/
theorem encoded_frame_read (f : Frame) {names : List String}
    (named : f.inquiry.labels = names.map Text.utf8)
    (sized : ∀ name ∈ names, 1 ≤ name.utf8ByteSize ∧ name.utf8ByteSize ≤ 63)
    (short : (nameBytes f.inquiry.labels).length ≤ 255)
    (port : f.inquiry.sourcePort = 53 ∨ f.inquiry.destinationPort = 53)
    (asked : 1 ≤ f.inquiry.questions) :
    ∃ p, ofFrame? f.bytes = some p ∧
      p.id = f.inquiry.id ∧
      (p.direction = .response ↔ 0x8000 ≤ f.inquiry.flags.toNat) ∧
      p.name = (if names = [] then "." else String.join (names.map (· ++ "."))) ∧
      p.queryType = f.inquiry.queryType ∧
      p.responseCode.toNat = f.inquiry.flags.toNat % 16 ∧
      p.source = ⟨f.header.source, f.inquiry.sourcePort⟩ ∧
      p.destination = ⟨f.header.destination, f.inquiry.destinationPort⟩ ∧
      ∀ time, (p.toEvent time).responseCode.isSome = true ↔ p.direction = .response := by
  have asks : f.inquiry.Asks := by
    refine ⟨port, ?_, ?_, ?_⟩
    · intro none
      rw [none] at asked
      exact absurd asked (by decide)
    · rw [named]
      refine List.forall_mem_map.mpr fun name member => ?_
      rw [Sized, Text.length_utf8]
      exact sized name member
    · rw [named] at short ⊢
      exact (size_nameText_le names).trans short
  refine ⟨f.layout.packet, ofFrame?_eq_some_iff.mpr ⟨f.layout, rfl, f.fits asks, rfl⟩,
    rfl, ?_, ?_, rfl, toNat_and_code _, rfl, rfl, Packet.responseCode_toEvent _⟩
  · rw [← and_sign_ne_zero_iff]
    dsimp only [Layout.packet, Inquiry.packet, Frame.layout]
    split
    · next top => exact iff_of_true rfl top
    · next low => exact iff_of_false (by decide) low
  · rw [← nameText_utf8, ← named]
    rfl

def names : List String := ["bücher", "example"]

/-- A response of a server behind a VLAN tag, with a word of options. -/
def answer : Frame where
  ethernet := ⟨Vector.replicate 12 0xab, some 7⟩
  header := .v4 {
    service := 0, size := 72, identification := 1, fragment := 0x4000, hops := 64, checksum := 0
    source := #v[10, 0, 0, 10], destination := #v[10, 244, 0, 5]
    options := [1, 1, 1, 0], aligned := by decide, short := by decide }
  inquiry := {
    sourcePort := 53, destinationPort := 41000, length := 45, checksum := 0, id := 0x1234
    flags := 0x8183, questions := 1, answers := 0, authorities := 0, additional := 0
    labels := names.map Text.utf8, queryType := 28, rest := [0, 1, 0xff] }

theorem answer_read :
    (∀ name ∈ names, 1 ≤ name.utf8ByteSize ∧ name.utf8ByteSize ≤ 63) ∧
    (nameBytes answer.inquiry.labels).length ≤ 255 ∧ answer.inquiry.sourcePort = 53 ∧
    1 ≤ answer.inquiry.questions ∧
    ∃ p, ofFrame? answer.bytes = some p ∧ p.direction = .response ∧
      p.name = "bücher.example." ∧ p.responseCode = 3 := by
  have sized : ∀ name ∈ names, 1 ≤ name.utf8ByteSize ∧ name.utf8ByteSize ≤ 63 := by
    decide +kernel
  have short : (nameBytes answer.inquiry.labels).length ≤ 255 := by decide +kernel
  have asked : 1 ≤ answer.inquiry.questions := by decide
  refine ⟨sized, short, rfl, asked, ?_⟩
  obtain ⟨p, read, -, direction, name, -, code, -⟩ :=
    encoded_frame_read answer rfl sized short (.inl rfl) asked
  refine ⟨p, read, direction.mpr (by decide), ?_, UInt8.toNat_inj.mp (code.trans (by decide))⟩
  rw [name]
  decide +kernel

end NodeDiagnostics.Dns
