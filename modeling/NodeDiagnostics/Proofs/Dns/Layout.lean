import NodeDiagnostics.Proofs.Dns.Inquiry

/-!
The parts of a frame: the Ethernet header, the header of the internet packet, and the datagram in
it. A frame is accepted exactly if it falls into such parts, and it does so in one way.
-/
namespace NodeDiagnostics

theorem Net.Address.ofOctets?_eq_some_iff {octets : List UInt8} {a : Address} :
    ofOctets? octets = some a ↔ a.octets = octets := by
  constructor
  · intro read
    unfold ofOctets? at read
    split at read
    · cases read
      rfl
    · split at read
      · cases read
        rfl
      · contradiction
  · rintro rfl
    cases a with
    | v4 o =>
      have four : (Address.v4 o).octets.length = 4 := o.length_toList
      rw [ofOctets?, dif_pos four]
      rfl
    | v6 o =>
      have sixteen : (Address.v6 o).octets.length = 16 := o.length_toList
      have four : ¬ (Address.v6 o).octets.length = 4 := by omega
      rw [ofOctets?, dif_neg four, dif_pos sixteen]
      rfl

theorem Net.Address.ofOctets?_octets (a : Address) : ofOctets? a.octets = some a :=
  ofOctets?_eq_some_iff.mpr rfl

namespace Dns

theorem word?_append {bytes : List UInt8} {n : Nat} (inside : n + 2 ≤ bytes.length)
    (rest : List UInt8) : word? (bytes ++ rest) n = word? bytes n := by
  simp [word?, List.getElem?_append_left (show n < bytes.length by omega),
    List.getElem?_append_left (show n + 1 < bytes.length by omega)]

structure IpVersion where
  number : UInt8
  type : UInt16
  protocolAt : Nat
  sourceAt : Nat
  addressSize : Nat
  headerSize : (first : UInt8) → Nat

def ipv4 : IpVersion := ⟨4, 0x0800, 9, 12, 4, fun first => (first &&& 0xf).toNat * 4⟩

def ipv6 : IpVersion := ⟨6, 0x86dd, 6, 8, 16, fun _ => 40⟩

namespace IpVersion

variable (v : IpVersion)

/-- A packet that carries UDP between two addresses, behind a header of the size that it states. -/
structure Carries (ip header : List UInt8) (source destination : Net.Address) : Prop where
  version : ∃ first : UInt8, ip[0]? = some first ∧ first >>> 4 = v.number ∧
    header.length = v.headerSize first
  protocol : ip[v.protocolAt]? = some protocolUdp
  source : slice? ip v.sourceAt v.addressSize = some source.octets
  destination : slice? ip (v.sourceAt + v.addressSize) v.addressSize = some destination.octets

def datagram? (ip : List UInt8) : Option Datagram := do
  let first ← byte? ip 0
  let protocol ← byte? ip v.protocolAt
  if first >>> 4 ≠ v.number ∨ protocol ≠ protocolUdp then none
  else
    let source ← Net.Address.ofOctets? (← slice? ip v.sourceAt v.addressSize)
    let destination ← Net.Address.ofOctets?
      (← slice? ip (v.sourceAt + v.addressSize) v.addressSize)
    let bytes ← suffix? ip (v.headerSize first)
    some ⟨source, destination, bytes⟩

theorem datagram?_eq_some_iff {ip : List UInt8} {d : Datagram} :
    v.datagram? ip = some d ↔
      ∃ header, ip = header ++ d.bytes ∧ v.Carries ip header d.source d.destination := by
  simp only [datagram?, byte?, Option.bind_eq_bind, Option.bind_eq_some_iff]
  constructor
  · rintro ⟨first, atFirst, protocol, atProtocol, read⟩
    split at read
    · contradiction
    · next udp =>
      rw [not_or, not_not, not_not] at udp
      simp only [Option.bind_eq_some_iff, Net.Address.ofOctets?_eq_some_iff] at read
      obtain ⟨_, sender, source, rfl, _, receiver, destination, rfl, bytes, behind, same⟩ := read
      cases same
      obtain ⟨header, split, size⟩ := suffix?_eq_some_iff.mp behind
      exact ⟨header, split, ⟨first, atFirst, udp.1, size⟩, udp.2 ▸ atProtocol, sender, receiver⟩
  · rintro ⟨header, split, ⟨first, atFirst, number, size⟩, protocol, source, destination⟩
    have udp : ¬ (first >>> 4 ≠ v.number ∨ protocolUdp ≠ protocolUdp) := by simp [number]
    refine ⟨first, atFirst, protocolUdp, protocol, ?_⟩
    rw [if_neg udp, source, destination, suffix?_eq_some_iff.mpr ⟨header, split, size⟩]
    simp only [Option.bind_some, Net.Address.ofOctets?_octets]

theorem ipv4?_eq (ip : List UInt8) : ipv4? ip = ipv4.datagram? ip := rfl

theorem ipv6?_eq (ip : List UInt8) : ipv6? ip = ipv6.datagram? ip := rfl

end IpVersion

inductive Link (link : List UInt8) (type : UInt16) : Prop where
  | plain (size : link.length = 14) (named : word? link 12 = some type) (untagged : type ≠ 0x8100)
  | tagged (size : link.length = 18) (tag : word? link 12 = some 0x8100)
      (named : word? link 16 = some type)

def linked? (frame : List UInt8) : Option (UInt16 × Nat) := do
  let tag ← word? frame 12
  if tag = 0x8100 then (word? frame 16).map (·, 18) else some (tag, 14)

theorem linked?_eq_some_iff {link ip : List UInt8} {type : UInt16} :
    linked? (link ++ ip) = some (type, link.length) ↔ Link link type := by
  rw [linked?, Option.bind_eq_bind, Option.bind_eq_some_iff]
  constructor
  · rintro ⟨tag, named, read⟩
    split at read
    · next tagged =>
      obtain ⟨type, inner, same⟩ := Option.map_eq_some_iff.mp read
      obtain ⟨rfl, size⟩ := Prod.mk.inj same
      rw [word?_append (by omega)] at named inner
      exact .tagged size.symm (tagged ▸ named) inner
    · next untagged =>
      obtain ⟨rfl, size⟩ := Prod.mk.inj (Option.some.inj read)
      rw [word?_append (by omega)] at named
      exact .plain size.symm named untagged
  · intro link
    cases link with
    | plain size named untagged =>
      exact ⟨type, by rw [word?_append (by omega), named], by rw [if_neg untagged, size]⟩
    | tagged size tag named =>
      refine ⟨0x8100, by rw [word?_append (by omega), tag], ?_⟩
      rw [if_pos rfl, word?_append (by omega), named, size]
      rfl

theorem datagram?_eq_bind (frame : List UInt8) :
    datagram? frame = (linked? frame).bind fun l => (suffix? frame l.2).bind fun ip =>
      if l.1 = 0x0800 then ipv4.datagram? ip
      else if l.1 = 0x86dd then ipv6.datagram? ip else none := by
  simp only [← IpVersion.ipv4?_eq, ← IpVersion.ipv6?_eq]
  rw [datagram?, linked?]
  cases word? frame 12 with
  | none => rfl
  | some tag => by_cases tagged : tag = 0x8100 <;> simp [tagged]

theorem datagram?_eq_some_iff {frame : List UInt8} {d : Datagram} :
    datagram? frame = some d ↔
      ∃ link v header, (v = ipv4 ∨ v = ipv6) ∧ link ++ (header ++ d.bytes) = frame ∧
        Link link v.type ∧ v.Carries (header ++ d.bytes) header d.source d.destination := by
  rw [datagram?_eq_bind, Option.bind_eq_some_iff]
  constructor
  · rintro ⟨⟨type, start⟩, linked, read⟩
    obtain ⟨ip, behind, carried⟩ := Option.bind_eq_some_iff.mp read
    obtain ⟨link, rfl, rfl⟩ := suffix?_eq_some_iff.mp behind
    have framed := linked?_eq_some_iff.mp linked
    dsimp only at carried
    split at carried
    · next four =>
      subst four
      obtain ⟨header, rfl, carries⟩ := ipv4.datagram?_eq_some_iff.mp carried
      exact ⟨link, ipv4, header, .inl rfl, rfl, framed, carries⟩
    · split at carried
      · next six =>
        subst six
        obtain ⟨header, rfl, carries⟩ := ipv6.datagram?_eq_some_iff.mp carried
        exact ⟨link, ipv6, header, .inr rfl, rfl, framed, carries⟩
      · contradiction
  · rintro ⟨link, v, header, version, rfl, linked, carries⟩
    refine ⟨(v.type, link.length), linked?_eq_some_iff.mpr linked, ?_⟩
    rw [suffix?_eq_some_iff.mpr ⟨link, rfl, rfl⟩, Option.bind_some]
    have read := v.datagram?_eq_some_iff.mpr ⟨header, rfl, carries⟩
    rcases version with rfl | rfl
    · exact read
    · exact read

structure Layout where
  link : List UInt8
  version : IpVersion
  header : List UInt8
  source : Net.Address
  destination : Net.Address
  inquiry : Inquiry

namespace Layout

def ip (l : Layout) : List UInt8 := l.header ++ l.inquiry.bytes

def bytes (l : Layout) : List UInt8 := l.link ++ l.ip

def packet (l : Layout) : Packet := l.inquiry.packet l.source l.destination

/-- What the reader asks of a frame. -/
structure Fits (l : Layout) : Prop where
  version : l.version = ipv4 ∨ l.version = ipv6
  link : Link l.link l.version.type
  carries : l.version.Carries l.ip l.header l.source l.destination
  asks : l.inquiry.Asks

end Layout

theorem ofFrame?_eq_some_iff {frame : List UInt8} {p : Packet} :
    ofFrame? frame = some p ↔ ∃ l : Layout, l.bytes = frame ∧ l.Fits ∧ p = l.packet := by
  rw [ofFrame?_eq_bind, Option.bind_eq_some_iff]
  constructor
  · rintro ⟨⟨source, destination, bytes⟩, read, asked⟩
    obtain ⟨q, rfl, asks, rfl⟩ := inquiry?_eq_some_iff.mp asked
    obtain ⟨link, v, header, version, rfl, linked, carries⟩ := datagram?_eq_some_iff.mp read
    exact ⟨⟨link, v, header, source, destination, q⟩, rfl, ⟨version, linked, carries, asks⟩, rfl⟩
  · rintro ⟨l, rfl, fits, rfl⟩
    refine ⟨⟨l.source, l.destination, l.inquiry.bytes⟩, ?_,
      inquiry?_eq_some_iff.mpr ⟨l.inquiry, rfl, fits.asks, rfl⟩⟩
    exact datagram?_eq_some_iff.mpr
      ⟨l.link, l.version, l.header, fits.version, rfl, fits.link, fits.carries⟩

theorem Link.unique {link link' ip ip' : List UInt8} {type type' : UInt16} (framed : Link link type)
    (framed' : Link link' type') (same : link ++ ip = link' ++ ip') :
    link = link' ∧ ip = ip' ∧ type = type' := by
  have read : linked? (link ++ ip) = some (type, link.length) := linked?_eq_some_iff.mpr framed
  rw [same, linked?_eq_some_iff.mpr framed'] at read
  obtain ⟨rfl, size⟩ := Prod.mk.inj (Option.some.inj read)
  obtain ⟨rfl, rfl⟩ := List.append_inj same size.symm
  exact ⟨rfl, rfl, rfl⟩

theorem IpVersion.Carries.unique {v : IpVersion} {header header' bytes bytes' : List UInt8}
    {source source' destination destination' : Net.Address}
    (carries : v.Carries (header ++ bytes) header source destination)
    (carries' : v.Carries (header' ++ bytes') header' source' destination')
    (same : header ++ bytes = header' ++ bytes') :
    header = header' ∧ bytes = bytes' ∧ source = source' ∧ destination = destination' := by
  have read := (v.datagram?_eq_some_iff (d := ⟨source, destination, bytes⟩)).mpr
    ⟨header, rfl, carries⟩
  rw [same, (v.datagram?_eq_some_iff (d := ⟨source', destination', bytes'⟩)).mpr
    ⟨header', rfl, carries'⟩] at read
  cases read
  exact ⟨List.append_cancel_right same, rfl, rfl, rfl⟩

theorem IpVersion.type_injective {v w : IpVersion} (version : v = ipv4 ∨ v = ipv6)
    (version' : w = ipv4 ∨ w = ipv6) (same : v.type = w.type) : v = w := by
  rcases version with rfl | rfl <;> rcases version' with rfl | rfl
  · rfl
  · exact absurd same (by decide)
  · exact absurd same (by decide)
  · rfl

/-- A frame falls into its parts in one way. -/
theorem Layout.Fits.unique {l m : Layout} (fits : l.Fits) (fits' : m.Fits)
    (same : l.bytes = m.bytes) : l = m := by
  obtain ⟨link, v, header, source, destination, q⟩ := l
  obtain ⟨link', w, header', source', destination', r⟩ := m
  obtain ⟨rfl, inside, type⟩ := fits.link.unique fits'.link same
  obtain rfl := IpVersion.type_injective fits.version fits'.version type
  obtain ⟨rfl, behind, rfl, rfl⟩ := fits.carries.unique fits'.carries inside
  obtain rfl := Inquiry.bytes_unique fits.asks.sized fits'.asks.sized behind
  rfl

end Dns
end NodeDiagnostics
