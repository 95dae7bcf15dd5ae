import NodeDiagnostics.Event
import NodeDiagnostics.Proofs.Json.Reading

namespace NodeDiagnostics

open Json (Plain)

namespace Context

theorem plain_members (c : Context) : ∀ m ∈ c.members, Plain m.2 := by
  intro m member
  rcases List.mem_cons.mp member with rfl | known
  · exact .text c.node
  · obtain ⟨n, -, kept⟩ := List.mem_filterMap.mp known
    split at kept
    · contradiction
    · cases kept
      exact .text n.2

/-- What an event's container adds to its fields: those of the container's names that are not empty,
unless it shares the node's network. -/
def place : Option Container → List (String × Json)
  | none => []
  | some c =>
    if c.hostNetwork then []
    else [("namespace", c.namespaceName), ("pod", c.pod), ("container", c.name)].filterMap fun m =>
      if m.2 = "" then none else some (m.1, .text m.2)

theorem names_members (c : Context) :
    (c.members.map (·.1)).Sublist ["node", "namespace", "pod", "container"] := by
  by_cases noNamespace : c.namespaceName = "" <;> by_cases noPod : c.pod = "" <;>
    by_cases noContainer : c.container = "" <;>
      simp [members, noNamespace, noPod, noContainer]

theorem not_mem_members (c : Context) {name : String}
    (other : name ∉ ["node", "namespace", "pod", "container"]) (value : Json) :
    (name, value) ∉ c.members := fun member =>
  other (c.names_members.subset (List.mem_map_of_mem (f := (·.1)) member))

theorem ofJson?_members (c : Context) {rest : List (String × Json)}
    (other : ∀ m ∈ rest, m.1 ∉ ["node", "namespace", "pod", "container"]) :
    ofJson? (.object (c.members ++ rest)) = some c := by
  have absent : ∀ name ∈ ["node", "namespace", "pod", "container"],
      rest.find? (·.1 = name) = none := by
    intro name known
    refine List.find?_eq_none.mpr fun m member same => ?_
    exact other m member (of_decide_eq_true same ▸ known)
  simp only [List.forall_mem_cons] at absent
  obtain ⟨node, inside, pod, container⟩ := c
  by_cases noNamespace : inside = "" <;> by_cases noPod : pod = "" <;>
    by_cases noContainer : container = "" <;>
      simp [ofJson?, textOrEmpty?, members, Json.member?, Json.text?, absent, noNamespace, noPod,
        noContainer]

theorem ofJson?_sorted {members : List (String × Json)} (distinct : (members.map (·.1)).Nodup) :
    ofJson? (.object (Json.sorted members)) = ofJson? (.object members) := by
  simp only [ofJson?, textOrEmpty?, Json.member?_sorted distinct]

theorem enrich_members (node : String) (owner : Option Container) :
    (enrich .empty node owner).members = ("node", .text node) :: place owner := by
  cases owner with
  | none => simp [enrich, members, empty, place]
  | some c => cases shared : c.hostNetwork <;> simp [enrich, members, empty, place, shared]

end Context

theorem Json.numberBelow?_eq_some {j : Json} {name : String} {n limit : Nat} (fits : n < limit)
    (found : j.member? name = some (.integer n)) : j.numberBelow? name limit = some n := by
  have inside : (0 : Int) ≤ n ∧ (n : Int) < limit := by omega
  simp [numberBelow?, found, Json.integer?, inside]

theorem Direction.ofText?_text (d : Direction) : ofText? d.text = some d := by
  cases d <;> rfl

theorem TcpOperation.ofText?_text (o : TcpOperation) : ofText? o.text = some o := by
  cases o <;> rfl

namespace TraceEvent

variable {ε : Type} [TraceEvent ε] {ofJson? : Json → Option ε}

def ofText? (ofJson? : Json → Option ε) (text : String) : Option ε := do
  let j ← Json.read? text
  let _ ← j.member? "node"
  ofJson? j

theorem ofText?_text {e : ε} (plain : ∀ m ∈ members e, Plain m.2)
    (distinct : ((members e).map (·.1)).Nodup) (located : ∃ node, ("node", node) ∈ members e)
    (described : ofJson? (.object (Json.sorted (members e))) = some e) :
    ofText? ofJson? (text e) = some e := by
  obtain ⟨node, member⟩ := located
  have found : (Json.object (Json.sorted (members e))).member? "node" = some node := by
    rw [Json.member?_sorted distinct, Json.member?_eq_some distinct]
    exact member
  rw [ofText?, text, Json.read?_compact_plain plain, Option.bind_eq_bind, Option.bind_some, found]
  exact described

theorem text_injective (back : ∀ e : ε, ofText? ofJson? (text e) = some e) :
    Function.Injective (text : ε → String) := fun d e same =>
  Option.some.inj (by rw [← back d, same, back e])

end TraceEvent

namespace DnsEvent

variable (e : DnsEvent)

theorem plain_members : ∀ m ∈ e.members, Plain m.2 := by
  have code : ∀ m ∈ (e.responseCode.map fun r => ("rcode", Json.text r)).toList, Plain m.2 := by
    cases e.responseCode with
    | none => simp
    | some r => simpa using .text r
  have id : e.id.toNat < UInt64.size := e.id.toNat_lt.trans (by decide)
  simp only [members, List.forall_mem_append, List.forall_mem_cons]
  exact ⟨⟨⟨e.context.plain_members, .integer e.time.toNat_lt, .integer id, .text _, .text _,
    .text _, by simp⟩, code⟩, .text _, .text _, by simp⟩

theorem distinct_members : (e.members.map (·.1)).Nodup := by
  have code : ((e.responseCode.map fun r => ("rcode", Json.text r)).toList.map (·.1)).Sublist
      ["rcode"] := by
    cases e.responseCode <;> simp
  have all := ((e.context.names_members.append
    (.refl ["timestamp_ns", "id", "qr", "name", "qtype"])).append code).append
      (.refl ["src", "dst"])
  simp only [members, List.map_append]
  exact all.nodup (by decide)

theorem ofJson?_members : ofJson? (.object e.members) = some e := by
  have found (name : String) (value : Json) (member : (name, value) ∈ e.members) :
      (Json.object e.members).member? name = some value :=
    (Json.member?_eq_some e.distinct_members).mpr member
  have context : Context.ofJson? (.object e.members) = some e.context := by
    rw [members, List.append_assoc, List.append_assoc]
    apply Context.ofJson?_members
    cases e.responseCode <;> simp
  have time := Json.numberBelow?_eq_some e.time.toNat_lt
    (found "timestamp_ns" (.integer e.time.toNat) (by simp [members]))
  have id := Json.numberBelow?_eq_some e.id.toNat_lt
    (found "id" (.integer e.id.toNat) (by simp [members]))
  have written : (Json.object e.members).member? "rcode" = e.responseCode.map .text := by
    apply Option.ext
    intro value
    rw [Json.member?_eq_some e.distinct_members]
    simp [members, e.context.not_mem_members]
  have code : (Json.object e.members).optional? "rcode" Json.text? = some e.responseCode := by
    rw [Json.optional?, written]
    cases e.responseCode <;> rfl
  simp [ofJson?, context, time, id, code, Json.text?, Direction.ofText?_text,
    found "qr" (.text e.direction.text) (by simp [members]),
    found "name" (.text e.name) (by simp [members]),
    found "qtype" (.text e.queryType) (by simp [members]),
    found "src" (.text e.source) (by simp [members]),
    found "dst" (.text e.destination) (by simp [members])]

theorem ofJson?_sorted : ofJson? (.object (Json.sorted e.members)) = some e := by
  rw [← e.ofJson?_members]
  simp only [ofJson?, Context.ofJson?_sorted e.distinct_members, Json.numberBelow?, Json.optional?,
    Json.member?_sorted e.distinct_members]

theorem members_context : ∃ own, ∀ c : Context,
    { e with context := c }.members = c.members ++ own :=
  ⟨_, fun c => by simp only [members, List.append_assoc]; rfl⟩

end DnsEvent

namespace TcpEvent

theorem pidOfJson?_toNat (p : Pid) : pidOfJson? (.integer p.toNat) = some p := by
  have fits : (0 : Int) ≤ p.toNat ∧ (p.toNat : Int) < UInt32.size :=
    ⟨Int.natCast_nonneg _, Int.ofNat_lt.mpr p.toNat_lt⟩
  rw [pidOfJson?, Json.integer?, Option.bind_eq_bind, Option.bind_some, if_pos fits,
    Int.toNat_natCast, Nat.toUInt32, UInt32.ofNat_toNat]

variable (e : TcpEvent)

theorem plain_members : ∀ m ∈ e.members, Plain m.2 := by
  have pid : ∀ m ∈ (e.pid.map fun p => ("pid", Json.integer p.toNat)).toList, Plain m.2 := by
    cases e.pid with
    | none => simp
    | some p => simpa using .integer (p.toNat_lt.trans (by decide))
  have version : e.ipVersion.toNat < UInt64.size := e.ipVersion.toNat_lt.trans (by decide)
  have source : e.sourcePort.toNat < UInt64.size := e.sourcePort.toNat_lt.trans (by decide)
  have destination : e.destinationPort.toNat < UInt64.size :=
    e.destinationPort.toNat_lt.trans (by decide)
  simp only [members, List.forall_mem_append, List.forall_mem_cons]
  exact ⟨⟨⟨e.context.plain_members, .integer e.time.toNat_lt, .text _, by simp⟩, pid⟩,
    .integer version, .text _, .text _, .integer source, .integer destination, by simp⟩

theorem distinct_members : (e.members.map (·.1)).Nodup := by
  have pid : ((e.pid.map fun p => ("pid", Json.integer p.toNat)).toList.map (·.1)).Sublist
      ["pid"] := by
    cases e.pid <;> simp
  have all := ((e.context.names_members.append (.refl ["timestamp_ns", "operation"])).append
    pid).append (.refl ["ip_version", "saddr", "daddr", "sport", "dport"])
  simp only [members, List.map_append]
  exact all.nodup (by decide)

theorem ofJson?_members : ofJson? (.object e.members) = some e := by
  have found (name : String) (value : Json) (member : (name, value) ∈ e.members) :
      (Json.object e.members).member? name = some value :=
    (Json.member?_eq_some e.distinct_members).mpr member
  have number (name : String) (n limit : Nat) (fits : n < limit)
      (member : (name, Json.integer n) ∈ e.members) :
      (Json.object e.members).numberBelow? name limit = some n :=
    Json.numberBelow?_eq_some fits (found name (.integer n) member)
  have context : Context.ofJson? (.object e.members) = some e.context := by
    rw [members, List.append_assoc, List.append_assoc]
    apply Context.ofJson?_members
    cases e.pid <;> simp
  have written : (Json.object e.members).member? "pid" =
      e.pid.map fun p => .integer p.toNat := by
    apply Option.ext
    intro value
    rw [Json.member?_eq_some e.distinct_members]
    simp [members, e.context.not_mem_members]
  have pid : (Json.object e.members).optional? "pid" pidOfJson? = some e.pid := by
    rw [Json.optional?, written]
    cases e.pid with
    | none => rfl
    | some p => exact congrArg (Option.map some) (pidOfJson?_toNat p)
  simp [ofJson?, context, pid, Json.text?, TcpOperation.ofText?_text,
    number "timestamp_ns" e.time.toNat UInt64.size e.time.toNat_lt (by simp [members]),
    number "ip_version" e.ipVersion.toNat UInt8.size e.ipVersion.toNat_lt (by simp [members]),
    number "sport" e.sourcePort.toNat UInt16.size e.sourcePort.toNat_lt (by simp [members]),
    number "dport" e.destinationPort.toNat UInt16.size e.destinationPort.toNat_lt
      (by simp [members]),
    found "operation" (.text e.operation.text) (by simp [members]),
    found "saddr" (.text e.sourceAddress) (by simp [members]),
    found "daddr" (.text e.destinationAddress) (by simp [members])]

theorem ofJson?_sorted : ofJson? (.object (Json.sorted e.members)) = some e := by
  rw [← e.ofJson?_members]
  simp only [ofJson?, Context.ofJson?_sorted e.distinct_members, Json.numberBelow?, Json.optional?,
    Json.member?_sorted e.distinct_members]

theorem members_context : ∃ own, ∀ c : Context,
    { e with context := c }.members = c.members ++ own :=
  ⟨_, fun c => by simp only [members, List.append_assoc]; rfl⟩

end TcpEvent

/-- Every event is read back from its text, so different events of a kind have different texts. -/
theorem events_read_back :
    (∀ e : DnsEvent, TraceEvent.ofText? DnsEvent.ofJson? (TraceEvent.text e) = some e) ∧
    (∀ e : TcpEvent, TraceEvent.ofText? TcpEvent.ofJson? (TraceEvent.text e) = some e) ∧
    Function.Injective (TraceEvent.text : DnsEvent → String) ∧
    Function.Injective (TraceEvent.text : TcpEvent → String) := by
  have dns (e : DnsEvent) : TraceEvent.ofText? DnsEvent.ofJson? (TraceEvent.text e) = some e :=
    TraceEvent.ofText?_text e.plain_members e.distinct_members
      (by simp [TraceEvent.members, DnsEvent.members, Context.members]) e.ofJson?_sorted
  have tcp (e : TcpEvent) : TraceEvent.ofText? TcpEvent.ofJson? (TraceEvent.text e) = some e :=
    TraceEvent.ofText?_text e.plain_members e.distinct_members
      (by simp [TraceEvent.members, TcpEvent.members, Context.members]) e.ofJson?_sorted
  exact ⟨dns, tcp, TraceEvent.text_injective dns, TraceEvent.text_injective tcp⟩

inductive AnyEvent where
  | dns (e : DnsEvent)
  | tcp (e : TcpEvent)

namespace AnyEvent

def context : AnyEvent → Context
  | dns e => e.context
  | tcp e => e.context

def pid? : AnyEvent → Option Pid
  | dns e => TraceEvent.pid? e
  | tcp e => TraceEvent.pid? e

def members : AnyEvent → List (String × Json)
  | dns e => TraceEvent.members e
  | tcp e => TraceEvent.members e

def enrich (node : String) (owner : Option Container) : AnyEvent → AnyEvent
  | dns e => dns (TraceEvent.enrich e node owner)
  | tcp e => tcp (TraceEvent.enrich e node owner)

def DescribedBy (j : Json) : AnyEvent → Prop
  | dns e => DnsEvent.ofJson? j = some e
  | tcp e => TcpEvent.ofJson? j = some e

theorem plain_members (e : AnyEvent) : ∀ m ∈ e.members, Plain m.2 := by
  cases e with
  | dns e => exact e.plain_members
  | tcp e => exact e.plain_members

theorem distinct_members (e : AnyEvent) : (e.members.map (·.1)).Nodup := by
  cases e with
  | dns e => exact e.distinct_members
  | tcp e => exact e.distinct_members

theorem describedBy_sorted (e : AnyEvent) : e.DescribedBy (.object (Json.sorted e.members)) := by
  cases e with
  | dns e => exact e.ofJson?_sorted
  | tcp e => exact e.ofJson?_sorted

theorem members_context (e : AnyEvent) : ∃ own, e.members = e.context.members ++ own ∧
    ∀ node owner, (e.enrich node owner).members = (e.context.enrich node owner).members ++ own := by
  cases e with
  | dns e =>
    obtain ⟨own, written⟩ := e.members_context
    exact ⟨own, written e.context, fun node owner => written _⟩
  | tcp e =>
    obtain ⟨own, written⟩ := e.members_context
    exact ⟨own, written e.context, fun node owner => written _⟩

theorem members_enrich {e : AnyEvent} (raw : e.context = .empty) (node : String)
    (owner : Option Container) : ∃ own, e.members = ("node", .text "") :: own ∧
      (e.enrich node owner).members = ("node", .text node) :: Context.place owner ++ own := by
  obtain ⟨own, written, enriched⟩ := e.members_context
  rw [raw] at written enriched
  refine ⟨own, written, ?_⟩
  rw [enriched, Context.enrich_members]

end AnyEvent
end NodeDiagnostics
