import Mathlib.Data.List.Perm.Basic
import NodeDiagnostics.Probe.Connections
import NodeDiagnostics.Proofs.Net.AddressText
import NodeDiagnostics.Proofs.Net.Turnover

namespace NodeDiagnostics.Probe.Connections
open Net (Change Connection ConnectionTable OpenIn ListenedOn)
open Net.ConnectionTable (operationsOn)

/-- What a scan finds on the host: the socket tables, and whose they are. -/
structure Look where
  tables : Pid → Tables
  owner : Option Container
  time : UInt64

def RowsOf (file : Option (List UInt8)) (rows : List Net.Socket) : Prop :=
  ∃ bytes text, file = some bytes ∧ Text.ofUtf8? bytes = some text ∧ rows = Net.Socket.ofTable text

namespace Look

/-- The rows of the owner's first table, and behind them those of the second, which need not be
there. -/
def Reads (l : Look) (rows : List Net.Socket) : Prop :=
  ∃ c first second, l.owner = some c ∧ RowsOf (l.tables c.pid).tcp first ∧
    (RowsOf (l.tables c.pid).tcp6 second ∨ (l.tables c.pid).tcp6 = none ∧ second = []) ∧
    rows = first ++ second

def Shows (l : Look) (c : Connection) : Prop := ∃ rows, l.Reads rows ∧ OpenIn rows c

end Look

def begun (first : Look) : ConnectionTable :=
  match baseline first.tables first.owner with
  | .ok t => t
  | .error _ => .empty

/-- All that is reported of some scans after the first, and the table in the end; a scan that fails
leaves it alone. -/
def reports (t : ConnectionTable) : List Look → List TcpEvent × ConnectionTable
  | [] => ([], t)
  | l :: rest => match poll l.tables l.time l.owner t with
    | .ok (news, t) => (news.map (·.event) ++ (reports t rest).1, (reports t rest).2)
    | .error _ => reports t rest

def Tells (e : TcpEvent) (c : Connection) : Prop :=
  (e.sourceAddress, e.sourcePort) = (c.own.address.text, c.own.port) ∧
    (e.destinationAddress, e.destinationPort) = (c.peer.address.text, c.peer.port)
deriving Decidable

def operationsOf (c : Connection) (events : List TcpEvent) : List TcpOperation :=
  (events.filter (Tells · c)).map (·.operation)

theorem operationsOf_append (c : Connection) (first second : List TcpEvent) :
    operationsOf c (first ++ second) = operationsOf c first ++ operationsOf c second := by
  simp [operationsOf]

def effect (connections : Set Connection) (e : TcpEvent) : Set Connection :=
  match e.operation with
  | .close => connections \ {c | Tells e c}
  | .connect | .accept => connections ∪ {c | Tells e c}

/-- Opened and closed in turn, and closed first if it is open. -/
def InTurn : (isOpen : Bool) → List TcpOperation → Prop
  | _, [] => True
  | true, operation :: rest => operation = .close ∧ InTurn false rest
  | false, operation :: rest => operation ≠ .close ∧ InTurn true rest

/-- What is reported of a scan that succeeds. -/
structure Reported (l : Look) (before : ConnectionTable) (rows : List Net.Socket)
    (news : List (Sighting TcpEvent)) (after : ConnectionTable) : Prop where
  once : ∀ c, (operationsOf c (news.map (·.event))).length ≤ 1
  complete : ∀ order : List TcpEvent, order.Perm (news.map (·.event)) →
    order.foldl effect {c | c ∈ before.established} = {c | OpenIn rows c}
  tracked : ∀ c, c ∈ after.established ↔ OpenIn rows c
  accepted : ∀ s ∈ news, s.event.operation ≠ .close →
    (s.event.operation = .accept ↔ ListenedOn rows s.event.sourcePort)
  told : ∀ s ∈ news, ∃ c, Tells s.event c ∧ s.event.ipVersion = c.own.address.version
  owned : ∀ s ∈ news, s.owner = l.owner ∧ s.event.pid = l.owner.map (·.pid)
  stamped : ∀ s ∈ news, s.event.time = l.time ∧ s.event.context = .empty

def sightings (l : Look) (changes : List Change) : List (Sighting TcpEvent) :=
  changes.map fun c => ⟨l.owner, event l.time l.owner c⟩

theorem events_sightings (l : Look) (changes : List Change) :
    (sightings l changes).map (·.event) = changes.map (event l.time l.owner) :=
  List.map_map

section Scan
variable {l : Look} {rows : List Net.Socket}

theorem textOf_cases (bytes : List UInt8) :
    (∃ text, Text.ofUtf8? bytes = some text ∧ textOf bytes = .ok text) ∨
      Text.ofUtf8? bytes = none ∧ ∃ e, textOf bytes = .error e := by
  cases decoded : Text.ofUtf8? bytes <;> simp [textOf, decoded]

theorem sockets_eq_ok_iff {t : Tables} : sockets t = .ok rows ↔ ∃ first second,
    RowsOf t.tcp first ∧ (RowsOf t.tcp6 second ∨ t.tcp6 = none ∧ second = []) ∧
      rows = first ++ second := by
  obtain ⟨tcp, tcp6⟩ := t
  have blank : Net.Socket.ofTable "" = [] := by decide
  cases tcp with
  | none => simp [sockets, RowsOf, bind, Except.bind]
  | some bytes =>
    rcases textOf_cases bytes with ⟨text, decoded, read⟩ | ⟨undecoded, e, unread⟩
    · cases tcp6 with
      | none =>
        simp [sockets, RowsOf, decoded, read, blank, bind, Except.bind, pure, Except.pure, eq_comm]
      | some bytes6 =>
        rcases textOf_cases bytes6 with ⟨text6, decoded6, read6⟩ | ⟨undecoded6, e, unread6⟩
        · simp [sockets, RowsOf, decoded, read, decoded6, read6, bind, Except.bind, pure,
            Except.pure, eq_comm]
        · simp [sockets, RowsOf, decoded, read, undecoded6, unread6, bind, Except.bind]
    · simp [sockets, RowsOf, undecoded, unread, bind, Except.bind]

theorem scan_eq_ok_iff : scan l.tables l.owner = .ok rows ↔ l.Reads rows := by
  unfold scan Look.Reads
  cases l.owner with
  | none => simp
  | some c => simp [sockets_eq_ok_iff]

theorem Look.Reads.unique {other : List Net.Socket} (read : l.Reads rows) (again : l.Reads other) :
    rows = other :=
  Except.ok.inj ((scan_eq_ok_iff.mpr read).symm.trans (scan_eq_ok_iff.mpr again))

theorem begun_read {first : Look} (read : first.Reads rows) :
    begun first = (ConnectionTable.empty.update rows).2 := by
  simp [begun, baseline, scan_eq_ok_iff.mpr read, Except.map]

theorem poll_read (t : ConnectionTable) (read : l.Reads rows) :
    poll l.tables l.time l.owner t = .ok (sightings l (t.update rows).1, (t.update rows).2) := by
  simp [poll, sightings, scan_eq_ok_iff.mpr read, Except.map]

theorem scan_unread (unread : ¬ ∃ rows, l.Reads rows) :
    ∃ e, scan l.tables l.owner = .error e := by
  cases seen : scan l.tables l.owner with
  | error e => exact ⟨e, rfl⟩
  | ok rows => exact absurd ⟨rows, scan_eq_ok_iff.mp seen⟩ unread

theorem begun_unread {first : Look} (unread : ¬ ∃ rows, first.Reads rows) :
    begun first = .empty := by
  obtain ⟨e, failed⟩ := scan_unread unread
  simp [begun, baseline, failed, Except.map]

theorem poll_unread (t : ConnectionTable) (unread : ¬ ∃ rows, l.Reads rows) :
    ∃ e, poll l.tables l.time l.owner t = .error e := by
  obtain ⟨e, failed⟩ := scan_unread unread
  exact ⟨e, by simp [poll, failed, Except.map]⟩

end Scan

theorem distinct_begun (first : Look) : (begun first).Distinct := by
  by_cases readable : ∃ rows, first.Reads rows
  · obtain ⟨rows, read⟩ := readable
    rw [begun_read read]
    exact ConnectionTable.empty.distinct_update rows
  · rw [begun_unread readable]
    exact List.nodup_nil

theorem mem_begun {first : Look} {c : Connection} :
    c ∈ (begun first).established ↔ first.Shows c := by
  by_cases readable : ∃ rows, first.Reads rows
  · obtain ⟨rows, read⟩ := readable
    rw [begun_read read, ConnectionTable.mem_update]
    constructor
    · exact fun shown => ⟨rows, read, shown⟩
    · rintro ⟨other, again, shown⟩
      exact read.unique again ▸ shown
  · rw [begun_unread readable]
    constructor
    · exact fun member => absurd member List.not_mem_nil
    · rintro ⟨rows, read, -⟩
      exact absurd ⟨rows, read⟩ readable

section Event
variable (time : UInt64) (owner : Option Container)

theorem tells_event {change : Change} {c : Connection} :
    Tells (event time owner change) c ↔ change.connection = c := by
  obtain ⟨operation, ⟨ownAddress, ownPort⟩, peerAddress, peerPort⟩ := change
  obtain ⟨⟨address, port⟩, address', port'⟩ := c
  simp only [Tells, event, Prod.mk.injEq, Connection.mk.injEq, Net.Endpoint.mk.injEq]
  -- the text of an address tells which address it is
  exact ⟨fun ⟨⟨here, port⟩, there, port'⟩ => ⟨⟨Net.Address.text_injective here, port⟩,
      Net.Address.text_injective there, port'⟩,
    fun ⟨⟨here, port⟩, there, port'⟩ => ⟨⟨congrArg _ here, port⟩, congrArg _ there, port'⟩⟩

theorem operationsOf_events (c : Connection) (changes : List Change) :
    operationsOf c (changes.map (event time owner)) = operationsOn c changes := by
  simp only [operationsOf, operationsOn, List.filter_map, List.map_map, Function.comp_def,
    tells_event]
  rfl

theorem effect_event (connections : Set Connection) (change : Change) :
    effect connections (event time owner change) = change.apply connections := by
  have only : {c | Tells (event time owner change) c} = {change.connection} :=
    Set.ext fun c => (tells_event time owner).trans eq_comm
  obtain ⟨operation, connection⟩ := change
  cases operation
  case close => exact congrArg (connections \ ·) only
  all_goals exact (congrArg (connections ∪ ·) only).trans Set.union_singleton

end Event

theorem poll_reported {t : ConnectionTable} (distinct : t.Distinct) (l : Look)
    (rows : List Net.Socket) :
    Reported l t rows (sightings l (t.update rows).1) (t.update rows).2 := by
  constructor
  case once =>
    intro c
    have one := List.nodup_iff_count_le_one.mp (ConnectionTable.distinct_changes distinct rows) c
    rw [events_sightings, operationsOf_events, operationsOn, List.length_map,
      ← List.countP_eq_length_filter]
    rwa [List.count_eq_countP, List.countP_map] at one
  case complete =>
    intro order shuffled
    rw [events_sightings] at shuffled
    have sorted : Relation.Comp (· = List.map (event l.time l.owner) ·) (·.Perm ·) order
        (t.update rows).1 := by
      rwa [List.eq_map_comp_perm]
    obtain ⟨changes, rfl, perm⟩ := sorted
    rw [List.foldl_map]
    simp only [effect_event]
    exact ConnectionTable.applyAll_update distinct perm
  case tracked => exact fun _ => ConnectionTable.mem_update
  case accepted =>
    intro s reported opens
    obtain ⟨c, change, rfl⟩ := List.mem_map.mp reported
    rcases ConnectionTable.change_mem_update.mp change with ⟨how, -, -⟩ | ⟨closed, -, -⟩
    · have here : c.operation = .accept ↔ ListenedOn rows c.connection.own.port := by
        rw [how, ConnectionTable.opening_eq_accept_iff]
      exact here
    · exact absurd closed opens
  case told =>
    intro s reported
    obtain ⟨c, -, rfl⟩ := List.mem_map.mp reported
    exact ⟨c.connection, (tells_event l.time l.owner).mpr rfl, rfl⟩
  case owned =>
    intro s reported
    obtain ⟨c, -, rfl⟩ := List.mem_map.mp reported
    exact ⟨rfl, rfl⟩
  case stamped =>
    intro s reported
    obtain ⟨c, -, rfl⟩ := List.mem_map.mp reported
    exact ⟨rfl, rfl⟩

theorem reports_append_singleton (t : ConnectionTable) (looks : List Look) (l : Look) :
    reports t (looks ++ [l]) =
      ((reports t looks).1 ++ (reports (reports t looks).2 [l]).1,
        (reports (reports t looks).2 [l]).2) := by
  induction looks generalizing t with
  | nil => rfl
  | cons first looks ih =>
    rw [List.cons_append, reports, reports]
    cases poll first.tables first.time first.owner t with
    | error e => exact ih t
    | ok seen => simp only [ih, List.append_assoc]

section Run
variable {t : ConnectionTable}

theorem distinct_reports (distinct : t.Distinct) (looks : List Look) :
    (reports t looks).2.Distinct := by
  induction looks generalizing t with
  | nil => exact distinct
  | cons l looks ih =>
    rw [reports]
    by_cases readable : ∃ rows, l.Reads rows
    · obtain ⟨rows, read⟩ := readable
      rw [poll_read t read]
      exact ih (t.distinct_update rows)
    · obtain ⟨e, failed⟩ := poll_unread t readable
      rw [failed]
      exact ih distinct

theorem reports_inTurn (distinct : t.Distinct) (looks : List Look) (c : Connection) :
    InTurn (decide (c ∈ t.established)) (operationsOf c (reports t looks).1) := by
  induction looks generalizing t with
  | nil =>
    rw [reports, operationsOf]
    trivial
  | cons l looks ih =>
    rw [reports]
    by_cases readable : ∃ rows, l.Reads rows
    · obtain ⟨rows, read⟩ := readable
      rw [poll_read t read]
      have later := ih (t.distinct_update rows)
      rw [operationsOf_append, events_sightings, operationsOf_events,
        ConnectionTable.operationsOn_update distinct]
      -- At most one operation, and it leaves the connection as the new table has it.
      simp only [ConnectionTable.mem_update] at later
      by_cases before : c ∈ t.established <;> by_cases now : OpenIn rows c
      · simpa [before, now] using later
      · simpa [before, now, InTurn] using later
      · simpa [before, now, InTurn, ConnectionTable.opening_ne_close] using later
      · simpa [before, now] using later
    · obtain ⟨e, failed⟩ := poll_unread t readable
      rw [failed]
      exact ih distinct

end Run

/-- Nothing is reported of the first scan. After it each connection is opened and closed in turn,
closed first exactly if the first scan showed it. A scan that cannot be read reports nothing and
changes nothing; of any other the changes are reported, which lead from the last table to the
connections that it shows. -/
theorem reported_in_turn (first : Look) (looks : List Look) :
    (∀ c, c ∈ (begun first).established ↔ first.Shows c) ∧
    let (told, before) := reports (begun first) looks
    (∀ c, InTurn (decide (c ∈ (begun first).established)) (operationsOf c told)) ∧
    ∀ next : Look,
      (∀ rows, next.Reads rows → ∃ news after,
        poll next.tables next.time next.owner before = .ok (news, after) ∧
        Reported next before rows news after ∧
        reports (begun first) (looks ++ [next]) = (told ++ news.map (·.event), after)) ∧
      ((¬ ∃ rows, next.Reads rows) → ∃ e,
        poll next.tables next.time next.owner before = .error e ∧
        reports (begun first) (looks ++ [next]) = (told, before)) := by
  have distinct := distinct_reports (distinct_begun first) looks
  refine ⟨fun _ => mem_begun, reports_inTurn (distinct_begun first) looks, fun next => ?_⟩
  rw [reports_append_singleton]
  generalize (reports (begun first) looks).2 = before at distinct ⊢
  constructor
  · intro rows read
    have polled := poll_read before read
    refine ⟨_, _, polled, poll_reported distinct next rows, ?_⟩
    simp [reports, polled]
  · intro unreadable
    obtain ⟨e, failed⟩ := poll_unread before unreadable
    exact ⟨e, failed, by simp [reports, failed]⟩

def web : Container := ⟨"aaaaaaaaaaaa", "shop", "cart", "api", 10, false⟩

def idle : Look := ⟨fun _ => ⟨some [], none⟩, some web, 1⟩

/-- One connection that came in at a port that is listened on, and one that went out by IPv6. -/
def busy : Look where
  tables := fun _ => ⟨
    some ("sl\n0: 00000000:1F90 00000000:0000 0A\n" ++
      "1: 0501F40A:1F90 0100000A:A0F2 01\n").toUTF8.toList,
    some ("sl\n0: 00000000000000000000000001000000:9C40 " ++
      "00000000000000000000000001000000:01BB 01\n").toUTF8.toList⟩
  owner := some web
  time := 2

theorem traffic_reported :
    (reports (begun idle) [busy, idle]).1 =
      [⟨.empty, 2, .accept, some 10, 4, "10.244.1.5", "10.0.0.1", 8080, 41202⟩,
        ⟨.empty, 2, .connect, some 10, 6, "::1", "::1", 40000, 443⟩,
        ⟨.empty, 1, .close, some 10, 4, "10.244.1.5", "10.0.0.1", 8080, 41202⟩,
        ⟨.empty, 1, .close, some 10, 6, "::1", "::1", 40000, 443⟩] ∧
      ∀ c, InTurn false (operationsOf c (reports (begun idle) [busy, idle]).1) := by
  refine ⟨by decide +kernel, fun c => ?_⟩
  have none : begun idle = .empty := by decide +kernel
  have turns := (reported_in_turn idle [busy, idle]).2.1 c
  rw [none] at turns ⊢
  exact turns

end NodeDiagnostics.Probe.Connections
