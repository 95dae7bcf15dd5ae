import Mathlib.Data.List.Nodup
import Mathlib.Data.Set.Insert
import NodeDiagnostics.Net.ConnectionTable
import NodeDiagnostics.Proofs.Lists

namespace NodeDiagnostics.Net

def OpenIn (sockets : List Socket) (c : Connection) : Prop :=
  ∃ s ∈ sockets, s.state = 0x01 ∧ s.own = c.own ∧ s.peer = c.peer

instance (sockets : List Socket) (c : Connection) : Decidable (OpenIn sockets c) :=
  inferInstanceAs (Decidable (∃ s ∈ sockets, s.state = 0x01 ∧ s.own = c.own ∧ s.peer = c.peer))

def ListenedOn (sockets : List Socket) (port : UInt16) : Prop :=
  ∃ s ∈ sockets, s.state = 0x0a ∧ s.own.port = port

namespace Change

def apply (c : Change) (connections : Set Connection) : Set Connection :=
  match c.operation with
  | .close => connections \ {c.connection}
  | .connect | .accept => insert c.connection connections

def applyAll (connections : Set Connection) (changes : List Change) : Set Connection :=
  changes.foldl (fun s c => c.apply s) connections

theorem mem_apply (c : Change) (connections : Set Connection) (x : Connection) :
    x ∈ c.apply connections ↔
      if c.connection = x then c.operation ≠ .close else x ∈ connections := by
  obtain ⟨operation, connection⟩ := c
  by_cases same : connection = x
  · cases operation <;> simp [apply, same]
  · cases operation <;> simp [apply, same, Ne.symm same]

/-- With one change for each connection, that change decides, wherever it stands. -/
theorem mem_applyAll {changes : List Change} (distinct : (changes.map (·.connection)).Nodup)
    (connections : Set Connection) (x : Connection) :
    x ∈ applyAll connections changes ↔
      (∃ c ∈ changes, c.connection = x ∧ c.operation ≠ .close) ∨
      (x ∈ connections ∧ ∀ c ∈ changes, c.connection ≠ x) := by
  induction changes generalizing connections with
  | nil => simp [applyAll]
  | cons c rest ih =>
    obtain ⟨fresh, distinct⟩ := List.nodup_cons.mp distinct
    have once : ∀ d ∈ rest, d.connection ≠ c.connection := by
      intro d later same
      exact fresh (List.mem_map.mpr ⟨d, later, same⟩)
    have step : applyAll connections (c :: rest) = applyAll (c.apply connections) rest := rfl
    rw [step, ih distinct, mem_apply]
    -- The first change decides about its own connection, the later ones about all others.
    by_cases here : c.connection = x
    · subst here
      have none : ¬ ∃ d ∈ rest, d.connection = c.connection ∧ d.operation ≠ .close :=
        fun ⟨d, later, same, _⟩ => once d later same
      constructor
      · rintro (later | ⟨kept, -⟩)
        · exact absurd later none
        · exact .inl ⟨c, List.mem_cons_self, rfl, by simpa using kept⟩
      · rintro (⟨d, member, same, opens⟩ | ⟨-, untouched⟩)
        · rcases List.mem_cons.mp member with rfl | later
          · exact .inr ⟨by simpa using opens, once⟩
          · exact absurd same (once d later)
        · exact absurd rfl (untouched c List.mem_cons_self)
    · simp [here]

end Change

namespace ConnectionTable

theorem mem_openConnections {sockets : List Socket} {c : Connection} :
    c ∈ openConnections sockets ↔ OpenIn sockets c := by
  obtain ⟨own, peer⟩ := c
  simp only [openConnections, List.mem_eraseDups, List.mem_map, List.mem_filter,
    decide_eq_true_eq, Connection.mk.injEq, and_assoc]
  exact Iff.rfl

theorem nodup_openConnections (sockets : List Socket) : (openConnections sockets).Nodup :=
  nodup_eraseDups _

theorem opening_eq_accept_iff {sockets : List Socket} {c : Connection} :
    opening sockets c = .accept ↔ ListenedOn sockets c.own.port := by
  have listed : c.own.port ∈ listeningPorts sockets ↔ ListenedOn sockets c.own.port := by
    simp only [listeningPorts, List.mem_map, List.mem_filter, decide_eq_true_eq, and_assoc]
    exact Iff.rfl
  rw [opening, ← listed]
  split
  · next here => exact iff_of_true rfl here
  · next absent => exact iff_of_false (by simp) absent

theorem opening_ne_close (sockets : List Socket) (c : Connection) :
    opening sockets c ≠ .close := by
  unfold opening
  split <;> simp

def Distinct (t : ConnectionTable) : Prop := t.established.Nodup

theorem distinct_update (t : ConnectionTable) (sockets : List Socket) :
    (t.update sockets).2.Distinct := nodup_openConnections sockets

theorem mem_update {t : ConnectionTable} {sockets : List Socket} {c : Connection} :
    c ∈ (t.update sockets).2.established ↔ OpenIn sockets c := mem_openConnections

/-- A connection is opened, closed or left alone. -/
theorem change_mem_update {t : ConnectionTable} {sockets : List Socket} {c : Change} :
    c ∈ (t.update sockets).1 ↔
      (c.operation = opening sockets c.connection ∧ OpenIn sockets c.connection ∧
        c.connection ∉ t.established) ∨
      (c.operation = .close ∧ c.connection ∈ t.established ∧ ¬ OpenIn sockets c.connection) := by
  obtain ⟨operation, connection⟩ := c
  simp only [update, List.mem_append, List.mem_map, List.mem_filter, decide_eq_true_eq,
    mem_openConnections]
  constructor
  · rintro (⟨x, ⟨here, before⟩, same⟩ | ⟨x, ⟨before, here⟩, same⟩)
    · cases same
      exact .inl ⟨rfl, here, before⟩
    · cases same
      exact .inr ⟨rfl, before, here⟩
  · rintro (⟨rfl, here, before⟩ | ⟨rfl, before, here⟩)
    · exact .inl ⟨connection, ⟨here, before⟩, rfl⟩
    · exact .inr ⟨connection, ⟨before, here⟩, rfl⟩

def operationsOn (c : Connection) (changes : List Change) : List TcpOperation :=
  (changes.filter (·.connection = c)).map (·.operation)

theorem operationsOn_append (c : Connection) (first second : List Change) :
    operationsOn c (first ++ second) = operationsOn c first ++ operationsOn c second := by
  simp [operationsOn]

theorem operationsOn_map {connections : List Connection} (distinct : connections.Nodup)
    (operation : Connection → TcpOperation) (c : Connection) :
    operationsOn c (connections.map fun x => ⟨operation x, x⟩) =
      if c ∈ connections then [operation c] else [] := by
  have only : connections.filter (· = c) = if c ∈ connections then [c] else [] := by
    rw [List.filter_eq, distinct.count]
    split <;> rfl
  rw [operationsOn, List.filter_map, List.map_map]
  have shape : ((fun x : Change => decide (x.connection = c)) ∘
      fun x => (⟨operation x, x⟩ : Change)) = fun x => decide (x = c) := rfl
  rw [shape, only]
  split <;> rfl

theorem operationsOn_update {t : ConnectionTable} (distinct : t.Distinct) (sockets : List Socket)
    (c : Connection) :
    operationsOn c (t.update sockets).1 =
      if c ∈ t.established then if OpenIn sockets c then [] else [.close]
      else if OpenIn sockets c then [opening sockets c] else [] := by
  have opened := operationsOn_map ((nodup_openConnections sockets).filter (· ∉ t.established))
    (opening sockets) c
  have closed := operationsOn_map (distinct.filter (· ∉ openConnections sockets))
    (fun _ => .close) c
  refine ((operationsOn_append c _ _).trans (congrArg₂ (· ++ ·) opened closed)).trans ?_
  simp only [List.mem_filter, decide_eq_true_eq, mem_openConnections]
  by_cases before : c ∈ t.established <;> by_cases now : OpenIn sockets c <;> simp [before, now]

theorem distinct_changes {t : ConnectionTable} (distinct : t.Distinct) (sockets : List Socket) :
    ((t.update sockets).1.map (·.connection)).Nodup := by
  simp only [update, List.map_append, List.map_map]
  have same : ∀ (f : Connection → TcpOperation) (l : List Connection),
      l.map ((·.connection) ∘ fun c => (⟨f c, c⟩ : Change)) = l := fun f l => List.map_id l
  rw [same, same]
  refine List.nodup_append.mpr ⟨(nodup_openConnections sockets).filter _, distinct.filter _, ?_⟩
  rintro c opened d closed rfl
  simp only [List.mem_filter, decide_eq_true_eq] at opened closed
  exact closed.2 opened.1

theorem applyAll_update {t : ConnectionTable} (distinct : t.Distinct) {sockets : List Socket}
    {order : List Change} (shuffled : order.Perm (t.update sockets).1) :
    Change.applyAll {c | c ∈ t.established} order = {c | OpenIn sockets c} := by
  have once : (order.map (·.connection)).Nodup :=
    (shuffled.map _).nodup_iff.mpr (distinct_changes distinct sockets)
  ext c
  rw [Change.mem_applyAll once]
  simp only [shuffled.mem_iff, change_mem_update, Set.mem_ofPred_eq]
  constructor
  · rintro (⟨d, ⟨-, here, -⟩ | ⟨closed, -, -⟩, rfl, kept⟩ | ⟨before, untouched⟩)
    · exact here
    · exact absurd closed kept
    · by_contra gone
      exact untouched ⟨.close, c⟩ (.inr ⟨rfl, before, gone⟩) rfl
  · intro here
    by_cases before : c ∈ t.established
    · refine .inr ⟨before, ?_⟩
      rintro d (⟨-, -, fresh⟩ | ⟨-, -, gone⟩) rfl
      · exact fresh before
      · exact gone here
    · exact .inl ⟨⟨opening sockets c, c⟩, .inl ⟨rfl, here, before⟩, rfl,
        opening_ne_close sockets c⟩

end ConnectionTable
end NodeDiagnostics.Net
