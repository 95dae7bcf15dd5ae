import NodeDiagnostics.Proofs.Collection.Fates

namespace NodeDiagnostics.Export.ExportState

def usable (s : ExportState MemoryStore) : Bool := s.containerReady || !s.host.refusesContainer

/-- Two exporters that find the same conditions, and the same objects except under some keys. -/
structure Akin (own : String → Prop) (s t : ExportState MemoryStore) : Prop where
  usable : s.usable = t.usable
  failing : s.host.failing = t.host.failing
  elsewhere : ∀ key, ¬ own key → s.host.objects[key]? = t.host.objects[key]?

variable {own : String → Prop} {s t u : ExportState MemoryStore}

theorem Akin.refl (s : ExportState MemoryStore) : Akin own s s := ⟨rfl, rfl, fun _ _ => rfl⟩

theorem Akin.symm (h : Akin own s t) : Akin own t s :=
  ⟨h.usable.symm, h.failing.symm, fun key foreign => (h.elsewhere key foreign).symm⟩

theorem Akin.trans (h : Akin own s t) (h' : Akin own t u) : Akin own s u :=
  ⟨h.usable.trans h'.usable, h.failing.trans h'.failing,
    fun key foreign => (h.elsewhere key foreign).trans (h'.elsewhere key foreign)⟩

theorem ensure_akin (own : String → Prop) (s : ExportState MemoryStore) :
    Akin own s (ensure MemoryStore.store s).2 ∧
      (ensure MemoryStore.store s).1 = if s.usable then .ok ()
        else .error (.containerCreation 403 "AuthorizationPermissionMismatch") := by
  by_cases ready : s.containerReady = true
  · simp [ensure, usable, ready, Akin.refl]
  · by_cases refuses : s.host.refusesContainer = true
    · simp only [ensure, ask, MemoryStore.store, MemoryStore.ensureContainer, if_neg ready,
        if_pos refuses]
      exact ⟨⟨rfl, rfl, fun _ _ => rfl⟩, by simp [usable, ready, refuses]⟩
    · simp only [ensure, ask, MemoryStore.store, MemoryStore.ensureContainer, if_neg ready,
        if_neg refuses]
      exact ⟨⟨by simp [usable, refuses], rfl, fun _ _ => rfl⟩, by simp [usable, refuses]⟩

theorem Akin.ensure (h : Akin own s t) :
    (ensure MemoryStore.store s).1 = (ExportState.ensure MemoryStore.store t).1 ∧
      Akin own (ExportState.ensure MemoryStore.store s).2
        (ExportState.ensure MemoryStore.store t).2 := by
  obtain ⟨kept, answer⟩ := ensure_akin own s
  obtain ⟨kept', answer'⟩ := ensure_akin own t
  exact ⟨by rw [answer, answer', h.usable], kept.symm.trans (h.trans kept')⟩

variable (d : Destination)

theorem Akin.putItem (h : Akin own s t) (item : String) (content : List UInt8) :
    (putItem MemoryStore.store d item content s).1 =
        (ExportState.putItem MemoryStore.store d item content t).1 ∧
      Akin own (ExportState.putItem MemoryStore.store d item content s).2
        (ExportState.putItem MemoryStore.store d item content t).2 := by
  by_cases fails : MemoryStore.itemOf (d.key item) ∈ t.host.failing
  · simp only [ExportState.putItem, ask, MemoryStore.store, MemoryStore.put, h.failing,
      if_pos fails]
    exact ⟨trivial, h.usable, rfl, h.elsewhere⟩
  · simp only [ExportState.putItem, ask, MemoryStore.store, MemoryStore.put, h.failing,
      if_neg fails]
    refine ⟨trivial, h.usable, rfl, ?_⟩
    intro key foreign
    simp only [Std.ExtTreeMap.getElem?_insert, h.elsewhere key foreign]

theorem akin_alike (own : String → Prop) :
    Alike (Akin own) MemoryStore.store MemoryStore.store d :=
  ⟨fun _ _ akin => akin.ensure, fun item content _ _ akin => akin.putItem d item content⟩

/-- A request that leaves everything alone but some objects. -/
def Confined {α : Type} (own : String → Prop) (request : Request (ExportState MemoryStore) α) :
    Prop := ∀ s, Akin own s (request s).2

theorem Confined.andThen {α β : Type} {first : Request (ExportState MemoryStore) (Except Error α)}
    {next : α → Request (ExportState MemoryStore) (Except Error β)} (h : Confined own first)
    (h' : ∀ a s, (first s).1 = .ok a → Confined own (next a)) :
    Confined own (first.andThen next) := by
  intro s
  have before := h s
  have after (a : α) (answered : (first s).1 = .ok a) := h' a s answered (first s).2
  unfold Request.andThen
  generalize first s = here at before after ⊢
  obtain ⟨answer, t⟩ := here
  cases answer with
  | ok a => exact before.trans (after a rfl)
  | error e => exact before

theorem putItem_confined {item : String} (mine : own (d.key item)) (content : List UInt8) :
    Confined own (putItem MemoryStore.store d item content) := by
  intro s
  by_cases fails : MemoryStore.itemOf (d.key item) ∈ s.host.failing
  · simp only [putItem, ask, MemoryStore.store, MemoryStore.put, if_pos fails]
    exact ⟨rfl, rfl, fun _ _ => rfl⟩
  · simp only [putItem, ask, MemoryStore.store, MemoryStore.put, if_neg fails]
    refine ⟨rfl, rfl, ?_⟩
    intro key foreign
    have other : d.key item ≠ key := fun same => foreign (same ▸ mine)
    simp [Std.ExtTreeMap.getElem?_insert, other]

theorem putAll_confined {listed : List (String × String)} (mine : ∀ i ∈ listed, own (d.key i.1)) :
    Confined own (putAll MemoryStore.store d listed) := by
  induction listed with
  | nil => exact Akin.refl
  | cons i rest ih =>
    have later := ih fun i member => mine i (List.mem_cons_of_mem _ member)
    exact (putItem_confined d (mine i List.mem_cons_self) (Text.utf8 i.2)).andThen
      fun _ _ _ => later

theorem exportItems_confined {given : Except Error Items}
    (mine : ∀ items item, given = .ok items → item ∈ items → own (d.key item)) :
    Confined own (exportItems MemoryStore.store d (.always given)) := by
  refine Confined.andThen (fun s => (ensure_akin own s).1) fun _ _ _ => ?_
  refine Confined.andThen (fun s => Akin.refl s) fun items s answered => ?_
  refine putAll_confined d fun i member => mine items i.1 answered ?_
  have present := Std.ExtTreeMap.mem_toList_iff_getElem?_eq_some.mp member
  exact Std.ExtTreeMap.mem_iff_isSome_getElem?.mpr (by simp [present])

end NodeDiagnostics.Export.ExportState

namespace NodeDiagnostics.Collection

open Export (ExportState ObjectStore Destination MemoryStore)
open Request (each)

/-- What a collector answers in a pass, whatever the host is like by then. -/
structure Conduct where
  name : String
  supported : Except Error Unit
  collected : Except Error Unit
  data : Except Error Export.Items

namespace Conduct

def collector {σ : Type} (c : Conduct) : Collector σ :=
  ⟨c.name, .always c.supported, .always c.collected, .always c.data⟩

def Names (c : Conduct) (item : String) : Prop := ∃ items, c.data = .ok items ∧ item ∈ items

def Apart (a b : Conduct) : Prop := ∀ item, a.Names item → ¬ b.Names item

end Conduct

variable {σ : Type}

def deal (store : ObjectStore σ) (d : Destination) (c : Conduct) :
    Request (ExportState σ) Ending := fun s =>
  match c.supported with
  | .error e => (⟨c.name, .skipped e⟩, s)
  | .ok () =>
    let (result, s) := deliver store d (c.collector, c.collected) s
    (⟨c.name, .ofResult result⟩, s)

section
variable (store : ObjectStore σ) (d : Destination)

theorem deal_name (c : Conduct) (s : ExportState σ) : (deal store d c s).1.name = c.name := by
  unfold deal
  split <;> rfl

theorem names_each_deal (l : List Conduct) (s : ExportState σ) :
    (each (deal store d) l s).1.map Ending.name = l.map Conduct.name := by
  induction l generalizing s with
  | nil => rfl
  | cons c rest ih => simp only [each, List.map_cons, deal_name, ih]

def willing (l : List Conduct) : List Conduct := l.filter (·.supported.toBool)

theorem admitted_willing (l : List Conduct) :
    admitted (σ := σ) (l.map Conduct.collector) (l.map (·.supported)) =
      (willing l).map Conduct.collector := by
  induction l with
  | nil => rfl
  | cons c rest ih =>
    simp only [List.map_cons, willing, List.filter_cons]
    cases c.supported with
    | ok => simpa [admitted, Except.toBool, willing] using ih
    | error e => simpa [admitted, Except.toBool, willing] using ih

/-- Since they answer the same at any time, it makes no difference that all are asked before the
first is exported. -/
theorem each_deal (l : List Conduct) (s : ExportState σ) :
    let deliveries := each (deliver store d)
      (((willing l).map Conduct.collector).zip ((willing l).map (·.collected))) s
    endings (l.map (·.name)) (l.map (·.supported)) deliveries.1 = (each (deal store d) l s).1 ∧
      deliveries.2 = (each (deal store d) l s).2 := by
  induction l generalizing s with
  | nil => exact ⟨rfl, rfl⟩
  | cons c rest ih =>
    cases supported : c.supported with
    | error e =>
      obtain ⟨same, after⟩ := ih s
      have unwilling : willing (c :: rest) = willing rest := by
        simp [willing, supported, Except.toBool]
      simp only [unwilling, List.map_cons, supported, endings, each, deal, same]
      exact ⟨trivial, after⟩
    | ok =>
      have one_more : willing (c :: rest) = c :: willing rest := by
        simp [willing, supported, Except.toBool]
      simp only [one_more, List.map_cons, List.zip_cons_cons, supported, each, deal, endings]
      obtain ⟨same, after⟩ := ih (deliver store d (c.collector, c.collected) s).2
      exact ⟨congrArg _ same, after⟩

theorem runFinishing_eq_each_deal {order : List Nat} {l : List Conduct} {s : ExportState σ}
    (finishes : Finishes order (l.map Conduct.collector) s) :
    Pass.runFinishing store d order (l.map Conduct.collector) s =
      (some (passOf (each (deal store d) l s).1), (each (deal store d) l s).2) := by
  let chosen : List (Collector σ) := (willing l).map Conduct.collector
  let table := (willing l).map (·.collected)
  have checks : each Pass.check (l.map Conduct.collector) s = (l.map (·.supported), s) := by
    rw [Request.each_map]
    exact Request.each_always _ l s
  have supported : admitted (l.map Conduct.collector) (l.map (·.supported)) = chosen :=
    admitted_willing l
  have finished : order.Perm (List.range chosen.length) := by
    simpa only [Finishes, Pass.checkAll_eq, checks, supported] using finishes
  have size : table.length = chosen.length := by simp [table, chosen]
  have gathered : Pass.gather chosen order s = (some table, s) := by
    have asked : order.filterMap (chosen[·]?) =
        (order.filterMap ((willing l)[·]?)).map Conduct.collector := by
      simp [chosen, List.map_filterMap]
    have answered :
        each Pass.collect ((order.filterMap ((willing l)[·]?)).map Conduct.collector) s =
          (order.filterMap (table[·]?), s) := by
      rw [Request.each_map]
      refine (Request.each_always _ _ s).trans ?_
      simp [table, List.map_filterMap]
    simp only [Pass.gather, asked, answered]
    rw [← size, joined_of_finished (size ▸ finished)]
  have ran := Pass.runFinishing_eq store d checks supported gathered size
  obtain ⟨same, after⟩ := each_deal store d l s
  rw [ran, ← same, ← after, List.map_map]
  rfl

end

section
variable (d : Destination) {own : String → Prop} {c : Conduct}

theorem deliver_confined (mine : ∀ item, c.Names item → own (d.key item))
    (collected : Except Error Unit) :
    ExportState.Confined own (deliver MemoryStore.store d (c.collector, collected)) := by
  cases collected with
  | error e => exact .refl
  | ok =>
    exact ExportState.exportItems_confined d fun items item data member =>
      mine item ⟨items, data, member⟩

theorem deal_confined (mine : ∀ item, c.Names item → own (d.key item)) :
    ExportState.Confined own (deal MemoryStore.store d c) := by
  intro s
  unfold deal
  cases c.supported with
  | error e => exact .refl s
  | ok => exact deliver_confined d mine c.collected s

theorem deliver_agree (own : String → Prop) (c : Conduct) (collected : Except Error Unit) :
    Request.Agree (ExportState.Akin own) (deliver MemoryStore.store d (c.collector, collected))
      (deliver MemoryStore.store d (c.collector, collected)) := by
  cases collected with
  | error e => exact Request.Agree.always _ _
  | ok => exact (ExportState.akin_alike d own).exportItems fun s t akin => ⟨rfl, akin⟩

theorem deal_agree (own : String → Prop) (c : Conduct) :
    Request.Agree (ExportState.Akin own) (deal MemoryStore.store d c)
      (deal MemoryStore.store d c) := by
  intro s t akin
  unfold deal
  cases c.supported with
  | error e => exact ⟨rfl, akin⟩
  | ok =>
    obtain ⟨same, after⟩ := deliver_agree d own c c.collected s t akin
    exact ⟨congrArg (fun result => Ending.mk c.name (.ofResult result)) same, after⟩

/-- Two passes over collectors that differ in one, whose items go by names that the others do not
use, end the same for the others, in whatever orders the collectors finish: in the same lists, for
the same reasons, and with the same objects. -/
theorem siblings_isolated (s : ExportState MemoryStore) (former latter : List Conduct)
    (c c' : Conduct) (apart : ∀ other ∈ former ++ latter, other.Apart c ∧ other.Apart c')
    (order order' : List Nat)
    (finishes : Finishes order ((former ++ c :: latter).map Conduct.collector) s)
    (finishes' : Finishes order' ((former ++ c' :: latter).map Conduct.collector) s) :
    ∃ p t p' t',
      Pass.runFinishing MemoryStore.store d order
        ((former ++ c :: latter).map Conduct.collector) s = (some p, t) ∧
      Pass.runFinishing MemoryStore.store d order'
        ((former ++ c' :: latter).map Conduct.collector) s = (some p', t') ∧
      (∃ before own own' after, before.map Ending.name = former.map Conduct.name ∧
        own.name = c.name ∧ own'.name = c'.name ∧
        after.map Ending.name = latter.map Conduct.name ∧
        p = passOf (before ++ own :: after) ∧ p' = passOf (before ++ own' :: after)) ∧
      ∀ other ∈ former ++ latter, ∀ item, other.Names item →
        t.host.objects[d.key item]? = t'.host.objects[d.key item]? := by
  let own (key : String) : Prop := ∃ item, key = d.key item ∧ (c.Names item ∨ c'.Names item)
  -- Both passes are the same up to the turn that differs, and that turn changes own objects only.
  let before := each (deal MemoryStore.store d) former s
  let turn := deal MemoryStore.store d c before.2
  let turn' := deal MemoryStore.store d c' before.2
  have mine : ExportState.Akin own before.2 turn.2 :=
    deal_confined d (fun item named => ⟨item, rfl, .inl named⟩) before.2
  have mine' : ExportState.Akin own before.2 turn'.2 :=
    deal_confined d (fun item named => ⟨item, rfl, .inr named⟩) before.2
  obtain ⟨same, akin⟩ := Request.Agree.each
    (fun other (_ : other ∈ latter) => deal_agree d own other)
    turn.2 turn'.2 (mine.symm.trans mine')
  have whole := runFinishing_eq_each_deal MemoryStore.store d finishes
  have whole' := runFinishing_eq_each_deal MemoryStore.store d finishes'
  rw [Request.each_append] at whole whole'
  refine ⟨_, _, _, _, whole, whole', ?_, ?_⟩
  · refine ⟨before.1, turn.1, turn'.1, (each (deal MemoryStore.store d) latter turn.2).1,
      names_each_deal _ d former s, deal_name _ d c before.2, deal_name _ d c' before.2,
      names_each_deal _ d latter turn.2, rfl, ?_⟩
    rw [same]
    rfl
  · intro other sibling item named
    refine akin.elsewhere (d.key item) ?_
    rintro ⟨item', key, theirs⟩
    cases d.key_inj.mp key
    obtain ⟨unlike, unlike'⟩ := apart other sibling
    exact theirs.elim (unlike item named) (unlike' item named)

end

def Conduct.single (item : String) (supported : Except Error Unit) : Conduct :=
  ⟨item, supported, .ok (), .ok ((∅ : Export.Items).insert item "[]")⟩

theorem Conduct.single_apart {item other : String} (distinct : item ≠ other)
    (supported supported' : Except Error Unit) :
    (single item supported).Apart (single other supported') := by
  rintro name ⟨items, data, member⟩ ⟨items', data', member'⟩
  cases data
  cases data'
  have here : item = name := by simpa using member
  have there : other = name := by simpa using member'
  exact distinct (here.trans there.symm)

theorem neighbours_undisturbed :
    let nodes := Conduct.single "nodes" (.ok ())
    let pods := Conduct.single "pods" (.ok ())
    let dns := Conduct.single "dns" (.ok ())
    let dns' := Conduct.single "dns" (.error (.unsupported "windows"))
    let site : Destination := ⟨"2026-10-17T08:15:30Z", "node-1"⟩
    let start : ExportState MemoryStore := .initial .empty
    let all := ([nodes] ++ dns :: [pods]).map Conduct.collector
    let all' := ([nodes] ++ dns' :: [pods]).map Conduct.collector
    (∀ other ∈ [nodes] ++ [pods], other.Apart dns ∧ other.Apart dns') ∧
      Finishes [2, 0, 1] all start ∧ Finishes [1, 0] all' start ∧
      ∃ p t p' t',
        Pass.runFinishing MemoryStore.store site [2, 0, 1] all start = (some p, t) ∧
        Pass.runFinishing MemoryStore.store site [1, 0] all' start = (some p', t') ∧
        t.host.objects[site.key "pods"]? = t'.host.objects[site.key "pods"]? := by
  intro nodes pods dns dns' site start all all'
  have apart : ∀ other ∈ [nodes] ++ [pods], other.Apart dns ∧ other.Apart dns' := by
    intro other sibling
    have either : other = nodes ∨ other = pods := by simpa using sibling
    rcases either with rfl | rfl
    · exact ⟨Conduct.single_apart (by decide) _ _, Conduct.single_apart (by decide) _ _⟩
    · exact ⟨Conduct.single_apart (by decide) _ _, Conduct.single_apart (by decide) _ _⟩
  have finishes : Finishes [2, 0, 1] all start := by
    unfold Finishes
    decide
  have finishes' : Finishes [1, 0] all' start := by
    unfold Finishes
    decide
  refine ⟨apart, finishes, finishes', ?_⟩
  obtain ⟨p, t, p', t', first, second, -, same⟩ := siblings_isolated site start [nodes] [pods] dns
    dns' apart [2, 0, 1] [1, 0] finishes finishes'
  exact ⟨p, t, p', t', first, second, same pods (by simp) "pods" ⟨_, rfl, by simp⟩⟩

end NodeDiagnostics.Collection
