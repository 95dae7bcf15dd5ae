import NodeDiagnostics.Proofs.Trace.Fields
import NodeDiagnostics.Trace.Run

namespace NodeDiagnostics.Trace

/-- An event that a tracer hands over, without a place in the cluster, and what is known by then:
the container in which it was seen, the registry, and the time. -/
structure Handling where
  registry : Registry
  owner : Option Container
  event : AnyEvent
  raw : event.context = .empty
  time : Time.Instant

namespace Handling

def resolved (h : Handling) : Option Container :=
  match h.owner with
  | some c => some c
  | none => h.event.pid?.bind h.registry.lookup?

def key (h : Handling) : String :=
  match h.resolved with
  | some c => "/namespaces/" ++ c.namespaceName ++ "/pods/" ++ c.pod ++ "/containers/" ++ c.name ++
      " " ++ h.time.text
  | none => h.time.text

theorem journal_key (h : Handling) : Journal.key h.resolved h.time = h.key := by
  unfold Journal.key key
  cases h.resolved <;> rfl

def published (h : Handling) (node : String) : AnyEvent := h.event.enrich node h.resolved

def text (h : Handling) (node : String) : String := (Json.object (h.published node).members).compact

variable {σ : Type}

def publish (name node : String) (w : World σ) (h : Handling) : World σ :=
  match h.event with
  | .dns e => Trace.publish name node h.registry h.owner e w
  | .tcp e => Trace.publish name node h.registry h.owner e w

def publishAll (name node : String) (host : σ) (handlings : List Handling) : World σ :=
  handlings.foldl (publish name node) ⟨.empty, .ofReadings (handlings.map (·.time)), host⟩

theorem publish_eq (name node : String) (h : Handling) {w : World σ} {later : List Time.Instant}
    (now : w.clock.upcoming = h.time :: later) : publish name node w h =
      ⟨w.journal.publish name h.resolved h.time (h.text node), ⟨later, h.time⟩, w.host⟩ := by
  obtain ⟨registry, owner, event, raw, time⟩ := h
  have shown : w.clock.read = (time, ⟨later, time⟩) := by rw [Time.Clock.read, now]
  cases event <;> cases owner <;>
    simp [publish, Trace.publish, shown, resolved, AnyEvent.pid?, text, published,
      AnyEvent.enrich, AnyEvent.members, TraceEvent.text]

/-- What the bucket of a trace holds after some handlings. -/
def bucketOf (node : String) (handlings : List Handling) : Bucket :=
  handlings.foldl (fun b h => b.insert h.key (h.text node)) ∅

theorem buckets_publishAll (name node : String) (host : σ) (handlings : List Handling) :
    (publishAll name node host handlings).journal.buckets[name]? =
      if handlings = [] then none else some (bucketOf node handlings) := by
  -- The clock has to show the times of the handlings that are still to come.
  have run : ∀ (rest : List Handling) (w : World σ), w.clock.upcoming = rest.map (·.time) →
      (rest.foldl (publish name node) w).journal.buckets[name]? =
        if rest = [] then w.journal.buckets[name]?
        else some (rest.foldl (fun b h => b.insert h.key (h.text node))
          ((w.journal.buckets[name]?).getD ∅)) := by
    intro rest
    induction rest with
    | nil => intro w _; rfl
    | cons h rest ih =>
      intro w now
      rw [List.foldl_cons, publish_eq name node h now, ih _ rfl]
      by_cases last : rest = []
      · simp [last, Journal.publish, journal_key]
      · simp [last, Journal.publish, journal_key]
  rw [publishAll, run handlings _ rfl]
  simp [Journal.empty, bucketOf]

theorem getElem?_bucketOf {node key content : String} {handlings : List Handling} :
    (bucketOf node handlings)[key]? = some content ↔
      ∃ earlier h later, handlings = earlier ++ h :: later ∧ h.key = key ∧
        h.text node = content ∧ ∀ other ∈ later, other.key ≠ key :=
  getElem?_stored

theorem mem_bucketOf (node key : String) (handlings : List Handling) :
    key ∈ bucketOf node handlings ↔ ∃ h ∈ handlings, h.key = key :=
  mem_stored

theorem value_text (h : Handling) (node : String) :
    Journal.value (h.text node) = .object (Json.sorted (h.published node).members) := by
  rw [Journal.value, text, Json.read?_compact_plain (h.published node).plain_members]
  rfl

end Handling

def Journal.entries (b : Bucket) : List (String × Json) :=
  b.toList.map fun e => (e.1, value e.2)

theorem Journal.mem_entries (b : Bucket) (key : String) (j : Json) :
    (key, j) ∈ entries b ↔ ∃ content, b[key]? = some content ∧ value content = j := by
  simp [entries, Std.ExtTreeMap.mem_toList_iff_getElem?_eq_some]

theorem Journal.names_entries (b : Bucket) : (entries b).map (·.1) = b.keys := by
  rw [← Std.ExtTreeMap.map_fst_toList_eq_keys, entries, List.map_map]
  rfl

theorem Journal.ordered_entries (b : Bucket) : Json.Ordered (entries b) :=
  List.pairwise_map.mpr (pairwise_toList b)

namespace Handling

theorem read?_document (node : String) (handlings : List Handling) :
    Json.read? (Journal.document (bucketOf node handlings)) =
      some (.object (Journal.entries (bucketOf node handlings))) := by
  let entries := Journal.entries (bucketOf node handlings)
  have each : ∀ m ∈ entries, ∃ h : Handling,
      m.2 = .object (Json.sorted (h.published node).members) := by
    intro m member
    obtain ⟨content, found, value⟩ := (Journal.mem_entries _ m.1 m.2).mp member
    obtain ⟨-, h, -, -, -, rfl, -⟩ := getElem?_bucketOf.mp found
    exact ⟨h, value.symm.trans (value_text h node)⟩
  have readable : ∀ m ∈ entries, Json.Readable 126 m.2 := by
    intro m member
    obtain ⟨h, value⟩ := each m member
    rw [value]
    refine .object fun field inside => Json.Plain.readable ?_ 125
    exact (h.published node).plain_members field (Json.mem_of_mem_sorted inside)
  have normal : entries.map (fun m => (m.1, m.2.normal)) = entries := by
    refine (List.map_congr_left fun m member => ?_).trans (List.map_id entries)
    obtain ⟨h, value⟩ := each m member
    rw [value, Json.normal_sorted_plain (h.published node).plain_members, ← value]
    rfl
  have whole : (Json.object entries).normal = .object entries := by
    rw [Json.normal, Json.normalMembers_eq_map, normal,
      Json.sorted_of_ordered (Journal.ordered_entries _)]
  exact (Json.read?_pretty (.object readable)).trans (congrArg some whole)

/-- There are no data exactly if nothing was handled. Otherwise there is one text, which holds an
object with the keys of all handlings, and under each key the last event of that key: the fields
that it had, the node, and the place of its container. -/
theorem document_complete (name node : String) (host : σ) (handlings : List Handling) :
    let journal := (publishAll name node host handlings).journal
    (journal.data name = .error (.emptyTrace name) ↔ handlings = []) ∧
    (handlings ≠ [] → ∃ text members,
      journal.data name = .ok ((∅ : Std.ExtTreeMap String String).insert name text) ∧
      Json.read? text = some (.object members) ∧
      Json.Ordered members ∧
      (∀ key, key ∈ members.map (·.1) ↔ ∃ h ∈ handlings, h.key = key) ∧
      ∀ earlier h later, handlings = earlier ++ h :: later →
        (∀ other ∈ later, other.key ≠ h.key) →
        ∃ own fields, (h.key, Json.object fields) ∈ members ∧
          Json.Ordered fields ∧
          h.event.members = ("node", .text "") :: own ∧
          fields.Perm (("node", .text node) :: Context.place h.resolved ++ own) ∧
          (h.event.enrich node h.resolved).DescribedBy (.object fields)) := by
  intro journal
  have bucket : journal.buckets[name]? = _ := buckets_publishAll name node host handlings
  by_cases none : handlings = []
  · rw [if_pos none] at bucket
    refine ⟨?_, fun some => absurd none some⟩
    simp [Journal.data, Journal.bucket, bucket, none, Except.map]
  · rw [if_neg none] at bucket
    have data : journal.data name = .ok ((∅ : Std.ExtTreeMap String String).insert name
        (Journal.document (bucketOf node handlings))) := by
      simp [Journal.data, Journal.bucket, bucket, Except.map]
    refine ⟨by simp [data, none], fun _ => ⟨_, _, data, read?_document node handlings,
      Journal.ordered_entries _, ?_, ?_⟩⟩
    · intro key
      rw [Journal.names_entries, Std.ExtTreeMap.mem_keys, mem_bucketOf]
    · intro earlier h later split last
      obtain ⟨own, raw, published⟩ := AnyEvent.members_enrich h.raw node h.resolved
      have found : (bucketOf node handlings)[h.key]? = some (h.text node) :=
        getElem?_bucketOf.mpr ⟨earlier, h, later, split, rfl, rfl, last⟩
      refine ⟨own, Json.sorted (h.published node).members,
        (Journal.mem_entries _ _ _).mpr ⟨_, found, value_text h node⟩, Json.ordered_sorted _, raw,
        ?_, AnyEvent.describedBy_sorted _⟩
      rw [← published]
      exact Json.sorted_perm (h.published node).distinct_members

/-- An event of no known container, and one of a container, at one time. -/
def twice : List Handling :=
  let event : AnyEvent := .tcp ⟨.empty, 7, .connect, none, 4, "10.0.0.1", "10.0.0.2", 40000, 443⟩
  let owner : Container := ⟨"aaaaaaaaaaaa", "shop", "cart", "api", 10, false⟩
  [⟨.empty, none, event, rfl, ⟨1792224930, 1000⟩⟩,
    ⟨.empty, some owner, event, rfl, ⟨1792224930, 1000⟩⟩]

theorem twice_written : ∃ text members,
    (publishAll "ig-tcptrace" "node-1" () twice).journal.data "ig-tcptrace" =
      .ok ((∅ : Std.ExtTreeMap String String).insert "ig-tcptrace" text) ∧
    Json.read? text = some (.object members) ∧
    ∀ key, key ∈ members.map (·.1) ↔
      key = "2026-10-17T08:15:30.000001000Z" ∨
      key = "/namespaces/shop/pods/cart/containers/api 2026-10-17T08:15:30.000001000Z" := by
  obtain ⟨-, written⟩ := document_complete "ig-tcptrace" "node-1" () twice
  obtain ⟨text, members, data, read, -, keys, -⟩ := written (List.cons_ne_nil _ _)
  have both : twice.map Handling.key = ["2026-10-17T08:15:30.000001000Z",
      "/namespaces/shop/pods/cart/containers/api 2026-10-17T08:15:30.000001000Z"] := by
    decide +kernel
  refine ⟨text, members, data, read, fun key => ?_⟩
  rw [keys, ← List.mem_map, both]
  simp

end Handling
end NodeDiagnostics.Trace
