import NodeDiagnostics.Proofs.Export.Record
import NodeDiagnostics.Proofs.Request

namespace NodeDiagnostics.Export

open Request (Agree)

variable {σ τ α : Type}

/-- From related hosts, both stores give the same answer and come to related hosts. -/
structure Simulates (R : σ → τ → Prop) (first : ObjectStore σ) (second : ObjectStore τ) :
    Prop where
  ensureContainer : Agree R first.ensureContainer second.ensureContainer
  put : ∀ key content, Agree R (first.put key content) (second.put key content)

inductive Call.Agree (R : σ → τ → Prop) : Call σ → Call τ → Prop where
  | items {producer data data'} : Request.Agree R data data' →
      Call.Agree R (.items producer data) (.items producer data')
  | stream {item content content'} : Request.Agree R content content' →
      Call.Agree R (.stream item content) (.stream item content')

namespace ExportState

structure Like (R : σ → τ → Prop) (s : ExportState σ) (t : ExportState τ) : Prop where
  ready : s.containerReady = t.containerReady
  host : R s.host t.host

theorem ask_agree {R : σ → τ → Prop} {first : Request σ α} {second : Request τ α}
    (h : Agree R first second) : Agree (Like R) (ask first) (ask second) := by
  intro s t like
  obtain ⟨same, after⟩ := h s.host t.host like.host
  exact ⟨same, like.ready, after⟩

/-- From related states, two exporters see to the container and upload items with the same answers,
and come to related states. -/
structure Alike (R : ExportState σ → ExportState τ → Prop) (first : ObjectStore σ)
    (second : ObjectStore τ) (d : Destination) : Prop where
  ensure : Agree R (ensure first) (ensure second)
  putItem : ∀ item content, Agree R (putItem first d item content) (putItem second d item content)

namespace Alike

variable {R : ExportState σ → ExportState τ → Prop} {first : ObjectStore σ}
  {second : ObjectStore τ} {d : Destination}

theorem putAll (h : Alike R first second d) (listed : List (String × String)) :
    Agree R (putAll first d listed) (putAll second d listed) := by
  induction listed with
  | nil => exact Agree.always R _
  | cons i rest ih => exact (h.putItem i.1 (Text.utf8 i.2)).andThen fun _ => ih

theorem exportItems (h : Alike R first second d) {data : Request σ (Except Error Items)}
    {data' : Request τ (Except Error Items)} (same : Agree R (ask data) (ask data')) :
    Agree R (exportItems first d data) (exportItems second d data') :=
  h.ensure.andThen fun _ => same.andThen fun items => h.putAll items.toList

theorem exportStream (h : Alike R first second d) (item : String)
    {content : Request σ (Except Error (List UInt8))}
    {content' : Request τ (Except Error (List UInt8))}
    (same : Agree R (ask content) (ask content')) :
    Agree R (exportStream first d item content) (exportStream second d item content') :=
  h.ensure.andThen fun _ => same.andThen fun bytes => h.putItem item bytes

end Alike

theorem ensure_agree {R : σ → τ → Prop} {first : ObjectStore σ} {second : ObjectStore τ}
    (h : Simulates R first second) : Agree (Like R) (ensure first) (ensure second) := by
  intro s t like
  obtain ⟨same, after⟩ := ask_agree h.ensureContainer s t like
  unfold ensure
  rw [like.ready]
  split
  · exact ⟨rfl, like⟩
  · generalize ask first.ensureContainer s = here at same after ⊢
    generalize ask second.ensureContainer t = there at same after ⊢
    obtain ⟨answer, s'⟩ := here
    obtain ⟨answer', t'⟩ := there
    cases same
    cases answer with
    | ok => exact ⟨rfl, rfl, after.host⟩
    | error e => exact ⟨rfl, after⟩

theorem putItem_agree {R : σ → τ → Prop} {first : ObjectStore σ} {second : ObjectStore τ}
    (h : Simulates R first second) (d : Destination) (item : String) (content : List UInt8) :
    Agree (Like R) (putItem first d item content) (putItem second d item content) := by
  intro s t like
  obtain ⟨same, after⟩ := ask_agree (h.put (d.key item) content) s t like
  exact ⟨congrArg (Except.mapError (Error.upload item)) same, after⟩

end ExportState

namespace Simulates

variable {R : σ → τ → Prop} {first : ObjectStore σ} {second : ObjectStore τ}

theorem alike (h : Simulates R first second) (d : Destination) :
    ExportState.Alike (ExportState.Like R) first second d :=
  ⟨ExportState.ensure_agree h, ExportState.putItem_agree h d⟩

theorem perform (h : Simulates R first second) (d : Destination) {call : Call σ} {call' : Call τ}
    (same : call.Agree R call') : Agree (ExportState.Like R) (ExportState.perform first d call)
      (ExportState.perform second d call') := by
  cases same with
  | items data => exact (h.alike d).exportItems (ExportState.ask_agree data)
  | stream content => exact (h.alike d).exportStream _ (ExportState.ask_agree content)

end Simulates

def HostOf (log : Log σ) (s : σ) : Prop := log.2 = s

theorem noted_agree (deed : α → Deed) (request : Request σ α) :
    Agree HostOf (noted deed request) request := by
  rintro ⟨entries, s⟩ t rfl
  exact ⟨rfl, rfl⟩

theorem recorded_simulates (store : ObjectStore σ) : Simulates HostOf (recorded store) store :=
  ⟨noted_agree _ _, fun _ _ => noted_agree _ _⟩

theorem Call.recorded_agree (call : Call σ) : call.recorded.Agree HostOf call := by
  cases call with
  | items producer data => exact .items (noted_agree _ data)
  | stream item content => exact .stream (noted_agree _ content)

def Preserves (P : σ → Prop) (request : Request σ α) : Prop := ∀ s, P s → P (request s).2

/-- What holds of a host and is kept by every request to the store. -/
structure Stable (store : ObjectStore σ) (P : σ → Prop) : Prop where
  ensureContainer : Preserves P store.ensureContainer
  put : ∀ key content, Preserves P (store.put key content)

def Call.Preserves (P : σ → Prop) : Call σ → Prop
  | items _ data => Export.Preserves P data
  | stream _ content => Export.Preserves P content

def Both (P : σ → Prop) (s t : σ) : Prop := s = t ∧ P s

theorem Preserves.agree {P : σ → Prop} {request : Request σ α} (h : Preserves P request) :
    Agree (Both P) request request := by
  rintro s t ⟨rfl, holds⟩
  exact ⟨rfl, rfl, h s holds⟩

theorem Stable.simulates {store : ObjectStore σ} {P : σ → Prop} (h : Stable store P) :
    Simulates (Both P) store store :=
  ⟨h.ensureContainer.agree, fun key content => (h.put key content).agree⟩

theorem Call.Preserves.agree {P : σ → Prop} {call : Call σ} (h : call.Preserves P) :
    call.Agree (Both P) call := by
  cases call with
  | items producer data => exact .items (Export.Preserves.agree h)
  | stream item content => exact .stream (Export.Preserves.agree h)

section
variable {store : ObjectStore σ} {P : σ → Prop} (stable : Stable store P) (d : Destination)
  {s : ExportState σ} (holds : P s.host)
include stable holds

theorem Stable.perform {call : Call σ} (h : call.Preserves P) :
    P (s.perform store d call).2.host := by
  obtain ⟨-, like⟩ := stable.simulates.perform d h.agree s s ⟨rfl, rfl, holds⟩
  exact like.host.2

theorem Stable.performAll {calls : List (Call σ)} (h : ∀ call ∈ calls, call.Preserves P) :
    P (s.performAll store d calls).2.host := by
  obtain ⟨-, like⟩ :=
    Agree.each (fun call member => stable.simulates.perform d (h call member).agree)
      s s ⟨rfl, rfl, holds⟩
  exact like.host.2

end

namespace ExportState

theorem like_unrecorded (s : ExportState (Log σ)) : Like HostOf s s.unrecorded := ⟨rfl, rfl⟩

theorem unrecorded_of_like {s : ExportState (Log σ)} {t : ExportState σ} (like : Like HostOf s t) :
    t = s.unrecorded := by
  cases t
  obtain ⟨rfl, rfl⟩ := like
  rfl

/-- Whoever asks the same of a log gets the same answer, and leaves the same host. -/
theorem unrecorded_of_agree {first : Request (ExportState (Log σ)) α}
    {second : Request (ExportState σ) α} (h : Agree (Like HostOf) first second)
    (s : ExportState (Log σ)) : second s.unrecorded = ((first s).1, (first s).2.unrecorded) := by
  obtain ⟨same, like⟩ := h s s.unrecorded (like_unrecorded s)
  exact Prod.ext same.symm (unrecorded_of_like like)

variable (store : ObjectStore σ) (d : Destination)

theorem perform_recorded (call : Call σ) :
    Agree (Like HostOf) (perform (recorded store) d call.recorded) (perform store d call) :=
  (recorded_simulates store).perform d call.recorded_agree

theorem performAll_recorded (calls : List (Call σ)) :
    Agree (Like HostOf) (performAll (recorded store) d (calls.map Call.recorded))
      (performAll store d calls) := by
  unfold performAll
  rw [Request.each_map]
  exact Agree.each fun call _ => perform_recorded store d call

end ExportState
end NodeDiagnostics.Export
