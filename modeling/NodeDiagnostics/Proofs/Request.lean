import NodeDiagnostics.Request

namespace NodeDiagnostics.Request

variable {σ τ α β ε : Type}

/-- From related hosts, both requests have the same answer and come to related hosts. -/
def Agree (R : σ → τ → Prop) (first : Request σ α) (second : Request τ α) : Prop :=
  ∀ s t, R s t → (first s).1 = (second t).1 ∧ R (first s).2 (second t).2

theorem Agree.always (R : σ → τ → Prop) (answer : α) :
    Agree R (Request.always answer) (Request.always answer) :=
  fun _ _ related => ⟨rfl, related⟩

theorem Agree.andThen {R : σ → τ → Prop} {first : Request σ (Except ε α)}
    {second : Request τ (Except ε α)} {next : α → Request σ (Except ε β)}
    {next' : α → Request τ (Except ε β)} (h : Agree R first second)
    (h' : ∀ a, Agree R (next a) (next' a)) :
    Agree R (first.andThen next) (second.andThen next') := by
  intro s t related
  obtain ⟨same, after⟩ := h s t related
  unfold Request.andThen
  generalize first s = here at same after ⊢
  generalize second t = there at same after ⊢
  obtain ⟨answer, s'⟩ := here
  obtain ⟨answer', t'⟩ := there
  cases same
  cases answer with
  | ok a => exact h' a s' t' after
  | error e => exact ⟨rfl, after⟩

theorem Agree.each {R : σ → τ → Prop} {ask : α → Request σ β} {ask' : α → Request τ β}
    {l : List α} (h : ∀ a ∈ l, Agree R (ask a) (ask' a)) : Agree R (each ask l) (each ask' l) := by
  intro s t related
  induction l generalizing s t with
  | nil => exact ⟨rfl, related⟩
  | cons a rest ih =>
    obtain ⟨same, after⟩ := h a List.mem_cons_self s t related
    obtain ⟨others, last⟩ := ih (fun b member => h b (List.mem_cons_of_mem a member)) _ _ after
    exact ⟨by simp only [Request.each, same, others], last⟩

variable {ask : α → Request σ β}

theorem each_map {γ : Type} (f : γ → α) (l : List γ) :
    each ask (l.map f) = each (fun c => ask (f c)) l := by
  induction l with
  | nil => rfl
  | cons c rest ih =>
    funext s
    simp only [List.map_cons, each, ih]

theorem Agree.each_map {γ : Type} {R : σ → τ → Prop} {f : γ → α} {ask' : γ → Request τ β}
    {l : List γ} (h : ∀ c ∈ l, Agree R (ask (f c)) (ask' c)) :
    Agree R (Request.each ask (l.map f)) (Request.each ask' l) := by
  rw [Request.each_map]
  exact Agree.each h

theorem each_append (former latter : List α) (s : σ) :
    each ask (former ++ latter) s =
      ((each ask former s).1 ++ (each ask latter (each ask former s).2).1,
        (each ask latter (each ask former s).2).2) := by
  induction former generalizing s with
  | nil => rfl
  | cons a rest ih => simp only [List.cons_append, each, ih]

@[simp] theorem length_each (l : List α) (s : σ) : (each ask l s).1.length = l.length := by
  induction l generalizing s with
  | nil => rfl
  | cons a rest ih => simp only [each, List.length_cons, ih]

theorem each_always (answer : α → β) (l : List α) (s : σ) :
    each (fun a => always (answer a)) l s = (l.map answer, s) := by
  induction l with
  | nil => rfl
  | cons a rest ih => simp only [each, always, ih, List.map_cons]

end NodeDiagnostics.Request
