namespace NodeDiagnostics

abbrev Request (σ α : Type) := σ → α × σ

namespace Request

variable {σ α β ε : Type}

def always (answer : α) : Request σ α := fun s => (answer, s)

/-- Go on with what was answered, unless it is an error. -/
def andThen (first : Request σ (Except ε α)) (next : α → Request σ (Except ε β)) :
    Request σ (Except ε β) := fun s =>
  match first s with
  | (.ok a, s) => next a s
  | (.error e, s) => (.error e, s)

def each (ask : α → Request σ β) : List α → Request σ (List β)
  | [], s => ([], s)
  | a :: rest, s =>
    let (answer, s) := ask a s
    let (answers, s) := each ask rest s
    (answer :: answers, s)

end Request
end NodeDiagnostics
